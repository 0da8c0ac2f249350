/-
Operations performed one after another, and the script that does the same in one go.

Parts are performed up to the first that is rejected (`Store.attempt`).  A part mirrors a script if
it does to the database what the script does (`Part.Mirrors`), and fails like it if it fails for the
same cause (`Part.FailsLike`).  A part reads back what it has written, which the script need not do:
where something cannot be read, the part breaks off instead (`Part.Breaks`).  From what holds of one
item follows by induction what holds of a script that goes over a list of them.  A script that
creates something and then goes over items comes to the sequence that creates it without items and
then adds them one by one (`Store.attempt_of_assemble_ok`, `Store.attempt_of_assemble_error`).
-/
import ControlPlane.Proofs.Blindness
import ControlPlane.Proofs.Inversion
import ControlPlane.Proofs.Session

namespace ControlPlane

/-- One of several operations that are performed one after another. -/
structure Part where
  operation : Operation
  /-- Whether it does not matter that the entity exists already. -/
  toleratesExisting : Bool

/-- Why the answer of a part ends the sequence, if it does. -/
def Part.rejection? (part : Part) : Except StoreError Reply → Option Cause
  | .ok _ => none
  | .error e => if part.toleratesExisting && e.code = "already_exists" then none else some e.cause

/-- Perform parts at one time, one after another, up to the first that is rejected.  Why that is, if
one is, and the database after it. -/
def Store.attempt (store : Store) (now : Timestamp) : List Part → Database →
    Option Cause × Database
  | [], db => (none, db)
  | part :: rest, db =>
    let (answer, after) := store.perform now .undisturbed part.operation db
    match part.rejection? answer with
    | some cause => (some cause, after)
    | none => store.attempt now rest after

/-- The same for a deployment. -/
def Deployment.attempt (dep : Deployment) (now : Timestamp) : List Part →
    Option Cause × Deployment
  | [] => (none, dep)
  | part :: rest =>
    let (answer, after) := dep.perform now .undisturbed part.operation
    match part.rejection? answer with
    | some cause => (some cause, after)
    | none => after.attempt now rest

theorem Deployment.attempt_eq (dep : Deployment) (now : Timestamp) (parts : List Part) :
    (dep.attempt now parts).1 = (dep.store.attempt now parts dep.server.database).1 ∧
      (dep.attempt now parts).2.server.database =
        (dep.store.attempt now parts dep.server.database).2 ∧
      (dep.attempt now parts).2.store = dep.store := by
  induction parts generalizing dep with
  | nil => exact ⟨rfl, rfl, rfl⟩
  | cons part rest ih =>
    have hanswer : (dep.perform now .undisturbed part.operation).1 =
        (dep.store.perform now .undisturbed part.operation dep.server.database).1 := rfl
    have hdatabase := database_perform dep now .undisturbed part.operation
    have hstore := store_perform dep now .undisturbed part.operation
    simp only [attempt, Store.attempt, hanswer]
    cases part.rejection?
      (dep.store.perform now .undisturbed part.operation dep.server.database).1 with
    | some cause => exact ⟨rfl, hdatabase, hstore⟩
    | none =>
      have hrest := ih (dep.perform now .undisturbed part.operation).2
      rwa [hstore, hdatabase] at hrest

namespace Store

variable {store : Store} {now : Timestamp}

theorem attempt_cons_of_accepted {part : Part} {rest : List Part} {db after : Database}
    {answer : Except StoreError Reply}
    (hperform : store.perform now .undisturbed part.operation db = (answer, after))
    (haccepted : part.rejection? answer = none) :
    store.attempt now (part :: rest) db = store.attempt now rest after := by
  simp only [attempt, hperform, haccepted]

theorem attempt_cons_of_rejected {part : Part} {rest : List Part} {db after : Database}
    {answer : Except StoreError Reply} {cause : Cause}
    (hperform : store.perform now .undisturbed part.operation db = (answer, after))
    (hrejected : part.rejection? answer = some cause) :
    store.attempt now (part :: rest) db = (some cause, after) := by
  simp only [attempt, hperform, hrejected]

theorem attempt_append {first second : List Part} {db middle : Database}
    (h : store.attempt now first db = (none, middle)) :
    store.attempt now (first ++ second) db = store.attempt now second middle := by
  induction first generalizing db with
  | nil =>
    cases h
    rfl
  | cons part rest ih =>
    rw [attempt] at h
    rw [List.cons_append, attempt]
    cases hrejection : part.rejection?
      (store.perform now .undisturbed part.operation db).1 with
    | some cause =>
      simp only [hrejection, Prod.mk.injEq, reduceCtorEq, false_and] at h
    | none =>
      simp only [hrejection] at h ⊢
      exact ih h

end Store

/-! ## Runs that end without a value -/

/-- Whether a script that stops so says itself what its failure is about. -/
def Stop.IsLabelled (stop : Stop) : Prop := ∀ failure, stop ≠ .failed failure none

theorem Store.cause_of_isLabelled {stop : Stop} (h : stop.IsLabelled) (plan plan' : Plan) :
    (errorOf plan stop).cause = (errorOf plan' stop).cause := by
  cases stop with
  | interrupted why => rfl
  | failed failure subject =>
    cases subject with
    | none => exact absurd rfl (h failure)
    | some subject => cases failure <;> rfl

/-- The cause of an error depends on the subject of the operation, not on its name. -/
theorem Store.cause_of_subject_eq {plan plan' : Plan} (h : plan.subject = plan'.subject)
    (stop : Stop) : (errorOf plan stop).cause = (errorOf plan' stop).cause := by
  cases stop with
  | interrupted why => rfl
  | failed failure subject =>
    cases failure <;> simp [errorOf, Failure.toError, h, StoreError.notFound]

namespace Script

variable {α β : Type} {env : Environment} {before after : Progress} {stop : Stop}

theorem of_bind_eq_error {body : Script α} {next : α → Script β}
    (h : (body >>= next) env before = .error stop after) :
    body env before = .error stop after ∨
      ∃ a middle, body env before = .ok a middle ∧ next a env middle = .error stop after := by
  cases hbody : body env before with
  | ok a middle =>
    rw [bind_ok hbody] at h
    exact .inr ⟨a, middle, rfl, h⟩
  | error why middle =>
    rw [bind_error hbody] at h
    cases h
    exact .inl rfl

theorem of_map_eq_error {body : Script α} {f : α → β}
    (h : (f <$> body) env before = .error stop after) : body env before = .error stop after := by
  cases hbody : body env before with
  | ok a middle =>
    rw [map_ok hbody] at h
    cases h
  | error why middle =>
    rw [map_error hbody] at h
    cases h
    rfl

/-- A transaction that ends without a value leaves the numbers that were drawn. -/
theorem transaction_error {body : Script α} (h : body env before = .error stop after) :
    transaction body env before = .error stop
      { after with database := { after.database with contents := before.database.contents } } := by
  rw [transaction, h]

theorem of_transaction_eq_error {body : Script α}
    (h : transaction body env before = .error stop after) :
    ∃ last, body env before = .error stop last ∧
      after.database = { last.database with contents := before.database.contents } := by
  cases hbody : body env before with
  | ok a middle =>
    rw [transaction_ok hbody] at h
    cases h
  | error why middle =>
    rw [transaction_error hbody] at h
    cases h
    exact ⟨middle, rfl, rfl⟩

theorem isLabelled_of_about_eq_error {body : Script α} {subject : Subject}
    (h : about subject body env before = .error stop after) : stop.IsLabelled := by
  rw [about] at h
  cases hbody : body env before with
  | ok a middle =>
    rw [hbody] at h
    cases h
  | error why middle =>
    rw [hbody] at h
    cases h
    intro failure heq
    cases why with
    | interrupted why => cases heq
    | failed failure given => cases given <;> cases heq

end Script

/-! ## Parts and scripts -/

open Script

section

variable {α β γ : Type} {store : Store} {now : Timestamp}

/-- Whether a part is rejected with an internal error. -/
def Part.Breaks (part : Part) (store : Store) (now : Timestamp) (db : Database) : Prop :=
  ∃ answer last, store.perform now .undisturbed part.operation db = (answer, last) ∧
    part.rejection? answer = some .internal

/-- Whether a part is accepted and does to the database what a script does that ends with a value,
wherever something holds; and whether something holds next, which the rest of a script may need.  If
something is unread, the part may break off instead. -/
def Part.Mirrors (part : Part) (store : Store) (now : Timestamp) (unread : Prop)
    (holds next : Database → Prop) (body : Script β) : Prop :=
  ∀ before b after, holds before.database →
    body (store.environment now .undisturbed) before = .ok b after →
      (next after.database ∧ ∃ answer,
        store.perform now .undisturbed part.operation before.database = (answer, after.database) ∧
          part.rejection? answer = none) ∨
      unread ∧ part.Breaks store now before.database

/-- Whether a part is rejected for the cause for which a script ends without a value as part of an
operation, and draws the same numbers. -/
def Part.FailsLike (part : Part) (store : Store) (now : Timestamp) (holds : Database → Prop)
    (plan : Plan) (body : Script β) : Prop :=
  ∀ before stop after, holds before.database →
    body (store.environment now .undisturbed) before = .error stop after →
      ∃ answer last,
        store.perform now .undisturbed part.operation before.database = (answer, last) ∧
          part.rejection? answer = some (Store.errorOf plan stop).cause ∧
          last.sequences = after.database.sequences

namespace Store

/-- Whether one of several parts is rejected as something else fails: for its cause, having drawn
the numbers that it leaves; or with an internal error, if something is unread. -/
def RejectsAs (store : Store) (now : Timestamp) (unread : Prop) (parts : List Part)
    (db : Database) (cause : Cause) (after : Database) : Prop :=
  ∃ rejection last, store.attempt now parts db = (some rejection, last) ∧
    (rejection = cause ∧ last.sequences = after.sequences ∨ unread ∧ rejection = .internal)

variable {unread : Prop}

theorem attempt_cons_of_breaks {part : Part} {rest : List Part} {db : Database}
    (h : part.Breaks store now db) :
    ∃ last, store.attempt now (part :: rest) db = (some .internal, last) := by
  obtain ⟨answer, last, hperform, hrejected⟩ := h
  exact ⟨last, attempt_cons_of_rejected hperform hrejected⟩

/-- A script that goes over items does what their parts do one after another, if for each what holds
next is what the items that remain need, unless something is unread. -/
theorem attempt_of_each_ok {P : List α → Database → Prop} {f : α → Script β} {part : α → Part}
    {items : List α} (hmirrors : ∀ a ∈ items, ∀ rest,
      (part a).Mirrors store now unread (P (a :: rest)) (P rest) (f a)) {before after : Progress}
    {bs : List β} (hholds : P items before.database)
    (h : each f items (store.environment now .undisturbed) before = .ok bs after) :
    (P [] after.database ∧
      store.attempt now (items.map part) before.database = (none, after.database)) ∨
    unread ∧ ∃ last,
      store.attempt now (items.map part) before.database = (some .internal, last) := by
  induction items generalizing before bs with
  | nil =>
    cases h
    exact .inl ⟨hholds, rfl⟩
  | cons a rest ih =>
    obtain ⟨b, middle, hfirst, h⟩ := of_bind_eq_ok h
    obtain ⟨_, last, hrest, h⟩ := of_bind_eq_ok h
    cases h
    rcases hmirrors a List.mem_cons_self rest before b middle hholds hfirst with
      ⟨hmiddle, answer, hperform, haccepted⟩ | ⟨hunread, hbreaks⟩
    · rw [List.map_cons, attempt_cons_of_accepted hperform haccepted]
      exact ih (fun b hb => hmirrors b (List.mem_cons_of_mem _ hb)) hmiddle hrest
    · exact .inr ⟨hunread, attempt_cons_of_breaks hbreaks⟩

/-- Where it ends without a value, so does the sequence, at the same item unless something is
unread. -/
theorem attempt_of_each_error {holds : Database → Prop} {f : α → Script β} {part : α → Part}
    {items : List α} {plan : Plan}
    (hmirrors : ∀ a ∈ items, (part a).Mirrors store now unread holds holds (f a))
    (hfails : ∀ a ∈ items, (part a).FailsLike store now holds plan (f a))
    {before after : Progress} {stop : Stop} (hholds : holds before.database)
    (h : each f items (store.environment now .undisturbed) before = .error stop after) :
    store.RejectsAs now unread (items.map part) before.database (errorOf plan stop).cause
      after.database := by
  induction items generalizing before with
  | nil => cases h
  | cons a rest ih =>
    rcases of_bind_eq_error h with hfirst | ⟨b, middle, hfirst, h⟩
    · obtain ⟨answer, last, hperform, hrejected, hsequences⟩ :=
        hfails a List.mem_cons_self before stop after hholds hfirst
      exact ⟨_, last, attempt_cons_of_rejected hperform hrejected, .inl ⟨rfl, hsequences⟩⟩
    rcases hmirrors a List.mem_cons_self before b middle hholds hfirst with
      ⟨hmiddle, answer, hperform, haccepted⟩ | ⟨hunread, hbreaks⟩
    · rw [RejectsAs, List.map_cons, attempt_cons_of_accepted hperform haccepted]
      rcases of_bind_eq_error h with hrest | ⟨_, _, _, h⟩
      · exact ih (fun b hb => hmirrors b (List.mem_cons_of_mem _ hb))
          (fun b hb => hfails b (List.mem_cons_of_mem _ hb)) hmiddle hrest
      · cases h
    · obtain ⟨last, hattempt⟩ := attempt_cons_of_breaks hbreaks
      exact ⟨_, last, hattempt, .inr ⟨hunread, rfl⟩⟩

end Store

end

/-! ## Creating something with items -/

/-- Create something, go over items with it, and read it back, all or nothing. -/
def Script.assemble {α β γ ι : Type} (create : Script α) (add : α → ι → Script β)
    (read : α → Script γ) (items : List ι) : Script γ := transaction do
  let a ← create
  let _ ← each (add a) items
  read a

namespace Store

section

variable {α β γ ι : Type} {store : Store} {now : Timestamp} {whole plain : Operation}
  {create : Script α} {add : α → ι → Script β} {read : α → Script γ} {reply : γ → Reply}
  {items : List ι} {part : ι → Part} {holds : α → Database → Prop} {db : Database}
  (hready : store.lifecycle = .ready) (hvalid : whole.plan.subject.isValid = true)
  (hsubject : plain.plan.subject = whole.plan.subject)
  (hwhole : whole.plan.script = reply <$> assemble create add read items)
  (hplain : plain.plan.script = reply <$> assemble create add read [])
  {unread : Prop}
  (hcreate : ∀ a start,
    create (store.environment now .undisturbed) ⟨db, false⟩ = .ok a start →
      holds a start.database ∨ unread ∧ Part.Breaks ⟨plain, false⟩ store now db)
  (hread : ∀ a start, holds a start.database →
    ∃ c, read a (store.environment now .undisturbed) start = .ok c start)
  (hmirrors : ∀ a, ∀ i ∈ items, (part i).Mirrors store now unread (holds a) (holds a) (add a i))

include hready hvalid hsubject hplain hread

/-- What is created without items is there once it is created. -/
theorem perform_of_create {a : α} {start : Progress}
    (hfirst : create (store.environment now .undisturbed) ⟨db, false⟩ = .ok a start)
    (hstart : holds a start.database) :
    ∃ answer, store.perform now .undisturbed plain db = (.ok answer, start.database) := by
  obtain ⟨c, hlast⟩ := hread a start hstart
  have hscript : plain.plan.script (store.environment now .undisturbed) ⟨db, false⟩ =
      .ok (reply c) start := by
    rw [hplain]
    exact map_ok (transaction_ok ((bind_ok hfirst _).trans hlast)) reply
  exact ⟨reply c, perform_ok hready (hsubject ▸ hvalid) hscript⟩

include hwhole hcreate hmirrors

/-- What is created with items is what is created without them and then gets them one by one, if
nothing is unread. -/
theorem attempt_of_assemble_ok (hnone : ¬unread) {answer : Reply} {after : Database}
    (h : store.perform now .undisturbed whole db = (.ok answer, after)) :
    ∃ a c last, answer = reply c ∧ after = last.database ∧ holds a last.database ∧
      read a (store.environment now .undisturbed) last = .ok c last ∧
      store.attempt now (⟨plain, false⟩ :: items.map part) db = (none, last.database) := by
  obtain ⟨-, -, last, hscript, hlast⟩ := of_perform_eq_ok (congrArg Prod.fst h)
  rw [h] at hlast
  rw [hwhole] at hscript
  obtain ⟨c, hrun, hanswer⟩ := of_map_eq_ok hscript
  obtain ⟨a, start, hfirst, hrun⟩ := of_bind_eq_ok (of_transaction_eq_ok hrun)
  obtain ⟨_, middle, hitems, hend⟩ := of_bind_eq_ok hrun
  have hstart := (hcreate a start hfirst).resolve_right fun hbreaks => hnone hbreaks.1
  obtain ⟨hmiddle, hattempt⟩ := (attempt_of_each_ok (P := fun _ => holds a)
    (fun i hi _ => hmirrors a i hi) hstart hitems).resolve_right fun hbreaks => hnone hbreaks.1
  obtain ⟨c', hread'⟩ := hread a middle hmiddle
  obtain ⟨rfl, rfl⟩ : c' = c ∧ middle = last := by
    rw [hread'] at hend
    cases hend
    exact ⟨rfl, rfl⟩
  obtain ⟨_, hperform⟩ := perform_of_create hready hvalid hsubject hplain hread hfirst hstart
  refine ⟨a, c', middle, hanswer.symm, hlast, hmiddle, hread', ?_⟩
  rw [attempt_cons_of_accepted hperform rfl, hattempt]

/-- What cannot be created with items cannot be created without them either, or cannot get them all
one by one, for the same cause unless something is unread. -/
theorem attempt_of_assemble_error
    (hfails : ∀ a, ∀ i ∈ items, (part i).FailsLike store now (holds a) whole.plan (add a i))
    {e : StoreError} {after : Database}
    (h : store.perform now .undisturbed whole db = (.error e, after)) :
    store.RejectsAs now unread (⟨plain, false⟩ :: items.map part) db e.cause after := by
  cases hscript : whole.plan.script (store.environment now .undisturbed) ⟨db, false⟩ with
  | ok answer done =>
    rw [perform_ok hready hvalid hscript] at h
    cases h
  | error stop done =>
    rw [perform_of_error hready hvalid hscript] at h
    cases h
    rw [hwhole] at hscript
    obtain ⟨last, hrun, hdone⟩ := of_transaction_eq_error (of_map_eq_error hscript)
    rw [hdone]
    rcases of_bind_eq_error hrun with hfirst | ⟨a, start, hfirst, hrun⟩
    · have hscript : plain.plan.script (store.environment now .undisturbed) ⟨db, false⟩ =
          .error stop { last with database := { last.database with contents := db.contents } } := by
        rw [hplain]
        exact map_error (transaction_error (bind_error hfirst _)) reply
      have hperform := perform_of_error hready (hsubject ▸ hvalid) hscript
      refine ⟨_, _, attempt_cons_of_rejected hperform ?_, .inl ⟨rfl, rfl⟩⟩
      exact congrArg some (cause_of_subject_eq hsubject stop)
    rcases hcreate a start hfirst with hstart | ⟨hunread, hbreaks⟩
    · obtain ⟨_, hperform⟩ := perform_of_create hready hvalid hsubject hplain hread hfirst hstart
      rw [RejectsAs, attempt_cons_of_accepted hperform rfl]
      rcases of_bind_eq_error hrun with hitems | ⟨_, middle, hitems, hend⟩
      · exact attempt_of_each_error (hmirrors a) (hfails a) hstart hitems
      rcases attempt_of_each_ok (P := fun _ => holds a) (fun i hi _ => hmirrors a i hi) hstart
        hitems with ⟨hmiddle, -⟩ | ⟨hunread, last, hattempt⟩
      · obtain ⟨_, hread'⟩ := hread a middle hmiddle
        rw [hread'] at hend
        cases hend
      · exact ⟨_, last, hattempt, .inr ⟨hunread, rfl⟩⟩
    · obtain ⟨last, hattempt⟩ := attempt_cons_of_breaks hbreaks
      exact ⟨_, last, hattempt, .inr ⟨hunread, rfl⟩⟩

end

end Store
end ControlPlane
