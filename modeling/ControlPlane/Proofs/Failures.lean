/-
What scripts that stop have stopped at.

Most stops blame no entity (`Stop.IsBlameless`): the parameters are refused, a reference is in the
way, or an interruption comes.  The others are two: a row that has to be there is missing, or
another row has the same unique values.  The first laws below read a run backwards from where it
stopped, one law for each statement and each combination.  The others say which of the two failures
a script can have at all (`Script.FailsOnly`); many have neither, whatever is stored.
-/
import ControlPlane.Proofs.Revision
import ControlPlane.Proofs.Sequencing

namespace ControlPlane

open Script

/-- Whether a stop is neither for a missing row nor for a duplicate. -/
def Stop.IsBlameless (stop : Stop) : Prop :=
  stop = .failed .other none ∨ ∃ why, stop = .interrupted why

theorem Stop.IsBlameless.failure_eq {failure : Failure} {subject : Option Subject}
    (h : (Stop.failed failure subject).IsBlameless) : failure = .other := by
  rcases h with h | ⟨why, h⟩ <;> cases h
  rfl

theorem Contents.delete_eq_error {r : Relation} {c : Contents} {which : Row r → Bool}
    {failure : Failure} (h : c.delete which = .error failure) : failure = .other := by
  unfold delete at h
  split at h
  next =>
    dsimp only at h
    split at h <;> cases h
    rfl
  next => cases h

/-- The constraints refuse an entry because it is a duplicate or refers to nothing. -/
theorem Contents.refusal?_eq_some {r : Relation} {c : Contents} {others : List (Row r)}
    {e : Entry r} {failure : Failure} (h : c.refusal? others e = some failure) :
    failure = .other ∨ ∃ u ∈ uniquenesses r, failure = .duplicate u.name (u.detail e) ∧
      ∃ row ∈ others, u.conflicts e row.toEntry = true := by
  rw [refusal?] at h
  cases hduplicate : duplicate? others e with
  | none =>
    rw [hduplicate] at h
    dsimp only at h
    split at h <;> cases h
    exact .inl rfl
  | some u =>
    rw [hduplicate] at h
    cases h
    rw [duplicate?] at hduplicate
    have hany := List.find?_some hduplicate
    obtain ⟨row, hrow, hconflicts⟩ := List.any_eq_true.1 hany
    exact .inr ⟨u, List.mem_of_find?_eq_some hduplicate, rfl, row, hrow, hconflicts⟩

/-- Whether a failure is for a duplicate. -/
def Failure.IsDuplicate (failure : Failure) : Prop :=
  ∃ name detail, failure = .duplicate name detail

theorem Contents.isDuplicate_of_refusal? {r : Relation} {c : Contents} {others : List (Row r)}
    {e : Entry r} {failure : Failure} (h : c.refusal? others e = some failure) :
    failure = .other ∨ failure.IsDuplicate := by
  rcases refusal?_eq_some h with hother | ⟨u, -, hduplicate, -⟩
  · exact .inl hother
  · exact .inr ⟨_, _, hduplicate⟩

theorem Contents.isDuplicate_of_update {r : Relation} {c : Contents} {now : Timestamp}
    {which : Row r → Bool} {change : Settings r → Settings r} {failure : Failure}
    (h : c.update now which change = .error failure) :
    failure = .other ∨ failure.IsDuplicate := by
  unfold update at h
  split at h
  next => cases h
  next =>
    dsimp only at h
    split at h
    next hrefusal =>
      cases h
      exact isDuplicate_of_refusal? hrefusal
    next => cases h

/-- Apart from models, what is written over the settings of a row is never refused. -/
theorem Contents.update_ne_error {r : Relation} {c : Contents} (hunique : c.Unique)
    (hclosed : c.Closed) (hr : r ≠ .model) (now : Timestamp) (which : Row r → Bool)
    (change : Settings r → Settings r) (failure : Failure) :
    c.update now which change ≠ .error failure := by
  intro h
  cases hfind : (c.get r).find? which with
  | none =>
    rw [update_of_none hfind] at h
    cases h
  | some row =>
    have hreplace : c.CanReplace row (row.revised (change row.settings) now).toEntry :=
      canReplace_of_origin hunique hclosed (List.mem_of_find?_eq_some hfind) hr rfl
    obtain ⟨after, hupdate⟩ := update_revises hfind hreplace
    rw [hupdate] at h
    cases h

/-- A number that is drawn costs nothing of the soundness of the database. -/
theorem Database.Sound.draw {db : Database} (h : db.Sound) (r : Relation) : (db.draw r).2.Sound :=
  h.of_contents_eq rfl (PerRelation.get_set_cases
    (P := fun q (next : Int) => db.sequences.get q ≤ next) (by omega) fun _ _ => Int.le_refl _)

namespace Script

variable {α β : Type} {r : Relation} {env : Environment} {before after : Progress} {stop : Stop}

/-! ## Statements -/

theorem of_parameter_eq_error [Storable α] {value : α}
    (h : parameter value env before = .error stop after) : stop.IsBlameless ∧ after = before := by
  rcases parameter_cases value env before with ⟨-, hrun⟩ | ⟨kept, -, hrun⟩ <;> rw [hrun] at h <;>
    cases h
  exact ⟨.inl rfl, rfl⟩

theorem of_checkpoint_eq_error {moment : Moment}
    (h : checkpoint moment env before = .error stop after) : stop.IsBlameless ∧ after = before := by
  rcases checkpoint_cases moment env before with hrun | ⟨why, -, hrun⟩ <;> rw [hrun] at h <;>
    cases h
  exact ⟨.inr ⟨why, rfl⟩, rfl⟩

theorem of_query_eq_error [Storable α] {params : α} {f : α → Contents → β}
    (h : query params f env before = .error stop after) : stop.IsBlameless := by
  rw [query] at h
  rcases of_bind_eq_error h with h | ⟨kept, middle, -, h⟩
  · exact (of_parameter_eq_error h).1
  rcases of_bind_eq_error h with h | ⟨_, _, -, h⟩
  · exact (of_checkpoint_eq_error h).1
  rw [bind_ok (get_ok env _)] at h
  split at h
  next =>
    rcases of_bind_eq_error h with h | ⟨_, _, -, h⟩
    · exact (of_checkpoint_eq_error h).1
    · cases h
  next => cases h

/-- A read that has to find something stops where it does not. -/
theorem of_queryOne_eq_error [Storable α] {params : α} {f : α → Contents → Option β}
    (h : queryOne params f env before = .error stop after) :
    stop.IsBlameless ∨ stop = .failed .noRow none ∧
      ∃ kept, stored? params = some kept ∧ f kept before.database.contents = none := by
  rw [queryOne] at h
  rcases of_bind_eq_error h with h | ⟨found, middle, hquery, h⟩
  · exact .inl (of_query_eq_error h)
  obtain ⟨kept, hkept, rfl⟩ := of_query_eq_ok hquery
  cases hfound : f kept before.database.contents with
  | none =>
    rw [hfound] at h
    cases h
    exact .inr ⟨rfl, kept, hkept, hfound⟩
  | some found =>
    rw [hfound] at h
    cases h

/-- An insert that stops leaves the rows as they are. -/
theorem of_insert_eq_error {e : Entry r} (h : insert e env before = .error stop after) :
    stop.IsBlameless ∨ ∃ kept failure, stored? e = some kept ∧
      before.database.contents.refusal? (before.database.contents.get r) kept = some failure ∧
      stop = .failed failure none := by
  rcases insert_cases e env before with ⟨-, hrun⟩ | ⟨kept, outcome, drawn, hkept, hinsert, hrun⟩
  · rw [hrun] at h
    cases h
    exact .inl (.inl rfl)
  rcases hrun with ⟨why, hrun⟩ | ⟨row, -, hrun⟩ | ⟨failure, rfl, hrun⟩ <;> rw [hrun] at h <;>
    cases h
  · exact .inl (.inr ⟨why, rfl⟩)
  obtain ⟨-, ⟨_, hfailure, hrefusal, -⟩ | ⟨_, hrow, -⟩⟩ := Database.insert_cases hinsert
  · cases hfailure
    exact .inr ⟨kept, failure, hkept, hrefusal, rfl⟩
  · cases hrow

theorem of_update_eq_error [Storable α] {params : α} {which : α → Row r → Bool}
    {change : α → Settings r → Settings r}
    (h : update params which change env before = .error stop after) :
    stop.IsBlameless ∨ ∃ kept failure, stored? params = some kept ∧
      before.database.contents.update env.now (which kept) (change kept) = .error failure ∧
      stop = .failed failure none := by
  rw [update] at h
  rcases of_bind_eq_error h with hrefused | ⟨kept, middle, hparameter, hrest⟩
  · exact .inl (of_parameter_eq_error hrefused).1
  obtain ⟨hkept, rfl⟩ : stored? params = some kept ∧ middle = before := by
    rcases parameter_cases params env before with ⟨-, hrun⟩ | ⟨_, hstored, hrun⟩ <;>
      rw [hrun] at hparameter <;> cases hparameter
    exact ⟨hstored, rfl⟩
  rcases of_bind_eq_error hrest with hstop | ⟨_, start, hcheckpoint, hwrite⟩
  · exact .inl (of_checkpoint_eq_error hstop).1
  obtain ⟨rfl, -⟩ := of_checkpoint_eq_ok hcheckpoint
  rw [bind_ok (get_ok env _), bind_ok (read_ok env _)] at hwrite
  cases hupdate : start.database.contents.update env.now (which kept) (change kept) with
  | ok written =>
    rw [hupdate] at hwrite
    cases hwrite
  | error failure =>
    rw [hupdate] at hwrite
    cases hwrite
    exact .inr ⟨kept, failure, hkept, hupdate, rfl⟩

/-- What stops a delete is never that a row is missing. -/
theorem of_delete_eq_error [Storable α] {params : α} {which : α → Row r → Bool}
    (h : delete params which env before = .error stop after) : stop.IsBlameless := by
  rw [delete] at h
  rcases of_bind_eq_error h with h | ⟨kept, middle, -, h⟩
  · exact (of_parameter_eq_error h).1
  rcases of_bind_eq_error h with h | ⟨_, start, -, h⟩
  · exact (of_checkpoint_eq_error h).1
  rw [bind_ok (get_ok env _)] at h
  cases hdelete : start.database.contents.delete (which kept) with
  | ok found =>
    rw [hdelete] at h
    cases h
  | error failure =>
    rw [hdelete] at h
    cases h
    rw [Contents.delete_eq_error hdelete]
    exact .inl rfl

/-! ## Combinations -/

theorem of_about_eq_error {body : Script α} {subject : Subject}
    (h : about subject body env before = .error stop after) :
    ∃ inner, body env before = .error inner after ∧ stop = inner.about subject := by
  rw [about] at h
  cases hbody : body env before with
  | ok a middle =>
    rw [hbody] at h
    cases h
  | error inner middle =>
    rw [hbody] at h
    cases h
    exact ⟨inner, rfl, rfl⟩

/-- A run over items stops at one of them, once those before it are done. -/
theorem of_each_eq_error {f : α → Script β} {items : List α}
    (h : each f items env before = .error stop after) :
    ∃ first a rest bs middle, items = first ++ a :: rest ∧
      each f first env before = .ok bs middle ∧ f a env middle = .error stop after := by
  induction items generalizing before with
  | nil => cases h
  | cons a rest ih =>
    rcases of_bind_eq_error h with hstop | ⟨b, middle, hfirst, h⟩
    · exact ⟨[], a, rest, [], before, rfl, rfl, hstop⟩
    rcases of_bind_eq_error h with hrest | ⟨bs, last, -, h⟩
    · obtain ⟨first, a', rest', bs, start, rfl, hdone, hstop⟩ := ih hrest
      refine ⟨a :: first, a', rest', b :: bs, start, rfl, ?_, hstop⟩
      rw [each, bind_ok hfirst, bind_ok hdone]
      rfl
    · cases h

/-- A merge stops for a conflict only where what it does about the conflict stops. -/
theorem of_insertOr_eq_error {e : Entry r} {onConflict : Script Merge}
    (h : insertOr e onConflict env before = .error stop after) :
    stop.IsBlameless ∨
      onConflict env ⟨(before.database.draw r).2, true⟩ = .error stop after := by
  rw [insertOr] at h
  rcases insert_cases e env before with ⟨-, hrun⟩ | ⟨kept, outcome, drawn, -, hinsert, hrun⟩
  · rw [hrun] at h
    cases h
    exact .inl (.inl rfl)
  obtain ⟨-, ⟨failure, rfl, hrefusal, -⟩ | ⟨row, rfl, -⟩⟩ := Database.insert_cases hinsert
  · rw [Database.insert_of_refusal?_eq_some hrefusal, Prod.mk.injEq] at hinsert
    obtain ⟨-, rfl⟩ := hinsert
    rcases hrun with ⟨why, hrun⟩ | ⟨_, hrow, -⟩ | ⟨_, hfailure, hrun⟩
    · rw [hrun] at h
      cases h
      exact .inl (.inr ⟨why, rfl⟩)
    · cases hrow
    · cases hfailure
      rw [hrun] at h
      cases failure with
      | duplicate name detail => exact .inr h
      | other =>
        cases h
        exact .inl (.inl rfl)
      | noRow =>
        rcases Contents.isDuplicate_of_refusal? hrefusal with hother | ⟨_, _, hduplicate⟩
        · cases hother
        · cases hduplicate
  · rcases hrun with ⟨why, hrun⟩ | ⟨_, -, hrun⟩ | ⟨_, hfailure, -⟩
    · rw [hrun] at h
      cases h
      exact .inl (.inr ⟨why, rfl⟩)
    · rw [hrun] at h
      cases h
    · cases hfailure

/-! ## Scripts that fail in few ways -/

/-- Whether a script on a sound database fails in no other ways than those that are allowed, apart
from where it is blameless. -/
structure FailsOnly (env : Environment) (allowed : Failure → Prop) (body : Script α) : Prop where
  within : Within env (fun _ => True) body
  failure : ∀ {before failure subject after}, before.database.Sound →
    body env before = .error (.failed failure subject) after → failure = .other ∨ allowed failure

variable {allowed : Failure → Prop}

theorem failsOnly_pure (a : α) : FailsOnly env allowed (pure a) :=
  ⟨within_pure a, fun _ h => nomatch h⟩

theorem failsOnly_fail {failure : Failure} (h : allowed failure) :
    FailsOnly env allowed (fail failure : Script α) where
  within := within_fail _
  failure := by
    intro before given subject after _ hfail
    cases hfail
    exact .inr h

theorem failsOnly_query [Storable α] (params : α) (f : α → Contents → β) :
    FailsOnly env allowed (query params f) :=
  ⟨within_query _ _, fun _ h => .inl (of_query_eq_error h).failure_eq⟩

theorem failsOnly_queryOne (hnoRow : allowed .noRow) [Storable α] (params : α)
    (f : α → Contents → Option β) : FailsOnly env allowed (queryOne params f) where
  within := within_queryOne _ _
  failure := by
    intro before failure subject after _ h
    rcases of_queryOne_eq_error h with hblameless | ⟨heq, -⟩
    · exact .inl hblameless.failure_eq
    · cases heq
      exact .inr hnoRow

theorem failsOnly_insert (hduplicate : ∀ failure : Failure, failure.IsDuplicate → allowed failure)
    (e : Entry r) : FailsOnly env allowed (insert e) where
  within := within_insert _ fun _ _ => trivial
  failure := by
    intro before failure subject after _ h
    rcases of_insert_eq_error h with hblameless | ⟨kept, given, -, hrefusal, heq⟩
    · exact .inl hblameless.failure_eq
    · cases heq
      exact (Contents.isDuplicate_of_refusal? hrefusal).imp_right (hduplicate _)

theorem failsOnly_update (hr : r ≠ .model ∨ ∀ failure : Failure, failure.IsDuplicate →
      allowed failure) [Storable α] (params : α) (which : α → Row r → Bool)
    (change : α → Settings r → Settings r) :
    FailsOnly env allowed (update params which change) where
  within := within_update _ _ _ fun _ _ => trivial
  failure := by
    intro before failure subject after hsound h
    rcases of_update_eq_error h with hblameless | ⟨kept, given, -, hupdate, heq⟩
    · exact .inl hblameless.failure_eq
    cases heq
    rcases hr with hr | hduplicate
    · exact absurd hupdate
        (Contents.update_ne_error hsound.unique hsound.closed hr _ _ _ failure)
    · exact (Contents.isDuplicate_of_update hupdate).imp_right (hduplicate _)

theorem failsOnly_delete [Storable α] (params : α) (which : α → Row r → Bool) :
    FailsOnly env allowed (delete params which) :=
  ⟨within_delete _ _ fun _ _ => trivial, fun _ h => .inl (of_delete_eq_error h).failure_eq⟩

theorem failsOnly_bind {body : Script α} {next : α → Script β} (hbody : FailsOnly env allowed body)
    (hnext : ∀ a, FailsOnly env allowed (next a)) : FailsOnly env allowed (body >>= next) where
  within := within_bind hbody.within fun a => (hnext a).within
  failure := by
    intro before failure subject after hsound h
    rcases of_bind_eq_error h with hstop | ⟨a, middle, hrun, hstop⟩
    · exact hbody.failure hsound hstop
    · exact (hnext a).failure ((evolution_of_ok hbody.within hrun).sound hsound) hstop

/-- What is not read back fails without blame. -/
theorem failsOnly_decoded (isReadable : α → Bool) {body : Script α}
    (hbody : FailsOnly env allowed body) : FailsOnly env allowed (decoded isReadable body) := by
  refine failsOnly_bind hbody fun found => ?_
  split
  · exact failsOnly_pure _
  · refine ⟨within_fail _, fun _ h => ?_⟩
    cases h
    exact .inl rfl

theorem failsOnly_map {body : Script α} (f : α → β) (hbody : FailsOnly env allowed body) :
    FailsOnly env allowed (f <$> body) :=
  ⟨within_map f hbody.within, fun hsound h => hbody.failure hsound (of_map_eq_error h)⟩

theorem failsOnly_each {f : α → Script β} (hf : ∀ a, FailsOnly env allowed (f a))
    (items : List α) : FailsOnly env allowed (each f items) := by
  induction items with
  | nil => exact failsOnly_pure _
  | cons a rest ih =>
    exact failsOnly_bind (hf a) fun _ => failsOnly_bind ih fun _ => failsOnly_pure _

theorem failsOnly_transaction {body : Script α} (hbody : FailsOnly env allowed body) :
    FailsOnly env allowed (transaction body) where
  within := within_transaction hbody.within
  failure := by
    intro before failure subject after hsound h
    obtain ⟨last, hrun, -⟩ := of_transaction_eq_error h
    exact hbody.failure hsound hrun

theorem failsOnly_about {body : Script α} (subject : Subject) (hbody : FailsOnly env allowed body) :
    FailsOnly env allowed (about subject body) where
  within := within_about _ hbody.within
  failure := by
    intro before failure given after hsound h
    obtain ⟨inner, hrun, heq⟩ := of_about_eq_error h
    cases inner with
    | interrupted why => cases heq
    | failed found label => cases label <;> cases heq <;> exact hbody.failure hsound hrun

/-- A merge absorbs the duplicate that it meets. -/
theorem failsOnly_insertOr {e : Entry r} {onConflict : Script Merge}
    (hconflict : FailsOnly env allowed onConflict) :
    FailsOnly env allowed (insertOr e onConflict) where
  within := within_insertOr (fun _ _ => trivial) hconflict.within
  failure := by
    intro before failure subject after hsound h
    rcases of_insertOr_eq_error h with hblameless | hstop
    · exact .inl hblameless.failure_eq
    · have hdrawn : (Progress.mk (before.database.draw r).2 true).database.Sound := hsound.draw r
      exact hconflict.failure hdrawn hstop

theorem failsOnly_insertNew (e : Entry r) : FailsOnly env allowed (insertNew e) :=
  failsOnly_insertOr (failsOnly_pure _)

theorem failsOnly_insertOrChange [Storable α] (hr : r ≠ .model) (e : Entry r) (params : α)
    (which : α → Row r → Bool) (change : α → Settings r → Settings r) :
    FailsOnly env allowed (insertOrChange e params which change) := by
  refine failsOnly_insertOr (failsOnly_bind (failsOnly_update (.inl hr) _ _ _) fun written => ?_)
  cases written <;> exact failsOnly_pure _

section

variable {body : Script α} {next : α → Script β} {failure : Failure} {subject : Option Subject}
  (hsound : before.database.Sound) (hother : failure ≠ .other) (hnot : ¬allowed failure)

include hsound hother hnot

theorem FailsOnly.ne_error (hbody : FailsOnly env allowed body) :
    body env before ≠ .error (.failed failure subject) after :=
  fun h => (hbody.failure hsound h).elim hother hnot

/-- A failure that a script does not have comes after it. -/
theorem of_failsOnly_bind (hbody : FailsOnly env allowed body)
    (h : (body >>= next) env before = .error (.failed failure subject) after) :
    ∃ a middle, body env before = .ok a middle ∧ middle.database.Sound ∧
      next a env middle = .error (.failed failure subject) after := by
  rcases of_bind_eq_error h with hstop | ⟨a, middle, hrun, hstop⟩
  · exact absurd hstop (hbody.ne_error hsound hother hnot)
  · exact ⟨a, middle, hrun, sound_of_ok hbody.within hrun hsound, hstop⟩

end

end Script

/-! ## What the store does without such failures -/

section

variable {env : Environment} {allowed : Failure → Prop}

theorem Identities.ensure_failsOnly (name : String) : FailsOnly env allowed (ensure name) where
  within := ensure_within fun _ _ => trivial
  failure hsound h := (failsOnly_insertNew _).failure hsound
    ((bind_ok (read_ok env _) _).symm.trans h)

namespace Grants

theorem merge_failsOnly (on : Grantable) (object : Int) (identity : String) (access : Access) :
    FailsOnly env allowed (merge on object identity access) :=
  failsOnly_bind (Identities.ensure_failsOnly identity) fun _ =>
    failsOnly_insertOrChange (r := .grant on) nofun _ _ _ _

theorem assign_failsOnly (on : Grantable) (object : Int) (identity : String)
    (access : Option Access) : FailsOnly env allowed (assign on object identity access) := by
  cases access with
  | some level =>
    exact failsOnly_bind (merge_failsOnly on object identity level) fun _ => failsOnly_pure _
  | none => exact failsOnly_bind (failsOnly_delete _ _) fun _ => failsOnly_pure _

theorem mergeReports_failsOnly (on : Grantable) (object : Int) (reports : List GrantReport) :
    FailsOnly env allowed (mergeReports on object reports) :=
  failsOnly_each (fun _ => merge_failsOnly _ _ _ _) reports

end Grants

theorem Links.merge_failsOnly (region controller priority : Int) :
    FailsOnly env allowed (merge region controller priority) :=
  failsOnly_insertOrChange (r := .link) nofun _ _ _ _

end

/-! ## Errors -/

/-- The entity that an error is about. -/
def Cause.entity? : Cause → Option (EntityKind × String)
  | .notFound kind key => some (kind, key)
  | .alreadyExists kind key _ => some (kind, key)
  | _ => none

namespace Store

theorem entity?_of_refusal? {store : Store} {cause : Cause} (h : store.refusal? = some cause) :
    cause.entity? = none := by
  unfold refusal? at h
  split at h
  next => cases h
  next => cases h; rfl
  next => cases h; rfl
  next => split at h <;> cases h <;> rfl

/-- An operation that fails with an error about an entity has a subject that nothing could have, or
its script has stopped. -/
theorem of_perform_eq_error {store : Store} {now : Timestamp} {course : Course} {op : Operation}
    {db : Database} {e : StoreError} (h : (store.perform now course op db).1 = .error e)
    (hentity : e.cause.entity? ≠ none) :
    op.plan.subject.isValid = false ∧ e = .notFound op.plan.name op.plan.subject ∨
      op.plan.subject.isValid = true ∧ ∃ stop after,
        op.plan.script (store.environment now course) ⟨db, false⟩ = .error stop after ∧
          e = errorOf op.plan stop := by
  rw [perform] at h
  cases hgate : store.gate? course op.plan with
  | none =>
    rw [hgate] at h
    dsimp only [execute] at h
    have hvalid : op.plan.subject.isValid = true := by
      unfold gate? at hgate
      split at hgate
      next => cases hgate
      next =>
        split at hgate
        next hvalid => exact hvalid
        next => cases hgate
    cases hrun : op.plan.script (store.environment now course) ⟨db, false⟩ with
    | ok reply after =>
      rw [hrun] at h
      cases h
    | error stop after =>
      rw [hrun] at h
      cases h
      exact .inr ⟨hvalid, stop, after, rfl, rfl⟩
  | some why =>
    rw [hgate] at h
    cases h
    unfold gate? at hgate
    split at hgate
    next cause hrefusal =>
      cases hgate
      exact absurd (entity?_of_refusal? hrefusal) hentity
    next =>
      split at hgate
      next =>
        split at hgate <;> cases hgate
        exact absurd rfl hentity
      next hinvalid =>
        cases hgate
        exact .inl ⟨Bool.eq_false_iff.2 hinvalid, rfl⟩

end Store

namespace Deployment

/-- An iteration never fails with an error about an entity. -/
theorem entity?_of_iterate {dep : Deployment} {course : Course} {it : Iteration}
    {visitor : Visitor} {e : StoreError}
    (h : (dep.iterate course it visitor).2.1 = .failed e) : e.cause.entity? = none := by
  unfold iterate at h
  cases hrun : dep.store.iterate course it visitor dep.server.database with
  | error why =>
    rw [hrun] at h
    cases h
    unfold Store.iterate at hrun
    split at hrun
    next cause _ hrefusal =>
      cases hrun
      exact Store.entity?_of_refusal? hrefusal
    next => cases hrun; rfl
    next =>
      split at hrun
      next => split at hrun <;> cases hrun; rfl
      next => cases hrun; rfl
  | ok walk =>
    rw [hrun] at h
    dsimp only at h
    cases hending : walk.ending <;> rw [hending] at h <;> cases h
    rfl

/-- Nor does a migration. -/
theorem entity?_of_migrate {dep : Deployment} {course : Course} {reset : Bool} {e : StoreError}
    (h : (dep.migrate course reset).1 = .error e) : e.cause.entity? = none := by
  unfold migrate at h
  split at h
  next =>
    rcases of_finishMigration_eq_error h with ⟨why, rfl⟩ | ⟨why, rfl⟩ <;> rfl
  next => cases h
  next cause hstart =>
    cases h
    unfold Store.migrationStart at hstart
    split at hstart
    next => split at hstart <;> cases hstart <;> rfl
    next => cases hstart; rfl

end Deployment
end ControlPlane
