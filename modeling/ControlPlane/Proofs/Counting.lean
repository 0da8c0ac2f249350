/-
Every call is counted once.

The record of a session holds its calls and what they came back with, in order, and says nothing of
counters.  A step adds to the counters what the call that it is, if it is one, has to add
(`count_after`); so at the end of a session every counter is the sum over its record (`count_run`).
No two kinds of calls have one name (`Call.kind_eq_of_name`), and so the labels tell what was
called: operations are counted by name and outcome, and merged rows by what was tallied, which is
done for those reconciliations that succeeded and for nothing else.
-/
import ControlPlane.Proofs.Absorption
import ControlPlane.Proofs.Atomicity
import ControlPlane.Proofs.Inversion
import Mathlib.Algebra.Ring.Nat

namespace ControlPlane

/-! ## Calls and what they come back with -/

/-- Something that is called. -/
inductive Call
  | operation (op : Operation)
  | iteration (it : Iteration)
  | migration

/-- What a call comes back with. -/
inductive Answer
  | reply (result : Except StoreError Reply)
  | ending (ending : Deployment.IterationEnd)
  | readiness (result : Except StoreError Unit)

namespace Call

def name : Call → String
  | operation op => op.plan.name
  | iteration it => it.name
  | migration => Deployment.migrateName

/-- Whether the call reconciles a cloud or a credential with a snapshot. -/
def reconciles : Call → Bool
  | operation (.reconcileCloud _) => true
  | operation (.reconcileCredential _) => true
  | _ => false

/-- The number of the kind of call: the operations first, then the iterations. -/
def kind : Call → Nat
  | operation op => op.ctorIdx
  | iteration it => 41 + it.ctorIdx
  | migration => 48

/-- The names of all kinds of calls. -/
def names : List String :=
  ["clouds.list", "clouds.add", "clouds.get", "clouds.update", "clouds.delete", "clouds.set_cloud",
    "clouds.add_region", "clouds.update_grant", "cloud_regions.add", "cloud_regions.get",
    "cloud_regions.update", "cloud_regions.delete", "cloud_regions.find_region",
    "cloud_regions.set_controller_priority", "cloud_regions.remove_controller_priority",
    "controllers.add", "controllers.get", "controllers.update", "controllers.delete", "models.add",
    "models.get", "models.update", "models.delete", "models.get_by_uuids",
    "models.using_credential", "models.update_grant", "models.touch_grant_connection",
    "identities.get_identity", "identities.add", "identities.get", "identities.update",
    "identities.delete", "identities.clouds", "identities.models", "identities.cloud_credentials",
    "cloud_credentials.add", "cloud_credentials.get", "cloud_credentials.update",
    "cloud_credentials.delete", "cloud_credentials.set_cloud_credential",
    "cloud_credentials.update_grant", "clouds.for_each", "cloud_regions.for_each",
    "controllers.for_each", "models.for_each", "controllers.for_each_model", "identities.for_each",
    "cloud_credentials.for_each", "database.migrate"]

theorem names_nodup : names.Nodup := by decide +kernel

theorem names_kind (call : Call) : names[call.kind]? = some call.name := by
  cases call with
  | operation op => cases op <;> rfl
  | iteration it => cases it <;> rfl
  | migration => rfl

/-- Calls of different kinds have different names. -/
theorem kind_eq_of_name {call call' : Call} (h : call.name = call'.name) :
    call.kind = call'.kind := by
  have hat := names_kind call
  have hat' := names_kind call'
  rw [← h] at hat'
  obtain ⟨hlt, hget⟩ := List.getElem?_eq_some_iff.1 hat
  obtain ⟨hlt', hget'⟩ := List.getElem?_eq_some_iff.1 hat'
  exact names_nodup.getElem_inj_iff.1 (hget.trans hget'.symm)

end Call

namespace Answer

/-- The label of what a call came back with: that it succeeded, that its visitor stopped it, or the
code of its error. -/
def outcome : Answer → String
  | reply (.ok _) => "ok"
  | reply (.error e) => e.code
  | ending .completed => "ok"
  | ending (.stopped _) => "aborted"
  | ending (.failed e) => e.code
  | readiness (.ok _) => "ok"
  | readiness (.error e) => e.code

def error? : Answer → Option StoreError
  | reply (.error e) => some e
  | ending (.failed e) => some e
  | readiness (.error e) => some e
  | _ => none

theorem error?_reply {result : Except StoreError Reply} {e : StoreError} :
    (reply result).error? = some e ↔ result = .error e := by
  cases result <;> simp [error?]

theorem error?_ending {how : Deployment.IterationEnd} {e : StoreError} :
    (ending how).error? = some e ↔ how = .failed e := by
  cases how <;> simp [error?]

theorem error?_readiness {result : Except StoreError Unit} {e : StoreError} :
    (readiness result).error? = some e ↔ result = .error e := by
  cases result <;> simp [error?]

/-- What a reconciliation tallied. -/
def tally? : Answer → Option Tally
  | reply (.ok answered) => answered.tally?
  | _ => none

/-- How many rows were tallied as having become something. -/
def rows (answer : Answer) (merge : Merge) : Nat :=
  (answer.tally?.map fun tally => tally.count merge).getD 0

end Answer

/-- A call that came back. -/
structure Returned where
  call : Call
  answer : Answer

namespace Returned

/-- Whether the call is a reconciliation that was committed. -/
def commits (returned : Returned) : Bool :=
  returned.call.reconciles && returned.answer.error?.isNone

/-- What a call has to add to a counter. -/
def adds (returned : Returned) : Counter → Nat
  | .operations name outcome =>
    if returned.call.name = name ∧ returned.answer.outcome = outcome then 1 else 0
  | .mergedRows name merge =>
    if returned.call.name = name then returned.answer.rows merge else 0

end Returned

namespace Deployment

/-- The call that comes back in a step.  A migration that was started comes back when it is
finished.  What is made of several calls, such as a patch of what was just read, is several
steps. -/
def returned? (dep : Deployment) : Step → Option Returned
  | .perform now course op => some ⟨.operation op, .reply (dep.perform now course op).1⟩
  | .iterate course it visitor =>
    some ⟨.iteration it, .ending (dep.iterate course it visitor).2.1⟩
  | .migrate course reset => some ⟨.migration, .readiness (dep.migrate course reset).1⟩
  | .finishMigration course reset =>
    if dep.store.lifecycle = .migrating then
      some ⟨.migration, .readiness (dep.finishMigration course reset).1⟩
    else none
  | .reopen _ _ => none
  | .beginMigration _ => none
  | .tamper _ _ => none

/-- The calls that come back in several steps, in order. -/
def calls (dep : Deployment) : List Step → List Returned
  | [] => []
  | step :: steps => (dep.returned? step).toList ++ (dep.after step).calls steps

end Deployment

/-- What a counter has to get where so many rows are tallied under a name. -/
def Counter.rowsUnder (name : String) (rows : Merge → Nat) : Counter → Nat
  | .operations _ _ => 0
  | .mergedRows operation merge => if name = operation then rows merge else 0

namespace Metrics

theorem count_recordOperation (m : Metrics) (name outcome : String) (counter : Counter) :
    (m.recordOperation name outcome).count counter =
      m.count counter + if counter = .operations name outcome then 1 else 0 :=
  count_add ..

theorem count_recordMerge (m : Metrics) (name : String) (tally : Tally) (counter : Counter) :
    (m.recordMerge name tally).count counter =
      m.count counter + counter.rowsUnder name tally.count := by
  simp only [recordMerge, Merge.all, List.foldl_cons, List.foldl_nil, count_add]
  cases counter with
  | operations operation outcome => simp [Counter.rowsUnder]
  | mergedRows operation merge =>
    by_cases hname : name = operation
    · subst hname
      cases merge <;> simp [Counter.rowsUnder]
    · have hne : ∀ merge', Counter.mergedRows operation merge ≠ .mergedRows name merge' := by
        intro merge' heq
        cases heq
        exact hname rfl
      simp [Counter.rowsUnder, hne, hname]

end Metrics

namespace Deployment

/-! ## What a step adds -/

/-- A call that tallies nothing adds to one counter only. -/
theorem count_record (dep : Deployment) (returned : Returned)
    (htally : returned.answer.tally? = none) (counter : Counter) :
    (dep.record returned.call.name returned.answer.outcome).metrics.count counter =
      dep.metrics.count counter + returned.adds counter := by
  rw [record, Metrics.count_recordOperation]
  cases counter with
  | operations name outcome => simp only [Returned.adds, Counter.operations.injEq, eq_comm]
  | mergedRows name merge => simp [Returned.adds, Answer.rows, htally]

theorem count_recordMerge (dep : Deployment) (name : String) (result : Except StoreError Reply)
    (counter : Counter) :
    (dep.recordMerge name result).metrics.count counter =
      dep.metrics.count counter + counter.rowsUnder name (Answer.reply result).rows := by
  unfold recordMerge
  split
  next m => exact Metrics.count_recordMerge ..
  next hplain =>
    have htally : (Answer.reply result).tally? = none := by
      cases result with
      | error e => rfl
      | ok reply =>
        cases reply with
        | merged m => exact absurd rfl (hplain m)
        | _ => rfl
    cases counter <;> simp [Counter.rowsUnder, Answer.rows, htally]

theorem outcome_reply (result : Except StoreError Reply) :
    outcomeOf result = (Answer.reply result).outcome := by
  cases result <;> rfl

theorem outcome_readiness (result : Except StoreError Unit) :
    outcomeOf result = (Answer.readiness result).outcome := by
  cases result <;> rfl

theorem outcome_ending (ending : IterationEnd) :
    ending.outcome = (Answer.ending ending).outcome := by
  cases ending <;> rfl

theorem count_perform (dep : Deployment) (now : Timestamp) (course : Course) (op : Operation)
    (counter : Counter) :
    (dep.perform now course op).2.metrics.count counter = dep.metrics.count counter +
      Returned.adds ⟨.operation op, .reply (dep.perform now course op).1⟩ counter := by
  simp only [perform, count_recordMerge, record, Metrics.count_recordOperation, outcome_reply]
  cases counter with
  | operations name outcome =>
    simp only [Counter.rowsUnder, Returned.adds, Call.name, Counter.operations.injEq, eq_comm,
      Nat.add_zero]
  | mergedRows name merge =>
    simp only [reduceCtorEq, if_false]
    rfl

theorem count_finishMigration (dep : Deployment) (course : Course) (reset : Bool)
    (counter : Counter) :
    (dep.finishMigration course reset).2.metrics.count counter = dep.metrics.count counter +
      Returned.adds ⟨.migration, .readiness (dep.finishMigration course reset).1⟩ counter := by
  simp only [finishMigration, outcome_readiness]
  exact count_record _ ⟨.migration, .readiness _⟩ rfl counter

theorem count_migrate (dep : Deployment) (course : Course) (reset : Bool) (counter : Counter) :
    (dep.migrate course reset).2.metrics.count counter = dep.metrics.count counter +
      Returned.adds ⟨.migration, .readiness (dep.migrate course reset).1⟩ counter := by
  cases hstart : dep.store.migrationStart with
  | started =>
    simp only [migrate, hstart]
    exact dep.count_finishMigration course reset counter
  | alreadyReady =>
    simp only [migrate, hstart]
    exact dep.count_record ⟨.migration, .readiness (.ok ())⟩ rfl counter
  | refused cause =>
    simp only [migrate, hstart]
    exact dep.count_record ⟨.migration, .readiness (.error ⟨migrateName, cause⟩)⟩ rfl counter

theorem count_iterate (dep : Deployment) (course : Course) (it : Iteration) (visitor : Visitor)
    (counter : Counter) :
    (dep.iterate course it visitor).2.2.metrics.count counter = dep.metrics.count counter +
      Returned.adds ⟨.iteration it, .ending (dep.iterate course it visitor).2.1⟩ counter := by
  simp only [iterate, outcome_ending]
  exact count_record dep ⟨.iteration it, .ending _⟩ rfl counter

/-- A step adds to each counter what the call that comes back in it has to add. -/
theorem count_after (dep : Deployment) (step : Step) (counter : Counter) :
    (dep.after step).metrics.count counter = dep.metrics.count counter +
      ((dep.returned? step).toList.map fun returned => returned.adds counter).sum := by
  cases step with
  | perform now course op => exact dep.count_perform now course op counter
  | iterate course it visitor => exact dep.count_iterate course it visitor counter
  | reopen isBound settings => rfl
  | migrate course reset => exact dep.count_migrate course reset counter
  | beginMigration course =>
    simp only [after, inFlight?]
    split <;> rfl
  | finishMigration course reset =>
    by_cases hlifecycle : dep.store.lifecycle = .migrating
    · simp only [after, returned?, if_pos hlifecycle]
      exact dep.count_finishMigration course reset counter
    · simp only [after, returned?, if_neg hlifecycle]
      rfl
  | tamper version how => rfl

/-- What several steps add to a counter is the sum over the calls that come back in them. -/
theorem count_run (dep : Deployment) (steps : List Step) (counter : Counter) :
    (dep.run steps).metrics.count counter = dep.metrics.count counter +
      ((dep.calls steps).map fun returned => returned.adds counter).sum := by
  induction steps generalizing dep with
  | nil => rfl
  | cons step steps ih =>
    calc (dep.run (step :: steps)).metrics.count counter
      _ = ((dep.after step).run steps).metrics.count counter := rfl
      _ = dep.metrics.count counter +
            ((dep.returned? step).toList.map fun returned => returned.adds counter).sum +
            (((dep.after step).calls steps).map fun returned => returned.adds counter).sum := by
        rw [ih, count_after]
      _ = dep.metrics.count counter +
            ((dep.calls (step :: steps)).map fun returned => returned.adds counter).sum := by
        rw [calls, List.map_append, List.sum_append, Nat.add_assoc]

/-! ## What calls come back with -/

end Deployment

theorem Failure.operation_toError (name : String) (subject : Subject) (failure : Failure) :
    (failure.toError name subject).operation = name := by
  cases failure <;> rfl

namespace Store

theorem operation_of_gate? {store : Store} {course : Course} {plan : Plan} {e : StoreError}
    (h : store.gate? course plan = some e) : e.operation = plan.name := by
  unfold gate? at h
  split at h
  next =>
    cases h
    rfl
  next =>
    split at h
    next =>
      split at h
      next =>
        cases h
        rfl
      next => cases h
    next =>
      cases h
      rfl

theorem operation_errorOf (plan : Plan) (stop : Stop) :
    (errorOf plan stop).operation = plan.name := by
  cases stop with
  | failed failure subject => exact failure.operation_toError ..
  | interrupted why => rfl

/-- An operation that fails says so under its own name. -/
theorem operation_of_perform_error {store : Store} {now : Timestamp} {course : Course}
    {op : Operation} {db : Database} {e : StoreError}
    (h : (store.perform now course op db).1 = .error e) : e.operation = op.plan.name := by
  rw [perform] at h
  cases hgate : store.gate? course op.plan with
  | some why =>
    rw [hgate] at h
    cases h
    exact operation_of_gate? hgate
  | none =>
    rw [hgate] at h
    dsimp only [execute] at h
    split at h
    next => cases h
    next =>
      cases h
      exact operation_errorOf ..

theorem operation_of_iterate_error {store : Store} {course : Course} {it : Iteration}
    {visitor : Visitor} {db : Database} {e : StoreError}
    (h : store.iterate course it visitor db = .error e) : e.operation = it.name := by
  unfold iterate at h
  split at h
  next =>
    cases h
    rfl
  next =>
    cases h
    rfl
  next =>
    split at h
    next =>
      split at h
      next =>
        cases h
        rfl
      next => cases h
    next =>
      cases h
      rfl

end Store

namespace Operation

/-- Reconciliations tally rows when they succeed, and nothing else tallies any. -/
theorem tally?_of_script {op : Operation} {env : Environment} {before after : Progress}
    {reply : Reply} (h : op.plan.script env before = .ok reply after) :
    reply.tally?.isSome = (Call.operation op).reconciles := by
  cases op <;> (obtain ⟨found, -, rfl⟩ := Script.of_map_eq_ok h; rfl)

end Operation

namespace Deployment

variable {dep : Deployment} {step : Step} {returned : Returned}

theorem operation_of_iterate {dep : Deployment} {course : Course} {it : Iteration}
    {visitor : Visitor} {e : StoreError}
    (h : (dep.iterate course it visitor).2.1 = .failed e) : e.operation = it.name := by
  cases hrun : dep.store.iterate course it visitor dep.server.database with
  | error why =>
    simp only [iterate, hrun, IterationEnd.failed.injEq] at h
    subst h
    exact Store.operation_of_iterate_error hrun
  | ok walk =>
    simp only [iterate, hrun] at h
    cases hending : walk.ending with
    | completed => simp [hending, IterationEnd.ofEnding] at h
    | stopped call => simp [hending, IterationEnd.ofEnding] at h
    | interrupted why =>
      simp only [hending, IterationEnd.ofEnding, IterationEnd.failed.injEq] at h
      subst h
      rfl

theorem operation_of_finishMigration {course : Course} {reset : Bool} {e : StoreError}
    (h : (dep.finishMigration course reset).1 = .error e) : e.operation = migrateName := by
  rcases of_finishMigration_eq_error h with ⟨why, rfl⟩ | ⟨why, rfl⟩ <;> rfl

theorem operation_of_migrate {course : Course} {reset : Bool} {e : StoreError}
    (h : (dep.migrate course reset).1 = .error e) : e.operation = migrateName := by
  cases hstart : dep.store.migrationStart with
  | started =>
    rw [migrate, hstart] at h
    exact operation_of_finishMigration h
  | alreadyReady =>
    rw [migrate, hstart] at h
    cases h
  | refused cause =>
    rw [migrate, hstart] at h
    cases h
    rfl

theorem of_returned?_finishMigration {course : Course} {reset : Bool}
    (h : dep.returned? (.finishMigration course reset) = some returned) :
    returned = ⟨.migration, .readiness (dep.finishMigration course reset).1⟩ := by
  simp only [returned?] at h
  split at h
  next => exact (Option.some.inj h).symm
  next => cases h

/-- What fails says so under the name of the call. -/
theorem operation_of_returned (h : dep.returned? step = some returned) {e : StoreError}
    (herror : returned.answer.error? = some e) : e.operation = returned.call.name := by
  cases step with
  | perform now course op =>
    cases h
    exact Store.operation_of_perform_error (Answer.error?_reply.1 herror)
  | iterate course it visitor =>
    cases h
    exact operation_of_iterate (Answer.error?_ending.1 herror)
  | migrate course reset =>
    cases h
    exact operation_of_migrate (Answer.error?_readiness.1 herror)
  | finishMigration course reset =>
    obtain rfl := of_returned?_finishMigration h
    exact operation_of_finishMigration (Answer.error?_readiness.1 herror)
  | reopen isBound settings => cases h
  | beginMigration course => cases h
  | tamper version how => cases h

theorem tally?_of_perform (dep : Deployment) (now : Timestamp) (course : Course) (op : Operation) :
    (Answer.reply (dep.perform now course op).1).tally?.isSome =
      Returned.commits ⟨.operation op, .reply (dep.perform now course op).1⟩ := by
  cases hresult : (dep.perform now course op).1 with
  | error e => simp [Answer.tally?, Returned.commits, Answer.error?]
  | ok reply =>
    obtain ⟨-, -, after, hrun, -⟩ := Store.of_perform_eq_ok hresult
    simpa [Answer.tally?, Returned.commits, Answer.error?] using Operation.tally?_of_script hrun

/-- A call has a tally if and only if it is a reconciliation that was committed. -/
theorem tally?_of_returned (h : dep.returned? step = some returned) :
    returned.answer.tally?.isSome = returned.commits := by
  cases step with
  | perform now course op =>
    cases h
    exact dep.tally?_of_perform now course op
  | finishMigration course reset =>
    obtain rfl := of_returned?_finishMigration h
    rfl
  | _ => cases h <;> rfl

/-- A reconciliation that was not committed leaves the rows as they are. -/
theorem contents_of_not_commits (h : dep.returned? step = some returned)
    (hreconciles : returned.call.reconciles = true) (hcommits : returned.commits = false) :
    (dep.after step).server.database.contents = dep.server.database.contents := by
  cases step with
  | perform now course op =>
    cases h
    cases hresult : (dep.perform now course op).1 with
    | ok reply =>
      rw [hresult] at hcommits
      simp [Returned.commits, Answer.error?, hreconciles] at hcommits
    | error e =>
      simp only [after, database_perform]
      exact Store.contents_of_perform_error hresult
  | finishMigration course reset =>
    obtain rfl := of_returned?_finishMigration h
    cases hreconciles
  | _ => cases h <;> cases hreconciles

/-! ## Sessions -/

theorem mem_calls {dep : Deployment} {steps : List Step} :
    returned ∈ dep.calls steps ↔ ∃ first step rest, steps = first ++ step :: rest ∧
      (dep.run first).returned? step = some returned := by
  induction steps generalizing dep with
  | nil => simp [calls]
  | cons step steps ih =>
    rw [calls, List.mem_append, Option.mem_toList, ih]
    constructor
    · rintro (hnow | ⟨first, later, rest, rfl, hlater⟩)
      · exact ⟨[], step, steps, rfl, hnow⟩
      · exact ⟨step :: first, later, rest, rfl, hlater⟩
    · rintro ⟨first, later, rest, hsteps, hlater⟩
      cases first with
      | nil =>
        cases hsteps
        exact .inl hlater
      | cons head first =>
        cases hsteps
        exact .inr ⟨first, later, rest, rfl, hlater⟩

theorem count_initial (settings : StoreSettings) (counter : Counter) :
    (initial settings).metrics.count counter = 0 := rfl

theorem sum_map_of_filter {α : Type} {p : α → Bool} {f g : α → Nat} {items : List α}
    (h : ∀ a ∈ items, f a = if p a then g a else 0) :
    (items.map f).sum = ((items.filter p).map g).sum := by
  induction items with
  | nil => rfl
  | cons a rest ih =>
    rw [List.map_cons, List.sum_cons, ih fun b hb => h b (List.mem_cons_of_mem _ hb),
      h a List.mem_cons_self, List.filter_cons]
    split
    next => rw [List.map_cons, List.sum_cons]
    next => rw [Nat.zero_add]

/-- At the end of a session the operations counter of a name and an outcome is the number of calls
of that name that came back with that outcome, and the counter of merged rows the sum of what the
reconciliations of that name tallied that were committed.  Those are the calls that have a tally;
the other reconciliations left the rows as they were.  A call that failed says so under its own
name, which no call of another kind has. -/
theorem metrics_account (settings : StoreSettings) (steps : List Step) :
    let dep := (initial settings).run steps
    let calls := (initial settings).calls steps
    (∀ name outcome, dep.metrics.count (.operations name outcome) =
      calls.countP fun r => r.call.name = name && r.answer.outcome = outcome) ∧
    (∀ name merge, dep.metrics.count (.mergedRows name merge) =
      ((calls.filter fun r => r.call.name = name && r.commits).map
        fun r => r.answer.rows merge).sum) ∧
    (∀ r ∈ calls, (r.answer.tally?.isSome = r.commits) ∧
      ∀ e, r.answer.error? = some e → e.operation = r.call.name) ∧
    (∀ first step rest r, steps = first ++ step :: rest →
      ((initial settings).run first).returned? step = some r →
      r.call.reconciles = true → r.commits = false →
        (((initial settings).run first).after step).server.database.contents =
          ((initial settings).run first).server.database.contents) ∧
    ∀ call call' : Call, call.name = call'.name → call.kind = call'.kind := by
  intro dep calls
  have hcount : ∀ counter, dep.metrics.count counter =
      (calls.map fun returned => returned.adds counter).sum := fun counter => by
    rw [count_run, count_initial, Nat.zero_add]
  have htally : ∀ r ∈ calls, r.answer.tally?.isSome = r.commits := fun r hr => by
    obtain ⟨first, step, rest, -, hstep⟩ := mem_calls.1 hr
    exact tally?_of_returned hstep
  refine ⟨?_, ?_, fun r hr => ⟨htally r hr, ?_⟩, ?_, fun call call' => Call.kind_eq_of_name⟩
  · intro name outcome
    calc dep.metrics.count (.operations name outcome)
      _ = ((calls.filter fun r => r.call.name = name && r.answer.outcome = outcome).map
            fun _ => 1).sum := by
        rw [hcount]
        exact sum_map_of_filter fun r _ => by simp [Returned.adds]
      _ = _ := by simp [List.countP_eq_length_filter]
  · intro name merge
    rw [hcount]
    refine sum_map_of_filter fun r hr => ?_
    by_cases hcommits : r.commits = true
    · simp [Returned.adds, hcommits]
    · have hnone : r.answer.tally? = none := by
        rw [← Option.not_isSome_iff_eq_none, htally r hr]
        exact hcommits
      simp [Returned.adds, Answer.rows, hnone, hcommits]
  · intro e herror
    obtain ⟨first, step, rest, -, hstep⟩ := mem_calls.1 hr
    exact operation_of_returned hstep herror
  · exact fun _ _ _ _ _ hstep => contents_of_not_commits hstep

/-- A session in which a call is refused for want of a migration, one is interrupted, an iteration
is stopped, and a cloud is reconciled twice, the second time after an interruption. -/
example :
    let snapshot : Cloud.Snapshot :=
      ⟨⟨"aws", ⟨"ec2", "", [], .none, [], .empty⟩, []⟩, [⟨"ann", .admin⟩]⟩
    let dep := (initial .default).run
      [.perform ⟨0, 0⟩ .undisturbed .listClouds,
        .migrate .undisturbed false,
        .perform ⟨60, 0⟩ .undisturbed (.reconcileCloud snapshot),
        .perform ⟨120, 0⟩ (.disturbed .readAfterWrite .cancelled) (.reconcileCloud snapshot),
        .perform ⟨180, 0⟩ .undisturbed (.reconcileCloud snapshot),
        .iterate .undisturbed .clouds fun _ => .stop]
    dep.metrics.counts =
      [(.operations "clouds.list" "server_configuration", 1),
        (.operations "database.migrate" "ok", 1),
        (.operations "clouds.set_cloud" "ok", 2),
        (.mergedRows "clouds.set_cloud" .inserted, 2),
        (.mergedRows "clouds.set_cloud" .updated, 0),
        (.mergedRows "clouds.set_cloud" .unchanged, 2),
        (.operations "clouds.set_cloud" "cancelled", 1),
        (.operations "clouds.for_each" "aborted", 1)] := by
  decide +kernel

end Deployment
end ControlPlane
