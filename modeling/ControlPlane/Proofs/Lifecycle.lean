/-
The lifecycle of a store as its callers see it.

What callers see of migrations is that one stays in flight and what calls to migrate answer.  All
that was seen since a store was opened decides the lifecycle of the store, whatever server is behind
it: whatever its rows, whatever its ledger, and whatever became of both in the meantime.  So it
also decides what the store answers from then on, and when a row can be touched at all.  It does not
decide what is left in the server: a reset drops everything before it looks at the ledger, and what
it dropped is gone also where it fails after that.
-/
import ControlPlane.Proofs.Session

namespace ControlPlane

/-- What can be seen of the migrations of a store. -/
inductive MigrationEvent
  /-- A migration has started and stays in flight. -/
  | begun
  /-- A call to migrate has answered. -/
  | answered (result : Except StoreError Unit)

namespace MigrationEvent

/-- A migration was carried out, or had been before. -/
def HasSucceeded (seen : List MigrationEvent) : Prop := answered (.ok ()) ∈ seen

/-- A migration failed or was cancelled.  A call that only found another one in flight says nothing
about how that one ends. -/
def HasFailed (seen : List MigrationEvent) : Prop :=
  ∃ e, answered (.error e) ∈ seen ∧ e.code ≠ "upgrade_in_progress"

/-- A migration has started, and nothing was seen of its end. -/
def IsInFlight (seen : List MigrationEvent) : Prop :=
  begun ∈ seen ∧ ¬HasSucceeded seen ∧ ¬HasFailed seen

variable {seen : List MigrationEvent} {result : Except StoreError Unit} {e : StoreError}

theorem hasSucceeded_append : HasSucceeded (seen ++ [.answered result]) ↔
    HasSucceeded seen ∨ result = .ok () := by
  simp only [HasSucceeded, List.mem_append, List.mem_singleton, answered.injEq]
  exact or_congr_right eq_comm

theorem hasFailed_append : HasFailed (seen ++ [.answered result]) ↔
    HasFailed seen ∨ ∃ e, result = .error e ∧ e.code ≠ "upgrade_in_progress" := by
  simp only [HasFailed, List.mem_append, List.mem_singleton, answered.injEq, or_and_right,
    exists_or]
  refine or_congr_right (exists_congr fun e => ?_)
  rw [eq_comm]

theorem hasFailed_append_ok : HasFailed (seen ++ [.answered (.ok ())]) ↔ HasFailed seen := by
  simp [hasFailed_append]

theorem hasSucceeded_append_error :
    HasSucceeded (seen ++ [.answered (.error e)]) ↔ HasSucceeded seen := by
  simp [hasSucceeded_append]

end MigrationEvent

/-- There are no rows, and every sequence is at its start. -/
def Database.IsPristine (db : Database) : Prop :=
  ∀ r, db.contents.get r = [] ∧ db.sequences.get r = 1

theorem Database.isPristine_empty : Database.empty.IsPristine := fun _ =>
  ⟨PerRelation.get_tabulate _ _, PerRelation.get_tabulate _ _⟩

namespace Deployment

open MigrationEvent

/-- What has been seen of the migrations of the open store after one more step. -/
def watch (dep : Deployment) (seen : List MigrationEvent) : Step → List MigrationEvent
  | .reopen _ _ => []
  | .migrate course reset => seen ++ [.answered (dep.migrate course reset).1]
  | .beginMigration course =>
    match dep.inFlight? course with
    | some _ => seen ++ [.begun]
    | none => seen
  | .finishMigration course reset =>
    if dep.store.lifecycle = .migrating then
      seen ++ [.answered (dep.finishMigration course reset).1]
    else seen
  | _ => seen

/-- What has been seen of the migrations of the open store after several steps. -/
def watchAll (dep : Deployment) (seen : List MigrationEvent) : List Step → List MigrationEvent
  | [] => seen
  | step :: steps => (dep.after step).watchAll (dep.watch seen step) steps

/-! ## Migrations that end -/

section

variable {dep : Deployment} {course : Course} {reset : Bool}

/-- A migration that fails says why; that another one is in flight is no reason. -/
theorem code_of_finishMigration {e : StoreError}
    (h : (dep.finishMigration course reset).1 = .error e) : e.code ≠ "upgrade_in_progress" := by
  rcases of_finishMigration_eq_error h with ⟨why, rfl⟩ | ⟨why, rfl⟩
  · show "cancelled" ≠ "upgrade_in_progress"
    decide
  · show "server_configuration" ≠ "upgrade_in_progress"
    decide

variable (course reset) in
theorem migrate_of_started (h : dep.store.migrationStart = .started) :
    dep.migrate course reset = dep.finishMigration course reset := by
  simp only [migrate, h]

variable (course reset) in
theorem migrate_of_alreadyReady (h : dep.store.migrationStart = .alreadyReady) :
    (dep.migrate course reset).1 = .ok () ∧ (dep.migrate course reset).2.server = dep.server ∧
      (dep.migrate course reset).2.store = dep.store := by
  rw [migrate, h]
  exact ⟨rfl, rfl, rfl⟩

variable (course reset) in
theorem migrate_of_refused {cause : Cause} (h : dep.store.migrationStart = .refused cause) :
    (dep.migrate course reset).1 = .error ⟨migrateName, cause⟩ ∧
      (dep.migrate course reset).2.server = dep.server ∧
      (dep.migrate course reset).2.store = dep.store := by
  rw [migrate, h]
  exact ⟨rfl, rfl, rfl⟩

theorem inFlight?_eq_none (h : dep.store.migrationStart ≠ .started) :
    dep.inFlight? course = none := by
  unfold inFlight?
  split
  next _ hstart => exact absurd hstart h
  next _ hstart _ => exact absurd hstart h
  next => rfl

/-- A migration that stays in flight leaves only its mark on the store. -/
theorem of_inFlight?_eq_some {flying : Deployment} (h : dep.inFlight? course = some flying) :
    dep.store.migrationStart = .started ∧ flying.server = dep.server ∧
      flying.store = { dep.store with lifecycle := .migrating } := by
  unfold inFlight? at h
  split at h
  next => cases h
  next hstart _ =>
    cases h
    exact ⟨hstart, rfl, rfl⟩
  next => cases h

end

/-! ## What was seen decides the lifecycle -/

/-- The lifecycle of a store goes with what has been seen of its migrations. -/
inductive Explains (seen : List MigrationEvent) : Store → Prop
  | unbound (settings : StoreSettings)
      (hfailed : ∀ event ∈ seen, ∃ e, event = .answered (.error e) ∧
        e.code = "server_configuration") :
      Explains seen ⟨false, .unconfigured, settings⟩
  | unconfigured (settings : StoreSettings) (hnone : seen = []) :
      Explains seen ⟨true, .unconfigured, settings⟩
  | migrating (settings : StoreSettings) (hflight : IsInFlight seen) :
      Explains seen ⟨true, .migrating, settings⟩
  | ready (settings : StoreSettings) (hsucceeded : HasSucceeded seen) (hfailed : ¬HasFailed seen) :
      Explains seen ⟨true, .ready, settings⟩
  | failed (settings : StoreSettings) (hfailed : HasFailed seen)
      (hsucceeded : ¬HasSucceeded seen) :
      Explains seen ⟨true, .failed, settings⟩

theorem explains_opened (isBound : Bool) (settings : StoreSettings) :
    Explains [] (Store.opened isBound settings) := by
  cases isBound with
  | false => exact .unbound settings fun _ hevent => (List.not_mem_nil hevent).elim
  | true => exact .unconfigured settings rfl

/-- The answer of a migration that ends decides the lifecycle, if nothing decided it before. -/
theorem explains_finishMigration {dep : Deployment} {seen : List MigrationEvent} (course : Course)
    (reset : Bool) (hbound : dep.store.isBound = true) (hsucceeded : ¬HasSucceeded seen)
    (hfailed : ¬HasFailed seen) :
    Explains (seen ++ [.answered (dep.finishMigration course reset).1])
      (dep.finishMigration course reset).2.store := by
  have hstore : (dep.finishMigration course reset).2.store =
      ⟨dep.store.isBound, if (dep.finishMigration course reset).1.isOk then .ready else .failed,
        dep.store.settings⟩ := rfl
  rw [hstore, hbound]
  cases hresult : (dep.finishMigration course reset).1 with
  | ok =>
    refine .ready _ (hasSucceeded_append.2 (.inr rfl)) ?_
    rwa [hasFailed_append_ok]
  | error e =>
    refine .failed _ (hasFailed_append.2 (.inr ⟨e, rfl, code_of_finishMigration hresult⟩)) ?_
    rwa [hasSucceeded_append_error]

namespace Explains

variable {seen : List MigrationEvent} {store : Store}

/-- Only of a store without any history does a migration start. -/
theorem of_started (h : Explains seen store) (hstart : store.migrationStart = .started) :
    store.isBound = true ∧ seen = [] := by
  cases h with
  | unconfigured settings hnone => exact ⟨rfl, hnone⟩
  | unbound => cases hstart
  | migrating => cases hstart
  | ready => cases hstart
  | failed => cases hstart

theorem of_migrating (h : Explains seen store) (hmigrating : store.lifecycle = .migrating) :
    store.isBound = true ∧ IsInFlight seen := by
  cases h with
  | migrating settings hflight => exact ⟨rfl, hflight⟩
  | unbound => cases hmigrating
  | unconfigured => cases hmigrating
  | ready => cases hmigrating
  | failed => cases hmigrating

theorem answered_alreadyReady (h : Explains seen store)
    (hstart : store.migrationStart = .alreadyReady) :
    Explains (seen ++ [.answered (.ok ())]) store := by
  cases h with
  | ready settings hsucceeded hfailed =>
    exact .ready settings (hasSucceeded_append.2 (.inl hsucceeded))
      (mt hasFailed_append_ok.1 hfailed)
  | unbound => cases hstart
  | unconfigured => cases hstart
  | migrating => cases hstart
  | failed => cases hstart

/-- A call that is refused tells nothing new about the store. -/
theorem answered_refused (h : Explains seen store) {cause : Cause}
    (hstart : store.migrationStart = .refused cause) :
    Explains (seen ++ [.answered (.error ⟨migrateName, cause⟩)]) store := by
  cases h with
  | unbound settings hfailed =>
    cases hstart
    refine .unbound settings fun event hevent => ?_
    rcases List.mem_append.1 hevent with hevent | hevent
    · exact hfailed event hevent
    · exact ⟨_, List.mem_singleton.1 hevent, rfl⟩
  | migrating settings hflight =>
    cases hstart
    obtain ⟨hbegun, hsucceeded, hfailed⟩ := hflight
    refine .migrating settings ⟨List.mem_append_left _ hbegun,
      mt hasSucceeded_append_error.1 hsucceeded, fun hlater => ?_⟩
    rcases hasFailed_append.1 hlater with hearlier | ⟨e, he, hcode⟩
    · exact hfailed hearlier
    · cases he
      exact hcode rfl
  | failed settings hfailed hsucceeded =>
    exact .failed settings (hasFailed_append.2 (.inl hfailed))
      (mt hasSucceeded_append_error.1 hsucceeded)
  | unconfigured => cases hstart
  | ready => cases hstart

end Explains

/-- Calls to migrate keep what was seen and the lifecycle together. -/
theorem explains_migrate {dep : Deployment} {seen : List MigrationEvent} (course : Course)
    (reset : Bool) (h : Explains seen dep.store) :
    Explains (seen ++ [.answered (dep.migrate course reset).1])
      (dep.migrate course reset).2.store := by
  cases hstart : dep.store.migrationStart with
  | started =>
    obtain ⟨hbound, rfl⟩ := h.of_started hstart
    rw [migrate_of_started course reset hstart]
    exact explains_finishMigration course reset hbound List.not_mem_nil
      fun ⟨_, hevent, _⟩ => List.not_mem_nil hevent
  | alreadyReady =>
    obtain ⟨hresult, -, hstore⟩ := migrate_of_alreadyReady course reset hstart
    rw [hresult, hstore]
    exact h.answered_alreadyReady hstart
  | refused cause =>
    obtain ⟨hresult, -, hstore⟩ := migrate_of_refused course reset hstart
    rw [hresult, hstore]
    exact h.answered_refused hstart

/-- A migration starts only where nothing was seen of one, and then it is in flight. -/
theorem explains_inFlight {dep flying : Deployment} {seen : List MigrationEvent} {course : Course}
    (h : Explains seen dep.store) (hflying : dep.inFlight? course = some flying) :
    Explains (seen ++ [.begun]) flying.store := by
  obtain ⟨hstart, -, hstore⟩ := of_inFlight?_eq_some hflying
  obtain ⟨hbound, rfl⟩ := h.of_started hstart
  simp only [hstore, hbound]
  refine .migrating _ ⟨List.mem_singleton_self _, ?_, ?_⟩
  · simp [HasSucceeded]
  · simp [HasFailed]

/-- Every step keeps what was seen and the lifecycle together. -/
theorem explains_after {dep : Deployment} {seen : List MigrationEvent} (step : Step)
    (h : Explains seen dep.store) : Explains (dep.watch seen step) (dep.after step).store := by
  cases step with
  | perform now course op =>
    rw [after, store_perform]
    exact h
  | iterate course it visitor => exact h
  | reopen isBound settings => exact explains_opened isBound settings
  | migrate course reset => exact explains_migrate course reset h
  | beginMigration course =>
    cases hflying : dep.inFlight? course with
    | none =>
      simp only [watch, after, hflying, Option.getD_none]
      exact h
    | some flying =>
      simp only [watch, after, hflying, Option.getD_some]
      exact explains_inFlight h hflying
  | finishMigration course reset =>
    by_cases hmigrating : dep.store.lifecycle = .migrating
    · simp only [watch, after, if_pos hmigrating]
      obtain ⟨hbound, -, hsucceeded, hfailed⟩ := h.of_migrating hmigrating
      exact explains_finishMigration course reset hbound hsucceeded hfailed
    · simp only [watch, after, if_neg hmigrating]
      exact h
  | tamper version how => exact h

theorem explains_run {dep : Deployment} {seen : List MigrationEvent} (steps : List Step)
    (h : Explains seen dep.store) : Explains (dep.watchAll seen steps) (dep.run steps).store := by
  induction steps generalizing dep seen with
  | nil => exact h
  | cons step steps ih => exact ih (explains_after step h)

/-! ## What the lifecycle decides -/

namespace Explains

variable {seen : List MigrationEvent} {store : Store}

theorem ready_iff (h : Explains seen store) : store.lifecycle = .ready ↔ HasSucceeded seen := by
  cases h with
  | unbound settings hfailed =>
    refine iff_of_false Lifecycle.noConfusion fun hsucceeded => ?_
    obtain ⟨e, he, -⟩ := hfailed _ hsucceeded
    cases he
  | unconfigured settings hnone =>
    subst hnone
    exact iff_of_false Lifecycle.noConfusion List.not_mem_nil
  | migrating settings hflight => exact iff_of_false Lifecycle.noConfusion hflight.2.1
  | ready settings hsucceeded => exact iff_of_true rfl hsucceeded
  | failed settings _ hsucceeded => exact iff_of_false Lifecycle.noConfusion hsucceeded

theorem isBound_of_ready (h : Explains seen store) (hready : store.lifecycle = .ready) :
    store.isBound = true := by
  cases h with
  | ready => rfl
  | unbound => cases hready
  | unconfigured => cases hready
  | migrating => cases hready
  | failed => cases hready

theorem of_isInFlight (h : Explains seen store) (hflight : IsInFlight seen) :
    store.isBound = true ∧ store.lifecycle = .migrating := by
  obtain ⟨hbegun, hsucceeded, hfailed⟩ := hflight
  cases h with
  | unbound settings hall =>
    obtain ⟨e, he, -⟩ := hall _ hbegun
    cases he
  | unconfigured settings hnone =>
    subst hnone
    exact absurd hbegun List.not_mem_nil
  | migrating => exact ⟨rfl, rfl⟩
  | ready settings hready => exact absurd hready hsucceeded
  | failed settings hfinal => exact absurd hfinal hfailed

/-- Where no migration succeeded and none is in flight, the store cannot be used as it is. -/
theorem refusal?_eq_some (h : Explains seen store) (hsucceeded : ¬HasSucceeded seen)
    (hflight : ¬IsInFlight seen) : ∃ why, store.refusal? = some (.serverConfiguration why) := by
  cases h with
  | unbound => exact ⟨_, rfl⟩
  | unconfigured => exact ⟨_, rfl⟩
  | migrating settings hmigrating => exact absurd hmigrating hflight
  | ready settings hready => exact absurd hready hsucceeded
  | failed => exact ⟨_, rfl⟩

/-- A store whose migration failed takes no other, nor does one without a database. -/
theorem of_hasFailed (h : Explains seen store) (hfailed : HasFailed seen) :
    ∃ why, store.refusal? = some (.serverConfiguration why) ∧
      store.migrationStart = .refused (.serverConfiguration why) ∧
      store.lifecycle.name = "Unconfigured" := by
  cases h with
  | unbound => exact ⟨_, rfl, rfl, rfl⟩
  | unconfigured settings hnone =>
    subst hnone
    obtain ⟨e, he, -⟩ := hfailed
    exact absurd he List.not_mem_nil
  | migrating settings hflight => exact absurd hfailed hflight.2.2
  | ready settings _ hnever => exact absurd hfailed hnever
  | failed => exact ⟨_, rfl, rfl, rfl⟩

theorem of_unbound (h : Explains seen store) (hunbound : store.isBound = false) :
    store.lifecycle = .unconfigured ∧
      store.migrationStart = .refused (.serverConfiguration .notConfigured) := by
  cases h with
  | unbound => exact ⟨rfl, rfl⟩
  | unconfigured => cases hunbound
  | migrating => cases hunbound
  | ready => cases hunbound
  | failed => cases hunbound

theorem migrationStart_of_nil (h : Explains [] store) (hbound : store.isBound = true) :
    store.migrationStart = .started := by
  cases h with
  | unbound => cases hbound
  | unconfigured => rfl
  | migrating settings hflight => exact absurd hflight.1 List.not_mem_nil
  | ready settings hsucceeded => exact absurd hsucceeded List.not_mem_nil
  | failed settings hfailed =>
    obtain ⟨e, he, -⟩ := hfailed
    exact absurd he List.not_mem_nil

end Explains

/-- Every operation and every iteration is answered with this code, and nothing is touched. -/
structure Refuses (dep : Deployment) (code : String) : Prop where
  perform : ∀ now course op, ∃ e, (dep.perform now course op).1 = .error e ∧ e.code = code ∧
    (dep.perform now course op).2.server = dep.server
  iterate : ∀ course it visitor, ∃ e, (dep.iterate course it visitor).1 = [] ∧
    (dep.iterate course it visitor).2.1 = .failed e ∧ e.code = code ∧
    (dep.iterate course it visitor).2.2.server = dep.server

/-- Every call to migrate is answered with this code, none starts, and nothing is touched. -/
def RefusesMigration (dep : Deployment) (code : String) : Prop :=
  ∀ course reset, ∃ e, (dep.migrate course reset).1 = .error e ∧ e.code = code ∧
    (dep.migrate course reset).2.server = dep.server ∧
    (dep.migrate course reset).2.store = dep.store ∧ dep.inFlight? course = none

theorem refuses_of_refusal? {dep : Deployment} {cause : Cause}
    (h : dep.store.refusal? = some cause) : dep.Refuses (StoreError.code ⟨"", cause⟩) where
  perform now course op := by
    have hgate : dep.store.gate? course op.plan = some ⟨op.plan.name, cause⟩ := by
      simp only [Store.gate?, h]
    have hperform : dep.store.perform now course op dep.server.database =
        (.error ⟨op.plan.name, cause⟩, dep.server.database) := by
      simp only [Store.perform, hgate]
    refine ⟨⟨op.plan.name, cause⟩, ?_, rfl, ?_⟩
    · simp only [Deployment.perform, hperform]
    · simp only [Deployment.perform, hperform, database_recordMerge]
      rfl
  iterate course it visitor := by
    have hiterate : dep.store.iterate course it visitor dep.server.database =
        .error ⟨it.name, cause⟩ := by
      simp only [Store.iterate, h]
    refine ⟨⟨it.name, cause⟩, ?_, ?_, rfl, rfl⟩ <;>
      simp only [Deployment.iterate, hiterate]

theorem refusesMigration_of_refused {dep : Deployment} {cause : Cause}
    (h : dep.store.migrationStart = .refused cause) :
    dep.RefusesMigration (StoreError.code ⟨"", cause⟩) := by
  intro course reset
  obtain ⟨hresult, hserver, hstore⟩ := migrate_of_refused course reset h
  have hidle : dep.store.migrationStart ≠ .started := by
    rw [h]
    exact MigrationStart.noConfusion
  exact ⟨_, hresult, rfl, hserver, hstore, inFlight?_eq_none hidle⟩

/-- Without a reset, bringing the schema up to date leaves rows and sequences alone. -/
theorem database_migrate_of_keeping (dep : Deployment) (course : Course) :
    (dep.migrate course false).2.server.database = dep.server.database :=
  (database_migrate dep course false).resolve_right fun h => Bool.false_ne_true h.1.2.1

/-- Without a reset, a migration that was in flight leaves rows and sequences alone as well. -/
theorem database_finishMigration_of_keeping (dep : Deployment) (course : Course) :
    (dep.finishMigration course false).2.server.database = dep.server.database :=
  database_of_no_drop dep fun h => Bool.false_ne_true h.1

/-- A migration that ends well after a reset leaves nothing behind. -/
theorem isPristine_of_finished_reset {dep : Deployment} {course : Course}
    (h : (dep.finishMigration course true).1 = .ok ()) :
    (dep.finishMigration course true).2.server.database.IsPristine := by
  change (dep.runMigrations course true).1 = .ok () at h
  rcases runMigrations_cases dep course true with ⟨why, -, hrun⟩ | ⟨hstart, -⟩ | ⟨-, hkeeps, -⟩
  · rw [hrun] at h
    cases h
  · rw [database_of_drop dep hstart]
    exact Database.isPristine_empty
  · cases hkeeps

/-- So does a call that resets and answers without an error, on a store that was not ready. -/
theorem isPristine_of_migrate_reset {dep : Deployment} {course : Course}
    (hready : dep.store.lifecycle ≠ .ready) (h : (dep.migrate course true).1 = .ok ()) :
    (dep.migrate course true).2.server.database.IsPristine := by
  cases hstart : dep.store.migrationStart with
  | started =>
    rw [migrate_of_started course true hstart] at h ⊢
    exact isPristine_of_finished_reset h
  | alreadyReady =>
    rw [Store.migrationStart] at hstart
    split at hstart
    next =>
      split at hstart
      case h_2 heq => exact absurd heq hready
      all_goals cases hstart
    next => cases hstart
  | refused cause =>
    rw [(migrate_of_refused course true hstart).1] at h
    cases h

/-- After a reset the ledger is empty, so that it cannot stand against the migration. -/
theorem finishMigration_reset (dep : Deployment) :
    (dep.finishMigration .undisturbed true).1 = .ok () := rfl

/-- A reset that is interrupted after its drop has failed, and nothing is left of what there was: no
rows, and no ledger either. -/
theorem finishMigration_reset_interrupted (dep : Deployment) (why : Interruption) :
    let (result, after) := dep.finishMigration (.disturbed .readAfterWrite why) true
    result = .error ⟨migrateName, .interrupted why⟩ ∧ after.server = Server.empty ∧
      after.server.database.IsPristine ∧ after.store.lifecycle = .failed :=
  ⟨rfl, rfl, Database.isPristine_empty, rfl⟩

/-- How a deployment goes by what has been seen of the migrations of its store. -/
structure GoesBy (dep : Deployment) (seen : List MigrationEvent) : Prop where
  /-- The store is ready if a migration succeeded since it was opened, and not otherwise. -/
  ready_iff : dep.store.lifecycle = .ready ↔ HasSucceeded seen
  /-- Until then nothing touches rows or sequences. -/
  refuses : ¬HasSucceeded seen → ¬IsInFlight seen → dep.Refuses "server_configuration"
  refuses_inFlight : IsInFlight seen → dep.Refuses "upgrade_in_progress" ∧
    dep.RefusesMigration "upgrade_in_progress"
  /-- A migration that failed or was cancelled is final. -/
  refuses_failed : HasFailed seen → dep.Refuses "server_configuration" ∧
    dep.RefusesMigration "server_configuration" ∧ dep.store.lifecycle.name = "Unconfigured"
  /-- A store that is ready stays as it is. -/
  ready : HasSucceeded seen → ∀ course reset, (dep.migrate course reset).1 = .ok () ∧
    (dep.migrate course reset).2.server = dep.server ∧
    (dep.migrate course reset).2.store = dep.store
  unbound : dep.store.isBound = false → dep.store.lifecycle = .unconfigured ∧
    dep.RefusesMigration "server_configuration"
  /-- Without a reset no migration changes a row, whatever becomes of it. -/
  keeps : ∀ course, (dep.migrate course false).2.server.database = dep.server.database ∧
    (dep.finishMigration course false).2.server.database = dep.server.database
  /-- With a reset the first migration that succeeds leaves nothing. -/
  resets : ¬HasSucceeded seen → ∀ course, (dep.migrate course true).1 = .ok () →
    (dep.migrate course true).2.server.database.IsPristine
  resets_inFlight : IsInFlight seen → ∀ course, (dep.finishMigration course true).1 = .ok () →
    (dep.finishMigration course true).2.server.database.IsPristine
  /-- Whatever the ledger says, a reset of a store that was just opened succeeds. -/
  reset_succeeds : seen = [] → dep.store.isBound = true →
    (dep.migrate .undisturbed true).1 = .ok ()

/-- What was seen decides how a deployment answers. -/
theorem goesBy_of_explains {dep : Deployment} {seen : List MigrationEvent}
    (h : Explains seen dep.store) : dep.GoesBy seen where
  ready_iff := h.ready_iff
  refuses hsucceeded hflight := by
    obtain ⟨why, hrefusal⟩ := h.refusal?_eq_some hsucceeded hflight
    exact refuses_of_refusal? hrefusal
  refuses_inFlight hflight := by
    obtain ⟨hbound, hmigrating⟩ := h.of_isInFlight hflight
    have hrefusal : dep.store.refusal? = some .upgradeInProgress := by
      simp only [Store.refusal?, hmigrating]
    have hstart : dep.store.migrationStart = .refused .upgradeInProgress := by
      simp only [Store.migrationStart, hbound, hmigrating, if_true]
    exact ⟨refuses_of_refusal? hrefusal, refusesMigration_of_refused hstart⟩
  refuses_failed hfailed := by
    obtain ⟨why, hrefusal, hstart, hname⟩ := h.of_hasFailed hfailed
    exact ⟨refuses_of_refusal? hrefusal, refusesMigration_of_refused hstart, hname⟩
  ready hsucceeded course reset := by
    have hready := h.ready_iff.2 hsucceeded
    have hbound := h.isBound_of_ready hready
    refine migrate_of_alreadyReady course reset ?_
    simp only [Store.migrationStart, hbound, hready, if_true]
  unbound hunbound := by
    obtain ⟨hlifecycle, hstart⟩ := h.of_unbound hunbound
    exact ⟨hlifecycle, refusesMigration_of_refused hstart⟩
  keeps course :=
    ⟨database_migrate_of_keeping dep course, database_finishMigration_of_keeping dep course⟩
  resets hsucceeded course := isPristine_of_migrate_reset (mt h.ready_iff.1 hsucceeded)
  resets_inFlight _ course := isPristine_of_finished_reset
  reset_succeeds hnone hbound := by
    subst hnone
    rw [migrate_of_started _ _ (h.migrationStart_of_nil hbound), finishMigration_reset]

/-- In every session on every server, each store goes by what was seen of its own migrations since
it was opened. -/
theorem migrations_decide (server : Server) (metrics : Metrics) (isBound : Bool)
    (settings : StoreSettings) (steps : List Step) :
    let start : Deployment := ⟨server, Store.opened isBound settings, metrics⟩
    (start.run steps).GoesBy (start.watchAll [] steps) := by
  intro start
  exact goesBy_of_explains (explains_run steps (explains_opened isBound settings))

end Deployment
end ControlPlane
