/-
Sessions: what happens to a deployment from outside, one step after another.

A session starts with an empty server.  Its steps are calls of operations and iterations, opened
stores, migrations, and interference with the ledger, in any order and with any arguments; a
migration may also stay in flight over several steps.  `Deployment.Reachable` is what a session can
come to.  Of all steps only calls and resets touch the database, so a property of databases holds at
the end of every session once it holds of the empty one and calls keep it (`database_induction`).
-/
import ControlPlane.Deployment

namespace ControlPlane
namespace Deployment

/-- Something that happens to a deployment from outside. -/
inductive Step
  | perform (now : Timestamp) (course : Course) (op : Operation)
  | iterate (course : Course) (it : Iteration) (visitor : Visitor)
  | reopen (isBound : Bool) (settings : StoreSettings)
  | migrate (course : Course) (reset : Bool)
  /-- A migration starts and stays in flight. -/
  | beginMigration (course : Course)
  /-- The migration that is in flight ends. -/
  | finishMigration (course : Course) (reset : Bool)
  | tamper (version : Int) (how : Tampering)

/-- The deployment after a step. -/
def after (dep : Deployment) : Step → Deployment
  | .perform now course op => (dep.perform now course op).2
  | .iterate course it visitor => (dep.iterate course it visitor).2.2
  | .reopen isBound settings => dep.reopen isBound settings
  | .migrate course reset => (dep.migrate course reset).2
  | .beginMigration course => (dep.inFlight? course).getD dep
  | .finishMigration course reset =>
    if dep.store.lifecycle = .migrating then (dep.finishMigration course reset).2 else dep
  | .tamper version how => (dep.tamper version how).2

/-- The deployment after several steps. -/
def run (dep : Deployment) (steps : List Step) : Deployment := steps.foldl after dep

/-- Whether a step drops everything that is stored: a migration asks for that, and its context lets
it come to the drop.  What becomes of the migration after the drop makes no difference. -/
def IsReset (dep : Deployment) : Step → Prop
  | .migrate course reset =>
    dep.store.migrationStart = .started ∧ reset = true ∧ course.interruptionAtStart? = none
  | .finishMigration course reset =>
    dep.store.lifecycle = .migrating ∧ reset = true ∧ course.interruptionAtStart? = none
  | _ => False

/-- Whether none of several steps drops what is stored. -/
def NeverResets (dep : Deployment) : List Step → Prop
  | [] => True
  | step :: steps => ¬dep.IsReset step ∧ (dep.after step).NeverResets steps

/-- Whether a session on an empty server can come to this deployment. -/
def Reachable (dep : Deployment) : Prop :=
  ∃ settings steps, dep = (initial settings).run steps

theorem run_append (dep : Deployment) (first second : List Step) :
    dep.run (first ++ second) = (dep.run first).run second :=
  List.foldl_append

theorem Reachable.run {dep : Deployment} (h : dep.Reachable) (steps : List Step) :
    (dep.run steps).Reachable := by
  obtain ⟨settings, first, rfl⟩ := h
  exact ⟨settings, first ++ steps, (run_append _ _ _).symm⟩

/-! ## What steps do to the database -/

theorem database_recordMerge (dep : Deployment) (operation : String)
    (result : Except StoreError Reply) :
    (dep.recordMerge operation result).server = dep.server := by
  unfold recordMerge
  split <;> rfl

theorem database_perform (dep : Deployment) (now : Timestamp) (course : Course) (op : Operation) :
    (dep.perform now course op).2.server.database =
      (dep.store.perform now course op dep.server.database).2 := by
  simp only [perform, database_recordMerge]
  rfl

/-- A call leaves the store as it is. -/
theorem store_perform (dep : Deployment) (now : Timestamp) (course : Course) (op : Operation) :
    (dep.perform now course op).2.store = dep.store := by
  simp only [perform, recordMerge]
  split <;> rfl

theorem server_iterate (dep : Deployment) (course : Course) (it : Iteration) (visitor : Visitor) :
    (dep.iterate course it visitor).2.2.server = dep.server := rfl

theorem database_inFlight (dep : Deployment) (course : Course) :
    ((dep.inFlight? course).getD dep).server = dep.server := by
  unfold inFlight?
  split <;> rfl

/-- How the schema is brought up to date.  The ledger decides only where nothing was dropped: an
empty one stands against no migration. -/
theorem runMigrations_cases (dep : Deployment) (course : Course) (reset : Bool) :
    (∃ why, course.interruptionAtStart? = some why ∧
      dep.runMigrations course reset =
        (.error ⟨migrateName, .interrupted why⟩, dep.server)) ∨
    (course.interruptionAtStart? = none ∧ reset = true ∧
      ((∃ why, course.interruptionAt? .readAfterWrite = some why ∧
          dep.runMigrations course reset =
            (.error ⟨migrateName, .interrupted why⟩, Server.empty)) ∨
        course.interruptionAt? .readAfterWrite = none ∧
          dep.runMigrations course reset =
            (.ok (), ⟨Database.empty, Ledger.empty.migrated⟩))) ∨
    (course.interruptionAtStart? = none ∧ reset = false ∧
      ((∃ why, dep.server.ledger.problem? = some why ∧
          dep.runMigrations course reset =
            (.error ⟨migrateName, .serverConfiguration why⟩, dep.server)) ∨
        dep.server.ledger.problem? = none ∧
          dep.runMigrations course reset =
            (.ok (), { dep.server with ledger := dep.server.ledger.migrated }))) := by
  unfold runMigrations
  cases hstart : course.interruptionAtStart? with
  | some why => exact .inl ⟨why, rfl, rfl⟩
  | none =>
    right
    cases reset with
    | true =>
      left
      cases hread : course.interruptionAt? .readAfterWrite with
      | some why => exact ⟨rfl, rfl, .inl ⟨why, rfl, by simp⟩⟩
      | none => exact ⟨rfl, rfl, .inr ⟨rfl, rfl⟩⟩
    | false =>
      right
      cases hproblem : dep.server.ledger.problem? with
      | some why => exact ⟨rfl, rfl, .inl ⟨why, rfl, by simp [Server.migrate, hproblem]⟩⟩
      | none => exact ⟨rfl, rfl, .inr ⟨rfl, by simp [Server.migrate, hproblem]⟩⟩

/-- What a migration fails with. -/
theorem of_finishMigration_eq_error {dep : Deployment} {course : Course} {reset : Bool}
    {e : StoreError} (h : (dep.finishMigration course reset).1 = .error e) :
    (∃ why, e = ⟨migrateName, .interrupted why⟩) ∨
      ∃ why, e = ⟨migrateName, .serverConfiguration why⟩ := by
  change (dep.runMigrations course reset).1 = .error e at h
  rcases runMigrations_cases dep course reset with
    ⟨why, -, hrun⟩ | ⟨-, -, ⟨why, -, hrun⟩ | ⟨-, hrun⟩⟩ | ⟨-, -, ⟨why, -, hrun⟩ | ⟨-, hrun⟩⟩ <;>
    rw [hrun] at h <;> cases h
  · exact .inl ⟨why, rfl⟩
  · exact .inl ⟨why, rfl⟩
  · exact .inr ⟨why, rfl⟩

theorem server_finishMigration (dep : Deployment) (course : Course) (reset : Bool) :
    (dep.finishMigration course reset).2.server = (dep.runMigrations course reset).2 := rfl

/-- A migration that comes to the drop leaves no rows, also where it fails afterwards. -/
theorem database_of_drop (dep : Deployment) {course : Course}
    (h : course.interruptionAtStart? = none) :
    (dep.finishMigration course true).2.server.database = Database.empty := by
  rw [server_finishMigration]
  rcases runMigrations_cases dep course true with
    ⟨why, hstart, -⟩ | ⟨-, -, ⟨why, -, hrun⟩ | ⟨-, hrun⟩⟩ | ⟨-, hkeeps, -⟩
  · cases h.symm.trans hstart
  · rw [hrun]
    rfl
  · rw [hrun]
  · cases hkeeps

/-- A migration that does not come to the drop leaves the rows alone. -/
theorem database_of_no_drop (dep : Deployment) {course : Course} {reset : Bool}
    (h : ¬(reset = true ∧ course.interruptionAtStart? = none)) :
    (dep.finishMigration course reset).2.server.database = dep.server.database := by
  rw [server_finishMigration]
  rcases runMigrations_cases dep course reset with
    ⟨why, -, hrun⟩ | ⟨hstart, hreset, -⟩ | ⟨-, -, ⟨why, -, hrun⟩ | ⟨-, hrun⟩⟩
  · rw [hrun]
  · exact absurd ⟨hreset, hstart⟩ h
  · rw [hrun]
  · rw [hrun]

theorem database_finishMigration (dep : Deployment) (course : Course) (reset : Bool) :
    (dep.finishMigration course reset).2.server.database = dep.server.database ∨
      (reset = true ∧ course.interruptionAtStart? = none) ∧
        (dep.finishMigration course reset).2.server.database = Database.empty := by
  by_cases hdrop : reset = true ∧ course.interruptionAtStart? = none
  · obtain ⟨rfl, hstart⟩ := hdrop
    exact .inr ⟨⟨rfl, hstart⟩, database_of_drop dep hstart⟩
  · exact .inl (database_of_no_drop dep hdrop)

theorem database_migrate (dep : Deployment) (course : Course) (reset : Bool) :
    (dep.migrate course reset).2.server.database = dep.server.database ∨
      dep.IsReset (.migrate course reset) ∧
        (dep.migrate course reset).2.server.database = Database.empty := by
  cases hstart : dep.store.migrationStart with
  | started =>
    have hmigrate : dep.migrate course reset = dep.finishMigration course reset := by
      simp only [migrate, hstart]
    rw [hmigrate]
    exact (database_finishMigration dep course reset).imp_right fun h => ⟨⟨hstart, h.1⟩, h.2⟩
  | alreadyReady =>
    left
    simp only [migrate, hstart]
    rfl
  | refused cause =>
    left
    simp only [migrate, hstart]
    rfl

theorem database_of_isReset {dep : Deployment} {step : Step} (h : dep.IsReset step) :
    (dep.after step).server.database = Database.empty := by
  cases step with
  | migrate course reset =>
    obtain ⟨hstart, rfl, hcourse⟩ := h
    simp only [after, migrate, hstart]
    exact database_of_drop dep hcourse
  | finishMigration course reset =>
    obtain ⟨hlifecycle, rfl, hcourse⟩ := h
    simp only [after, if_pos hlifecycle]
    exact database_of_drop dep hcourse
  | perform => exact h.elim
  | iterate => exact h.elim
  | reopen => exact h.elim
  | beginMigration => exact h.elim
  | tamper => exact h.elim

/-- A step that is no call leaves the rows alone, unless it resets. -/
theorem database_after (dep : Deployment) (step : Step) :
    (dep.after step).server.database = dep.server.database ∨
      (dep.IsReset step ∧ (dep.after step).server.database = Database.empty) ∨
      ∃ now course op, step = .perform now course op ∧
        (dep.after step).server.database =
          (dep.store.perform now course op dep.server.database).2 := by
  cases step with
  | perform now course op => exact .inr (.inr ⟨now, course, op, rfl, database_perform ..⟩)
  | iterate course it visitor => exact .inl rfl
  | reopen isBound settings => exact .inl rfl
  | migrate course reset =>
    exact (database_migrate dep course reset).imp_right .inl
  | beginMigration course =>
    left
    simp only [after, database_inFlight]
  | finishMigration course reset =>
    by_cases hlifecycle : dep.store.lifecycle = .migrating
    · simp only [after, if_pos hlifecycle]
      exact (database_finishMigration dep course reset).imp_right fun h =>
        .inl ⟨⟨hlifecycle, h.1⟩, h.2⟩
    · left
      simp only [after, if_neg hlifecycle]
  | tamper version how => exact .inl rfl

/-- What holds of the empty database and is kept by every call holds at the end of every
session. -/
theorem Reachable.database_induction {P : Database → Prop} (hempty : P Database.empty)
    (hperform : ∀ (store : Store) now course op db, P db → P (store.perform now course op db).2)
    {dep : Deployment} (h : dep.Reachable) : P dep.server.database := by
  obtain ⟨settings, steps, rfl⟩ := h
  suffices hrun : ∀ dep : Deployment, P dep.server.database →
      P (dep.run steps).server.database from hrun (initial settings) hempty
  induction steps with
  | nil => exact fun _ hdep => hdep
  | cons step steps ih =>
    intro dep hdep
    refine ih (dep.after step) ?_
    rcases database_after dep step with heq | ⟨-, heq⟩ | ⟨now, course, op, -, heq⟩
    · rwa [heq]
    · rwa [heq]
    · rw [heq]
      exact hperform dep.store now course op _ hdep

end Deployment
end ControlPlane
