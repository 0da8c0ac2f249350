/-
Where rows come from.

A row keeps its origin for good, and an operation creates rows of few origins only
(`Operation.Creates`).  So every row that a session leaves was created by one of the session's
operations, under a subject that could exist (`Deployment.exists_creation`).
-/
import ControlPlane.Proofs.Integrity

namespace ControlPlane

open Script
open Statement (InsertsOnly)

namespace Database

variable {P : (r : Relation) → Origin r → Prop} {db after : Database} {now : Timestamp}

theorem get_empty (r : Relation) : Database.empty.contents.get r = [] :=
  PerRelation.get_tabulate _ r

/-- Whether each row is one from before, by its number and its origin, or has an origin that may be
created. -/
def StemsFrom (P : (r : Relation) → Origin r → Prop) (db after : Database) : Prop :=
  ∀ r, ∀ row ∈ after.contents.get r,
    (∃ old ∈ db.contents.get r, old.id = row.id ∧ old.origin = row.origin) ∨
      P r row.origin ∧ stored? row.origin = some row.origin

theorem stemsFrom_of_subset (h : ∀ r, after.contents.get r ⊆ db.contents.get r) :
    StemsFrom P db after :=
  fun r row hrow => .inl ⟨row, h r hrow, rfl, rfl⟩

theorem StemsFrom.trans {middle : Database} (h : StemsFrom P db middle)
    (h' : StemsFrom P middle after) : StemsFrom P db after := by
  intro r row hrow
  rcases h' r row hrow with ⟨between, hbetween, hid, horigin⟩ | hnew
  · rw [← hid, ← horigin]
    exact h r between hbetween
  · exact .inr hnew

theorem Write.stemsFrom {statement : Statement} (hallowed : InsertsOnly P statement)
    (hwrite : Write now statement db after) : StemsFrom P db after := by
  cases hwrite with
  | insert _ e =>
    obtain ⟨-, hcases⟩ := insert_cases (Prod.eta (db.insert now e)).symm
    rcases hcases with ⟨failure, -, -, hcontents⟩ | ⟨new, -, hnew, -, hcontents⟩
    · exact stemsFrom_of_subset fun q => by rw [hcontents]; exact List.Subset.refl _
    rw [StemsFrom, hcontents]
    refine PerRelation.get_set_cases (P := fun q (rows : List (Row q)) => ∀ row ∈ rows,
      (∃ old ∈ db.contents.get q, old.id = row.id ∧ old.origin = row.origin) ∨
        P q row.origin ∧ stored? row.origin = some row.origin)
      (fun row hrow => ?_) fun q _ row hrow => .inl ⟨row, hrow, rfl, rfl⟩
    rcases List.mem_append.1 hrow with hrow | hrow
    · exact .inl ⟨row, hrow, rfl, rfl⟩
    · obtain rfl := List.mem_singleton.1 hrow
      have horigin : row.origin = e.origin := by rw [hnew]
      right
      rw [horigin]
      exact hallowed
  | lose => exact stemsFrom_of_subset fun _ => List.Subset.refl _
  | update hupdate =>
    rcases Contents.update_cases hupdate with ⟨-, rfl⟩ | ⟨found, new, hfind, -, hnew, -, rfl⟩
    · exact stemsFrom_of_subset fun _ => List.Subset.refl _
    refine PerRelation.get_set_cases (P := fun q (rows : List (Row q)) => ∀ row ∈ rows,
      (∃ old ∈ db.contents.get q, old.id = row.id ∧ old.origin = row.origin) ∨
        P q row.origin ∧ stored? row.origin = some row.origin)
      (fun row hrow => .inl ?_) fun q _ row hrow => .inl ⟨row, hrow, rfl, rfl⟩
    obtain ⟨old, hold, rfl⟩ := List.mem_map.1 hrow
    split
    next => exact ⟨found, List.mem_of_find?_eq_some hfind, by rw [hnew], by rw [hnew]⟩
    next => exact ⟨old, hold, rfl, rfl⟩
  | delete hdelete =>
    rcases Contents.delete_cases hdelete with ⟨-, rfl⟩ | ⟨-, hsublist, -⟩
    · exact stemsFrom_of_subset fun _ => List.Subset.refl _
    · exact stemsFrom_of_subset fun q => (hsublist q).subset

theorem Evolution.stemsFrom (h : Evolution now (InsertsOnly P) db after) :
    StemsFrom P db after := by
  induction h with
  | refl => exact stemsFrom_of_subset fun _ => List.Subset.refl _
  | write hallowed hwrite => exact hwrite.stemsFrom hallowed
  | trans _ _ ihfirst ihsecond => exact ihfirst.trans ihsecond
  | undo => exact stemsFrom_of_subset fun _ => List.Subset.refl _

end Database

theorem Store.perform_stemsFrom (store : Store) (now : Timestamp) (course : Course)
    (op : Operation) (db : Database) :
    Database.StemsFrom (fun r origin => op.plan.subject.isValid = true ∧ op.Creates r origin) db
      (store.perform now course op db).2 := by
  refine (perform_evolution_of_within (fun hvalid => ?_) db).stemsFrom
  intro before
  refine (op.within_creates _ before).mono fun statement hstatement => ?_
  cases statement with
  | insert e => exact ⟨⟨hvalid, hstatement.1⟩, hstatement.2⟩
  | update => trivial
  | delete => trivial

namespace Deployment

theorem exists_creation_or_mem {dep : Deployment} {steps : List Step} {r : Relation} {row : Row r}
    (h : row ∈ (dep.run steps).server.database.contents.get r) :
    (∃ old ∈ dep.server.database.contents.get r, old.origin = row.origin) ∨
      ∃ now course op, Step.perform now course op ∈ steps ∧ op.plan.subject.isValid = true ∧
        op.Creates r row.origin ∧ stored? row.origin = some row.origin := by
  induction steps generalizing dep with
  | nil => exact .inl ⟨row, h, rfl⟩
  | cons step steps ih =>
    rcases ih h with ⟨old, hold, horigin⟩ | ⟨now, course, op, hstep, hcreates⟩
    · rcases database_after dep step with heq | ⟨-, heq⟩ | ⟨now, course, op, rfl, heq⟩
      · rw [heq] at hold
        exact .inl ⟨old, hold, horigin⟩
      · rw [heq, Database.get_empty] at hold
        cases hold
      · rw [heq] at hold
        rw [← horigin]
        rcases dep.store.perform_stemsFrom now course op _ r old hold with
          ⟨oldest, holdest, -, horigin'⟩ | ⟨⟨hvalid, hcreates⟩, hstored⟩
        · exact .inl ⟨oldest, holdest, horigin'⟩
        · exact .inr ⟨now, course, op, List.mem_cons_self, hvalid, hcreates, hstored⟩
    · exact .inr ⟨now, course, op, List.mem_cons_of_mem _ hstep, hcreates⟩

/-- Every row that a session leaves was created by one of its operations, which addressed something
that could exist. -/
theorem exists_creation {settings : StoreSettings} {steps : List Step} {r : Relation} {row : Row r}
    (h : row ∈ ((initial settings).run steps).server.database.contents.get r) :
    ∃ now course op, Step.perform now course op ∈ steps ∧ op.plan.subject.isValid = true ∧
      op.Creates r row.origin ∧ stored? row.origin = some row.origin := by
  rcases exists_creation_or_mem h with ⟨old, hold, -⟩ | hcreation
  · have hnone : (initial settings).server.database = Database.empty := rfl
    rw [hnone, Database.get_empty] at hold
    cases hold
  · exact hcreation

end Deployment
end ControlPlane
