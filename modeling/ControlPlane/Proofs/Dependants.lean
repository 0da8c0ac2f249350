/-
Which rows depend on which, and which are in the way of a delete.

The cascades and the references that do not cascade are spelled out here for each kind of row:
`DependsOn` for the rows that go with a row, and `Restricts` for those that keep it from being
deleted.  Both are what the constraints of the database come to (`goes_isRow_iff`,
`blocks_isRow_iff`).
-/
import ControlPlane.Proofs.Cascade

namespace ControlPlane

/-- Whether a row is this one. -/
def IsRow {r : Relation} (root : Row r) (q : Relation) (row : Row q) : Prop :=
  q = r ∧ row.id = root.id

/-- Whether a row depends on another: the regions of a cloud, with their links, and the grants on
it; the links of a region and of a controller; the grants on a model and on a credential; and the
grants that an identity holds. -/
def DependsOn (c : Contents) : {r : Relation} → Row r → (q : Relation) → Row q → Prop
  | .cloud, cloud, .region, region => region.origin.cloud = cloud.origin
  | .cloud, cloud, .link, link =>
    ∃ region ∈ c.get .region, link.origin.region = region.id ∧ region.origin.cloud = cloud.origin
  | .cloud, cloud, .grant .cloud, grant => grant.origin.object = cloud.id
  | .region, region, .link, link => link.origin.region = region.id
  | .controller, controller, .link, link => link.origin.controller = controller.id
  | .model, model, .grant .model, grant => grant.origin.object = model.id
  | .credential, credential, .grant .credential, grant => grant.origin.object = credential.id
  | .identity, identity, .grant _, grant => grant.origin.identity = identity.origin
  | _, _, _, _ => False

/-- Whether a row keeps another from being deleted: controllers and models in the regions of a cloud
and credentials on it; controllers and models in a region; the models of a controller; the models
that use a credential; and the models and credentials that an identity owns. -/
def Restricts (c : Contents) : {r : Relation} → Row r → (q : Relation) → Row q → Prop
  | .cloud, cloud, .controller, controller =>
    ∃ region ∈ c.get .region, controller.origin.hosting = region.origin ∧
      region.origin.cloud = cloud.origin
  | .cloud, cloud, .model, model =>
    ∃ region ∈ c.get .region, model.origin.region = region.id ∧ region.origin.cloud = cloud.origin
  | .cloud, cloud, .credential, credential => credential.origin.cloud = cloud.origin
  | .region, region, .controller, controller => controller.origin.hosting = region.origin
  | .region, region, .model, model => model.origin.region = region.id
  | .controller, controller, .model, model => model.settings.controller = controller.id
  | .credential, credential, .model, model => model.settings.credential = credential.id
  | .identity, identity, .model, model => model.origin.owner = identity.origin
  | .identity, identity, .credential, credential => credential.origin.owner = identity.origin
  | _, _, _, _ => False

namespace Contents

variable {c : Contents} {meant : (q : Relation) → Row q → Prop}

/-! ## References by relation -/

theorem goes_region {row : Row .region} : Goes c meant .region row ↔
    meant .region row ∨
      ∃ cloud ∈ c.get .cloud, row.origin.cloud = cloud.origin ∧ meant .cloud cloud := by
  rw [goes_iff]
  simp (disch := decide) only [references, List.mem_singleton, exists_eq_left, true_and,
    decide_eq_true_eq, goes_iff_meant]

theorem goes_link {row : Row .link} : Goes c meant .link row ↔
    meant .link row ∨
      (∃ region ∈ c.get .region, row.origin.region = region.id ∧ Goes c meant .region region) ∨
      ∃ controller ∈ c.get .controller, row.origin.controller = controller.id ∧
        meant .controller controller := by
  rw [goes_iff]
  simp (disch := decide) only [references, List.mem_cons, List.not_mem_nil, or_false,
    exists_eq_or_imp, exists_eq_left, true_and, decide_eq_true_eq, goes_iff_meant]

theorem goes_grant {on : Grantable} {row : Row (.grant on)} : Goes c meant (.grant on) row ↔
    meant (.grant on) row ∨
      (∃ object ∈ c.get on.relation, row.origin.object = object.id ∧ meant on.relation object) ∨
      ∃ identity ∈ c.get .identity, row.origin.identity = identity.origin ∧
        meant .identity identity := by
  have hobject : on.relation ∈ undependent := by cases on <;> decide
  rw [goes_iff]
  simp (disch := first | exact hobject | decide) only [references, List.mem_cons,
    List.not_mem_nil, or_false, exists_eq_or_imp, exists_eq_left, true_and, decide_eq_true_eq,
    goes_iff_meant]

theorem blocks_controller {row : Row .controller} : Blocks c meant .controller row ↔
    ¬meant .controller row ∧
      ∃ region ∈ c.get .region, row.origin.hosting = region.origin ∧
        Goes c meant .region region := by
  simp (disch := decide) only [Blocks, references, List.mem_singleton, exists_eq_left, true_and,
    decide_eq_true_eq, goes_iff_meant]

theorem blocks_credential {row : Row .credential} : Blocks c meant .credential row ↔
    ¬meant .credential row ∧
      ((∃ cloud ∈ c.get .cloud, row.origin.cloud = cloud.origin ∧ meant .cloud cloud) ∨
        ∃ identity ∈ c.get .identity, row.origin.owner = identity.origin ∧
          meant .identity identity) := by
  simp (disch := decide) only [Blocks, references, List.mem_cons, List.not_mem_nil, or_false,
    exists_eq_or_imp, exists_eq_left, true_and, decide_eq_true_eq, goes_iff_meant]

theorem blocks_model {row : Row .model} : Blocks c meant .model row ↔
    ¬meant .model row ∧
      ((∃ identity ∈ c.get .identity, row.origin.owner = identity.origin ∧
          meant .identity identity) ∨
        (∃ controller ∈ c.get .controller, row.settings.controller = controller.id ∧
          meant .controller controller) ∨
        (∃ region ∈ c.get .region, row.origin.region = region.id ∧ Goes c meant .region region) ∨
        ∃ credential ∈ c.get .credential, row.settings.credential = credential.id ∧
          meant .credential credential) := by
  simp (disch := decide) only [Blocks, references, List.mem_cons, List.not_mem_nil, or_false,
    exists_eq_or_imp, exists_eq_left, true_and, decide_eq_true_eq, goes_iff_meant]

/-- A row whose references all cascade is in the way of nothing. -/
theorem not_blocks {q : Relation} {row : Row q} (h : ∀ ref ∈ references q, ref.cascades = true) :
    ¬Blocks c meant q row := by
  rintro ⟨-, ref, href, hcascades, -⟩
  rw [h ref href] at hcascades
  cases hcascades

/-! ## One row -/

section

variable {r : Relation} {root : Row r}

theorem isRow_iff {row : Row r} : IsRow root r row ↔ row.id = root.id := by
  rw [IsRow, eq_self_iff_true, true_and]

theorem not_isRow {q : Relation} (hq : q ≠ r) (row : Row q) : ¬IsRow root q row := fun h => hq h.1

theorem exists_isRow (hdistinct : c.Distinct) (hroot : root ∈ c.get r) {P : Row r → Prop} :
    (∃ row ∈ c.get r, P row ∧ IsRow root r row) ↔ P root := by
  constructor
  · rintro ⟨row, hrow, hholds, -, hid⟩
    rwa [hdistinct.eq hrow hroot hid] at hholds
  · exact fun h => ⟨root, hroot, h, rfl, rfl⟩

/-- The rows that go with a row are those that depend on it. -/
theorem goes_isRow_iff (hdistinct : c.Distinct) (hroot : root ∈ c.get r) {q : Relation}
    {row : Row q} : Goes c (IsRow root) q row ↔ IsRow root q row ∨ DependsOn c root q row := by
  cases q with
  | region =>
    rw [goes_region]
    cases r <;> simp [not_isRow, exists_isRow hdistinct hroot, DependsOn]
  | link =>
    rw [goes_link]
    simp only [goes_region]
    cases r <;> simp [not_isRow, exists_isRow hdistinct hroot, DependsOn]
  | grant on =>
    rw [goes_grant]
    cases r <;> cases on <;> simp [not_isRow, exists_isRow hdistinct hroot, DependsOn]
  | _ =>
    rw [goes_iff_meant (by decide)]
    cases r <;> simp [DependsOn]

/-- The rows that are in the way of a row's deletion are those that restrict it. -/
theorem blocks_isRow_iff (hdistinct : c.Distinct) (hroot : root ∈ c.get r) {q : Relation}
    {row : Row q} : Blocks c (IsRow root) q row ↔ Restricts c root q row := by
  cases q with
  | controller =>
    rw [blocks_controller]
    simp only [goes_region]
    cases r <;> simp [not_isRow, exists_isRow hdistinct hroot, Restricts]
  | credential =>
    rw [blocks_credential]
    cases r <;> simp [not_isRow, exists_isRow hdistinct hroot, Restricts]
  | model =>
    rw [blocks_model]
    simp only [goes_region]
    cases r <;> simp [not_isRow, exists_isRow hdistinct hroot, Restricts]
  | _ =>
    refine iff_of_false (not_blocks ?_) ?_
    · simp [references]
    · cases r <;> simp [Restricts]

end

end Contents
end ControlPlane
