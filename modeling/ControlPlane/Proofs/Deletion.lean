/-
What the store does when an entity is deleted.

Every delete of an entity is one statement that deletes its row (`Key.deletion_deletes`), so it
comes to what the constraints make of that: where a row restricts the entity nothing changes
(`Key.perform_deletion_error`), and otherwise the row goes with those that depend on it
(`Key.perform_deletion_ok`).  After that the key names no row, and nothing is found by it
(`Key.perform_retrieval`).
-/
import ControlPlane.Proofs.Dependants
import ControlPlane.Proofs.Keys

namespace ControlPlane

open IdentityName (sanitise)

namespace Script

variable {α : Type} {r : Relation} {env : Environment} {before : Progress}

/-- Whether a script does nothing but delete the rows that are meant, of which there are some. -/
structure Deletes (env : Environment) (before : Progress) (which : Row r → Bool)
    (script : Script Unit) : Prop where
  ok : ∀ contents, before.database.contents.delete which = .ok (true, contents) →
    script env before = .ok () ⟨{ before.database with contents := contents }, true⟩
  error : ∀ failure, before.database.contents.delete which = .error failure →
    script env before = .error (.failed failure none) before

/-- A delete after which rows have to have been found. -/
theorem deletes_found [Storable α] (hcalm : env.disturbance = none) {params kept : α}
    (hkept : stored? params = some kept) (which : α → Row r → Bool) :
    Deletes env before (which kept) do
      let found ← delete params which
      unless found do fail .noRow where
  ok contents hdelete := by
    rw [bind_ok (delete_of_ok hcalm hkept hdelete)]
    rfl
  error failure hdelete := bind_error (delete_of_error hcalm hkept hdelete) _

/-- A delete of the row whose number was found before. -/
theorem deletes_numbered (hcalm : env.disturbance = none) {number : Script Int} {id : Int}
    (hnumber : number env before = .ok id before) :
    Deletes env before (fun row : Row r => row.id = id) do
      let id ← number
      let _ ← delete id fun id (row : Row r) => row.id = id where
  ok contents hdelete := by
    rw [bind_ok hnumber, bind_ok (delete_of_ok hcalm rfl hdelete)]
    rfl
  error failure hdelete := by
    rw [bind_ok hnumber]
    exact bind_error (delete_of_error hcalm rfl hdelete) _

end Script

open Script

namespace Key

variable {key : Key} {env : Environment} {before : Progress}

/-- The delete of an entity is one statement, which deletes its row. -/
theorem deletion_deletes (hcalm : env.disturbance = none) (hsound : before.database.Sound)
    {root : Row key.relation} (hroot : root ∈ before.database.contents.get key.relation)
    (hnames : key.Names root.toEntry) (hstorable : key.IsStorable) :
    ∃ which : Row key.relation → Bool, ∃ script : Script Unit,
      key.deletion.plan.script = Reply.ofUnit <$> script ∧ Deletes env before which script ∧
        ∀ row ∈ before.database.contents.get key.relation, which row = true ↔ row.id = root.id := by
  have hnamed : ∀ row ∈ before.database.contents.get key.relation,
      key.Names row.toEntry ↔ row.id = root.id := fun row hrow =>
    names_iff hsound.unique hsound.distinct hroot hnames hrow
  cases key with
  | cloud name =>
    refine ⟨_, Clouds.remove name, rfl, deletes_found hcalm hstorable _, fun row hrow => ?_⟩
    exact decide_eq_true_iff.trans (hnamed row hrow)
  | region key =>
    refine ⟨_, Regions.remove key, rfl, deletes_found hcalm hstorable _, fun row hrow => ?_⟩
    exact decide_eq_true_iff.trans (hnamed row hrow)
  | controller key =>
    -- Controllers and models are looked up first, and what is deleted is the row of that number.
    have hfind := (row?_controller key _).symm.trans (row?_eq_some hsound.unique hroot hnames)
    have hid : Controllers.idOf key env before = .ok root.id before :=
      queryOne_ok hcalm hstorable (congrArg (Option.map fun row : Row .controller => row.id) hfind)
    refine ⟨_, Controllers.remove key, rfl, deletes_numbered hcalm hid, fun row _ => ?_⟩
    exact decide_eq_true_iff
  | model key =>
    have hfind := (row?_model key _).symm.trans (row?_eq_some hsound.unique hroot hnames)
    have hid : Models.idOf key.sanitise env before = .ok root.id before :=
      queryOne_ok hcalm hstorable (congrArg (Option.map fun row : Row .model => row.id) hfind)
    refine ⟨_, Models.remove key.sanitise, rfl, deletes_numbered hcalm hid, fun row _ => ?_⟩
    exact decide_eq_true_iff
  | credential key =>
    refine ⟨_, Credentials.remove key.sanitise, rfl, deletes_found hcalm hstorable _, ?_⟩
    exact fun row hrow => decide_eq_true_iff.trans (hnamed row hrow)
  | identity name =>
    refine ⟨_, Identities.remove (sanitise name), rfl, deletes_found hcalm hstorable _, ?_⟩
    exact fun row hrow => decide_eq_true_iff.trans (hnamed row hrow)

/-- A key that names no row finds nothing. -/
theorem retrieval_error (hcalm : env.disturbance = none) (hstorable : key.IsStorable)
    (hnone : key.row? before.database.contents = none) :
    key.retrieval.plan.script env before = .error (.failed .noRow none) before := by
  cases key with
  | cloud name =>
    rw [row?_cloud] at hnone
    refine map_error (queryOne_of_none hcalm hstorable ?_) _
    rw [Contents.cloud?, hnone, Option.bind_none]
  | region key =>
    rw [row?_region] at hnone
    refine map_error (queryOne_of_none hcalm hstorable ?_) _
    rw [Contents.region?, hnone, Option.bind_none]
  | controller key =>
    rw [row?_controller] at hnone
    refine map_error (queryOne_of_none hcalm hstorable ?_) _
    rw [Contents.controller?, hnone, Option.bind_none]
  | model key =>
    rw [row?_model] at hnone
    refine map_error (queryOne_of_none hcalm hstorable ?_) _
    rw [Contents.model?, hnone, Option.bind_none]
  | credential key =>
    rw [row?_credential] at hnone
    refine map_error (queryOne_of_none hcalm hstorable ?_) _
    rw [Contents.credential?, hnone, Option.bind_none]
  | identity name =>
    rw [row?_identity] at hnone
    refine map_error (queryOne_of_none hcalm hstorable ?_) _
    rw [Contents.identity?, hnone, Option.map_none]

end Key

/-! ## Operations -/

/-- Whether the rows of all relations are those before, without a row and those that depend on
it. -/
def Contents.Released {r : Relation} (root : Row r) (before after : Contents) : Prop :=
  ∀ q, Without (fun q row => IsRow root q row ∨ DependsOn before root q row) before after q

namespace Contents

variable {r : Relation} {c after : Contents} {root : Row r} {which : Row r → Bool}
  (hunique : c.Unique) (hclosed : c.Closed) (hdistinct : c.Distinct) (hroot : root ∈ c.get r)
  (hwhich : ∀ row ∈ c.get r, which row = true ↔ row.id = root.id)

include hunique hclosed hdistinct hroot hwhich

theorem delete_row_ok (hfree : ¬∃ q, ∃ row ∈ c.get q, Restricts c root q row) :
    ∃ after, c.delete which = .ok (true, after) ∧ Released root c after := by
  have hmeant : ∀ row ∈ c.get r, which row = true ↔ IsRow root r row := fun row hrow =>
    (hwhich row hrow).trans isRow_iff.symm
  obtain ⟨after, hdelete, hleft⟩ := delete_ok hunique hclosed hdistinct hmeant
    (fun q hq row _ h => hq h.1) ⟨root, hroot, rfl, rfl⟩ fun ⟨q, row, hrow, hblocks⟩ =>
      hfree ⟨q, row, hrow, (blocks_isRow_iff hdistinct hroot).1 hblocks⟩
  refine ⟨after, hdelete, fun q => ⟨(hleft q).sublist, fun row hrow => ?_⟩⟩
  rw [(hleft q).mem_iff row hrow, goes_isRow_iff hdistinct hroot]

theorem delete_row_error (hrestricted : ∃ q, ∃ row ∈ c.get q, Restricts c root q row) :
    c.delete which = .error .other := by
  have hmeant : ∀ row ∈ c.get r, which row = true ↔ IsRow root r row := fun row hrow =>
    (hwhich row hrow).trans isRow_iff.symm
  obtain ⟨q, row, hrow, hrestricts⟩ := hrestricted
  exact delete_error hunique hclosed hdistinct hmeant (fun q hq row _ h => hq h.1)
    ⟨root, hroot, rfl, rfl⟩ ⟨q, row, hrow, (blocks_isRow_iff hdistinct hroot).2 hrestricts⟩

end Contents

namespace Key

variable {key : Key} {store : Store} {db : Database} {root : Row key.relation}
  (hready : store.lifecycle = .ready) (hsound : db.Sound)
  (hroot : root ∈ db.contents.get key.relation) (hnames : key.Names root.toEntry)
  (hstorable : key.IsStorable) (hparts : "" ∉ key.parts)

include hready hsound hroot hnames hstorable hparts

/-- A delete that nothing restricts takes away the row of the entity and those that depend on it. -/
theorem perform_deletion_ok (hfree : ¬∃ q, ∃ row ∈ db.contents.get q,
    Restricts db.contents root q row) (now : Timestamp) :
    ∃ contents, store.perform now .undisturbed key.deletion db =
        (.ok .done, { db with contents := contents }) ∧
      Contents.Released root db.contents contents := by
  have hcalm : (store.environment now .undisturbed).disturbance = none := rfl
  have hsound' : (Progress.mk db false).database.Sound := hsound
  obtain ⟨which, script, hplan, hdeletes, hwhich⟩ :=
    deletion_deletes hcalm hsound' hroot hnames hstorable
  obtain ⟨contents, hdelete, hreleased⟩ := Contents.delete_row_ok hsound.unique hsound.closed
    hsound.distinct hroot hwhich hfree
  refine ⟨contents, ?_, hreleased⟩
  refine Store.perform_ok hready ?_ (hplan ▸ map_ok (hdeletes.ok contents hdelete) Reply.ofUnit)
  rw [subject_deletion]
  exact isValid_subject hparts

/-- A delete that something restricts changes nothing. -/
theorem perform_deletion_error (hrestricted : ∃ q, ∃ row ∈ db.contents.get q,
    Restricts db.contents root q row) (now : Timestamp) :
    store.perform now .undisturbed key.deletion db =
      (.error ⟨key.deletion.plan.name, .internal⟩, db) := by
  have hcalm : (store.environment now .undisturbed).disturbance = none := rfl
  have hsound' : (Progress.mk db false).database.Sound := hsound
  obtain ⟨which, script, hplan, hdeletes, hwhich⟩ :=
    deletion_deletes hcalm hsound' hroot hnames hstorable
  have hdelete := Contents.delete_row_error hsound.unique hsound.closed hsound.distinct hroot
    hwhich hrestricted
  refine Store.perform_of_error hready ?_
    (hplan ▸ map_error (hdeletes.error _ hdelete) Reply.ofUnit)
  rw [subject_deletion]
  exact isValid_subject hparts

omit hready hstorable hparts in
/-- Once the row of an entity is released, its key names nothing. -/
theorem not_names_of_released {contents : Contents}
    (hreleased : Contents.Released root db.contents contents) :
    ∀ row ∈ contents.get key.relation, ¬key.Names row.toEntry := by
  intro row hrow hnames'
  have hold := (hreleased key.relation).sublist.subset hrow
  refine ((hreleased key.relation).mem_iff row hold).1 hrow (.inl ⟨rfl, ?_⟩)
  exact (names_iff hsound.unique hsound.distinct hroot hnames hold).1 hnames'

end Key

/-- An entity whose key names no row is not found. -/
theorem Key.perform_retrieval {key : Key} {store : Store} {db : Database}
    (hready : store.lifecycle = .ready) (hstorable : key.IsStorable) (hparts : "" ∉ key.parts)
    (hnone : ∀ row ∈ db.contents.get key.relation, ¬key.Names row.toEntry) (now : Timestamp) :
    store.perform now .undisturbed key.retrieval db =
      (.error (.notFound key.retrieval.plan.name key.subject), db) := by
  have hvalid : key.retrieval.plan.subject.isValid = true := by
    rw [subject_retrieval]
    exact isValid_subject hparts
  rw [Store.perform_of_error hready hvalid (retrieval_error rfl hstorable (row?_eq_none.2 hnone)),
    ← subject_retrieval]
  rfl

end ControlPlane
