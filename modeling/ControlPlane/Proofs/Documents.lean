/-
The documents that a session stores.

An operation reads back the rows that it writes: a cloud with its regions, a region or a controller
by its number.  What is not read fails the operation, and then the rows are as before.  So whatever
a session has stored is readable (`Deployment.Reachable.isReadable`), and what is read later is
never kept from being read by its documents.
-/
import ControlPlane.Proofs.Addition
import ControlPlane.Proofs.Readability

namespace ControlPlane

open Script

variable {env : Environment} {before after : Progress} {r : Relation}

/-! ## What is read back -/

/-- A cloud that is read back has a readable document, and so have its regions. -/
theorem Clouds.isReadable_of_readBack (hdistinct : after.database.contents.AllDistinct)
    {name : String} {cloud : Cloud} (h : readBack name env before = .ok cloud after) :
    after = before ∧
      (∀ row ∈ after.database.contents.get .cloud, row.origin = name → row.isReadable = true) ∧
      ∀ row ∈ after.database.contents.get .region, row.origin.cloud = name →
        row.isReadable = true := by
  obtain ⟨hget, hreadable⟩ := of_decoded_eq_ok h
  obtain ⟨kept, hkept, hcloud, rfl⟩ := of_queryOne_eq_ok hget
  rw [Storable.isExact_text _ _ hkept] at hcloud
  exact ⟨rfl, Contents.isReadable_of_cloud? hdistinct hcloud hreadable⟩

theorem Regions.isReadable_of_readBack (hdistinct : after.database.contents.Distinct) {id : Int}
    {region : Region} (h : readBack id env before = .ok region after) :
    after = before ∧
      ∀ row ∈ after.database.contents.get .region, row.id = id → row.isReadable = true := by
  obtain ⟨hread, hreadable⟩ := of_decoded_eq_ok h
  obtain ⟨rfl, hmem, hid⟩ := of_withId_eq_ok (fun c => c.showsRows_regions _) hread
  refine ⟨rfl, fun row hrow hrowId => ?_⟩
  rw [hdistinct.eq hrow hmem (hrowId.trans hid.symm)]
  exact (Region.isReadable_iff.1 hreadable).1.1

theorem Controllers.isReadable_of_readBack (hdistinct : after.database.contents.Distinct)
    {id : Int} {controller : Controller} (h : readBack id env before = .ok controller after) :
    after = before ∧
      ∀ row ∈ after.database.contents.get .controller, row.id = id → row.isReadable = true := by
  obtain ⟨hread, hreadable⟩ := of_decoded_eq_ok h
  obtain ⟨rfl, hmem, hid⟩ := of_withId_eq_ok (fun c => c.showsRows_controllers _) hread
  refine ⟨rfl, fun row hrow hrowId => ?_⟩
  rw [hdistinct.eq hrow hmem (hrowId.trans hid.symm)]
  exact (Controller.isReadable_iff.1 hreadable).1

/-! ## Rows that are created -/

/-- The row of an entry that was added is the one that the answer shows. -/
theorem Inserted.eq_of_origin {first last : Database} {e : Entry r} {new : Row r}
    (h : Inserted first last e new) (hdistinct : last.contents.AllDistinct) {row : Row r}
    (hrow : row ∈ last.contents.get r) (horigin : row.origin = e.origin) : row = new :=
  List.inj_on_of_nodup_map (hdistinct r).origins hrow h.mem
    (horigin.trans (Storable.origin_of_stored? h.stored).symm)

theorem Regions.isReadable_of_add (hsound : after.database.Sound) {e : Entry .region}
    {region : Region} (h : add e env before = .ok region after) {row : Row .region}
    (hrow : row ∈ after.database.contents.get .region) (horigin : row.origin = e.origin) :
    row.isReadable = true := by
  have hdistinct := hsound.allDistinct
  rw [(add_inserts hsound.distinct h).eq_of_origin hdistinct hrow horigin]
  obtain ⟨id, middle, -, hread⟩ := of_bind_eq_ok (of_transaction_eq_ok h)
  exact (Region.isReadable_iff.1 (of_decoded_eq_ok hread).2).1.1

theorem Controllers.isReadable_of_add (hsound : after.database.Sound) {draft : Controller.Draft}
    {controller : Controller} (h : add draft env before = .ok controller after)
    {row : Row .controller} (hrow : row ∈ after.database.contents.get .controller)
    (horigin : row.origin = draft.origin) : row.isReadable = true := by
  have hdistinct := hsound.allDistinct
  rw [(add_inserts hsound.distinct h).eq_of_origin hdistinct hrow horigin]
  obtain ⟨hosting, start, -, h⟩ := of_bind_eq_ok (of_transaction_eq_ok h)
  obtain ⟨new, inserted, -, h⟩ := of_bind_eq_ok h
  obtain ⟨links, middle, -, hread⟩ := of_bind_eq_ok h
  exact (Controller.isReadable_iff.1 (of_decoded_eq_ok hread).2).1

namespace Operation

/-- An operation that answers has read what it has created. -/
theorem isReadable_of_creates (hsound : before.database.Sound) {op : Operation} {reply : Reply}
    (h : op.plan.script env before = .ok reply after) {row : Row r}
    (hrow : row ∈ after.database.contents.get r) (hcreates : op.Creates r row.origin) :
    row.isReadable = true := by
  have hsound : after.database.Sound := (evolution_of_ok (op.within env) h).sound hsound
  have hdistinct := hsound.allDistinct
  cases op with
  | addCloud draft =>
    obtain ⟨cloud, hrun, -⟩ := of_map_eq_ok h
    obtain ⟨inserted, first, -, hrun⟩ := of_bind_eq_ok (of_transaction_eq_ok hrun)
    obtain ⟨regions, last, -, hread⟩ := of_bind_eq_ok hrun
    obtain ⟨-, hclouds, hregions⟩ := Clouds.isReadable_of_readBack hdistinct hread
    cases r with
    | cloud => exact hclouds row hrow (List.mem_singleton.1 hcreates)
    | region =>
      obtain ⟨region, -, horigin⟩ := List.mem_map.1 hcreates
      exact hregions row hrow (by rw [← horigin])
    | controller => cases hcreates
    | _ => rfl
  | reconcileCloud snapshot =>
    obtain ⟨merged, hrun, -⟩ := of_map_eq_ok h
    obtain ⟨-, -, -, -, -, -, -, -, -, -, -, hread⟩ := Clouds.of_reconcile_eq_ok hrun
    obtain ⟨-, hclouds, hregions⟩ := Clouds.isReadable_of_readBack hdistinct hread
    cases r with
    | cloud => exact hclouds row hrow (List.mem_singleton.1 hcreates)
    | region =>
      obtain ⟨region, -, horigin⟩ := List.mem_map.1 hcreates
      exact hregions row hrow (by rw [← horigin])
    | controller => cases hcreates
    | _ => rfl
  | addRegion e | addRegionToCloud e =>
    obtain ⟨region, hrun, -⟩ := of_map_eq_ok h
    cases r with
    | region => exact Regions.isReadable_of_add hsound hrun hrow (List.mem_singleton.1 hcreates)
    | cloud | controller => cases hcreates
    | _ => rfl
  | addController draft =>
    obtain ⟨controller, hrun, -⟩ := of_map_eq_ok h
    cases r with
    | controller =>
      exact Controllers.isReadable_of_add hsound hrun hrow (List.mem_singleton.1 hcreates)
    | cloud | region => cases hcreates
    | _ => rfl
  | _ =>
    cases r with
    | cloud | region | controller => cases hcreates
    | _ => rfl

end Operation

/-! ## Rows that are overwritten -/

/-- Where one row is updated, the others are as readable as they were. -/
theorem Script.isReadable_of_update {α : Type} [Storable α] {params : α} {which : α → Row r → Bool}
    {change : α → Settings r → Settings r} {written : Option (Row r)}
    (h : update params which change env before = .ok written after)
    (hreadable : before.database.contents.IsReadable)
    (hwritten : ∀ row ∈ after.database.contents.get r, written = some row →
      row.isReadable = true) : after.database.contents.IsReadable := by
  obtain ⟨kept, contents, -, hupdate, rfl⟩ := of_update_eq_ok h
  rcases Contents.update_cases hupdate with ⟨-, rfl⟩ | ⟨row, new, -, rfl, -, -, rfl⟩
  · exact hreadable
  refine PerRelation.get_set_cases
    (P := fun q (rows : List (Row q)) => ∀ row ∈ rows, row.isReadable = true)
    (fun other hother => ?_) (fun q _ => hreadable q)
  obtain ⟨old, hold, rfl⟩ := List.mem_map.1 hother
  split
  next hid =>
    refine hwritten new ?_ rfl
    rw [PerRelation.get_set_self]
    exact List.mem_map.2 ⟨old, hold, if_pos hid⟩
  next => exact hreadable r old hold

/-- A row that is written keeps the number and the origin of one that was meant. -/
theorem Script.of_update_eq_some {α : Type} [Storable α] {params : α} {which : α → Row r → Bool}
    {change : α → Settings r → Settings r} {new : Row r}
    (h : update params which change env before = .ok (some new) after) :
    ∃ kept old, stored? params = some kept ∧ which kept old = true ∧ new.id = old.id ∧
      new.origin = old.origin := by
  obtain ⟨kept, contents, hkept, hupdate, -⟩ := of_update_eq_ok h
  rcases Contents.update_cases hupdate with ⟨hnone, -⟩ | ⟨old, new', hfind, hsome, rfl, -, -⟩
  · cases hnone
  · cases hsome
    exact ⟨kept, old, hkept, List.find?_some hfind, rfl, rfl⟩

section

variable (hsound : before.database.Sound) (hreadable : before.database.contents.IsReadable)

include hsound hreadable

theorem Clouds.isReadable_of_overwrite {name : String} {settings : Cloud.Settings} {cloud : Cloud}
    (h : overwrite name settings env before = .ok cloud after) :
    after.database.contents.IsReadable := by
  have hafter : after.database.Sound :=
    sound_of_ok (overwrite_within fun _ _ => trivial) h hsound
  have hdistinct := hafter.allDistinct
  obtain ⟨written, middle, hupdate, h⟩ := of_bind_eq_ok (of_transaction_eq_ok h)
  cases written with
  | none => cases h
  | some new =>
    obtain ⟨rfl, hclouds, -⟩ := isReadable_of_readBack hdistinct h
    obtain ⟨kept, old, hkept, hmeant, -, horigin⟩ := of_update_eq_some hupdate
    have hname : kept.1 = name :=
      Storable.isExact_text _ _ (Storable.stored?_pair_eq_some.1 hkept).1
    refine isReadable_of_update hupdate hreadable fun row hrow hwritten => hclouds row hrow ?_
    rw [← Option.some.inj hwritten, horigin, of_decide_eq_true hmeant, hname]

theorem Regions.isReadable_of_overwrite {key : RegionKey} {settings : Region.Settings}
    {region : Region} (h : overwrite key settings env before = .ok region after) :
    after.database.contents.IsReadable := by
  have hafter : after.database.Sound :=
    sound_of_ok (overwrite_within fun _ _ => trivial) h hsound
  obtain ⟨written, middle, hupdate, h⟩ := of_bind_eq_ok (of_transaction_eq_ok h)
  cases written with
  | none => cases h
  | some new =>
    obtain ⟨rfl, hregions⟩ := isReadable_of_readBack hafter.distinct h
    refine isReadable_of_update hupdate hreadable fun row hrow hwritten => hregions row hrow ?_
    rw [Option.some.inj hwritten]

theorem Controllers.isReadable_of_overwrite {key : ControllerKey} {settings : Controller.Settings}
    {controller : Controller} (h : overwrite key settings env before = .ok controller after) :
    after.database.contents.IsReadable := by
  have hafter : after.database.Sound :=
    sound_of_ok (overwrite_within fun _ _ _ => trivial) h hsound
  obtain ⟨id, start, hid, hrest⟩ := of_bind_eq_ok (of_transaction_eq_ok h)
  obtain ⟨-, -, -, rfl⟩ := of_queryOne_eq_ok hid
  obtain ⟨written, middle, hupdate, hread⟩ := of_bind_eq_ok hrest
  obtain ⟨rfl, hcontrollers⟩ := isReadable_of_readBack hafter.distinct hread
  refine isReadable_of_update hupdate hreadable fun row hrow hwritten => hcontrollers row hrow ?_
  obtain rfl := hwritten
  obtain ⟨kept, old, hkept, hmeant, hsame, -⟩ := of_update_eq_some hupdate
  rw [hsame, of_decide_eq_true hmeant]
  exact (Option.some.inj (Storable.stored?_pair_eq_some.1 hkept).1).symm

end

/-! ## Sessions -/

namespace Operation

/-- Whether an operation overwrites documents. -/
def Rewrites (op : Operation) : Prop :=
  (∃ name settings, op = .updateCloud name settings) ∨
    (∃ key settings, op = .updateRegion key settings) ∨
      ∃ key settings, op = .updateController key settings

/-- Unless an operation overwrites documents, those that it writes are in rows that it creates. -/
theorem within_keeps {op : Operation} (hrewrites : ¬op.Rewrites) (env : Environment) :
    Within env (Statement.Keeps fun {r} e => e.isReadable = true ∨ op.Creates r e.origin)
      op.plan.script := by
  intro before
  refine (op.within_writes env before).mono fun statement hwrites => ?_
  cases statement with
  | insert e => exact .inr hwrites.1
  | @update r which change =>
    intro row _ _
    cases r with
    | cloud => exact absurd (.inl hwrites) hrewrites
    | region => exact absurd (.inr (.inl hwrites)) hrewrites
    | controller => exact absurd (.inr (.inr hwrites)) hrewrites
    | _ => exact .inl rfl
  | delete => trivial

/-- An operation that answers leaves all documents readable. -/
theorem isReadable_of_ok (hsound : before.database.Sound)
    (hreadable : before.database.contents.IsReadable) {op : Operation} {reply : Reply}
    (h : op.plan.script env before = .ok reply after) : after.database.contents.IsReadable := by
  by_cases hrewrites : op.Rewrites
  · rcases hrewrites with ⟨name, settings, rfl⟩ | ⟨key, settings, rfl⟩ | ⟨key, settings, rfl⟩
    · obtain ⟨cloud, hrun, -⟩ := of_map_eq_ok h
      exact Clouds.isReadable_of_overwrite hsound hreadable hrun
    · obtain ⟨region, hrun, -⟩ := of_map_eq_ok h
      exact Regions.isReadable_of_overwrite hsound hreadable hrun
    · obtain ⟨controller, hrun, -⟩ := of_map_eq_ok h
      exact Controllers.isReadable_of_overwrite hsound hreadable hrun
  · intro r row hrow
    rcases (evolution_of_ok (op.within_keeps hrewrites env) h).all_of_keeps
      (fun r row hrow => .inl (hreadable r row hrow)) r row hrow with hrow' | hcreates
    · exact hrow'
    · exact isReadable_of_creates hsound h hrow hcreates

end Operation

/-- A call leaves all documents readable, whatever comes of it. -/
theorem Store.isReadable_perform (store : Store) (now : Timestamp) (course : Course)
    (op : Operation) {db : Database} (hsound : db.Sound) (hreadable : db.contents.IsReadable) :
    (store.perform now course op db).2.contents.IsReadable := by
  cases hresult : (store.perform now course op db).1 with
  | error e => rwa [contents_of_perform_error hresult]
  | ok reply =>
    obtain ⟨-, -, after, hrun, hafter⟩ := of_perform_eq_ok hresult
    rw [hafter]
    have hbefore : (Progress.mk db false).database.Sound := hsound
    exact Operation.isReadable_of_ok hbefore hreadable hrun

/-- What is added has readable documents. -/
theorem Store.isReadable_of_adds {store : Store} {now : Timestamp} {course : Course}
    {op : Operation} {db : Database} (hsound : db.Sound) (hreadable : db.contents.IsReadable)
    {e : Entry r} (hadds : op.Adds store.settings.defaultAccess e) {reply : Reply}
    (h : (store.perform now course op db).1 = .ok reply) : e.isReadable = true := by
  obtain ⟨-, -, after, hrun, hafter⟩ := of_perform_eq_ok h
  have hbefore : (Progress.mk db false).database.Sound := hsound
  obtain ⟨new, -, hinserted⟩ := Operation.inserted_of_adds hbefore hadds hrun
  rw [← Entry.isReadable_of_stored? hinserted.stored]
  exact Operation.isReadable_of_ok hbefore hreadable hrun r new hinserted.mem

/-- All that a session has stored can be read. -/
theorem Deployment.Reachable.isReadable {dep : Deployment} (h : dep.Reachable) :
    dep.server.database.contents.IsReadable := by
  have hboth := h.database_induction (P := fun db => db.Sound ∧ db.contents.IsReadable)
    ⟨Database.empty_sound, fun r row hrow => by simp [Database.empty] at hrow⟩
    fun store now course op db ⟨hsound, hreadable⟩ =>
      ⟨(store.perform_evolution now course op db).sound hsound,
        store.isReadable_perform now course op hsound hreadable⟩
  exact hboth.2

end ControlPlane
