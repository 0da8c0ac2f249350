/-
Hydration row by row.

Rows are hydrated together, and each entity shows its row (`Contents.ShowsRows`).  Rows that differ,
as stored ones do, share out among them what a path leads to, and what that is does not depend on
the other rows: it is loaded for all rows at once, in an order of its own.  So the entities of such
rows are the same however the rows are divided among queries (`Contents.HydratesBy`).  A row that
came twice would find what belongs to it gone.
-/
import ControlPlane.Proofs.Consistency
import ControlPlane.Proofs.Order
import ControlPlane.Store.Iteration
import Mathlib.Data.List.Pairwise

namespace ControlPlane

/-! ## Rows that differ -/

/-- Whether rows differ in their numbers and in what they are known by. -/
def Row.AreDistinct {r : Relation} (rows : List (Row r)) : Prop :=
  rows.Pairwise fun a b => a.id ≠ b.id ∧ a.origin ≠ b.origin

namespace Row.AreDistinct

variable {r : Relation} {rows others : List (Row r)}

theorem singleton (row : Row r) : AreDistinct [row] := List.pairwise_singleton _ row

theorem ids (h : AreDistinct rows) : (rows.map fun row => row.id).Nodup :=
  List.pairwise_map.2 (h.imp And.left)

theorem origins (h : AreDistinct rows) : (rows.map fun row => row.origin).Nodup :=
  List.pairwise_map.2 (h.imp And.right)

theorem sublist (h : AreDistinct rows) (hsublist : others.Sublist rows) : AreDistinct others :=
  List.Pairwise.sublist hsublist h

theorem perm (h : AreDistinct rows) (hperm : rows.Perm others) : AreDistinct others :=
  hperm.pairwise h fun ⟨hid, horigin⟩ => ⟨hid.symm, horigin.symm⟩

theorem sortBy (h : AreDistinct rows) (cmp : Row r → Row r → Ordering) :
    AreDistinct (sortBy cmp rows) :=
  h.perm (sortBy_perm cmp rows).symm

/-- Rows among which none comes twice differ if they are taken from rows that do. -/
theorem of_subset (h : AreDistinct rows) (hnodup : others.Nodup) (hsubset : others ⊆ rows) :
    AreDistinct others := by
  have : Std.Symm fun a b : Row r => a.id ≠ b.id ∧ a.origin ≠ b.origin :=
    ⟨fun _ _ ⟨hid, horigin⟩ => ⟨hid.symm, horigin.symm⟩⟩
  exact hnodup.imp_of_mem fun ha hb hne =>
    List.Pairwise.forall h (hsubset ha) (hsubset hb) hne

end Row.AreDistinct

namespace Contents

variable {r : Relation} {ε κ : Type} [DecidableEq κ]

/-- Whether the rows of each relation differ. -/
def AllDistinct (c : Contents) : Prop := ∀ r, Row.AreDistinct (c.get r)

end Contents

theorem Database.Consistent.allDistinct {db : Database} (h : db.Consistent) :
    db.contents.AllDistinct := by
  intro r
  refine List.Pairwise.and (List.pairwise_map.1 (h.ids r)) ?_
  cases r with
  | identity => exact List.pairwise_map.1 h.identityNames
  | cloud => exact List.pairwise_map.1 h.cloudNames
  | region => exact (List.pairwise_map.1 h.regionKeys).imp fun hne heq => hne (by rw [heq])
  | controller =>
    exact (List.pairwise_map.1 h.controllerNames).imp fun hne heq => hne (by rw [heq])
  | link => exact (List.pairwise_map.1 h.links).imp fun hne heq => hne (by rw [heq])
  | credential =>
    exact (List.pairwise_map.1 h.credentialKeys).imp fun hne heq => hne (by rw [heq])
  | model => exact (List.pairwise_map.1 h.modelNames).imp fun hne heq => hne (by rw [heq])
  | grant on => exact (List.pairwise_map.1 (h.grants on)).imp fun hne heq => hne (by rw [heq])

theorem Database.Sound.allDistinct {db : Database} (h : db.Sound) : db.contents.AllDistinct :=
  (Database.consistent_of_sound h).allDistinct

namespace Contents

variable {r : Relation} {ε κ : Type} [DecidableEq κ]

/-- Whether each entity shows its row. -/
def ShowsRows (rowOf : ε → Row r) (hydrate : List (Row r) → List ε) : Prop :=
  ∀ rows, (hydrate rows).map rowOf = rows

/-- Whether rows that differ are hydrated together as each is alone. -/
structure HydratesBy (rowOf : ε → Row r) (hydrate : List (Row r) → List ε)
    (one : Row r → ε) : Prop where
  showsRows : ShowsRows rowOf hydrate
  eq_map : ∀ {rows}, Row.AreDistinct rows → hydrate rows = rows.map one

/-- Whether rows that are loaded for several keys differ and are, key by key, those that are loaded
for one. -/
structure Keyed (key : Row r → κ) (load : List κ → List (Row r)) : Prop where
  distinct : ∀ keys, Row.AreDistinct (load keys)
  share : ∀ keys, ∀ k ∈ keys, (load keys).filter (fun row => key row = k) = load [k]

theorem filter_contains_eq {key : Row r → κ} {keys : List κ} {k : κ} (hk : k ∈ keys)
    (rows : List (Row r)) :
    (rows.filter fun row => keys.contains (key row)).filter (fun row => key row = k) =
      rows.filter fun row => [k].contains (key row) := by
  rw [List.filter_filter]
  refine List.filter_congr fun row _ => ?_
  by_cases h : key row = k
  · simp [h, hk]
  · simp [h]

/-- Rows that are found by a key and sorted are found key by key. -/
theorem keyed_sortBy {cmp : Row r → Row r → Ordering} [Std.TransCmp cmp] (key : Row r → κ)
    {rows : List (Row r)} (hrows : Row.AreDistinct rows) :
    Keyed key fun keys => sortBy cmp (rows.filter fun row => keys.contains (key row)) where
  distinct _ := (hrows.sublist List.filter_sublist).sortBy cmp
  share keys k hk := by rw [sortBy_filter, filter_contains_eq hk]

section Joined

variable {q : Relation} (partner? : Row r → Option (Row q)) (rows : List (Row r))

/-- Joining and picking commute. -/
theorem filter_joined (p : Row r → Bool) :
    (rows.filterMap fun row => (partner? row).map (row, ·)).filter (p ∘ Prod.fst) =
      (rows.filter p).filterMap fun row => (partner? row).map (row, ·) := by
  induction rows with
  | nil => rfl
  | cons row rest ih =>
    cases hpartner : partner? row <;> by_cases hp : p row = true <;>
      simp [hpartner, hp, ih]

/-- Joining leaves out the rows without a partner. -/
theorem map_fst_joined :
    (rows.filterMap fun row => (partner? row).map (row, ·)).map Prod.fst =
      rows.filter fun row => (partner? row).isSome := by
  induction rows with
  | nil => rfl
  | cons row rest ih => cases hpartner : partner? row <;> simp [hpartner, ih]

/-- Rows that are found by a key, joined with rows of another relation and sorted, are found key by
key. -/
theorem keyed_joined {cmp : Row r × Row q → Row r × Row q → Ordering} [Std.TransCmp cmp]
    (key : Row r → κ) {rows : List (Row r)} (hrows : Row.AreDistinct rows) :
    Keyed key fun keys =>
      (sortBy cmp ((rows.filter fun row => keys.contains (key row)).filterMap fun row =>
        (partner? row).map (row, ·))).map Prod.fst where
  distinct keys := by
    refine Row.AreDistinct.perm ?_ ((sortBy_perm _ _).symm.map Prod.fst)
    rw [map_fst_joined]
    exact hrows.sublist (List.filter_sublist.trans List.filter_sublist)
  share keys k hk := by
    rw [List.filter_map, sortBy_filter, filter_joined, filter_contains_eq hk]

end Joined

/-! ## Shares -/

section Shares

variable {rowOf : ε → Row r} {hydrate : List (Row r) → List ε} {one : Row r → ε} {key : Row r → κ}
  {load : List κ → List (Row r)}

theorem HydratesBy.shows (h : HydratesBy rowOf hydrate one) (row : Row r) :
    rowOf (one row) = row := by
  have hrow := h.showsRows [row]
  rw [h.eq_map (.singleton row)] at hrow
  exact List.singleton_inj.1 hrow

theorem filter_hydrate (h : HydratesBy rowOf hydrate one) (hload : Keyed key load) {keys : List κ}
    {k : κ} (hk : k ∈ keys) :
    (hydrate (load keys)).filter (fun e => key (rowOf e) = k) = hydrate (load [k]) := by
  rw [h.eq_map (hload.distinct keys), h.eq_map (hload.distinct [k]), List.filter_map,
    ← hload.share keys k hk]
  congr 1
  refine List.filter_congr fun row _ => ?_
  simp only [Function.comp, h.shows]

theorem find?_hydrate (h : HydratesBy rowOf hydrate one) (hload : Keyed key load) {keys : List κ}
    {k : κ} (hk : k ∈ keys) :
    (hydrate (load keys)).find? (fun e => key (rowOf e) = k) = (hydrate (load [k])).head? := by
  rw [← List.head?_filter, filter_hydrate h hload hk]

end Shares

/-! ## Paths -/

theorem mem_sortBy_filter {c : Contents} {cmp : Row r → Row r → Ordering} {p : Row r → Bool}
    {row : Row r} (h : row ∈ sortBy cmp ((c.get r).filter p)) : row ∈ c.get r :=
  List.mem_of_mem_filter (mem_sortBy.1 h)

theorem transCmp_on {α β : Type} {cmp : β → β → Ordering} [Std.TransCmp cmp] (f : α → β) :
    Std.TransCmp fun a b => cmp (f a) (f b) where
  eq_swap := Std.OrientedCmp.eq_swap
  isLE_trans := Std.TransCmp.isLE_trans

instance {on : Grantable} : Std.TransCmp (@Row.byGrantee on) :=
  inferInstanceAs (Std.TransCmp
    (compareLex (compareOn fun row : Row (.grant on) => row.origin.object)
      (compareOn fun row => row.origin.identity)))

instance : Std.TransCmp Row.byPriority :=
  inferInstanceAs (Std.TransCmp fun a b : Row .link => compareOn (fun row => row.settings) b a)

instance {q : Relation} :
    Std.TransCmp fun a b : Row .link × Row q => Row.byPriority a.1 b.1 :=
  transCmp_on Prod.fst

instance {q : Relation} :
    Std.TransCmp fun a b : Row q × Row .controller => Row.byControllerName a.2 b.2 :=
  transCmp_on Prod.snd

instance {q : Relation} : Std.TransCmp fun a b : Row q × Row .region => Row.byRegionKey a.2 b.2 :=
  transCmp_on Prod.snd

namespace AllDistinct

variable {c : Contents} (h : c.AllDistinct)

include h

theorem identitiesNamed : Keyed (fun row : Row .identity => row.origin) c.identitiesNamed :=
  keyed_sortBy _ (h _)

theorem cloudsNamed : Keyed (fun row : Row .cloud => row.origin) c.cloudsNamed :=
  keyed_sortBy _ (h _)

theorem regionsOfClouds : Keyed (fun row : Row .region => row.origin.cloud) c.regionsOfClouds :=
  keyed_sortBy _ (h _)

theorem withIds (r : Relation) : Keyed (fun row : Row r => row.id) (c.withIds r) :=
  keyed_sortBy _ (h _)

theorem grantsOn (on : Grantable) :
    Keyed (fun row : Row (.grant on) => row.origin.object) (c.grantsOn on) :=
  keyed_sortBy _ (h _)

theorem linksOfRegions : Keyed (fun row : Row .link => row.origin.region) c.linksOfRegions :=
  keyed_joined _ _ (h _)

theorem linksOfControllers :
    Keyed (fun row : Row .link => row.origin.controller) c.linksOfControllers :=
  keyed_joined _ _ (h _)

end AllDistinct

/-! ## Entities -/

variable (c : Contents)

theorem showsRows_identities : ShowsRows Identity.row hydrateIdentities := by
  intro rows
  rw [hydrateIdentities, List.map_map]
  exact List.map_id rows

theorem showsRows_clouds (g : Preload) : ShowsRows Cloud.row (c.hydrateClouds g) := by
  intro rows
  rw [hydrateClouds, List.map_map]
  exact List.map_fst_zip (by simp)

theorem showsRows_regions (g : Preload) : ShowsRows Region.row (c.hydrateRegions g) := by
  intro rows
  rw [hydrateRegions, List.map_map]
  exact List.map_fst_zip (by simp)

theorem showsRows_links (g : Preload) : ShowsRows Link.row (c.hydrateLinks g) := by
  intro rows
  rw [hydrateLinks, List.map_map]
  exact List.map_id rows

theorem showsRows_controllers (g : Preload) :
    ShowsRows Controller.row (c.hydrateControllers g) := by
  intro rows
  rw [hydrateControllers, List.map_map]
  exact List.map_fst_zip (by simp)

theorem showsRows_credentials (g : Preload) :
    ShowsRows Credential.row (c.hydrateCredentials g) := by
  intro rows
  rw [hydrateCredentials, List.map_map]
  exact List.map_fst_zip (by simp)

theorem showsRows_models (g : Preload) : ShowsRows Model.row (c.hydrateModels g) := by
  intro rows
  rw [hydrateModels, List.map_map]
  exact List.map_fst_zip (by simp)

theorem hydratesBy_identities : HydratesBy Identity.row hydrateIdentities Identity.mk :=
  ⟨showsRows_identities, fun _ => rfl⟩

/-- A grant as its object shows it, loaded alone. -/
def grantOfRow {on : Grantable} (g : Preload) (row : Row (.grant on)) : Grant where
  identityName := row.origin.identity
  settings := row.settings
  createdAt := row.createdAt
  updatedAt := row.updatedAt
  identity :=
    if g.contains "identity" then
      (hydrateIdentities (c.identitiesNamed [row.origin.identity])).head?
    else none

section

variable {c} (hc : c.AllDistinct)

include hc

theorem hydrateGrants_eq (on : Grantable) (g : Preload) (ids : List Int) :
    c.hydrateGrants on g ids =
      (c.grantsOn on ids).map fun row => (row.origin.object, c.grantOfRow g row) := by
  rw [hydrateGrants]
  refine List.map_congr_left fun row hrow => ?_
  have hname : row.origin.identity ∈ (c.grantsOn on ids).map fun row => row.origin.identity :=
    List.mem_map_of_mem hrow
  by_cases h : g.contains "identity" = true
  · simp only [grantOfRow, h, if_true]
    rw [find?_hydrate hydratesBy_identities hc.identitiesNamed hname]
  · simp only [grantOfRow, h, if_false, Bool.false_eq_true, List.find?_nil]

/-- What an object takes of the grants. -/
theorem filter_hydrateGrants (on : Grantable) (g : Preload) {ids : List Int} {id : Int}
    (hid : id ∈ ids) :
    ((c.hydrateGrants on g ids).filter fun grant => grant.1 = id).map Prod.snd =
      (c.grantsOn on [id]).map (c.grantOfRow g) := by
  rw [hydrateGrants_eq hc, List.filter_map, List.map_map, ← (hc.grantsOn on).share ids id hid]
  rfl

section Parts

variable {q : Relation} {b : Bool} {rowOf : ε → Row r} {hydrate : List (Row r) → List ε}
  {one : Row r → ε} {key : Row r → κ} {load : List κ → List (Row r)} {rows : List (Row q)}

omit hc in
/-- What holds of the entity of each row holds of what is hydrated along an association. -/
theorem of_mem_part {loaded : List (Row r)} {P : ε → Prop} (h : HydratesBy rowOf hydrate one)
    (hloaded : Row.AreDistinct loaded) (hone : b = true → ∀ row ∈ loaded, P (one row)) {e : ε}
    (he : e ∈ if b = true then hydrate loaded else []) : P e := by
  by_cases hb : b = true
  · rw [if_pos hb, h.eq_map hloaded] at he
    obtain ⟨row, hrow, rfl⟩ := List.mem_map.1 he
    exact hone hb row hrow
  · rw [if_neg hb] at he
    cases he

omit hc in
/-- What an entity with many others takes of these. -/
theorem filter_part (h : b = true → HydratesBy rowOf hydrate one) (hload : Keyed key load)
    {row : Row q} (hrow : row ∈ rows) (f : Row q → κ) :
    (if b = true then hydrate (load (rows.map f)) else []).filter
        (fun e => key (rowOf e) = f row) =
      if b = true then hydrate (load [f row]) else [] := by
  by_cases hb : b = true
  · rw [if_pos hb, if_pos hb]
    exact filter_hydrate (h hb) hload (List.mem_map_of_mem hrow)
  · rw [if_neg hb, if_neg hb]
    rfl

omit hc in
/-- What an entity that belongs to another takes of these. -/
theorem find?_part (h : b = true → HydratesBy rowOf hydrate one) (hload : Keyed key load)
    {row : Row q} (hrow : row ∈ rows) (f : Row q → κ) :
    (if b = true then hydrate (load (rows.map f)) else []).find?
        (fun e => key (rowOf e) = f row) =
      (if b = true then hydrate (load [f row]) else []).head? := by
  rw [← List.head?_filter, filter_part h hload hrow f]

omit hc in
/-- Entities that differ in a key are each dealt their own. -/
theorem dealOut_part (h : b = true → HydratesBy rowOf hydrate one) (hload : Keyed key load)
    {f : Row q → κ} (hkeys : (rows.map f).Nodup) :
    dealOut (fun e => key (rowOf e)) (if b = true then hydrate (load (rows.map f)) else [])
        (rows.map f) =
      rows.map fun row => if b = true then hydrate (load [f row]) else [] := by
  rw [dealOut_eq_map hkeys, List.map_map]
  exact List.map_congr_left fun row hrow => filter_part h hload hrow f

/-- Objects that differ in their numbers are each dealt their own grants. -/
theorem dealGrants_part (on : Grantable) (g : Preload)
    (hids : (rows.map fun row => row.id).Nodup) :
    dealGrants (if b = true then c.hydrateGrants on g (rows.map fun row => row.id) else [])
        (rows.map fun row => row.id) =
      rows.map fun row =>
        if b = true then (c.grantsOn on [row.id]).map (c.grantOfRow g) else [] := by
  rw [dealGrants, dealOut_eq_map hids, List.map_map, List.map_map]
  refine List.map_congr_left fun row hrow => ?_
  by_cases hb : b = true
  · simp only [hb, if_true, Function.comp]
    exact filter_hydrateGrants hc on g (List.mem_map_of_mem hrow)
  · simp only [hb, if_false, Function.comp, Bool.false_eq_true, List.filter_nil, List.map_nil]

end Parts

end

/-- What each row is given beside it. -/
theorem zip_map_self {α β : Type} (f : α → β) (items : List α) :
    items.zip (items.map f) = items.map fun item => (item, f item) := by
  have h := @List.zip_map' _ _ _ id f items
  rwa [List.map_id] at h

/-! ## One row at a time

What hydration gives for a row is what it gives for that row alone, as long as it does so for the
associations. -/

def cloudAlone (g : Preload) (row : Row .cloud) : Cloud where
  row := row
  regions :=
    if g.contains "regions" then
      c.hydrateRegions (g.nested "regions") (c.regionsOfClouds [row.origin])
    else []
  grants :=
    if g.contains "grants" then
      (c.grantsOn .cloud [row.id]).map (c.grantOfRow (g.nested "grants"))
    else []

def regionAlone (g : Preload) (row : Row .region) : Region where
  row := row
  cloud :=
    (if g.contains "cloud" then
      c.hydrateClouds (g.nested "cloud") (c.cloudsNamed [row.origin.cloud])
    else []).head?
  links :=
    if g.contains "controllers" then
      c.hydrateLinks (g.nested "controllers") (c.linksOfRegions [row.id])
    else []

def linkAlone (g : Preload) (row : Row .link) : Link where
  row := row
  controller :=
    (if g.contains "controller" then
      c.hydrateControllers (g.nested "controller") (c.withIds .controller [row.origin.controller])
    else []).head?
  region :=
    (if g.contains "cloud_region" then
      c.hydrateRegions (g.nested "cloud_region") (c.withIds .region [row.origin.region])
    else []).head?

def controllerAlone (g : Preload) (row : Row .controller) : Controller where
  row := row
  links :=
    if g.contains "cloud_regions" then
      c.hydrateLinks (g.nested "cloud_regions") (c.linksOfControllers [row.id])
    else []

def credentialAlone (g : Preload) (row : Row .credential) : Credential where
  row := row
  cloud :=
    (if g.contains "cloud" then
      c.hydrateClouds (g.nested "cloud") (c.cloudsNamed [row.origin.cloud])
    else []).head?
  owner :=
    (if g.contains "owner" then hydrateIdentities (c.identitiesNamed [row.origin.owner])
    else []).head?
  grants :=
    if g.contains "grants" then
      (c.grantsOn .credential [row.id]).map (c.grantOfRow (g.nested "grants"))
    else []

def modelAlone (g : Preload) (row : Row .model) : Model where
  row := row
  owner :=
    (if g.contains "owner" then hydrateIdentities (c.identitiesNamed [row.origin.owner])
    else []).head?
  controller :=
    (if g.contains "controller" then
      c.hydrateControllers (g.nested "controller") (c.withIds .controller [row.settings.controller])
    else []).head?
  region :=
    (if g.contains "cloud_region" then
      c.hydrateRegions (g.nested "cloud_region") (c.withIds .region [row.origin.region])
    else []).head?
  credential :=
    (if g.contains "cloud_credential" then
      c.hydrateCredentials (g.nested "cloud_credential")
        (c.withIds .credential [row.settings.credential])
    else []).head?
  grants :=
    if g.contains "grants" then
      (c.grantsOn .model [row.id]).map (c.grantOfRow (g.nested "grants"))
    else []

/-- Whether clouds, regions, links and controllers are each hydrated as they are alone. -/
structure HydratesGraph (c : Contents) (g : Preload) : Prop where
  clouds : HydratesBy Cloud.row (c.hydrateClouds g) (c.cloudAlone g)
  regions : HydratesBy Region.row (c.hydrateRegions g) (c.regionAlone g)
  links : HydratesBy Link.row (c.hydrateLinks g) (c.linkAlone g)
  controllers : HydratesBy Controller.row (c.hydrateControllers g) (c.controllerAlone g)

namespace AllDistinct

variable {c} (hc : c.AllDistinct) (g : Preload)

include hc

section

variable {g : Preload}

theorem clouds_of_below (hregions : g.contains "regions" = true →
      HydratesBy Region.row (c.hydrateRegions (g.nested "regions"))
        (c.regionAlone (g.nested "regions"))) :
    HydratesBy Cloud.row (c.hydrateClouds g) (c.cloudAlone g) := by
  refine ⟨c.showsRows_clouds g, fun {rows} hrows => ?_⟩
  rw [hydrateClouds]
  simp only [dite_eq_ite]
  rw [dealOut_part hregions hc.regionsOfClouds hrows.origins, dealGrants_part hc .cloud _ hrows.ids,
    List.zip_map', zip_map_self, List.map_map]
  rfl

theorem regions_of_below
    (hcloud : g.contains "cloud" = true →
      HydratesBy Cloud.row (c.hydrateClouds (g.nested "cloud")) (c.cloudAlone (g.nested "cloud")))
    (hlinks : g.contains "controllers" = true →
      HydratesBy Link.row (c.hydrateLinks (g.nested "controllers"))
        (c.linkAlone (g.nested "controllers"))) :
    HydratesBy Region.row (c.hydrateRegions g) (c.regionAlone g) := by
  refine ⟨c.showsRows_regions g, fun {rows} hrows => ?_⟩
  rw [hydrateRegions]
  simp only [dite_eq_ite]
  rw [dealOut_part hlinks hc.linksOfRegions hrows.ids, zip_map_self, List.map_map]
  refine List.map_congr_left fun row hrow => ?_
  simp only [Function.comp, regionAlone]
  rw [find?_part hcloud hc.cloudsNamed hrow fun row => row.origin.cloud]

theorem links_of_below
    (hcontroller : g.contains "controller" = true →
      HydratesBy Controller.row (c.hydrateControllers (g.nested "controller"))
        (c.controllerAlone (g.nested "controller")))
    (hregion : g.contains "cloud_region" = true →
      HydratesBy Region.row (c.hydrateRegions (g.nested "cloud_region"))
        (c.regionAlone (g.nested "cloud_region"))) :
    HydratesBy Link.row (c.hydrateLinks g) (c.linkAlone g) := by
  refine ⟨c.showsRows_links g, fun {rows} _ => ?_⟩
  rw [hydrateLinks]
  simp only [dite_eq_ite]
  refine List.map_congr_left fun row hrow => ?_
  rw [linkAlone,
    find?_part hcontroller (hc.withIds .controller) hrow (fun row => row.origin.controller),
    find?_part hregion (hc.withIds .region) hrow (fun row => row.origin.region)]

theorem controllers_of_below (hlinks : g.contains "cloud_regions" = true →
      HydratesBy Link.row (c.hydrateLinks (g.nested "cloud_regions"))
        (c.linkAlone (g.nested "cloud_regions"))) :
    HydratesBy Controller.row (c.hydrateControllers g) (c.controllerAlone g) := by
  refine ⟨c.showsRows_controllers g, fun {rows} hrows => ?_⟩
  rw [hydrateControllers]
  simp only [dite_eq_ite]
  rw [dealOut_part hlinks hc.linksOfControllers hrows.ids, zip_map_self, List.map_map]
  rfl

end

/-- Clouds, regions, links and controllers contain one another, so what holds of their hydration is
proved of all four at once, by induction on the size of the graph. -/
theorem hydratesGraph : c.HydratesGraph g := by
  induction hsize : g.size using Nat.strongRecOn generalizing g with
  | ind n ih =>
    have below : ∀ {association : String}, g.contains association = true →
        c.HydratesGraph (g.nested association) :=
      fun h => ih _ (hsize ▸ Preload.size_nested_lt h) (g.nested _) rfl
    constructor
    · exact hc.clouds_of_below fun h => (below h).regions
    · exact hc.regions_of_below (fun h => (below h).clouds) fun h => (below h).links
    · exact hc.links_of_below (fun h => (below h).controllers) fun h => (below h).regions
    · exact hc.controllers_of_below fun h => (below h).links

theorem hydratesBy_credentials :
    HydratesBy Credential.row (c.hydrateCredentials g) (c.credentialAlone g) := by
  refine ⟨c.showsRows_credentials g, fun {rows} hrows => ?_⟩
  rw [hydrateCredentials, dealGrants_part hc .credential _ hrows.ids, zip_map_self, List.map_map]
  refine List.map_congr_left fun row hrow => ?_
  simp only [Function.comp, credentialAlone]
  rw [find?_part (fun _ => (hc.hydratesGraph _).clouds) hc.cloudsNamed hrow
      (fun row => row.origin.cloud),
    find?_part (fun _ => hydratesBy_identities) hc.identitiesNamed hrow
      (fun row => row.origin.owner)]

theorem hydratesBy_models : HydratesBy Model.row (c.hydrateModels g) (c.modelAlone g) := by
  refine ⟨c.showsRows_models g, fun {rows} hrows => ?_⟩
  rw [hydrateModels, dealGrants_part hc .model _ hrows.ids, zip_map_self, List.map_map]
  refine List.map_congr_left fun row hrow => ?_
  simp only [Function.comp, modelAlone]
  rw [find?_part (fun _ => hydratesBy_identities) hc.identitiesNamed hrow
      (fun row => row.origin.owner),
    find?_part (fun _ => (hc.hydratesGraph _).controllers) (hc.withIds .controller) hrow
      (fun row => row.settings.controller),
    find?_part (fun _ => (hc.hydratesGraph _).regions) (hc.withIds .region) hrow
      (fun row => row.origin.region),
    find?_part (fun _ => hc.hydratesBy_credentials _) (hc.withIds .credential) hrow
      (fun row => row.settings.credential)]

end AllDistinct

end Contents
end ControlPlane
