/-
Databases that differ in their numbers alone.

The numbers of rows, the counters from which they are drawn and the times of writing mean nothing
outside.  `Contents.fact` tells a row without them, and names what the row refers to by natural
keys.  Two databases match if each relation tells the same facts in both, in whatever order.  What
is loaded along a graph is picked by references and listed in the order of natural keys; so rows
that tell one fact are hydrated to entities that match, along any graph
(`Database.matchesAlone`).
-/
import ControlPlane.Proofs.Retrieval
import Mathlib.Data.List.Sort

namespace ControlPlane

/-! ## Facts -/

structure Link.Fact where
  region : Option RegionKey
  /-- The name of the controller. -/
  controller : Option String
  priority : Int

structure Model.Fact where
  owner : String
  name : String
  region : Option RegionKey
  /-- The name of the controller. -/
  controller : Option String
  credential : Option CredentialKey
  /-- With no numbers in them. -/
  settings : Model.Settings

/-- How an object of grants is named. -/
@[reducible] def Grantable.Name : Grantable → Type
  | .cloud => String
  | .model => String × String
  | .credential => CredentialKey

structure Grant.Fact (κ : Type) where
  object : Option κ
  identity : String
  settings : Grant.Settings

/-- What a row tells apart from its number and its times. -/
@[reducible] def Fact : Relation → Type
  | .identity => Entry .identity
  | .cloud => Entry .cloud
  | .region => Entry .region
  | .controller => Entry .controller
  | .link => Link.Fact
  | .credential => Entry .credential
  | .model => Model.Fact
  | .grant on => Grant.Fact on.Name

/-- The natural key of an object. -/
def Grantable.nameOf : (on : Grantable) → Row on.relation → on.Name
  | .cloud, row => row.origin
  | .model, row => (row.origin.owner, row.origin.name)
  | .credential, row => row.origin

namespace Contents

/-- The natural key of the row with a number. -/
def keyWithId? {κ : Type} (c : Contents) (r : Relation) (key : Row r → κ) (id : Int) : Option κ :=
  (c.rowWithId? r id).map key

def fact (c : Contents) : (r : Relation) → Row r → Fact r
  | .identity, row => row.toEntry
  | .cloud, row => row.toEntry
  | .region, row => row.toEntry
  | .controller, row => row.toEntry
  | .link, row =>
    { region := c.keyWithId? .region (fun region => region.origin) row.origin.region
      controller :=
        c.keyWithId? .controller (fun controller => controller.origin.name) row.origin.controller
      priority := row.settings }
  | .credential, row => row.toEntry
  | .model, row =>
    { owner := row.origin.owner
      name := row.origin.name
      region := c.keyWithId? .region (fun region => region.origin) row.origin.region
      controller :=
        c.keyWithId? .controller (fun controller => controller.origin.name) row.settings.controller
      credential :=
        c.keyWithId? .credential (fun credential => credential.origin) row.settings.credential
      settings := { row.settings with controller := 0, credential := 0 } }
  | .grant on, row =>
    { object := c.keyWithId? on.relation on.nameOf row.origin.object
      identity := row.origin.identity
      settings := row.settings }

/-- Whether two databases are the same when rows and references are compared by natural keys. -/
def Matches (c c' : Contents) : Prop :=
  ∀ r, ((c.get r).map (c.fact r)).Perm ((c'.get r).map (c'.fact r))

/-- Whether rows of two databases tell the same. -/
structure TellAlike (c c' : Contents) (r : Relation) (a b : Row r) : Prop where
  left : a ∈ c.get r
  right : b ∈ c'.get r
  fact : c.fact r a = c'.fact r b

end Contents

/-! ## Entities that match -/

def Identity.Matches (a b : Identity) : Prop := a.row.toEntry = b.row.toEntry

structure Grant.Matches (a b : Grant) : Prop where
  identityName : a.identityName = b.identityName
  settings : a.settings = b.settings
  identity : Option.Rel Identity.Matches a.identity b.identity

mutual

/-- Whether two clouds are the same, with all that is loaded with them, apart from numbers and
times. -/
inductive Cloud.Matches : Cloud → Cloud → Prop
  | intro {a b : Cloud} (row : a.row.toEntry = b.row.toEntry)
    (regions : List.Forall₂ Region.Matches a.regions b.regions)
    (grants : List.Forall₂ Grant.Matches a.grants b.grants) : Cloud.Matches a b

inductive Region.Matches : Region → Region → Prop
  | intro {a b : Region} (row : a.row.toEntry = b.row.toEntry)
    (cloud : Option.Rel Cloud.Matches a.cloud b.cloud)
    (links : List.Forall₂ Link.Matches a.links b.links) : Region.Matches a b

inductive Link.Matches : Link → Link → Prop
  | intro {a b : Link} (priority : a.row.settings = b.row.settings)
    (controller : Option.Rel Controller.Matches a.controller b.controller)
    (region : Option.Rel Region.Matches a.region b.region) : Link.Matches a b

inductive Controller.Matches : Controller → Controller → Prop
  | intro {a b : Controller} (row : a.row.toEntry = b.row.toEntry)
    (links : List.Forall₂ Link.Matches a.links b.links) : Controller.Matches a b

end

/-! ## The order of facts -/

/-- Whether a key comes before another: by the name of the cloud, then by that of the region. -/
def RegionKey.IsBefore (a b : RegionKey) : Prop :=
  a.cloud < b.cloud ∨ a.cloud = b.cloud ∧ a.region < b.region

theorem RegionKey.IsBefore.asymm {a b : RegionKey} (h : a.IsBefore b) : ¬b.IsBefore a := by
  rintro (h' | ⟨heq, h'⟩) <;> rcases h with h | ⟨heq', h⟩
  · exact String.lt_asymm h h'
  · exact String.lt_irrefl _ (heq' ▸ h')
  · exact String.lt_irrefl _ (heq ▸ h)
  · exact String.lt_asymm h h'

/-- Whether a link comes before another: the one with the higher priority, or at the same priority
the one whose partner comes before. -/
def Link.Fact.RanksBefore {κ : Type} (partner : Link.Fact → Option κ) (before : κ → κ → Prop)
    (a b : Link.Fact) : Prop :=
  b.priority < a.priority ∨ a.priority = b.priority ∧
    ∃ p q, partner a = some p ∧ partner b = some q ∧ before p q

theorem Link.Fact.RanksBefore.asymm {κ : Type} {partner : Link.Fact → Option κ}
    {before : κ → κ → Prop} (hasymm : ∀ p q, before p q → ¬before q p) {a b : Link.Fact}
    (h : a.RanksBefore partner before b) : ¬b.RanksBefore partner before a := by
  rintro (h' | ⟨heq, p, q, hp, hq, h'⟩) <;> rcases h with h | ⟨heq', p', q', hp', hq', h⟩
  · omega
  · omega
  · omega
  · rw [hp', Option.some_inj] at hq
    rw [hq', Option.some_inj] at hp
    subst hp hq
    exact hasymm _ _ h h'

namespace Contents

variable {r : Relation} {c c' : Contents} {κ : Type}

/-- Where keys and numbers are unique, the key with a number is that of a row if and only if the
number is. -/
theorem keyWithId?_eq_some {key : Row r → κ} (hids : ((c.get r).map fun row => row.id).Nodup)
    (hkeys : ((c.get r).map key).Nodup) {row : Row r} (hrow : row ∈ c.get r) {id : Int} :
    c.keyWithId? r key id = some (key row) ↔ id = row.id := by
  constructor
  · intro h
    obtain ⟨found, hfind, hkey⟩ := Option.map_eq_some_iff.1 h
    obtain ⟨hfound, hid⟩ := (find?_key_eq_some hids).1 hfind
    rw [← hid, List.inj_on_of_nodup_map hkeys hfound hrow hkey]
  · rintro rfl
    exact congrArg (Option.map key) ((find?_key_eq_some hids).2 ⟨hrow, rfl⟩)

theorem Matches.symm (h : c.Matches c') : c'.Matches c := fun r => (h r).symm

theorem Matches.exists_fact (h : c.Matches c') {row : Row r} (hrow : row ∈ c.get r) :
    ∃ row' ∈ c'.get r, c'.fact r row' = c.fact r row :=
  List.mem_map.1 ((h r).subset (List.mem_map_of_mem hrow))

/-! ## What references pick -/

section

variable {selects selects' : Row r → Prop} {P : Fact r → Prop} {rows rows' : List (Row r)}
  (h : c.Matches c')
  (hselects : ∀ row ∈ c.get r, selects row ↔ P (c.fact r row))
  (hselects' : ∀ row ∈ c'.get r, selects' row ↔ P (c'.fact r row))

include h hselects hselects'

/-- Where only one row tells something, the rows that are found tell the same. -/
theorem IsOnly.head?_tellAlike (hhead : ∃ row, rows.head? = some row ∧ c.IsOnly selects row)
    (hhead' : ∃ row, rows'.head? = some row ∧ c'.IsOnly selects' row) :
    Option.Rel (TellAlike c c' r) rows.head? rows'.head? := by
  obtain ⟨a, ha, honly⟩ := hhead
  obtain ⟨b, hb, honly'⟩ := hhead'
  obtain ⟨other, hother, heq⟩ := h.exists_fact honly.mem
  have hselected : selects' other :=
    (hselects' other hother).2 (heq ▸ (hselects a honly.mem).1 honly.selected)
  rw [ha, hb]
  refine .some ⟨honly.mem, honly'.mem, ?_⟩
  rw [← heq, honly'.only other hother hselected]

variable {precedes precedes' : Row r → Row r → Prop}
  (hlists : c.Lists selects precedes rows) (hlists' : c'.Lists selects' precedes' rows')

include hlists hlists'

theorem Lists.facts_subset : rows.map (c.fact r) ⊆ rows'.map (c'.fact r) := by
  intro x hx
  obtain ⟨row, hrow, rfl⟩ := List.mem_map.1 hx
  obtain ⟨hmem, hselected⟩ := (hlists.mem_iff row).1 hrow
  obtain ⟨other, hother, heq⟩ := h.exists_fact hmem
  refine List.mem_map.2 ⟨other, (hlists'.mem_iff other).2 ⟨hother, ?_⟩, heq⟩
  exact (hselects' other hother).2 (heq ▸ (hselects row hmem).1 hselected)

/-- Rows that tell something are listed alike where the lists are in an order of facts. -/
theorem Lists.tellAlike {R : Fact r → Fact r → Prop}
    (hasymm : ∀ a b, R a b → ¬R b a)
    (hbefore : ∀ a b, precedes a b → R (c.fact r a) (c.fact r b))
    (hbefore' : ∀ a b, precedes' a b → R (c'.fact r a) (c'.fact r b)) :
    List.Forall₂ (TellAlike c c' r) rows rows' := by
  have hirrefl : Std.Irrefl R := ⟨fun a ha => hasymm a a ha ha⟩
  have hantisymm : Std.Antisymm R := ⟨fun a b hab hba => absurd hba (hasymm a b hab)⟩
  have heq : rows.map (c.fact r) = rows'.map (c'.fact r) :=
    List.Subset.antisymm_of_pairwise (List.pairwise_map.2 (hlists.ordered.imp (hbefore _ _)))
      (List.pairwise_map.2 (hlists'.ordered.imp (hbefore' _ _)))
      (facts_subset h hselects hselects' hlists hlists')
      (facts_subset h.symm hselects' hselects hlists' hlists)
  have hall : List.Forall₂ (fun a b => c.fact r a = c'.fact r b) rows rows' := by
    rw [← List.forall₂_map_left_iff (R := fun x b => x = c'.fact r b),
      ← List.forall₂_map_right_iff (R := Eq), heq, List.forall₂_eq_eq_eq]
  obtain ⟨hlength, hpairs⟩ := List.forall₂_iff_zip.1 hall
  refine List.forall₂_iff_zip.2 ⟨hlength, fun {a b} hab => ?_⟩
  obtain ⟨ha, hb⟩ := List.of_mem_zip hab
  exact ⟨((hlists.mem_iff a).1 ha).1, ((hlists'.mem_iff b).1 hb).1, hpairs hab⟩

end

/-! ## What is hydrated of it -/

section

variable {ε : Type} {rowOf : ε → Row r} {hydrate hydrate' : List (Row r) → List ε}
  {one one' : Row r → ε} {asked : Bool} {rows rows' : List (Row r)} {T : Row r → Row r → Prop}
  {R : ε → ε → Prop}
  (h : HydratesBy rowOf hydrate one) (h' : HydratesBy rowOf hydrate' one')
  (hdistinct : Row.AreDistinct rows) (hdistinct' : Row.AreDistinct rows')

include h h' hdistinct hdistinct'

theorem forall₂_part (hrows : List.Forall₂ T rows rows')
    (hone : asked = true → ∀ a b, T a b → R (one a) (one' b)) :
    List.Forall₂ R (if asked = true then hydrate rows else [])
      (if asked = true then hydrate' rows' else []) := by
  by_cases hasked : asked = true
  · rw [if_pos hasked, if_pos hasked, h.eq_map hdistinct, h'.eq_map hdistinct',
      List.forall₂_map_left_iff, List.forall₂_map_right_iff]
    exact hrows.imp (hone hasked)
  · rw [if_neg hasked, if_neg hasked]
    exact .nil

theorem rel_part (hrows : Option.Rel T rows.head? rows'.head?)
    (hone : asked = true → ∀ a b, T a b → R (one a) (one' b)) :
    Option.Rel R (if asked = true then hydrate rows else []).head?
      (if asked = true then hydrate' rows' else []).head? := by
  by_cases hasked : asked = true
  · rw [if_pos hasked, if_pos hasked, h.eq_map hdistinct, h'.eq_map hdistinct',
      List.head?_map, List.head?_map]
    generalize rows.head? = found at hrows ⊢
    generalize rows'.head? = found' at hrows ⊢
    cases hrows with
    | some hab => exact .some (hone hasked _ _ hab)
    | none => exact .none
  · rw [if_neg hasked, if_neg hasked]
    exact .none

end

end Contents

namespace Database

open Contents

variable {db db' : Database}

namespace Consistent

variable (h : db.Consistent)
include h

theorem nodup_regions : ((db.contents.get .region).map fun region => region.origin).Nodup := by
  refine .of_map (fun key : RegionKey => (key.cloud, key.region)) ?_
  rw [List.map_map]
  exact h.regionKeys

/-- The natural keys of objects are unique. -/
theorem nodup_nameOf (on : Grantable) : ((db.contents.get on.relation).map on.nameOf).Nodup := by
  cases on with
  | cloud => exact h.cloudNames
  | model => exact h.modelNames
  | credential =>
    refine .of_map (fun key : CredentialKey => (key.cloud, key.owner, key.name)) ?_
    rw [List.map_map]
    exact h.credentialKeys

theorem region_fact {region : Row .region} (hregion : region ∈ db.contents.get .region)
    (link : Row .link) :
    link.origin.region = region.id ↔ (db.contents.fact .link link).region = some region.origin :=
  (keyWithId?_eq_some (h.ids .region) h.nodup_regions hregion).symm

theorem controller_fact {controller : Row .controller}
    (hcontroller : controller ∈ db.contents.get .controller) (link : Row .link) :
    link.origin.controller = controller.id ↔
      (db.contents.fact .link link).controller = some controller.origin.name :=
  (keyWithId?_eq_some (h.ids .controller) h.controllerNames hcontroller).symm

theorem object_fact {on : Grantable} {object : Row on.relation}
    (hobject : object ∈ db.contents.get on.relation) (grant : Row (.grant on)) :
    grant.origin.object = object.id ↔
      (db.contents.fact (.grant on) grant).object = some (on.nameOf object) :=
  (keyWithId?_eq_some (h.ids on.relation) (h.nodup_nameOf on) hobject).symm

end Consistent

variable (h : db.Consistent) (h' : db'.Consistent) (hmatches : db.contents.Matches db'.contents)
include h h' hmatches

/-! ## Grants -/

theorem rel_identity (g : Preload) {name : String}
    (hexists : ∃ row ∈ db.contents.identity, row.origin = name)
    (hexists' : ∃ row ∈ db'.contents.identity, row.origin = name) :
    Option.Rel Identity.Matches
      (if g.contains "identity" = true then
        hydrateIdentities (db.contents.identitiesNamed [name]) else []).head?
      (if g.contains "identity" = true then
        hydrateIdentities (db'.contents.identitiesNamed [name]) else []).head? := by
  have hfound : Option.Rel (TellAlike db.contents db'.contents .identity)
      (db.contents.identitiesNamed [name]).head? (db'.contents.identitiesNamed [name]).head? :=
    IsOnly.head?_tellAlike (P := fun e : Entry .identity => e.origin = name) hmatches
      (fun _ _ => Iff.rfl) (fun _ _ => Iff.rfl) (head?_identitiesNamed h hexists)
      (head?_identitiesNamed h' hexists')
  exact rel_part hydratesBy_identities hydratesBy_identities
    (h.allDistinct.identitiesNamed.distinct _) (h'.allDistinct.identitiesNamed.distinct _) hfound
    fun _ _ _ hab => hab.fact

theorem grantOfRow_matches (g : Preload) {on : Grantable} {a b : Row (.grant on)}
    (hab : TellAlike db.contents db'.contents (.grant on) a b) :
    Grant.Matches (db.contents.grantOfRow g a) (db'.contents.grantOfRow g b) := by
  have hidentity : a.origin.identity = b.origin.identity := congrArg Grant.Fact.identity hab.fact
  refine ⟨hidentity, congrArg Grant.Fact.settings hab.fact, ?_⟩
  have hrel := rel_identity h h' hmatches g (h.identityOfGrant on a hab.left)
    (hidentity ▸ h'.identityOfGrant on b hab.right)
  rw [apply_ite List.head?, apply_ite List.head?] at hrel
  dsimp only [grantOfRow]
  rw [← hidentity]
  exact hrel

theorem grants_match (g : Preload) (on : Grantable) {object object' : Row on.relation}
    (hobject : object ∈ db.contents.get on.relation)
    (hobject' : object' ∈ db'.contents.get on.relation)
    (hname : on.nameOf object = on.nameOf object') :
    List.Forall₂ Grant.Matches
      ((db.contents.grantsOn on [object.id]).map (db.contents.grantOfRow g))
      ((db'.contents.grantsOn on [object'.id]).map (db'.contents.grantOfRow g)) := by
  rw [List.forall₂_map_left_iff, List.forall₂_map_right_iff]
  refine (Lists.tellAlike (P := fun fact : Grant.Fact on.Name =>
      fact.object = some (on.nameOf object)) hmatches (fun row _ => h.object_fact hobject row)
    (fun row _ => by rw [h'.object_fact hobject' row, hname]) (lists_grantsOn h on object.id)
    (lists_grantsOn h' on object'.id) (R := fun a b => a.identity < b.identity)
    (fun _ _ => String.lt_asymm) (fun _ _ => Text.isBefore_iff.1)
    (fun _ _ => Text.isBefore_iff.1)).imp ?_
  exact fun a b hab => grantOfRow_matches h h' hmatches g hab

/-! ## Clouds, regions, links and controllers -/

theorem regions_tellAlike {a b : Row .cloud}
    (hab : TellAlike db.contents db'.contents .cloud a b) :
    List.Forall₂ (TellAlike db.contents db'.contents .region)
      (db.contents.regionsOfClouds [a.origin]) (db'.contents.regionsOfClouds [b.origin]) := by
  have hname : a.origin = b.origin := congrArg Entry.origin hab.fact
  exact Lists.tellAlike (P := fun e : Entry .region => e.origin.cloud = a.origin) hmatches
    (fun _ _ => Iff.rfl) (fun _ _ => by rw [hname]; exact Iff.rfl)
    (lists_regionsOfClouds h a.origin) (lists_regionsOfClouds h' b.origin)
    (R := fun e e' => e.origin.region < e'.origin.region) (fun _ _ => String.lt_asymm)
    (fun _ _ => Text.isBefore_iff.1) (fun _ _ => Text.isBefore_iff.1)

theorem cloudOfRegion_tellAlike {a b : Row .region}
    (hab : TellAlike db.contents db'.contents .region a b) :
    Option.Rel (TellAlike db.contents db'.contents .cloud)
      (db.contents.cloudsNamed [a.origin.cloud]).head?
      (db'.contents.cloudsNamed [b.origin.cloud]).head? := by
  have hkey : a.origin = b.origin := congrArg Entry.origin hab.fact
  exact IsOnly.head?_tellAlike (P := fun e : Entry .cloud => e.origin = a.origin.cloud) hmatches
    (fun _ _ => Iff.rfl) (fun _ _ => by rw [hkey]; exact Iff.rfl)
    (head?_cloudsNamed h (h.cloudOfRegion a hab.left))
    (head?_cloudsNamed h' (h'.cloudOfRegion b hab.right))

theorem controllerOfLink_tellAlike {a b : Row .link}
    (hab : TellAlike db.contents db'.contents .link a b) :
    Option.Rel (TellAlike db.contents db'.contents .controller)
      (db.contents.withIds .controller [a.origin.controller]).head?
      (db'.contents.withIds .controller [b.origin.controller]).head? := by
  refine IsOnly.head?_tellAlike (P := fun e : Entry .controller =>
      (db.contents.fact .link a).controller = some e.origin.name) hmatches
    (fun row hrow => ?_) (fun row hrow => ?_) (head?_withIds h (h.controllerOfLink a hab.left))
    (head?_withIds h' (h'.controllerOfLink b hab.right))
  · rw [eq_comm]
    exact h.controller_fact hrow a
  · rw [eq_comm, hab.fact]
    exact h'.controller_fact hrow b

theorem regionOfLink_tellAlike {a b : Row .link}
    (hab : TellAlike db.contents db'.contents .link a b) :
    Option.Rel (TellAlike db.contents db'.contents .region)
      (db.contents.withIds .region [a.origin.region]).head?
      (db'.contents.withIds .region [b.origin.region]).head? := by
  refine IsOnly.head?_tellAlike (P := fun e : Entry .region =>
      (db.contents.fact .link a).region = some e.origin) hmatches
    (fun row hrow => ?_) (fun row hrow => ?_) (head?_withIds h (h.regionOfLink a hab.left))
    (head?_withIds h' (h'.regionOfLink b hab.right))
  · rw [eq_comm]
    exact h.region_fact hrow a
  · rw [eq_comm, hab.fact]
    exact h'.region_fact hrow b

omit h' hmatches in
/-- Links that rank before others do so by what they tell. -/
theorem ranksBefore_controllers {a b : Row .link}
    (hranks : Row.RanksBefore db.contents (fun link => link.origin.controller)
      (fun p q : Row .controller => Text.IsBefore p.origin.name q.origin.name) a b) :
    (db.contents.fact .link a).RanksBefore Link.Fact.controller (· < ·)
      (db.contents.fact .link b) := by
  rcases hranks with hlt | ⟨heq, p, hp, q, hq, hpa, hqb, hbefore⟩
  · exact .inl hlt
  · exact .inr ⟨heq, p.origin.name, q.origin.name, (h.controller_fact hp a).1 hpa.symm,
      (h.controller_fact hq b).1 hqb.symm, Text.isBefore_iff.1 hbefore⟩

omit h' hmatches in
theorem ranksBefore_regions {a b : Row .link}
    (hranks : Row.RanksBefore db.contents (fun link => link.origin.region) Row.IsKeyedBefore a b) :
    (db.contents.fact .link a).RanksBefore Link.Fact.region RegionKey.IsBefore
      (db.contents.fact .link b) := by
  rcases hranks with hlt | ⟨heq, p, hp, q, hq, hpa, hqb, hbefore⟩
  · exact .inl hlt
  · refine .inr ⟨heq, p.origin, q.origin, (h.region_fact hp a).1 hpa.symm,
      (h.region_fact hq b).1 hqb.symm, hbefore.imp Text.isBefore_iff.1 ?_⟩
    exact And.imp_right Text.isBefore_iff.1

theorem linksOfRegion_tellAlike {a b : Row .region}
    (hab : TellAlike db.contents db'.contents .region a b) :
    List.Forall₂ (TellAlike db.contents db'.contents .link)
      (db.contents.linksOfRegions [a.id]) (db'.contents.linksOfRegions [b.id]) := by
  have hkey : a.origin = b.origin := congrArg Entry.origin hab.fact
  exact Lists.tellAlike (P := fun fact : Link.Fact => fact.region = some a.origin)
    (R := Link.Fact.RanksBefore Link.Fact.controller (· < ·)) hmatches
    (fun row _ => h.region_fact hab.left row)
    (fun row _ => by rw [h'.region_fact hab.right row, hkey])
    (lists_linksOfRegions h a.id) (lists_linksOfRegions h' b.id)
    (fun _ _ => Link.Fact.RanksBefore.asymm fun _ _ => String.lt_asymm)
    (fun _ _ => ranksBefore_controllers h) (fun _ _ => ranksBefore_controllers h')

theorem linksOfController_tellAlike {a b : Row .controller}
    (hab : TellAlike db.contents db'.contents .controller a b) :
    List.Forall₂ (TellAlike db.contents db'.contents .link)
      (db.contents.linksOfControllers [a.id]) (db'.contents.linksOfControllers [b.id]) := by
  have hname : a.origin = b.origin := congrArg Entry.origin hab.fact
  exact Lists.tellAlike (P := fun fact : Link.Fact => fact.controller = some a.origin.name)
    (R := Link.Fact.RanksBefore Link.Fact.region RegionKey.IsBefore) hmatches
    (fun row _ => h.controller_fact hab.left row)
    (fun row _ => by rw [h'.controller_fact hab.right row, hname])
    (lists_linksOfControllers h a.id) (lists_linksOfControllers h' b.id)
    (fun _ _ => Link.Fact.RanksBefore.asymm fun _ _ => RegionKey.IsBefore.asymm)
    (fun _ _ => ranksBefore_regions h) (fun _ _ => ranksBefore_regions h')

/-- Whether rows that tell the same are hydrated alike, along a path that leaves a part of the
graph. -/
structure MatchesAlone (c c' : Contents) (part : Preload) : Prop where
  cloud : ∀ a b, TellAlike c c' .cloud a b →
    Cloud.Matches (c.cloudAlone part a) (c'.cloudAlone part b)
  region : ∀ a b, TellAlike c c' .region a b →
    Region.Matches (c.regionAlone part a) (c'.regionAlone part b)
  link : ∀ a b, TellAlike c c' .link a b →
    Link.Matches (c.linkAlone part a) (c'.linkAlone part b)
  controller : ∀ a b, TellAlike c c' .controller a b →
    Controller.Matches (c.controllerAlone part a) (c'.controllerAlone part b)

/-- Each step along an association leaves a smaller part of the graph, so the induction is on the
size of that part, for all four kinds that hold one another. -/
theorem matchesAlone (part : Preload) : MatchesAlone db.contents db'.contents part := by
  induction hsize : part.size using Nat.strongRecOn generalizing part with
  | ind n ih =>
    have below : ∀ {association : String}, part.contains association = true →
        MatchesAlone db.contents db'.contents (part.nested association) := fun hcontains =>
      ih _ (hsize ▸ Preload.size_nested_lt hcontains) _ rfl
    have hc := h.allDistinct
    have hc' := h'.allDistinct
    constructor
    · intro a b hab
      refine .intro hab.fact ?_ ?_
      · exact forall₂_part (hc.hydratesGraph _).regions (hc'.hydratesGraph _).regions
          (hc.regionsOfClouds.distinct _) (hc'.regionsOfClouds.distinct _)
          (regions_tellAlike h h' hmatches hab) fun hasked => (below hasked).region
      · by_cases hgrants : part.contains "grants" = true
        · simp only [cloudAlone, if_pos hgrants]
          exact grants_match h h' hmatches _ .cloud hab.left hab.right
            (congrArg Entry.origin hab.fact)
        · simp only [cloudAlone, if_neg hgrants]
          exact .nil
    · intro a b hab
      refine .intro hab.fact ?_ ?_
      · exact rel_part (hc.hydratesGraph _).clouds (hc'.hydratesGraph _).clouds
          (hc.cloudsNamed.distinct _) (hc'.cloudsNamed.distinct _)
          (cloudOfRegion_tellAlike h h' hmatches hab) fun hasked => (below hasked).cloud
      · exact forall₂_part (hc.hydratesGraph _).links (hc'.hydratesGraph _).links
          (hc.linksOfRegions.distinct _) (hc'.linksOfRegions.distinct _)
          (linksOfRegion_tellAlike h h' hmatches hab) fun hasked => (below hasked).link
    · intro a b hab
      refine .intro (congrArg Link.Fact.priority hab.fact) ?_ ?_
      · exact rel_part (hc.hydratesGraph _).controllers (hc'.hydratesGraph _).controllers
          ((hc.withIds _).distinct _) ((hc'.withIds _).distinct _)
          (controllerOfLink_tellAlike h h' hmatches hab) fun hasked => (below hasked).controller
      · exact rel_part (hc.hydratesGraph _).regions (hc'.hydratesGraph _).regions
          ((hc.withIds _).distinct _) ((hc'.withIds _).distinct _)
          (regionOfLink_tellAlike h h' hmatches hab) fun hasked => (below hasked).region
    · intro a b hab
      refine .intro hab.fact ?_
      exact forall₂_part (hc.hydratesGraph _).links (hc'.hydratesGraph _).links
        (hc.linksOfControllers.distinct _) (hc'.linksOfControllers.distinct _)
        (linksOfController_tellAlike h h' hmatches hab) fun hasked => (below hasked).link

/-- Matching databases show a cloud alike, or neither has it. -/
theorem cloud?_matches (name : String) :
    Option.Rel Cloud.Matches (db.contents.cloud? name) (db'.contents.cloud? name) := by
  rw [cloud?, cloud?]
  cases hfind : db.contents.cloudRow? name with
  | none =>
    have hnone : db'.contents.cloudRow? name = none := by
      refine List.find?_eq_none.2 fun row hrow hname => ?_
      obtain ⟨other, hother, heq⟩ := hmatches.symm.exists_fact (r := .cloud) hrow
      refine List.find?_eq_none.1 hfind other hother (decide_eq_true ?_)
      exact (congrArg Entry.origin heq).trans (of_decide_eq_true hname)
    rw [hnone]
    exact .none
  | some row =>
    obtain ⟨hrow, hname⟩ := (find?_key_eq_some h.cloudNames).1 hfind
    obtain ⟨other, hother, heq⟩ := hmatches.exists_fact (r := .cloud) hrow
    have hfind' : db'.contents.cloudRow? name = some other :=
      (find?_key_eq_some h'.cloudNames).2 ⟨hother, (congrArg Entry.origin heq).trans hname⟩
    rw [hfind', Option.bind_some, Option.bind_some,
      h.allDistinct.cloudOfRow?_eq, h'.allDistinct.cloudOfRow?_eq]
    exact .some ((matchesAlone h h' hmatches _).cloud row other ⟨hrow, hother, heq.symm⟩)

end Database
end ControlPlane
