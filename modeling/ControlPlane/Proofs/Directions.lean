/-
Associations that are read from both sides.

A grant is shown by its object and listed with what its identity holds; a link is shown by its
controller and by its region.  Each side has queries of its own.  Both come to the rows: what an
identity holds is the map of grants seen from the other side (`Contents.mem_granted`), and a link is
on either side if its row joins the two (`Reachable.controllerShows_iff`,
`Reachable.regionShows_iff`).  So neither side has anything that the other lacks.
-/
import ControlPlane.Proofs.GrantHistory
import ControlPlane.Proofs.Retrieval

namespace ControlPlane

open Script
open IdentityName (sanitise)

/-- The grants that an entity shows.  Only clouds, models and credentials have any. -/
def Entity.grants : Entity → List Grant
  | .cloud shown => shown.grants
  | .model shown => shown.grants
  | .credential shown => shown.grants
  | _ => []

/-! ## What an identity holds -/

namespace Contents

section

variable {ε : Type} (c : Contents) (on : Grantable) (rowOf : ε → Row on.relation)
  (hydrate : List (Row on.relation) → List ε) (identity : String)

/-- The objects of one kind on which an identity holds a grant, each with its grant. -/
def granted : List (ε × Grant.Settings) :=
  let grants := c.grantsHeld on identity
  let objects := hydrate (c.withIds on.relation (grants.map fun grant => grant.origin.object))
  grants.filterMap fun grant =>
    (objects.find? fun object => (rowOf object).id = grant.origin.object).map (·, grant.settings)

theorem cloudsGranted_eq : c.cloudsGranted identity =
    c.granted .cloud Cloud.row (c.hydrateClouds .empty) identity := rfl

theorem modelsGranted_eq : c.modelsGranted identity =
    c.granted .model Model.row (c.hydrateModels .empty) identity := rfl

end

section

variable {ε : Type} {db : Database} {on : Grantable} {rowOf : ε → Row on.relation}
  {hydrate : List (Row on.relation) → List ε} {one : Row on.relation → ε}
  (hhydrate : HydratesBy rowOf hydrate one) (h : db.Sound) {identity : String}

theorem mem_grantsHeld {c : Contents} {grant : Row (.grant on)} :
    grant ∈ c.grantsHeld on identity ↔
      grant ∈ c.get (.grant on) ∧ grant.origin.identity = identity := by
  rw [grantsHeld, mem_sortBy, List.mem_filter, decide_eq_true_eq]

include hhydrate h

/-- The object of each grant is among those that are loaded. -/
theorem find?_granted {grant : Row (.grant on)}
    (hgrant : grant ∈ db.contents.grantsHeld on identity) :
    ∃ row ∈ db.contents.get on.relation, row.id = grant.origin.object ∧
      (hydrate (db.contents.withIds on.relation
        ((db.contents.grantsHeld on identity).map fun grant => grant.origin.object))).find?
          (fun object => (rowOf object).id = grant.origin.object) = some (one row) := by
  have hconsistent := Database.consistent_of_sound h
  have hobject : grant.origin.object ∈
      (db.contents.grantsHeld on identity).map fun grant => grant.origin.object :=
    List.mem_map_of_mem hgrant
  obtain ⟨row, hrow, hid⟩ := hconsistent.objectOfGrant on grant (mem_grantsHeld.1 hgrant).1
  obtain ⟨first, hfirst, honly⟩ := Database.head?_withIds hconsistent ⟨row, hrow, hid⟩
  refine ⟨first, honly.mem, honly.selected, ?_⟩
  have hkeyed := h.allDistinct.withIds on.relation
  rw [find?_hydrate hhydrate hkeyed hobject, hhydrate.eq_map (hkeyed.distinct _), List.head?_map,
    hfirst]
  rfl

variable (on)

/-- An identity holds what the map of grants has for it. -/
theorem mem_granted {row : Row on.relation} {settings : Grant.Settings} :
    (∃ object, (object, settings) ∈ db.contents.granted on rowOf hydrate identity ∧
        rowOf object = row) ↔
      row ∈ db.contents.get on.relation ∧
        db.contents.grantMap ⟨on, row.id, identity⟩ = some settings := by
  rw [grantMap_eq_some h.unique]
  constructor
  · rintro ⟨object, hobject, rfl⟩
    obtain ⟨grant, hgrant, hfound⟩ := List.mem_filterMap.1 hobject
    obtain ⟨row, hrow, hid, hfind⟩ := find?_granted hhydrate h hgrant
    rw [hfind] at hfound
    cases hfound
    obtain ⟨hstored, hidentity⟩ := mem_grantsHeld.1 hgrant
    rw [hhydrate.shows]
    refine ⟨hrow, grant, hstored, ?_, rfl⟩
    rw [hid, ← hidentity]
  · rintro ⟨hrow, grant, hgrant, horigin, rfl⟩
    have hheld : grant ∈ db.contents.grantsHeld on identity :=
      mem_grantsHeld.2 ⟨hgrant, by rw [horigin]⟩
    obtain ⟨other, hother, hid, hfind⟩ := find?_granted hhydrate h hheld
    have hsame : other = row := h.distinct.eq hother hrow (by rw [hid, horigin])
    refine ⟨one other, List.mem_filterMap.2 ⟨grant, hheld, ?_⟩, by rw [hhydrate.shows, hsame]⟩
    rw [hfind]
    rfl

/-- What an identity holds ascends by the numbers of the objects. -/
theorem granted_ascending : (db.contents.granted on rowOf hydrate identity).Pairwise
    fun a b => (rowOf a.1).id < (rowOf b.1).id := by
  have hconsistent := Database.consistent_of_sound h
  have hsorted : (db.contents.grantsHeld on identity).Pairwise fun a b =>
      a.origin.object < b.origin.object := by
    have hne := (hconsistent.byGrantee_ne_eq on).filter fun row => row.origin.identity = identity
    refine (sortBy_ascending Row.byGrantee hne).imp_of_mem ?_
    intro a b ha hb hlt
    -- Grants of one identity differ in their objects, so the objects decide the order.
    rcases Ordering.then_eq_lt.1 hlt with hobject | ⟨-, hidentity⟩
    · exact Int.compare_eq_lt.1 hobject
    · rw [compareOn, (mem_grantsHeld.1 ha).2, (mem_grantsHeld.1 hb).2] at hidentity
      simp at hidentity
  refine List.pairwise_filterMap.2 (hsorted.imp_of_mem ?_)
  intro a b ha hb hlt first hfirst second hsecond
  obtain ⟨row, -, hid, hfind⟩ := find?_granted hhydrate h ha
  obtain ⟨other, -, hid', hfind'⟩ := find?_granted hhydrate h hb
  rw [hfind] at hfirst
  rw [hfind'] at hsecond
  cases hfirst
  cases hsecond
  rwa [hhydrate.shows, hhydrate.shows, hid, hid']

end

/-- What an identity holds of the kinds of which that is listed. -/
def holdings (c : Contents) (identity : String) : Grantable → List (Entity × Grant.Settings)
  | .cloud => (c.cloudsGranted identity).map fun held => (.cloud held.1, held.2)
  | .model => (c.modelsGranted identity).map fun held => (.model held.1, held.2)
  | .credential => []

section

variable {db : Database} (h : db.Sound) {on : Grantable} (hon : on ≠ .credential)
  {identity : String}

include h

theorem holdings_ascending : (db.contents.holdings identity on).Pairwise
    fun a b => a.1.id < b.1.id := by
  cases on with
  | cloud =>
    refine List.pairwise_map.2 ?_
    rw [cloudsGranted_eq]
    exact granted_ascending .cloud (h.allDistinct.hydratesGraph .empty).clouds h
  | model =>
    refine List.pairwise_map.2 ?_
    rw [modelsGranted_eq]
    exact granted_ascending .model (h.allDistinct.hydratesBy_models .empty) h
  | credential => exact .nil

include hon

theorem mem_holdings {row : Row on.relation} {settings : Grant.Settings} :
    (∃ entity, (entity, settings) ∈ db.contents.holdings identity on ∧ entity.Shows row) ↔
      row ∈ db.contents.get on.relation ∧
        db.contents.grantMap ⟨on, row.id, identity⟩ = some settings := by
  have hwrapped : ∀ {ε : Type} {rowOf : ε → Row on.relation} {wrap : ε → Entity}
      {held : List (ε × Grant.Settings)}, (∀ object, (wrap object).Shows row ↔ rowOf object = row) →
      ((∃ entity, (entity, settings) ∈ held.map (fun p => (wrap p.1, p.2)) ∧ entity.Shows row) ↔
        ∃ object, (object, settings) ∈ held ∧ rowOf object = row) := by
    intro ε rowOf wrap held hshows
    simp only [List.mem_map, Prod.mk.injEq]
    constructor
    · rintro ⟨entity, ⟨⟨object, level⟩, hmem, rfl, rfl⟩, hrow⟩
      exact ⟨object, hmem, (hshows object).1 hrow⟩
    · rintro ⟨object, hmem, hrow⟩
      exact ⟨wrap object, ⟨_, hmem, rfl, rfl⟩, (hshows object).2 hrow⟩
  cases on with
  | cloud =>
    exact (hwrapped fun _ => Iff.rfl).trans
      (mem_granted .cloud (h.allDistinct.hydratesGraph .empty).clouds h)
  | model =>
    exact (hwrapped fun _ => Iff.rfl).trans
      (mem_granted .model (h.allDistinct.hydratesBy_models .empty) h)
  | credential => exact absurd rfl hon

end

/-- An object shows the map of grants. -/
theorem isShownBy_entityOf? {db : Database} (h : db.Sound) (on : Grantable) {row : Row on.relation}
    {entity : Entity} (hentity : db.contents.entityOf? row = some entity) :
    db.contents.grantMap.IsShownBy on row.id entity.grants := by
  have hconsistent := Database.consistent_of_sound h
  have hgrants : ∀ g : Preload, g.contains (Preload.join "" "grants") = true →
      db.contents.grantMap.IsShownBy on row.id
        (if g.contains "grants" = true then
          (db.contents.grantsOn on [row.id]).map (db.contents.grantOfRow (g.nested "grants"))
        else []) := fun g hasked =>
    isShownBy_of_unfold h.unique
      (Database.unfold_grants hconsistent g.isBelow_self on row.id) hasked
  cases on with
  | cloud =>
    cases hentity
    exact hgrants (Preload.cloud "") (by decide)
  | model =>
    cases hentity
    exact hgrants (Preload.model "") (by decide)
  | credential =>
    cases hentity
    exact hgrants (Preload.credential "") (by decide)

end Contents

/-! ## Grants from both sides -/

namespace Deployment

open Contents

/-- The operations that list what an identity holds. -/
inductive IsListing (identity : String) : Operation → Grantable → Prop
  | clouds : IsListing identity (.cloudsOfIdentity identity) .cloud
  | models : IsListing identity (.modelsOfIdentity identity) .model

/-- Whether an operation lists an object with a grant. -/
def ListsHeld (dep : Deployment) (now : Timestamp) (listing : Operation) (key : Key)
    (settings : Grant.Settings) : Prop :=
  ∃ row : Row key.relation, key.Names row.toEntry ∧
    ∃ held, (dep.perform now .undisturbed listing).1 = .ok (.granted held) ∧
      ∃ entity, (entity, settings) ∈ held ∧ entity.Shows row

/-- Whether an object shows a grant to an identity. -/
def ShowsGrant (dep : Deployment) (now : Timestamp) (key : Key) (identity : String)
    (settings : Grant.Settings) : Prop :=
  ∃ entity, (dep.perform now .undisturbed key.retrieval).1 = .ok (.entity entity) ∧
    ∃ grant ∈ entity.grants, grant.identityName = sanitise identity ∧ grant.settings = settings

/-- Whether the grants of an identity are the same from both sides. -/
structure GrantsAgree (dep : Deployment) (identity : String) : Prop where
  clouds : ∀ now name settings,
    dep.ListsHeld now (.cloudsOfIdentity identity) (.cloud name) settings ↔
      dep.ShowsGrant now (.cloud name) identity settings
  models : ∀ now key settings,
    dep.ListsHeld now (.modelsOfIdentity identity) (.model key) settings ↔
      dep.ShowsGrant now (.model key) identity settings
  /-- Each object is listed once, in the order of the numbers. -/
  ascending : ∀ now listing on held, IsListing identity listing on →
    (dep.perform now .undisturbed listing).1 = .ok (.granted held) →
      held.Pairwise fun a b => a.1.id < b.1.id
  /-- A store that is ready answers. -/
  answers : dep.store.lifecycle = .ready → Text.IsNulFree identity →
    ∀ now listing on, IsListing identity listing on →
      ∃ held, (dep.perform now .undisturbed listing).1 = .ok (.granted held)

/-- Whether each object shows each identity once. -/
def ShowsIdentitiesOnce (dep : Deployment) : Prop :=
  ∀ now (key : Key) entity, (dep.perform now .undisturbed key.retrieval).1 =
    .ok (.entity entity) → (entity.grants.map fun grant => grant.identityName).Nodup

namespace IsListing

variable {dep : Deployment} {now : Timestamp} {identity : String} {listing : Operation}
  {on : Grantable} (h : IsListing identity listing on)

include h

theorem ne_credential : on ≠ .credential := by
  cases h <;> exact nofun

theorem of_perform {held : List (Entity × Grant.Settings)}
    (hheld : (dep.perform now .undisturbed listing).1 = .ok (.granted held)) :
    dep.store.lifecycle = .ready ∧
      held = dep.server.database.contents.holdings (sanitise identity) on := by
  obtain ⟨hready, -, after, hrun, -⟩ := Store.of_perform_eq_ok hheld
  refine ⟨hready, ?_⟩
  cases h with
  | clouds =>
    obtain ⟨found, hquery, hfound⟩ := of_map_eq_ok hrun
    obtain ⟨kept, hkept, rfl⟩ := of_query_eq_ok hquery
    obtain rfl := Storable.isExact_text _ _ hkept
    cases hfound
    rfl
  | models =>
    obtain ⟨found, hquery, hfound⟩ := of_map_eq_ok hrun
    obtain ⟨kept, hkept, rfl⟩ := of_query_eq_ok hquery
    obtain rfl := Storable.isExact_text _ _ hkept
    cases hfound
    rfl

theorem perform_ok (hready : dep.store.lifecycle = .ready) (hidentity : identity ≠ "")
    (hstored : stored? (sanitise identity) = some (sanitise identity)) :
    (dep.perform now .undisturbed listing).1 =
      .ok (.granted (dep.server.database.contents.holdings (sanitise identity) on)) := by
  have hvalid : listing.plan.subject.isValid = true := by
    have hname : (Subject.ofKey .identity (sanitise identity)).isValid = true :=
      Subject.isValid_ofKey.2 fun hmem =>
        hidentity (IdentityName.eq_empty_of_sanitise (List.mem_singleton.1 hmem).symm)
    cases h <;> exact hname
  have hcalm : (dep.store.environment now .undisturbed).disturbance = none := rfl
  cases h with
  | clouds =>
    exact congrArg Prod.fst (Store.perform_ok hready hvalid (map_ok (query_ok hcalm hstored _) _))
  | models =>
    exact congrArg Prod.fst (Store.perform_ok hready hvalid (map_ok (query_ok hcalm hstored _) _))

end IsListing

namespace Reachable

variable {dep : Deployment} (hreachable : dep.Reachable) {now : Timestamp} {identity : String}
  {settings : Grant.Settings}

include hreachable

theorem showsGrant_iff {key : Key} (hregion : key.relation ≠ .region)
    (hidentity : key.relation ≠ .identity) {on : Grantable}
    (hshown : ∀ {row : Row key.relation} {entity : Entity},
      dep.server.database.contents.entityOf? row = some entity →
        dep.server.database.contents.grantMap.IsShownBy on row.id entity.grants) :
    dep.ShowsGrant now key identity settings ↔
      ∃ row : Row key.relation, key.Names row.toEntry ∧ dep.store.lifecycle = .ready ∧
        row ∈ dep.server.database.contents.get key.relation ∧
          dep.server.database.contents.grantMap ⟨on, row.id, sanitise identity⟩ =
            some settings := by
  constructor
  · rintro ⟨entity, hget, hgrant⟩
    obtain ⟨hready, row, hrow, hnames, shown, hreply, hentity⟩ :=
      hreachable.of_perform_retrieval key hget
    cases hreply
    exact ⟨row, hnames, hready, hrow, ((hshown hentity).entries _ _).2 hgrant⟩
  · rintro ⟨row, hnames, hready, hrow, hentry⟩
    obtain ⟨entity, hentity⟩ := key.exists_entityOf? dep.server.database.contents row
    have hparts := hreachable.keyParts_nonempty_of_ne hregion hidentity hrow
    exact ⟨entity, hreachable.perform_retrieval key hready hrow hnames hparts hentity now,
      ((hshown hentity).entries _ _).1 hentry⟩

/-- The database takes the name of an identity that holds anything. -/
theorem stored?_of_grantMap {on : Grantable} {object : Int}
    (h : dep.server.database.contents.grantMap ⟨on, object, identity⟩ = some settings) :
    stored? identity = some identity := by
  obtain ⟨grant, hgrant, horigin, -⟩ := (grantMap_eq_some hreachable.sound.unique).1 h
  have hstored := hreachable.stored?_origin hgrant
  rw [horigin] at hstored
  obtain ⟨parts, hparts, -⟩ := Option.map_eq_some_iff.1 hstored
  have hidentity : stored? identity = some parts.2 := (Storable.stored?_pair_eq_some.1 hparts).2
  rwa [Storable.isExact_text _ _ hidentity] at hidentity

/-- What is listed of an identity is what the map of grants has for it. -/
theorem listed_iff (hidentity : identity ≠ "") {listing : Operation} {on : Grantable}
    (hlisting : IsListing identity listing on) {row : Row on.relation} :
    (∃ held, (dep.perform now .undisturbed listing).1 = .ok (.granted held) ∧
        ∃ entity, (entity, settings) ∈ held ∧ entity.Shows row) ↔
      dep.store.lifecycle = .ready ∧ row ∈ dep.server.database.contents.get on.relation ∧
        dep.server.database.contents.grantMap ⟨on, row.id, sanitise identity⟩ = some settings := by
  have hsound := hreachable.sound
  constructor
  · rintro ⟨held, hanswer, hentity⟩
    obtain ⟨hready, rfl⟩ := hlisting.of_perform hanswer
    exact ⟨hready, (mem_holdings hsound hlisting.ne_credential).1 hentity⟩
  · rintro ⟨hready, hheld⟩
    have hstored := hreachable.stored?_of_grantMap hheld.2
    exact ⟨_, hlisting.perform_ok hready hidentity hstored,
      (mem_holdings hsound hlisting.ne_credential).2 hheld⟩

theorem grantsAgree (hidentity : identity ≠ "") : dep.GrantsAgree identity where
  clouds now name settings := by
    refine Iff.trans (exists_congr fun row => and_congr_right fun _ => ?_)
      (Iff.symm (hreachable.showsGrant_iff (by nofun) (by nofun)
        (isShownBy_entityOf? hreachable.sound .cloud)))
    exact hreachable.listed_iff hidentity .clouds
  models now key settings := by
    refine Iff.trans (exists_congr fun row => and_congr_right fun _ => ?_)
      (Iff.symm (hreachable.showsGrant_iff (by nofun) (by nofun)
        (isShownBy_entityOf? hreachable.sound .model)))
    exact hreachable.listed_iff hidentity .models
  ascending now listing on held hlisting hheld := by
    obtain ⟨-, rfl⟩ := hlisting.of_perform hheld
    exact holdings_ascending hreachable.sound
  answers hready hnul now listing on hlisting :=
    ⟨_, hlisting.perform_ok hready hidentity
      (Storable.stored?_text (IdentityName.isNulFree_sanitise hnul))⟩

theorem showsIdentitiesOnce : dep.ShowsIdentitiesOnce := by
  intro now key entity hget
  obtain ⟨-, row, -, -, shown, hreply, hentity⟩ := hreachable.of_perform_retrieval key hget
  cases hreply
  have hnodup : ∀ (on : Grantable) {row : Row on.relation},
      dep.server.database.contents.entityOf? row = some entity →
        (entity.grants.map fun grant => grant.identityName).Nodup := by
    intro on row hentity
    refine List.pairwise_map.2 ((isShownBy_entityOf? hreachable.sound on hentity).ordered.imp ?_)
    intro a b hlt heq
    rw [heq] at hlt
    exact List.lt_irrefl _ hlt
  cases key with
  | cloud name => exact hnodup .cloud hentity
  | model key => exact hnodup .model hentity
  | credential key => exact hnodup .credential hentity
  | region key =>
    cases hentity
    exact List.nodup_nil
  | controller key =>
    cases hentity
    exact List.nodup_nil
  | identity name =>
    cases hentity
    exact List.nodup_nil

end Reachable
end Deployment

/-! ## Links from both sides -/

namespace Contents

/-- Whether links are all those of a row on one side, each with its partner on the other, and no two
with the same. -/
structure IsSide {q : Relation} (c : Contents) (root partner : Row .link → Int) (id : Int)
    (partnerOf : Link → Option (Row q)) (links : List Link) : Prop where
  mem_iff : ∀ row, row ∈ links.map Link.row ↔ row ∈ c.link ∧ root row = id
  partner : ∀ link ∈ links, ∃ other ∈ c.get q, partnerOf link = some other ∧
    other.id = partner link.row
  distinct : (links.map partnerOf).Nodup

section

variable {q : Relation} {c : Contents} {root partner : Row .link → Int} {id : Int}
  {partnerOf : Link → Option (Row q)} {links : List Link}

/-- Links that are ranked by their partners are a side. -/
theorem isSide_of_lists (hdistinct : c.Distinct) {before : Row q → Row q → Prop}
    (hirrefl : ∀ p, ¬before p p)
    (hlinks : ∀ a ∈ c.link, ∀ b ∈ c.link, root a = root b → partner a = partner b → a = b)
    (hlists : c.Lists (fun link => root link = id) (Row.RanksBefore c partner before)
      (links.map Link.row))
    (hpartner : ∀ link ∈ links, ∃ other, partnerOf link = some other ∧
      c.IsOnly (fun other => other.id = partner link.row) other) :
    c.IsSide root partner id partnerOf links where
  mem_iff := hlists.mem_iff
  partner link hlink := by
    obtain ⟨other, hother, honly⟩ := hpartner link hlink
    exact ⟨other, honly.mem, hother, honly.selected⟩
  distinct := by
    refine List.pairwise_map.2 ((List.pairwise_map.1 hlists.ordered).imp_of_mem ?_)
    intro a b ha hb hranks hsame
    obtain ⟨harow, haroot⟩ := (hlists.mem_iff _).1 (List.mem_map_of_mem ha)
    obtain ⟨hbrow, hbroot⟩ := (hlists.mem_iff _).1 (List.mem_map_of_mem hb)
    obtain ⟨first, hfirst, honly⟩ := hpartner a ha
    obtain ⟨second, hsecond, honly'⟩ := hpartner b hb
    obtain rfl : first = second := Option.some.inj (hfirst.symm.trans (hsame.trans hsecond))
    have heq : a.row = b.row := hlinks _ harow _ hbrow (haroot.trans hbroot.symm)
      (honly.selected.symm.trans honly'.selected)
    -- A link does not rank before itself.
    rw [heq] at hranks
    rcases hranks with hlt | ⟨-, p, hp, s, hs, hpid, hsid, hbefore⟩
    · exact Int.lt_irrefl _ hlt
    · obtain rfl : p = s := hdistinct.eq hp hs (hpid.trans hsid.symm)
      exact hirrefl p hbefore

/-- A link is on a side if its row joins the two. -/
theorem IsSide.exists_link_iff (h : c.IsSide root partner id partnerOf links)
    (hdistinct : c.Distinct) {row : Row .link} {P : Row q → Prop} :
    (∃ link ∈ links, link.row = row ∧ ∃ other, partnerOf link = some other ∧ P other) ↔
      row ∈ c.link ∧ root row = id ∧ ∃ other ∈ c.get q, other.id = partner row ∧ P other := by
  constructor
  · rintro ⟨link, hlink, rfl, other, hother, hP⟩
    obtain ⟨found, hfound, hpartner, hid⟩ := h.partner link hlink
    obtain rfl : found = other := Option.some.inj (hpartner.symm.trans hother)
    obtain ⟨hrow, hroot⟩ := (h.mem_iff _).1 (List.mem_map_of_mem hlink)
    exact ⟨hrow, hroot, found, hfound, hid, hP⟩
  · rintro ⟨hrow, hroot, other, hother, hid, hP⟩
    obtain ⟨link, hlink, rfl⟩ := List.mem_map.1 ((h.mem_iff row).2 ⟨hrow, hroot⟩)
    obtain ⟨found, hfound, hpartner, hid'⟩ := h.partner link hlink
    obtain rfl : found = other := hdistinct.eq hfound hother (hid'.trans hid.symm)
    exact ⟨link, hlink, rfl, found, hpartner, hP⟩

end

variable {db : Database} (h : db.Sound)

include h

/-- The links that a controller shows, each with its region. -/
theorem isSide_controllerAlone {row : Row .controller} (hrow : row ∈ db.contents.controller) :
    db.contents.IsSide (fun link => link.origin.controller) (fun link => link.origin.region) row.id
      (fun link => link.region.map Region.row)
      (db.contents.controllerAlone (Preload.controller "") row).links := by
  have hconsistent := Database.consistent_of_sound h
  obtain ⟨hlinks, heach⟩ := (Database.unfoldsAlone hconsistent
    (Preload.controller "").isBelow_self).controller row hrow
  have hirrefl : ∀ p : Row .region, ¬Row.IsKeyedBefore p p := fun p hp => by
    rcases hp with hlt | ⟨-, hlt⟩ <;> exact List.lt_irrefl _ hlt
  refine isSide_of_lists h.distinct hirrefl
    (fun a ha b hb hcontroller hregion => hconsistent.eq_of_link ha hb hregion hcontroller)
    (hlinks.loaded (by decide)) fun link hlink => ?_
  obtain ⟨-, -, hregion, -⟩ := heach link hlink
  exact hregion.loaded (by decide)

/-- The links that a region shows, each with its controller. -/
theorem isSide_regionAlone {row : Row .region} (hrow : row ∈ db.contents.region) :
    db.contents.IsSide (fun link => link.origin.region) (fun link => link.origin.controller) row.id
      (fun link => link.controller.map Controller.row)
      (db.contents.regionAlone (Preload.region "") row).links := by
  have hconsistent := Database.consistent_of_sound h
  obtain ⟨-, -, hlinks, heach⟩ := (Database.unfoldsAlone hconsistent
    (Preload.region "").isBelow_self).region row hrow
  refine isSide_of_lists h.distinct (fun p => List.lt_irrefl _)
    (fun a ha b hb => hconsistent.eq_of_link ha hb) (hlinks.loaded (by decide)) fun link hlink => ?_
  obtain ⟨hcontroller, -⟩ := heach link hlink
  exact hcontroller.loaded (by decide)

end Contents

namespace Deployment

open Contents

/-- Whether a controller shows a link to a region. -/
def ControllerShows (dep : Deployment) (now : Timestamp) (controller : ControllerKey)
    (region : RegionKey) (row : Row .link) : Prop :=
  ∃ shown : Controller,
    (dep.perform now .undisturbed (.getController controller)).1 =
        .ok (.entity (.controller shown)) ∧
      ∃ link ∈ shown.links, link.row = row ∧
        ∃ other, link.region.map Region.row = some other ∧ other.origin = region

/-- Whether a region shows a link to a controller. -/
def RegionShows (dep : Deployment) (now : Timestamp) (region : RegionKey)
    (controller : ControllerKey) (row : Row .link) : Prop :=
  ∃ shown : Region,
    (dep.perform now .undisturbed (.getRegion region)).1 = .ok (.entity (.region shown)) ∧
      ∃ link ∈ shown.links, link.row = row ∧
        ∃ other, link.controller.map Controller.row = some other ∧
          (Key.controller controller).Names other.toEntry

/-- Whether a controller and a region show the same link, with its number, its priority and its
times, if there is one, and show it once. -/
structure LinksAgree (dep : Deployment) (region : RegionKey) (controller : ControllerKey) :
    Prop where
  agree : ∀ now row, dep.ControllerShows now controller region row ↔
    dep.RegionShows now region controller row
  onceOnController : ∀ now shown,
    (dep.perform now .undisturbed (.getController controller)).1 =
        .ok (.entity (.controller shown)) →
      (shown.links.map fun link => link.region.map Region.row).Nodup
  onceOnRegion : ∀ now shown,
    (dep.perform now .undisturbed (.getRegion region)).1 = .ok (.entity (.region shown)) →
      (shown.links.map fun link => link.controller.map Controller.row).Nodup

/-- Whether a row of a link joins a region and a controller that are stored. -/
def Joins (c : Contents) (region : RegionKey) (controller : ControllerKey) (row : Row .link) :
    Prop :=
  row ∈ c.link ∧
    (∃ first ∈ c.region, first.origin = region ∧ first.id = row.origin.region) ∧
    ∃ second ∈ c.controller, (Key.controller controller).Names second.toEntry ∧
      second.id = row.origin.controller

namespace Reachable

variable {dep : Deployment} (hreachable : dep.Reachable) {now : Timestamp} {region : RegionKey}
  {controller : ControllerKey} {row : Row .link}

include hreachable

theorem of_getController {shown : Controller}
    (h : (dep.perform now .undisturbed (.getController controller)).1 =
      .ok (.entity (.controller shown))) :
    dep.store.lifecycle = .ready ∧ ∃ row ∈ dep.server.database.contents.controller,
      (Key.controller controller).Names row.toEntry ∧
        shown = dep.server.database.contents.controllerAlone (Preload.controller "") row := by
  obtain ⟨hready, row, hrow, hnames, entity, hreply, hentity⟩ :=
    hreachable.of_perform_retrieval (.controller controller) h
  cases hreply
  cases hentity
  exact ⟨hready, row, hrow, hnames, rfl⟩

theorem of_getRegion {shown : Region}
    (h : (dep.perform now .undisturbed (.getRegion region)).1 = .ok (.entity (.region shown))) :
    dep.store.lifecycle = .ready ∧ ∃ row ∈ dep.server.database.contents.region,
      row.origin = region ∧
        shown = dep.server.database.contents.regionAlone (Preload.region "") row := by
  obtain ⟨hready, row, hrow, hnames, entity, hreply, hentity⟩ :=
    hreachable.of_perform_retrieval (.region region) h
  cases hreply
  cases hentity
  exact ⟨hready, row, hrow, hnames, rfl⟩

theorem controllerShows_iff : dep.ControllerShows now controller region row ↔
    dep.store.lifecycle = .ready ∧ Joins dep.server.database.contents region controller row := by
  have hsound := hreachable.sound
  constructor
  · rintro ⟨shown, hget, hlink⟩
    obtain ⟨hready, second, hsecond, hnames, rfl⟩ := hreachable.of_getController hget
    obtain ⟨hrow, hid, first, hfirst, hid', horigin⟩ :=
      ((isSide_controllerAlone hsound hsecond).exists_link_iff hsound.distinct).1 hlink
    exact ⟨hready, hrow, ⟨first, hfirst, horigin, hid'⟩, second, hsecond, hnames, hid.symm⟩
  · rintro ⟨hready, hrow, ⟨first, hfirst, horigin, hid⟩, second, hsecond, hnames, hid'⟩
    have hparts := hreachable.keyParts_nonempty_of_ne (r := .controller) nofun nofun hsecond
    refine ⟨_, hreachable.perform_retrieval (.controller controller) hready hsecond hnames
      hparts rfl now, ?_⟩
    exact ((isSide_controllerAlone hsound hsecond).exists_link_iff hsound.distinct).2
      ⟨hrow, hid'.symm, first, hfirst, hid, horigin⟩

theorem regionShows_iff (hparts : "" ∉ region.parts) :
    dep.RegionShows now region controller row ↔
      dep.store.lifecycle = .ready ∧ Joins dep.server.database.contents region controller row := by
  have hsound := hreachable.sound
  constructor
  · rintro ⟨shown, hget, hlink⟩
    obtain ⟨hready, first, hfirst, horigin, rfl⟩ := hreachable.of_getRegion hget
    obtain ⟨hrow, hid, second, hsecond, hid', hnames⟩ :=
      ((isSide_regionAlone hsound hfirst).exists_link_iff hsound.distinct).1 hlink
    exact ⟨hready, hrow, ⟨first, hfirst, horigin, hid.symm⟩, second, hsecond, hnames, hid'⟩
  · rintro ⟨hready, hrow, ⟨first, hfirst, rfl, hid⟩, second, hsecond, hnames, hid'⟩
    refine ⟨_, hreachable.perform_retrieval (.region first.origin) hready hfirst rfl
      hparts rfl now, ?_⟩
    exact ((isSide_regionAlone hsound hfirst).exists_link_iff hsound.distinct).2
      ⟨hrow, hid.symm, second, hsecond, hid', hnames⟩

theorem linksAgree (hparts : "" ∉ region.parts) : dep.LinksAgree region controller where
  agree now row := hreachable.controllerShows_iff.trans (hreachable.regionShows_iff hparts).symm
  onceOnController now shown hget := by
    obtain ⟨-, row, hrow, -, rfl⟩ := hreachable.of_getController hget
    exact (isSide_controllerAlone hreachable.sound hrow).distinct
  onceOnRegion now shown hget := by
    obtain ⟨-, row, hrow, -, rfl⟩ := hreachable.of_getRegion hget
    exact (isSide_regionAlone hreachable.sound hrow).distinct

omit hreachable

/-- Whatever a session did, the grants of each identity with a name are the same from both sides,
and so are the links of each region whose key has no empty parts. -/
theorem directions_agree (h : dep.Reachable) :
    (∀ identity, identity ≠ "" → dep.GrantsAgree identity) ∧ dep.ShowsIdentitiesOnce ∧
      ∀ region controller, "" ∉ region.parts → dep.LinksAgree region controller :=
  ⟨fun _ hidentity => h.grantsAgree hidentity, h.showsIdentitiesOnce,
    fun _ _ hparts => h.linksAgree hparts⟩

/-- A cloud with a grant to one identity, and a controller that serves its region. -/
theorem directions_agree_aws :
    let dep := (initial .default).run
      [.migrate .undisturbed false,
        .perform ⟨0, 0⟩ .undisturbed (.addCloud ⟨"aws", ⟨"ec2", "", [], .none, [], .empty⟩,
          [⟨"west", .none, .empty⟩]⟩),
        .perform ⟨60, 0⟩ .undisturbed (.addController
          ⟨⟨"one", ⟨1⟩, ⟨"aws", "west"⟩⟩, ⟨"", "", "", "", false, "", [], none, .empty⟩,
            [⟨⟨"aws", "west"⟩, 7⟩]⟩),
        .perform ⟨120, 0⟩ .undisturbed (.assignCloudGrant "aws" "ann" (some .admin))]
    (dep.ListsHeld ⟨180, 0⟩ (.cloudsOfIdentity "ann") (.cloud "aws") ⟨.admin, none⟩ ∧
      dep.ShowsGrant ⟨180, 0⟩ (.cloud "aws") "ann" ⟨.admin, none⟩) ∧
    ∃ row : Row .link, row.settings = 7 ∧
      dep.ControllerShows ⟨180, 0⟩ (.name "one") ⟨"aws", "west"⟩ row ∧
      dep.RegionShows ⟨180, 0⟩ ⟨"aws", "west"⟩ (.name "one") row := by
  intro dep
  have hreachable : dep.Reachable := ⟨.default, _, rfl⟩
  have hready : dep.store.lifecycle = .ready := by decide +kernel
  obtain ⟨hgrants, -, hlinks⟩ := directions_agree hreachable
  constructor
  · have hlisted : dep.ListsHeld ⟨180, 0⟩ (.cloudsOfIdentity "ann") (.cloud "aws")
        ⟨.admin, none⟩ := by
      have hrow : ∃ row ∈ dep.server.database.contents.cloud, row.origin = "aws" ∧
          dep.server.database.contents.grantMap ⟨.cloud, row.id, "ann"⟩ =
            some ⟨.admin, none⟩ := by decide +kernel
      obtain ⟨row, hrow, hname, hentry⟩ := hrow
      exact ⟨row, hname, (hreachable.listed_iff (by decide) .clouds).2 ⟨hready, hrow, hentry⟩⟩
    exact ⟨hlisted, ((hgrants "ann" (by decide)).clouds _ _ _).1 hlisted⟩
  · have hjoined : ∃ row ∈ dep.server.database.contents.link, row.settings = 7 ∧
        (∃ first ∈ dep.server.database.contents.region,
          first.origin = ⟨"aws", "west"⟩ ∧ first.id = row.origin.region) ∧
        ∃ second ∈ dep.server.database.contents.controller,
          second.origin.name = "one" ∧ second.id = row.origin.controller := by decide +kernel
    obtain ⟨row, hrow, hpriority, hregion, hcontroller⟩ := hjoined
    have hshown : dep.ControllerShows ⟨180, 0⟩ (.name "one") ⟨"aws", "west"⟩ row :=
      hreachable.controllerShows_iff.2 ⟨hready, hrow, hregion, hcontroller⟩
    exact ⟨row, hpriority, hshown, ((hlinks _ _ (by decide)).agree _ _).1 hshown⟩

end Reachable
end Deployment
end ControlPlane
