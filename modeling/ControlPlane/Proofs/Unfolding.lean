/-
What hydration gives.

A graph says what is loaded, path by path.  `Unfolds` reads it so: an entity that is reached along a
path holds, in each association whose path is in the graph, what the association leads to, and in
every other association nothing; and the same is true of each entity that it holds, along the longer
path.  Nothing in this speaks of queries.  Hydration gives for some rows, in their order, what it
gives for each of them alone, and that unfolds the graph (`Deployment.Reachable.hydration_unfolds`).
Clouds, regions, links and controllers hold one another, so of these it is proved together, by
induction on the size of the graph that is left.
-/
import ControlPlane.Proofs.Associations

namespace ControlPlane

open Preload (join)

namespace Contents

variable {r : Relation}

/-- What an association to many holds: the rows to which it leads if it is asked for, and nothing
otherwise. -/
structure HasMany (c : Contents) (isAskedFor : Bool) (selects : Row r → Prop)
    (precedes : Row r → Row r → Prop) (rows : List (Row r)) : Prop where
  loaded : isAskedFor = true → c.Lists selects precedes rows
  absent : isAskedFor = false → rows = []

/-- What an association to one holds: the row to which it leads if it is asked for, and nothing
otherwise. -/
structure BelongsTo (c : Contents) (isAskedFor : Bool) (selects : Row r → Prop)
    (row? : Option (Row r)) : Prop where
  loaded : isAskedFor = true → ∃ row, row? = some row ∧ c.IsOnly selects row
  absent : isAskedFor = false → row? = none

end Contents

/-! ## Unfolding -/

/-- Whether a grant shows a row, with its identity if the graph asks for it. -/
structure Grant.Unfolds (c : Contents) (g : Preload) (above : String) {on : Grantable}
    (row : Row (.grant on)) (grant : Grant) : Prop where
  identityName : grant.identityName = row.origin.identity
  settings : grant.settings = row.settings
  createdAt : grant.createdAt = row.createdAt
  updatedAt : grant.updatedAt = row.updatedAt
  identity : c.BelongsTo (g.contains (join above "identity"))
    (fun identity : Row .identity => identity.origin = row.origin.identity)
    (grant.identity.map Identity.row)

/-- Whether grants are those on an object, if the graph asks for them. -/
def Grants.Unfold (c : Contents) (g : Preload) (above : String) (on : Grantable) (object : Int)
    (grants : List Grant) : Prop :=
  ∃ rows : List (Row (.grant on)),
    c.HasMany (g.contains (join above "grants"))
      (fun grant : Row (.grant on) => grant.origin.object = object) Row.IsGrantedBefore rows ∧
    List.Forall₂ (Grant.Unfolds c g (join above "grants")) rows grants

mutual

/-- Whether a cloud that is reached along a path holds what the graph asks for, and what it holds
does so too. -/
inductive Cloud.Unfolds (c : Contents) (g : Preload) : String → Cloud → Prop
  | intro {above : String} {cloud : Cloud}
    (regions : c.HasMany (g.contains (join above "regions"))
      (fun region : Row .region => region.origin.cloud = cloud.row.origin) Row.IsNamedBefore
      (cloud.regions.map Region.row))
    (eachRegion : ∀ region ∈ cloud.regions, Region.Unfolds c g (join above "regions") region)
    (grants : Grants.Unfold c g above .cloud cloud.row.id cloud.grants) :
    Cloud.Unfolds c g above cloud

inductive Region.Unfolds (c : Contents) (g : Preload) : String → Region → Prop
  | intro {above : String} {region : Region}
    (cloud : c.BelongsTo (g.contains (join above "cloud"))
      (fun cloud : Row .cloud => cloud.origin = region.row.origin.cloud)
      (region.cloud.map Cloud.row))
    (itsCloud : ∀ cloud ∈ region.cloud, Cloud.Unfolds c g (join above "cloud") cloud)
    (links : c.HasMany (g.contains (join above "controllers"))
      (fun link : Row .link => link.origin.region = region.row.id)
      (Row.RanksBefore c (fun link => link.origin.controller)
        fun a b : Row .controller => Text.IsBefore a.origin.name b.origin.name)
      (region.links.map Link.row))
    (eachLink : ∀ link ∈ region.links, Link.Unfolds c g (join above "controllers") link) :
    Region.Unfolds c g above region

inductive Link.Unfolds (c : Contents) (g : Preload) : String → Link → Prop
  | intro {above : String} {link : Link}
    (controller : c.BelongsTo (g.contains (join above "controller"))
      (fun controller : Row .controller => controller.id = link.row.origin.controller)
      (link.controller.map Controller.row))
    (itsController : ∀ controller ∈ link.controller,
      Controller.Unfolds c g (join above "controller") controller)
    (region : c.BelongsTo (g.contains (join above "cloud_region"))
      (fun region : Row .region => region.id = link.row.origin.region) (link.region.map Region.row))
    (itsRegion : ∀ region ∈ link.region, Region.Unfolds c g (join above "cloud_region") region) :
    Link.Unfolds c g above link

inductive Controller.Unfolds (c : Contents) (g : Preload) : String → Controller → Prop
  | intro {above : String} {controller : Controller}
    (links : c.HasMany (g.contains (join above "cloud_regions"))
      (fun link : Row .link => link.origin.controller = controller.row.id)
      (Row.RanksBefore c (fun link => link.origin.region) Row.IsKeyedBefore)
      (controller.links.map Link.row))
    (eachLink : ∀ link ∈ controller.links,
      Link.Unfolds c g (join above "cloud_regions") link) :
    Controller.Unfolds c g above controller

end

structure Credential.Unfolds (c : Contents) (g : Preload) (above : String)
    (credential : Credential) : Prop where
  cloud : c.BelongsTo (g.contains (join above "cloud"))
    (fun cloud : Row .cloud => cloud.origin = credential.row.origin.cloud)
    (credential.cloud.map Cloud.row)
  itsCloud : ∀ cloud ∈ credential.cloud, Cloud.Unfolds c g (join above "cloud") cloud
  owner : c.BelongsTo (g.contains (join above "owner"))
    (fun owner : Row .identity => owner.origin = credential.row.origin.owner)
    (credential.owner.map Identity.row)
  grants : Grants.Unfold c g above .credential credential.row.id credential.grants

structure Model.Unfolds (c : Contents) (g : Preload) (above : String) (model : Model) : Prop where
  owner : c.BelongsTo (g.contains (join above "owner"))
    (fun owner : Row .identity => owner.origin = model.row.origin.owner)
    (model.owner.map Identity.row)
  controller : c.BelongsTo (g.contains (join above "controller"))
    (fun controller : Row .controller => controller.id = model.row.settings.controller)
    (model.controller.map Controller.row)
  itsController : ∀ controller ∈ model.controller,
    Controller.Unfolds c g (join above "controller") controller
  region : c.BelongsTo (g.contains (join above "cloud_region"))
    (fun region : Row .region => region.id = model.row.origin.region) (model.region.map Region.row)
  itsRegion : ∀ region ∈ model.region, Region.Unfolds c g (join above "cloud_region") region
  credential : c.BelongsTo (g.contains (join above "cloud_credential"))
    (fun credential : Row .credential => credential.id = model.row.settings.credential)
    (model.credential.map Credential.row)
  itsCredential : ∀ credential ∈ model.credential,
    Credential.Unfolds c g (join above "cloud_credential") credential
  grants : Grants.Unfold c g above .model model.row.id model.grants

/-! ## Associations that are hydrated -/

namespace Contents

variable {r : Relation} {c : Contents} {ε : Type} {rowOf : ε → Row r} {one : Row r → ε}
  {hydrate : List (Row r) → List ε} {b asked : Bool} {rows : List (Row r)} {selects : Row r → Prop}
  {P : ε → Prop}

theorem hasMany_part (h : HydratesBy rowOf hydrate one) (hasked : b = asked)
    {precedes : Row r → Row r → Prop} (hdistinct : Row.AreDistinct rows)
    (hlists : c.Lists selects precedes rows) (hone : b = true → ∀ row ∈ c.get r, P (one row)) :
    c.HasMany asked selects precedes ((if b = true then hydrate rows else []).map rowOf) ∧
      ∀ e ∈ if b = true then hydrate rows else [], P e := by
  subst hasked
  refine ⟨⟨fun hb => ?_, fun hb => ?_⟩, fun e he => ?_⟩
  · rwa [if_pos hb, h.showsRows]
  · rw [if_neg (ne_true_of_eq_false hb), List.map_nil]
  · exact of_mem_part h hdistinct
      (fun hb row hrow => hone hb row ((hlists.mem_iff row).1 hrow).1) he

theorem belongsTo_part (h : HydratesBy rowOf hydrate one) (hasked : b = asked)
    (hdistinct : Row.AreDistinct rows) (honly : ∃ row, rows.head? = some row ∧ c.IsOnly selects row)
    (hrows : ∀ row ∈ rows, row ∈ c.get r) (hone : b = true → ∀ row ∈ c.get r, P (one row)) :
    c.BelongsTo asked selects ((if b = true then hydrate rows else []).head?.map rowOf) ∧
      ∀ e ∈ (if b = true then hydrate rows else []).head?, P e := by
  subst hasked
  refine ⟨⟨fun hb => ?_, fun hb => ?_⟩, fun e he => ?_⟩
  · obtain ⟨row, hhead, hrow⟩ := honly
    refine ⟨row, ?_, hrow⟩
    rw [if_pos hb, ← List.head?_map, h.showsRows, hhead]
  · rw [if_neg (ne_true_of_eq_false hb), List.head?_nil, Option.map_none]
  · exact of_mem_part h hdistinct (fun hb row hrow => hone hb row (hrows row hrow))
      (List.mem_of_mem_head? he)

end Contents

namespace Database

open Contents

variable {db : Database} {part g : Preload} {above : String}

/-- The identity that is loaded for a name. -/
theorem belongsTo_identity (h : db.Consistent) {b asked : Bool} (hasked : b = asked) {name : String}
    (hexists : ∃ row ∈ db.contents.identity, row.origin = name) :
    db.contents.BelongsTo asked (fun identity : Row .identity => identity.origin = name)
      ((if b = true then hydrateIdentities (db.contents.identitiesNamed [name])
        else []).head?.map Identity.row) :=
  (belongsTo_part (P := fun _ => True) hydratesBy_identities hasked
    (h.allDistinct.identitiesNamed.distinct _) (head?_identitiesNamed h hexists)
    (fun _ => mem_sortBy_filter) fun _ _ _ => trivial).1

/-- The grants that are loaded for an object unfold the graph below it. -/
theorem unfold_grants (h : db.Consistent) (hbelow : part.IsBelow g above) (on : Grantable)
    (object : Int) :
    Grants.Unfold db.contents g above on object
      (if part.contains "grants" = true then
        (db.contents.grantsOn on [object]).map (db.contents.grantOfRow (part.nested "grants"))
      else []) := by
  have hasked : part.contains "grants" = g.contains (join above "grants") := hbelow _
  have hlists := lists_grantsOn h on object
  by_cases hgrants : part.contains "grants" = true
  · refine ⟨db.contents.grantsOn on [object], ⟨fun _ => hlists, fun habsent => ?_⟩, ?_⟩
    · rw [← hasked, hgrants] at habsent
      cases habsent
    · rw [if_pos hgrants, List.forall₂_map_right_iff, List.forall₂_same]
      intro row hrow
      have hmem := (hlists.mem_iff row).1 hrow
      have hidentity := belongsTo_identity h (hbelow.nested "grants" (by decide) "identity")
        (h.identityOfGrant on row hmem.1)
      rw [apply_ite List.head?] at hidentity
      exact ⟨rfl, rfl, rfl, rfl, hidentity⟩
  · refine ⟨[], ⟨fun hloaded => ?_, fun _ => rfl⟩, ?_⟩
    · rw [← hasked] at hloaded
      exact absurd hloaded hgrants
    · rw [if_neg hgrants]
      exact .nil

/-- Whether what is hydrated of each row alone, along a path that leaves a part of the graph,
unfolds the graph. -/
structure UnfoldsAlone (c : Contents) (g part : Preload) (above : String) : Prop where
  cloud : ∀ row ∈ c.get .cloud, Cloud.Unfolds c g above (c.cloudAlone part row)
  region : ∀ row ∈ c.get .region, Region.Unfolds c g above (c.regionAlone part row)
  link : ∀ row ∈ c.get .link, Link.Unfolds c g above (c.linkAlone part row)
  controller : ∀ row ∈ c.get .controller, Controller.Unfolds c g above (c.controllerAlone part row)

/-- Each step along an association leaves a smaller part of the graph, so the induction is on the
size of that part, for all four kinds that hold one another. -/
theorem unfoldsAlone (h : db.Consistent) (hbelow : part.IsBelow g above) :
    UnfoldsAlone db.contents g part above := by
  induction hsize : part.size using Nat.strongRecOn generalizing part above with
  | ind n ih =>
    have below : ∀ {association : String}, association ≠ "" → part.contains association = true →
        UnfoldsAlone db.contents g (part.nested association) (join above association) := by
      intro association hne hcontains
      exact ih _ (hsize ▸ Preload.size_nested_lt hcontains) (hbelow.nested _ hne) rfl
    constructor
    · intro row hrow
      have hregions := hasMany_part (P := Region.Unfolds db.contents g _)
        (h.allDistinct.hydratesGraph _).regions (hbelow "regions")
        (h.allDistinct.regionsOfClouds.distinct _) (lists_regionsOfClouds h row.origin)
        fun hb => (below (by decide) hb).region
      exact .intro hregions.1 hregions.2 (unfold_grants h hbelow .cloud row.id)
    · intro row hrow
      have hcloud := belongsTo_part (P := Cloud.Unfolds db.contents g _)
        (h.allDistinct.hydratesGraph _).clouds (hbelow "cloud")
        (h.allDistinct.cloudsNamed.distinct _) (head?_cloudsNamed h (h.cloudOfRegion row hrow))
        (fun _ => mem_sortBy_filter)
        fun hb => (below (by decide) hb).cloud
      have hlinks := hasMany_part (P := Link.Unfolds db.contents g _)
        (h.allDistinct.hydratesGraph _).links (hbelow "controllers")
        (h.allDistinct.linksOfRegions.distinct _) (lists_linksOfRegions h row.id)
        fun hb => (below (by decide) hb).link
      exact .intro hcloud.1 hcloud.2 hlinks.1 hlinks.2
    · intro row hrow
      have hcontroller := belongsTo_part (P := Controller.Unfolds db.contents g _)
        (h.allDistinct.hydratesGraph _).controllers (hbelow "controller")
        ((h.allDistinct.withIds _).distinct _) (head?_withIds h (h.controllerOfLink row hrow))
        (fun _ => mem_sortBy_filter)
        fun hb => (below (by decide) hb).controller
      have hregion := belongsTo_part (P := Region.Unfolds db.contents g _)
        (h.allDistinct.hydratesGraph _).regions (hbelow "cloud_region")
        ((h.allDistinct.withIds _).distinct _) (head?_withIds h (h.regionOfLink row hrow))
        (fun _ => mem_sortBy_filter)
        fun hb => (below (by decide) hb).region
      exact .intro hcontroller.1 hcontroller.2 hregion.1 hregion.2
    · intro row hrow
      have hlinks := hasMany_part (P := Link.Unfolds db.contents g _)
        (h.allDistinct.hydratesGraph _).links (hbelow "cloud_regions")
        (h.allDistinct.linksOfControllers.distinct _) (lists_linksOfControllers h row.id)
        fun hb => (below (by decide) hb).link
      exact .intro hlinks.1 hlinks.2

/-! ## Credentials and models

Nothing that they hold holds a credential with associations of its own or a model, so no induction
is needed. -/

theorem credentialAlone_unfolds (h : db.Consistent) (hbelow : part.IsBelow g above) :
    ∀ row ∈ db.contents.credential,
      Credential.Unfolds db.contents g above (db.contents.credentialAlone part row) := by
  intro row hrow
  have hcloud := belongsTo_part (P := Cloud.Unfolds db.contents g _)
    (h.allDistinct.hydratesGraph _).clouds (hbelow "cloud")
    (h.allDistinct.cloudsNamed.distinct _) (head?_cloudsNamed h (h.cloudOfCredential row hrow))
    (fun _ => mem_sortBy_filter)
    fun _ => (unfoldsAlone h (hbelow.nested "cloud" (by decide))).cloud
  have howner := belongsTo_identity h (hbelow "owner") (h.ownerOfCredential row hrow)
  exact ⟨hcloud.1, hcloud.2, howner, unfold_grants h hbelow .credential row.id⟩

theorem modelAlone_unfolds (h : db.Consistent) (hbelow : part.IsBelow g above) :
    ∀ row ∈ db.contents.model,
      Model.Unfolds db.contents g above (db.contents.modelAlone part row) := by
  intro row hrow
  have howner := belongsTo_identity h (hbelow "owner") (h.ownerOfModel row hrow)
  have hcontroller := belongsTo_part (P := Controller.Unfolds db.contents g _)
    (h.allDistinct.hydratesGraph _).controllers (hbelow "controller")
    ((h.allDistinct.withIds _).distinct _) (head?_withIds h (h.controllerOfModel row hrow))
    (fun _ => mem_sortBy_filter)
    fun _ => (unfoldsAlone h (hbelow.nested "controller" (by decide))).controller
  have hregion := belongsTo_part (P := Region.Unfolds db.contents g _)
    (h.allDistinct.hydratesGraph _).regions (hbelow "cloud_region")
    ((h.allDistinct.withIds _).distinct _) (head?_withIds h (h.regionOfModel row hrow))
    (fun _ => mem_sortBy_filter)
    fun _ => (unfoldsAlone h (hbelow.nested "cloud_region" (by decide))).region
  have hcredential := belongsTo_part (P := Credential.Unfolds db.contents g _)
    (h.allDistinct.hydratesBy_credentials _) (hbelow "cloud_credential")
    ((h.allDistinct.withIds _).distinct _) (head?_withIds h (h.credentialOfModel row hrow))
    (fun _ => mem_sortBy_filter)
    fun _ => credentialAlone_unfolds h (hbelow.nested "cloud_credential" (by decide))
  exact ⟨howner, hcontroller.1, hcontroller.2, hregion.1, hregion.2, hcredential.1, hcredential.2,
    unfold_grants h hbelow .model row.id⟩

end Database

/-! ## Hydration as a whole -/

/-- Whether distinct rows are hydrated together as each is alone, in their order, so that each
entity shows its row and unfolds. -/
def Contents.HydratesRowByRow {r : Relation} {ε : Type} (c : Contents)
    (hydrate : List (Row r) → List ε) (rowOf : ε → Row r) (unfolds : ε → Prop) : Prop :=
  ∀ rows : List (Row r), rows.Nodup → (∀ row ∈ rows, row ∈ c.get r) →
    List.Forall₂ (fun row entity => hydrate [row] = [entity] ∧ rowOf entity = row ∧ unfolds entity)
      rows (hydrate rows)

theorem Contents.HydratesBy.rowByRow {r : Relation} {ε : Type} {c : Contents}
    {hydrate : List (Row r) → List ε} {rowOf : ε → Row r} {one : Row r → ε} {unfolds : ε → Prop}
    (h : HydratesBy rowOf hydrate one) (hdistinct : Row.AreDistinct (c.get r))
    (hone : ∀ row ∈ c.get r, unfolds (one row)) : c.HydratesRowByRow hydrate rowOf unfolds := by
  intro rows hnodup hrows
  rw [h.eq_map (hdistinct.of_subset hnodup hrows), List.forall₂_map_right_iff, List.forall₂_same]
  intro row hrow
  exact ⟨h.eq_map (.singleton row), h.shows row, hone row (hrows row hrow)⟩

namespace Deployment

open Contents

/-- Whatever a session did, and whatever the graph, rows of each kind are hydrated together as each
is alone, and each entity is the unfolding of the graph. -/
theorem Reachable.hydration_unfolds {dep : Deployment} (h : dep.Reachable) (g : Preload) :
    let c := dep.server.database.contents
    c.HydratesRowByRow (c.hydrateClouds g) Cloud.row (Cloud.Unfolds c g "") ∧
    c.HydratesRowByRow (c.hydrateRegions g) Region.row (Region.Unfolds c g "") ∧
    c.HydratesRowByRow (c.hydrateControllers g) Controller.row (Controller.Unfolds c g "") ∧
    c.HydratesRowByRow (c.hydrateModels g) Model.row (Model.Unfolds c g "") ∧
    c.HydratesRowByRow (c.hydrateCredentials g) Credential.row (Credential.Unfolds c g "") ∧
    c.HydratesRowByRow hydrateIdentities Identity.row fun _ => True := by
  intro c
  have hconsistent := Database.consistent_of_sound h.sound
  have hdistinct := hconsistent.allDistinct
  have hgraph := hdistinct.hydratesGraph g
  have halone := Database.unfoldsAlone hconsistent g.isBelow_self
  exact ⟨hgraph.clouds.rowByRow (hdistinct .cloud) halone.cloud,
    hgraph.regions.rowByRow (hdistinct .region) halone.region,
    hgraph.controllers.rowByRow (hdistinct .controller) halone.controller,
    (hdistinct.hydratesBy_models g).rowByRow (hdistinct .model)
      (Database.modelAlone_unfolds hconsistent g.isBelow_self),
    (hdistinct.hydratesBy_credentials g).rowByRow (hdistinct .credential)
      (Database.credentialAlone_unfolds hconsistent g.isBelow_self),
    hydratesBy_identities.rowByRow (hdistinct .identity) fun _ _ => trivial⟩

/-- Two regions share two controllers, each of which ranks first in one of them. -/
theorem hydration_unfolds_shared_controllers :
    let controller (name : String) (uuid : Uuid) (west east : Int) : Controller.Draft :=
      ⟨⟨name, uuid, ⟨"aws", "west"⟩⟩, ⟨"", "", "", "", false, "", [], none, .empty⟩,
        [⟨⟨"aws", "west"⟩, west⟩, ⟨⟨"aws", "east"⟩, east⟩]⟩
    let dep := (initial .default).run
      [.migrate .undisturbed false,
        .perform ⟨0, 0⟩ .undisturbed (.addCloud ⟨"aws", ⟨"ec2", "", [], .none, [], .empty⟩,
          [⟨"west", .none, .empty⟩, ⟨"east", .none, .empty⟩]⟩),
        .perform ⟨60, 0⟩ .undisturbed (.addController (controller "one" ⟨1⟩ 10 1)),
        .perform ⟨120, 0⟩ .undisturbed (.addController (controller "two" ⟨2⟩ 1 10))]
    let c := dep.server.database.contents
    c.region.map (fun row => row.origin.region) = ["west", "east"] ∧
    c.link.map (fun row => (row.origin.region, row.origin.controller, row.settings)) =
      [(1, 1, 10), (2, 1, 1), (1, 2, 1), (2, 2, 10)] ∧
    c.region.Nodup ∧
    List.Forall₂ (fun row (entity : Region) => c.hydrateRegions (.region "") [row] = [entity] ∧
        entity.row = row ∧ Region.Unfolds c (.region "") "" entity)
      c.region (c.hydrateRegions (.region "") c.region) := by
  intro controller dep c
  have hreachable : dep.Reachable := ⟨.default, _, rfl⟩
  have hnodup : c.region.Nodup :=
    (Database.consistent_of_sound hreachable.sound).nodup .region
  refine ⟨by decide +kernel, by decide +kernel, hnodup, ?_⟩
  exact (Reachable.hydration_unfolds hreachable (.region "")).2.1 _ hnodup fun _ hrow => hrow

end Deployment
end ControlPlane
