/-
Listings and iterations show the same entities.

All that an iteration visits are the entities of its rows (`Iteration.shown`).  A query that lists
entities has a predicate, an order and a hydration of its own; what it answers are the entities of
an iteration of which its predicate holds (`Iteration.filter_shown`), since an entity shows what the
predicate asks of its row.  And each of these entities is what its keys retrieve.
-/
import ControlPlane.Proofs.Retrieval

namespace ControlPlane

open IdentityName (sanitise)

/-! ## What entities show -/

namespace Entity

/-- Whether a model has one of the identifiers. -/
def hasUuidAmong (uuids : List Uuid) : Entity → Bool
  | .model shown => shown.row.settings.uuid.any uuids.contains
  | _ => false

/-- Whether a model uses a credential. -/
def uses (credential : Int) : Entity → Bool
  | .model shown => shown.row.settings.credential = credential
  | _ => false

/-- Whether a model is shown with the controller that a key names. -/
def runsOn (key : ControllerKey) : Entity → Bool
  | .model shown =>
    shown.controller.any fun host => (Key.controller key).Names host.row.toEntry
  | _ => false

/-- Whether a region or a credential is one of a cloud. -/
def isOfCloud (cloud : String) : Entity → Bool
  | .region shown => shown.row.origin.cloud = cloud
  | .credential shown => shown.row.origin.cloud = cloud
  | _ => false

end Entity

/-- A model is shown with the controller of its row. -/
theorem Database.runsOn_eq {db : Database} (h : db.Consistent) {row : Row .model}
    (hrow : row ∈ db.contents.model) {entity : Entity}
    (hentity : db.contents.entityOf? row = some entity) (key : ControllerKey) :
    entity.runsOn key =
      (db.contents.controllerRow? key).any fun host => row.settings.controller = host.id := by
  cases hentity
  obtain ⟨host, hhost, honly⟩ :=
    (modelAlone_unfolds h (Preload.model "").isBelow_self row hrow).controller.loaded (by decide)
  obtain ⟨shown, hshown, rfl⟩ := Option.map_eq_some_iff.1 hhost
  have hid : shown.row.id = row.settings.controller := honly.selected
  rw [Entity.runsOn, hshown, Option.any_some, Bool.eq_iff_iff, decide_eq_true_eq,
    Option.any_eq_true]
  constructor
  · intro hnames
    refine ⟨shown.row, (Iteration.controllerRow?_eq_some h).2 ⟨honly.mem, ?_⟩,
      decide_eq_true hid.symm⟩
    cases key <;> exact hnames
  · rintro ⟨found, hkey, hsame⟩
    obtain ⟨hmem, hnames⟩ := (Iteration.controllerRow?_eq_some h).1 hkey
    rw [← honly.only found hmem (of_decide_eq_true hsame).symm]
    cases key <;> exact hnames

/-! ## What there is to visit -/

namespace Iteration

variable {it : Iteration} {c : Contents}

/-- All entities that there are to visit, in their order. -/
def shown (it : Iteration) (c : Contents) : List Entity :=
  it.listing.2.entities c (sortBy it.listing.2.order (it.listing.2.rows c))

section

variable (hc : c.AllDistinct)

include hc

/-- An iteration shows a row as any other way of reaching it does. -/
theorem entities_eq (it : Iteration) {rows : List (Row it.listing.1)}
    (hrows : Row.AreDistinct rows) : it.listing.2.entities c rows = rows.filterMap c.entityOf? := by
  have lift : ∀ {r : Relation} {ε : Type} {rowOf : ε → Row r} {hydrate : List (Row r) → List ε}
      {one : Row r → ε} {wrap : ε → Entity} {rows : List (Row r)}, Row.AreDistinct rows →
      Contents.HydratesBy rowOf hydrate one →
      (∀ row, c.entityOf? row = some (wrap (one row))) →
      (hydrate rows).map wrap = rows.filterMap c.entityOf? := by
    intro r ε rowOf hydrate one wrap rows hrows hhydrate hentity
    rw [hhydrate.eq_map hrows, List.map_map, ← List.filterMap_eq_map, funext hentity]
    rfl
  cases it with
  | clouds => exact lift hrows (hc.hydratesGraph _).clouds fun _ => rfl
  | regions cloud => exact lift hrows (hc.hydratesGraph _).regions fun _ => rfl
  | controllers => exact lift hrows (hc.hydratesGraph _).controllers fun _ => rfl
  | models => exact lift hrows (hc.hydratesBy_models _) fun _ => rfl
  | modelsOn key => exact lift hrows (hc.hydratesBy_models _) fun _ => rfl
  | identities => exact lift hrows Contents.hydratesBy_identities fun _ => rfl
  | credentials owner cloud => exact lift hrows (hc.hydratesBy_credentials _) fun _ => rfl

/-- All that there is to visit are the entities of the rows, sorted. -/
theorem shown_eq (it : Iteration) : it.shown c =
    (sortBy it.listing.2.order (it.listing.2.rows c)).filterMap c.entityOf? :=
  entities_eq hc it (it.sortBy_rows_areDistinct hc)

theorem mem_shown {entity : Entity} :
    entity ∈ it.shown c ↔ ∃ row ∈ it.listing.2.rows c, c.entityOf? row = some entity := by
  rw [shown_eq hc, List.mem_filterMap]
  exact exists_congr fun row => and_congr_left' mem_sortBy

/-- What an iteration shows of which something holds is what it would show if it were about the rows
of which it holds. -/
theorem filter_shown (it : Iteration) {holds : Entity → Bool} {p : Row it.listing.1 → Bool}
    (h : ∀ row ∈ it.listing.2.rows c, ∀ entity, c.entityOf? row = some entity →
      holds entity = p row) :
    (it.shown c).filter holds = it.listing.2.entities c
      (sortBy it.listing.2.order ((it.listing.2.rows c).filter p)) := by
  have := it.listing.2.trans
  have hpicked : Row.AreDistinct ((it.listing.2.rows c).filter p) :=
    (hc _).sublist (List.filter_sublist.trans (it.rows_sublist c))
  rw [shown_eq hc, entities_eq hc it (hpicked.sortBy _), ← sortBy_filter, List.filter_filterMap,
    List.filterMap_filter]
  refine List.filterMap_congr fun row hrow => ?_
  cases hentity : c.entityOf? row with
  | none => simp
  | some entity =>
    rw [Option.filter_some, h row (mem_sortBy.1 hrow) entity hentity]

omit hc in
theorem shown_modelsOn {db : Database} (h : db.Consistent) (key : ControllerKey) :
    (modelsOn key).shown db.contents = (models.shown db.contents).filter (Entity.runsOn key) :=
  (filter_shown h.allDistinct models fun _ hrow _ hentity =>
    Database.runsOn_eq h hrow hentity key).symm

/-- A query for models answers what is visited of them. -/
theorem modelsWhere_eq {holds : Entity → Bool} {p : Row .model → Bool}
    (h : ∀ row entity, c.entityOf? row = some entity → holds entity = p row) :
    (c.modelsWhere p).map .model = (models.shown c).filter holds :=
  (filter_shown hc models fun row _ entity hentity => h row entity hentity).symm

theorem shown_modelsOn_of_not_found {key : ControllerKey} (h : c.controllerRow? key = none) :
    (modelsOn key).shown c = [] := by
  refine List.eq_nil_iff_forall_not_mem.2 fun entity hentity => ?_
  obtain ⟨row, hrow, -⟩ := (mem_shown hc).1 hentity
  have hhost := (List.mem_filter.1 hrow).2
  rw [h] at hhost
  cases hhost

theorem shown_regions (cloud : String) :
    (regions (some cloud)).shown c = ((regions none).shown c).filter (Entity.isOfCloud cloud) := by
  refine Eq.trans ?_ (filter_shown hc (regions none) (p := fun row : Row .region =>
    row.origin.cloud = cloud) fun _ _ _ hentity => by cases hentity; rfl).symm
  refine congrArg (fun rows => (regions none).listing.2.entities c (sortBy Row.byRegionKey rows)) ?_
  exact (congrArg (List.filter _) (List.filter_true _)).symm

theorem shown_credentials (owner cloud : String) :
    (credentials owner (some cloud)).shown c =
      ((credentials owner none).shown c).filter (Entity.isOfCloud cloud) := by
  refine Eq.trans ?_ (filter_shown hc (credentials owner none)
    (p := fun row : Row .credential => row.origin.cloud = cloud)
    fun _ _ _ hentity => by cases hentity; rfl).symm
  refine congrArg (fun rows => (credentials owner none).listing.2.entities c
    (sortBy Row.byCredentialName rows)) ?_
  refine Eq.trans (List.filter_congr fun row _ => ?_) List.filter_filter.symm
  simp [Bool.and_comm]

omit hc in
/-- The models come in the order of their numbers, each once. -/
theorem shown_models_ascending {db : Database} (h : db.Consistent) :
    (models.shown db.contents).Pairwise fun a b => a.id < b.id := by
  have := models.listing.2.trans
  rw [shown_eq h.allDistinct]
  refine List.Pairwise.filterMap _ ?_ (sortBy_ascending _ (rows_distinct h models))
  intro a b hlt shown hshown other hother
  rw [(Contents.shows_of_entityOf? hshown).id_eq, (Contents.shows_of_entityOf? hother).id_eq]
  exact Int.compare_eq_lt.1 hlt

end

end Iteration

/-! ## Ways of reaching an entity -/

namespace Deployment

/-- All that an iteration visits. -/
def visited (dep : Deployment) (it : Iteration) : List Entity :=
  (dep.iterate .undisturbed it fun _ => .proceed).1

/-- Whether all ways of reaching an entity agree. -/
structure ListingsAgree (dep : Deployment) : Prop where
  completed : ∀ it : Iteration, it.IsNulFree →
    (dep.iterate .undisturbed it fun _ => .proceed).2.1 = .completed
  clouds : ∀ now, (dep.perform now .undisturbed .listClouds).1 =
    .ok (.entities (dep.visited .clouds))
  /-- Each model is visited once, in the order of the numbers. -/
  ascending : (dep.visited .models).Pairwise fun a b => a.id < b.id
  withUuids : ∀ now uuids, (dep.perform now .undisturbed (.modelsWithUuids uuids)).1 =
    .ok (.entities ((dep.visited .models).filter (Entity.hasUuidAmong uuids)))
  usingCredential : ∀ now credential,
    (dep.perform now .undisturbed (.modelsUsingCredential credential)).1 =
      .ok (.entities ((dep.visited .models).filter (Entity.uses credential)))
  onController : ∀ key, (Iteration.modelsOn key).IsNulFree →
    dep.visited (.modelsOn key) = (dep.visited .models).filter (Entity.runsOn key)
  /-- An unknown controller has no models. -/
  onUnknown : ∀ key, (Iteration.modelsOn key).IsNulFree → ∀ now,
    (∀ reply, (dep.perform now .undisturbed (.getController key)).1 ≠ .ok reply) →
      dep.visited (.modelsOn key) = []
  regions : ∀ cloud, Text.IsNulFree cloud →
    dep.visited (.regions (some cloud)) =
      (dep.visited (.regions none)).filter (Entity.isOfCloud cloud)
  credentials : ∀ owner cloud, Text.IsNulFree owner → Text.IsNulFree cloud →
    dep.visited (.credentials owner (some cloud)) =
      (dep.visited (.credentials owner none)).filter (Entity.isOfCloud cloud)
  owned : ∀ owner cloud, Text.IsNulFree owner → Text.IsNulFree cloud → owner ≠ "" → cloud ≠ "" →
    ∀ now, (dep.perform now .undisturbed (.credentialsOfIdentity owner cloud)).1 =
      .ok (.entities (dep.visited (.credentials owner (some cloud))))
  /-- What is visited is what each of its keys retrieves. -/
  retrieved : ∀ it : Iteration, it.IsNulFree → ∀ entity ∈ dep.visited it,
    ∀ (key : Key) (row : Row key.relation), entity.Shows row → key.Names row.toEntry →
      "" ∉ keyParts key.relation row.origin →
        ∀ now, (dep.perform now .undisturbed key.retrieval).1 = .ok (.entity entity)

namespace Reachable

variable {dep : Deployment} (hreachable : dep.Reachable) (hready : dep.store.lifecycle = .ready)
  (hbatch : dep.store.settings.batchSize ≤ largestPage ∨ dep.server.database.NumbersFit)

include hreachable hready hbatch

/-- An iteration that nothing interrupts or stops visits all that there is. -/
theorem iterate_proceed {it : Iteration} (hnul : it.IsNulFree) :
    dep.visited it = it.shown dep.server.database.contents ∧
      (dep.iterate .undisturbed it fun _ => .proceed).2.1 = .completed := by
  have hvisitor : Visitor.NeverCancels fun _ => .proceed := fun _ h => nomatch h
  have hwalk := it.walk_eq_visit hreachable.sound hvisitor hbatch
  rw [visitPage_of_proceed hvisitor fun _ _ _ h => nomatch h] at hwalk
  rw [visited, iterate_eq_walk hready hnul, hwalk]
  exact ⟨rfl, rfl⟩

theorem visited_eq (it : Iteration) (hnul : it.IsNulFree) :
    dep.visited it = it.shown dep.server.database.contents :=
  (hreachable.iterate_proceed hready hbatch hnul).1

theorem visited_modelsOn_of_not_found {key : ControllerKey}
    (hnul : (Iteration.modelsOn key).IsNulFree) {now : Timestamp}
    (hget : ∀ reply, (dep.perform now .undisturbed (.getController key)).1 ≠ .ok reply) :
    dep.visited (.modelsOn key) = [] := by
  rw [hreachable.visited_eq hready hbatch _ hnul]
  refine Iteration.shown_modelsOn_of_not_found hreachable.sound.allDistinct ?_
  rw [← Key.row?_controller, Key.row?_eq_none]
  intro host hhost hnames
  obtain ⟨entity, hentity⟩ :
      ∃ entity, dep.server.database.contents.entityOf? host = some entity := ⟨_, rfl⟩
  have hparts : "" ∉ keyParts .controller host.origin :=
    hreachable.keyParts_nonempty_of_ne (by nofun) (by nofun) hhost
  exact hget _ (hreachable.perform_retrieval (.controller key) hready hhost hnames hparts hentity
    now)

theorem retrieved_of_visited {it : Iteration} (hnul : it.IsNulFree) {entity : Entity}
    (hvisited : entity ∈ dep.visited it) {key : Key} {row : Row key.relation}
    (hshows : entity.Shows row) (hnames : key.Names row.toEntry)
    (hparts : "" ∉ keyParts key.relation row.origin) (now : Timestamp) :
    (dep.perform now .undisturbed key.retrieval).1 = .ok (.entity entity) := by
  have hconsistent := Database.consistent_of_sound hreachable.sound
  rw [hreachable.visited_eq hready hbatch _ hnul] at hvisited
  obtain ⟨found, hfound, hentity⟩ := (Iteration.mem_shown hconsistent.allDistinct).1 hvisited
  obtain ⟨hmem, -⟩ := (Iteration.mem_rows_iff hconsistent).1 hfound
  obtain ⟨hrow, hentity⟩ := Contents.mem_of_shows hmem hentity hshows
  exact hreachable.perform_retrieval key hready hrow hnames hparts hentity now

/-- What the owner of a credential sees on a cloud is what there is to visit. -/
theorem perform_credentialsOfIdentity {owner cloud : String} (howner : Text.IsNulFree owner)
    (hcloud : Text.IsNulFree cloud) (hnamed : owner ≠ "") (hclouded : cloud ≠ "")
    (now : Timestamp) :
    (dep.perform now .undisturbed (.credentialsOfIdentity owner cloud)).1 =
      .ok (.entities (dep.visited (.credentials owner (some cloud)))) := by
  have hvalid : (Operation.credentialsOfIdentity owner cloud).plan.subject.isValid = true := by
    refine Subject.isValid_ofParts.2 fun hmem => ?_
    rcases List.mem_pair.1 hmem with heq | heq
    · exact hclouded heq.symm
    · exact hnamed (IdentityName.eq_empty_of_sanitise heq.symm)
  have hstored : stored? (sanitise owner, cloud) = some (sanitise owner, cloud) :=
    Storable.stored?_pair (Storable.stored?_text (IdentityName.isNulFree_sanitise howner))
      (Storable.stored?_text hcloud)
  have hnul : (Iteration.credentials owner (some cloud)).IsNulFree :=
    ⟨howner, fun name hname => Option.some.inj hname ▸ hcloud⟩
  rw [hreachable.visited_eq hready hbatch _ hnul]
  exact congrArg Prod.fst
    (Store.perform_ok hready hvalid (Script.map_ok (Script.query_ok rfl hstored _) _))

/-- All ways of reaching an entity of a ready store agree, whatever the batch size. -/
theorem listings_agree : dep.ListingsAgree := by
  have hvisited := hreachable.visited_eq hready hbatch
  have hdistinct := hreachable.sound.allDistinct
  have hregions := hvisited (.regions none) fun _ hname => nomatch hname
  have hcredentials {owner : String} (howner : Text.IsNulFree owner) :=
    hvisited (.credentials owner none) ⟨howner, fun _ hname => nomatch hname⟩
  have honCloud {cloud : String} (hcloud : Text.IsNulFree cloud) :
      ∀ name ∈ some cloud, Text.IsNulFree name := fun _ hname => Option.some.inj hname ▸ hcloud
  exact {
    completed := fun it hnul => (hreachable.iterate_proceed hready hbatch hnul).2
    clouds := fun now => by
      rw [hvisited .clouds trivial]
      exact congrArg Prod.fst
        (Store.perform_ok hready rfl (Script.map_ok (Script.query_ok rfl rfl _) _))
    ascending := by
      rw [hvisited .models trivial]
      exact Iteration.shown_models_ascending (Database.consistent_of_sound hreachable.sound)
    withUuids := fun now uuids => by
      have hstored : stored? uuids = some uuids := Storable.stored?_list fun _ _ => rfl
      rw [hvisited .models trivial,
        ← Iteration.modelsWhere_eq hdistinct fun _ _ hentity => by cases hentity; rfl]
      exact congrArg Prod.fst
        (Store.perform_ok hready rfl (Script.map_ok (Script.query_ok rfl hstored _) _))
    usingCredential := fun now credential => by
      rw [hvisited .models trivial,
        ← Iteration.modelsWhere_eq hdistinct fun _ _ hentity => by cases hentity; rfl]
      exact congrArg Prod.fst
        (Store.perform_ok hready rfl (Script.map_ok (Script.query_ok rfl rfl _) _))
    onController := fun key hnul => by
      rw [hvisited _ hnul, hvisited .models trivial]
      exact Iteration.shown_modelsOn (Database.consistent_of_sound hreachable.sound) key
    onUnknown := fun key hnul now hget =>
      hreachable.visited_modelsOn_of_not_found hready hbatch hnul hget
    regions := fun cloud hcloud => by
      rw [hvisited (.regions (some cloud)) (honCloud hcloud), hregions]
      exact Iteration.shown_regions hdistinct cloud
    credentials := fun owner cloud howner hcloud => by
      rw [hvisited (.credentials owner (some cloud)) ⟨howner, honCloud hcloud⟩,
        hcredentials howner]
      exact Iteration.shown_credentials hdistinct owner cloud
    owned := fun owner cloud howner hcloud hnamed hclouded now =>
      hreachable.perform_credentialsOfIdentity hready hbatch howner hcloud hnamed hclouded now
    retrieved := fun it hnul entity hmem key row hshows hnames hparts now =>
      hreachable.retrieved_of_visited hready hbatch hnul hmem hshows hnames hparts now }

omit hreachable hready hbatch

/-- Two models, of which one has been provisioned, with one on a page: it is visited, it is found by
its identifier among others, and on its controller, and no model is on another. -/
theorem listings_agree_web :
    let model (name : String) (uuid : Option Uuid) : Entry .model :=
      ⟨⟨"ann", name, 1⟩,
        ⟨uuid, 1, 1, "", false, "", .alive, ⟨"", "", none, ""⟩, ⟨"", ""⟩, 0, 0, 0⟩⟩
    let dep := (initial ⟨.addModel, 1⟩).run
      [.migrate .undisturbed false,
        .perform ⟨0, 0⟩ .undisturbed
          (.addCloud ⟨"aws", ⟨"ec2", "", [], .none, [], .empty⟩, [⟨"west", .none, .empty⟩]⟩),
        .perform ⟨1, 0⟩ .undisturbed (.addController
          ⟨⟨"one", ⟨1⟩, ⟨"aws", "west"⟩⟩, ⟨"", "", "", "", false, "", [], none, .empty⟩, []⟩),
        .perform ⟨2, 0⟩ .undisturbed
          (.addCredential ⟨⟨"aws", "ann", "main"⟩, ⟨"", "", false, .empty, none⟩⟩),
        .perform ⟨3, 0⟩ .undisturbed (.addModel (model "draft" none)),
        .perform ⟨4, 0⟩ .undisturbed (.addModel (model "web" (some ⟨7⟩)))]
    dep.visited (.modelsOn (.name "two")) = [] ∧
    ∃ shown : Model, shown.row.origin = ⟨"ann", "web", 1⟩ ∧
      .model shown ∈ dep.visited .models ∧ .model shown ∈ dep.visited (.modelsOn (.name "one")) ∧
      (dep.perform ⟨5, 0⟩ .undisturbed (.getModel (.uuid ⟨7⟩))).1 = .ok (.entity (.model shown)) ∧
      ∃ found, (dep.perform ⟨5, 0⟩ .undisturbed (.modelsWithUuids [⟨7⟩, ⟨8⟩, ⟨7⟩])).1 =
          .ok (.entities found) ∧
        .model shown ∈ found ∧ found.Pairwise fun a b => a.id < b.id := by
  intro model dep
  have hreachable : dep.Reachable := ⟨⟨.addModel, 1⟩, _, rfl⟩
  have hready : dep.store.lifecycle = .ready := by decide +kernel
  have hbatch : dep.store.settings.batchSize ≤ largestPage := by decide +kernel
  have hrow : ∃ row ∈ dep.server.database.contents.model, row.origin = ⟨"ann", "web", 1⟩ ∧
      row.settings.uuid = some ⟨7⟩ := by decide +kernel
  obtain ⟨row, hrow, horigin, huuid⟩ := hrow
  have hagree := listings_agree hreachable hready (.inl hbatch)
  have hvisited := hreachable.visited_eq hready (.inl hbatch)
  let shown := dep.server.database.contents.modelAlone (Preload.model "") row
  have hone : (Iteration.modelsOn (.name "one")).IsNulFree := by
    show ∀ c ∈ "one".toList, c.toNat ≠ 0
    simp
  have htwo : (Iteration.modelsOn (.name "two")).IsNulFree := by
    show ∀ c ∈ "two".toList, c.toNat ≠ 0
    simp
  have hmem : .model shown ∈ dep.visited .models := by
    rw [hvisited .models trivial]
    exact (Iteration.mem_shown hreachable.sound.allDistinct).2 ⟨row, hrow, rfl⟩
  have hhost : ∃ host ∈ dep.server.database.contents.controller, host.origin.name = "one" ∧
      ∀ row ∈ dep.server.database.contents.model, row.settings.controller = host.id := by
    decide +kernel
  obtain ⟨host, hhost, hname, hruns⟩ := hhost
  refine ⟨?_, shown, horigin, hmem, ?_, ?_, _, hagree.withUuids _ _, ?_, ?_⟩
  · refine hagree.onUnknown (.name "two") htwo ⟨5, 0⟩ fun reply hget => ?_
    obtain ⟨-, other, hother, hnames, -⟩ :=
      hreachable.of_perform_retrieval (.controller (.name "two")) hget
    have honly : ∀ other ∈ dep.server.database.contents.controller,
        other.origin.name ≠ "two" := by decide +kernel
    exact honly other hother hnames
  · rw [hvisited _ hone]
    refine (Iteration.mem_shown hreachable.sound.allDistinct).2 ⟨row, ?_, rfl⟩
    exact (Iteration.mem_rows_iff (Database.consistent_of_sound hreachable.sound)).2
      ⟨hrow, host, hhost, hname, hruns row hrow⟩
  · exact hagree.retrieved .models trivial _ hmem (.model (.uuid ⟨7⟩)) row rfl huuid
      (by rw [horigin]; decide) _
  · refine List.mem_filter.2 ⟨hmem, ?_⟩
    show row.settings.uuid.any _ = true
    rw [huuid]
    decide
  · exact hagree.ascending.filter _

end Reachable
end Deployment
end ControlPlane
