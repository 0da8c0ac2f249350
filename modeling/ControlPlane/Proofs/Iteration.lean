/-
Iterations visit everything once, in the order of the keys.

For each iteration it is said here which rows it is about (`Selects`) and in which order they come
(`Precedes`).  In a sound database no two of them tie, so the walk through pages is the visit of all
rows in that order, each hydrated as it would be with all others.
-/
import ControlPlane.Proofs.Consistency
import ControlPlane.Proofs.Hydration
import ControlPlane.Proofs.Paging
import ControlPlane.Proofs.Storable
import Mathlib.Data.List.Forall2
import Mathlib.Data.List.Nodup

namespace ControlPlane

/-- Whether a key names a controller. -/
def ControllerKey.Names : ControllerKey → Row .controller → Prop
  | .uuid u, row => row.origin.uuid = u
  | .name n, row => row.origin.name = n

/-- Whether an entity shows a row. -/
def Entity.Shows {r : Relation} (row : Row r) (entity : Entity) : Prop :=
  match r, row, entity with
  | .cloud, row, .cloud shown => shown.row = row
  | .region, row, .region shown => shown.row = row
  | .controller, row, .controller shown => shown.row = row
  | .model, row, .model shown => shown.row = row
  | .identity, row, .identity shown => shown.row = row
  | .credential, row, .credential shown => shown.row = row
  | _, _, _ => False

namespace Iteration

/-! ## What iterations are about -/

/-- Whether no argument contains U+0000. -/
def IsNulFree : Iteration → Prop
  | .regions cloud => ∀ name ∈ cloud, Text.IsNulFree name
  | .modelsOn (.name name) => Text.IsNulFree name
  | .credentials owner cloud => Text.IsNulFree owner ∧ ∀ name ∈ cloud, Text.IsNulFree name
  | _ => True

/-- Whether a row is one of those to visit. -/
def Selects (c : Contents) : (it : Iteration) → Row it.listing.1 → Prop
  | .clouds, _ => True
  | .regions cloud, (row : Row .region) => ∀ name ∈ cloud, row.origin.cloud = name
  | .controllers, _ => True
  | .models, _ => True
  | .modelsOn key, (row : Row .model) =>
    ∃ host ∈ c.get .controller, key.Names host ∧ row.settings.controller = host.id
  | .identities, _ => True
  | .credentials owner cloud, (row : Row .credential) =>
    row.origin.owner = IdentityName.sanitise owner ∧ ∀ name ∈ cloud, row.origin.cloud = name

/-- Whether a row comes before another: texts by their bytes, pairs by their first part. -/
def Precedes : (it : Iteration) → Row it.listing.1 → Row it.listing.1 → Prop
  | .clouds, (a : Row .cloud), (b : Row .cloud) => Text.IsBefore a.origin b.origin
  | .regions _, (a : Row .region), (b : Row .region) =>
    Text.IsBefore a.origin.cloud b.origin.cloud ∨
      a.origin.cloud = b.origin.cloud ∧ Text.IsBefore a.origin.region b.origin.region
  | .controllers, (a : Row .controller), (b : Row .controller) =>
    Text.IsBefore a.origin.name b.origin.name
  | .models, (a : Row .model), (b : Row .model) => a.id < b.id
  | .modelsOn _, (a : Row .model), (b : Row .model) => a.id < b.id
  | .identities, (a : Row .identity), (b : Row .identity) => Text.IsBefore a.origin b.origin
  | .credentials _ _, (a : Row .credential), (b : Row .credential) =>
    Text.IsBefore a.origin.cloud b.origin.cloud ∨
      a.origin.cloud = b.origin.cloud ∧ Text.IsBefore a.origin.name b.origin.name

theorem hasStorableParameters_of_isNulFree {it : Iteration} (h : it.IsNulFree) :
    it.hasStorableParameters = true := by
  have hcloud : ∀ {cloud : Option String}, (∀ name ∈ cloud, Text.IsNulFree name) →
      (stored? cloud).isSome = true := fun h =>
    Storable.isSome_stored?_option fun name hname => Storable.isSome_stored?_text (h name hname)
  cases it with
  | regions cloud => exact hcloud h
  | modelsOn key =>
    cases key with
    | uuid u => rfl
    | name n =>
      show ((stored? n).map ControllerKey.name).isSome = true
      rw [Storable.stored?_text h]
      rfl
  | credentials owner cloud =>
    refine Storable.isSome_stored?_pair (Storable.isSome_stored?_text ?_) (hcloud h.2)
    exact IdentityName.isNulFree_sanitise h.1
  | clouds => rfl
  | controllers => rfl
  | models => rfl
  | identities => rfl

/-! ## The orders -/

theorem compareOn_text_eq_lt {α : Type} {f : α → String} {a b : α} :
    compareOn f a b = .lt ↔ Text.IsBefore (f a) (f b) := by
  rw [Text.isBefore_iff]
  exact compareOfLessAndEq_eq_lt

theorem compareLex_texts_eq_lt {α : Type} {f g : α → String} {a b : α} :
    compareLex (compareOn f) (compareOn g) a b = .lt ↔
      Text.IsBefore (f a) (f b) ∨ f a = f b ∧ Text.IsBefore (g a) (g b) := by
  rw [compareLex, Ordering.then_eq_lt, compareOn_text_eq_lt, compareOn_text_eq_lt, compareOn,
    Std.LawfulEqOrd.compare_eq_iff_eq]

theorem precedes_of_lt {it : Iteration} {a b : Row it.listing.1}
    (h : it.listing.2.order a b = .lt) : it.Precedes a b := by
  cases it with
  | clouds => exact compareOn_text_eq_lt.1 h
  | regions cloud => exact compareLex_texts_eq_lt.1 h
  | controllers => exact compareOn_text_eq_lt.1 h
  | models => exact Int.compare_eq_lt.1 h
  | modelsOn key => exact Int.compare_eq_lt.1 h
  | identities => exact compareOn_text_eq_lt.1 h
  | credentials owner cloud => exact compareLex_texts_eq_lt.1 h

/-- Rows whose keys differ do not tie. -/
theorem pairwise_ne_eq_of_nodup {r : Relation} {κ : Type} {key : Row r → κ}
    {cmp : Row r → Row r → Ordering} {rows : List (Row r)}
    (hkey : ∀ a b, cmp a b = .eq → key a = key b) (h : (rows.map key).Nodup) :
    rows.Pairwise fun a b => cmp a b ≠ .eq := by
  refine (List.pairwise_map.1 h).imp ?_
  intro a b hne heq
  exact hne (hkey a b heq)

theorem compareLex_texts_eq_eq {α : Type} {f g : α → String} {a b : α} :
    compareLex (compareOn f) (compareOn g) a b = .eq ↔ f a = f b ∧ g a = g b := by
  rw [compareLex, Ordering.then_eq_eq, compareOn, compareOn, Std.LawfulEqOrd.compare_eq_iff_eq,
    Std.LawfulEqOrd.compare_eq_iff_eq]

/-- No two rows that an iteration visits tie. -/
theorem rows_distinct {db : Database} (h : db.Consistent) (it : Iteration) :
    (it.listing.2.rows db.contents).Pairwise fun a b => it.listing.2.order a b ≠ .eq := by
  have hmodels : db.contents.model.Pairwise fun a b => Row.byId a b ≠ .eq :=
    pairwise_ne_eq_of_nodup (fun _ _ heq => Std.LawfulEqOrd.compare_eq_iff_eq.1 heq) (h.ids .model)
  cases it with
  | clouds =>
    exact pairwise_ne_eq_of_nodup (fun _ _ heq => Std.LawfulEqOrd.compare_eq_iff_eq.1 heq)
      h.cloudNames
  | regions cloud =>
    refine (pairwise_ne_eq_of_nodup (fun a b heq => ?_) h.regionKeys).filter _
    obtain ⟨hcloud, hregion⟩ := compareLex_texts_eq_eq.1 heq
    rw [hcloud, hregion]
  | controllers =>
    exact pairwise_ne_eq_of_nodup (fun _ _ heq => Std.LawfulEqOrd.compare_eq_iff_eq.1 heq)
      h.controllerNames
  | models => exact hmodels
  | modelsOn key => exact hmodels.filter _
  | identities =>
    exact pairwise_ne_eq_of_nodup (fun _ _ heq => Std.LawfulEqOrd.compare_eq_iff_eq.1 heq)
      h.identityNames
  | credentials owner cloud =>
    -- The owner is no part of the order, but all rows have the same.
    refine ((List.pairwise_map.1 h.credentialKeys).filter _).imp_of_mem ?_
    intro a b ha hb hne heq
    obtain ⟨hcloud, hname⟩ := compareLex_texts_eq_eq.1 heq
    have hownera := (Bool.and_eq_true_iff.1 (List.mem_filter.1 ha).2).1
    have hownerb := (Bool.and_eq_true_iff.1 (List.mem_filter.1 hb).2).1
    rw [of_decide_eq_true hownera, of_decide_eq_true hownerb, hcloud, hname] at hne
    exact hne rfl

/-! ## The rows and their entities -/

theorem all_name_iff {cloud : Option String} {p : String → Bool} :
    cloud.all p = true ↔ ∀ name ∈ cloud, p name = true := by
  cases cloud with
  | none => simp
  | some name => simp

/-- The controller that is found by a key is the only one that the key names. -/
theorem controllerRow?_eq_some {db : Database} (h : db.Consistent) {key : ControllerKey}
    {host : Row .controller} :
    db.contents.controllerRow? key = some host ↔
      host ∈ db.contents.controller ∧ key.Names host := by
  cases key with
  | uuid u => exact find?_key_eq_some h.controllerUuids
  | name n => exact find?_key_eq_some h.controllerNames

theorem mem_rows_iff {db : Database} (h : db.Consistent) {it : Iteration}
    {row : Row it.listing.1} :
    row ∈ it.listing.2.rows db.contents ↔
      row ∈ db.contents.get it.listing.1 ∧ it.Selects db.contents row := by
  cases it with
  | clouds => exact (iff_of_eq (and_true _)).symm
  | regions cloud =>
    refine List.mem_filter.trans (and_congr_right fun _ => all_name_iff.trans ?_)
    exact forall₂_congr fun name _ => decide_eq_true_iff
  | controllers => exact (iff_of_eq (and_true _)).symm
  | models => exact (iff_of_eq (and_true _)).symm
  | modelsOn key =>
    refine List.mem_filter.trans (and_congr_right fun _ => ?_)
    rw [Option.any_eq_true]
    constructor
    · rintro ⟨host, hfind, hhost⟩
      obtain ⟨hmem, hnames⟩ := (controllerRow?_eq_some h).1 hfind
      exact ⟨host, hmem, hnames, of_decide_eq_true hhost⟩
    · rintro ⟨host, hmem, hnames, hhost⟩
      exact ⟨host, (controllerRow?_eq_some h).2 ⟨hmem, hnames⟩, decide_eq_true hhost⟩
  | identities => exact (iff_of_eq (and_true _)).symm
  | credentials owner cloud =>
    refine List.mem_filter.trans (and_congr_right fun _ => ?_)
    rw [Bool.and_eq_true_iff, decide_eq_true_iff, all_name_iff]
    exact and_congr_right fun _ => forall₂_congr fun name _ => decide_eq_true_iff

/-- Entities of rows that differ are loaded row by row, however the rows are divided. -/
theorem exists_entities_eq_map (it : Iteration) {c : Contents} (hc : c.AllDistinct) :
    ∃ one : Row it.listing.1 → Entity, (∀ row, Entity.Shows row (one row)) ∧
      ∀ {rows}, Row.AreDistinct rows → it.listing.2.entities c rows = rows.map one := by
  have lift : ∀ {r : Relation} {ε : Type} {rowOf : ε → Row r} {hydrate : List (Row r) → List ε}
      {one : Row r → ε} {entity : ε → Entity}, Contents.HydratesBy rowOf hydrate one →
      (∀ e, Entity.Shows (rowOf e) (entity e)) →
      ∃ one : Row r → Entity, (∀ row, Entity.Shows row (one row)) ∧
        ∀ {rows}, Row.AreDistinct rows → (hydrate rows).map entity = rows.map one := by
    intro r ε rowOf hydrate one entity hhydrate hshows
    refine ⟨fun row => entity (one row), fun row => ?_, fun hrows => ?_⟩
    · have := hshows (one row)
      rwa [hhydrate.shows] at this
    · rw [hhydrate.eq_map hrows, List.map_map]
      rfl
  cases it with
  | clouds => exact lift (hc.hydratesGraph _).clouds fun _ => rfl
  | regions cloud => exact lift (hc.hydratesGraph _).regions fun _ => rfl
  | controllers => exact lift (hc.hydratesGraph _).controllers fun _ => rfl
  | models => exact lift (hc.hydratesBy_models _) fun _ => rfl
  | modelsOn key => exact lift (hc.hydratesBy_models _) fun _ => rfl
  | identities => exact lift Contents.hydratesBy_identities fun _ => rfl
  | credentials owner cloud => exact lift (hc.hydratesBy_credentials _) fun _ => rfl

theorem rows_sublist (it : Iteration) (c : Contents) :
    (it.listing.2.rows c).Sublist (c.get it.listing.1) := by
  cases it with
  | regions cloud => exact List.filter_sublist
  | modelsOn key => exact List.filter_sublist
  | credentials owner cloud => exact List.filter_sublist
  | clouds => exact List.Sublist.refl _
  | controllers => exact List.Sublist.refl _
  | models => exact List.Sublist.refl _
  | identities => exact List.Sublist.refl _

theorem length_rows_le (it : Iteration) (c : Contents) :
    (it.listing.2.rows c).length ≤ (c.get it.listing.1).length :=
  (it.rows_sublist c).length_le

/-- The rows that an iteration visits, in their order, differ. -/
theorem sortBy_rows_areDistinct (it : Iteration) {c : Contents} (hc : c.AllDistinct) :
    Row.AreDistinct (sortBy it.listing.2.order (it.listing.2.rows c)) :=
  ((hc _).sublist (it.rows_sublist c)).sortBy _

end Iteration

/-! ## Iterations as a whole -/

namespace Database

/-- Whether all numbers that were given fit their columns, which have 64 bits and a sign. -/
def NumbersFit (db : Database) : Prop := ∀ r, db.sequences.get r ≤ 9223372036854775808

/-- Rows have numbers of their own, so there are no more rows than numbers. -/
theorem Sound.length_le {db : Database} (h : db.Sound) (hfit : db.NumbersFit)
    (r : Relation) : (db.contents.get r).length ≤ largestPage := by
  have hnodup : ((db.contents.get r).map fun row => row.id.toNat).Nodup := by
    refine List.pairwise_map.2 ((h.distinct r).imp_of_mem ?_)
    intro a b ha hb hne heq
    have hposa := (h.numbered r a ha).1
    have hposb := (h.numbered r b hb).1
    omega
  have hsubset : ((db.contents.get r).map fun row => row.id.toNat) ⊆
      List.range' 1 largestPage := by
    intro n hn
    obtain ⟨row, hrow, rfl⟩ := List.mem_map.1 hn
    obtain ⟨hpos, hlt⟩ := h.numbered r row hrow
    have hmax := hfit r
    have hpage : largestPage = 9223372036854775807 := by decide
    rw [List.mem_range'_1]
    omega
  have hle := hnodup.length_le_of_subset hsubset
  rwa [List.length_map, List.length_range'] at hle

end Database

/-- The walk of an iteration is a visit of its rows in their order, all hydrated together. -/
theorem Iteration.walk_eq_visit {db : Database} (h : db.Sound) (it : Iteration) {visitor : Visitor}
    (hvisitor : visitor.NeverCancels) {batch : Nat}
    (hbatch : batch ≤ largestPage ∨ db.NumbersFit) :
    it.walk db.contents visitor batch =
      (visitPage visitor 0 (it.listing.2.entities db.contents
        (sortBy it.listing.2.order (it.listing.2.rows db.contents)))).walk := by
  have hconsistent := Database.consistent_of_sound h
  obtain ⟨one, -, hentities⟩ := it.exists_entities_eq_map hconsistent.allDistinct
  have htrans := it.listing.2.trans
  have hdistinct := rows_distinct hconsistent it
  have hsorted := it.sortBy_rows_areDistinct hconsistent.allDistinct
  have hfull : batch ≤ largestPage ∨ (it.listing.2.rows db.contents).length ≤ largestPage :=
    hbatch.imp_right fun hfit => Nat.le_trans (it.length_rows_le _) (h.length_le hfit _)
  rw [walk, Listing.walk, hentities hsorted]
  exact walk_eq hvisitor (fun page hpage => hentities (hsorted.sublist hpage)) hfull hdistinct

namespace Deployment

/-- The iteration of a ready store that nothing interrupts is a walk. -/
theorem iterate_eq_walk {dep : Deployment} (hready : dep.store.lifecycle = .ready) {it : Iteration}
    (hnul : it.IsNulFree) (visitor : Visitor) :
    dep.iterate .undisturbed it visitor =
      (let walk := it.walk dep.server.database.contents visitor dep.store.settings.batchSize
        let ending := IterationEnd.ofEnding it.name walk.ending
        (walk.visited, ending, dep.record it.name ending.outcome)) := by
  have hrefusal : dep.store.refusal? = none := by rw [Store.refusal?, hready]
  have hstore : dep.store.iterate .undisturbed it visitor dep.server.database =
      .ok (it.walk dep.server.database.contents visitor dep.store.settings.batchSize) := by
    unfold Store.iterate
    simp only [hrefusal, Iteration.hasStorableParameters_of_isNulFree hnul, if_true]
    rfl
  rw [iterate, hstore]

/-- An iteration of a ready store that nothing interrupts visits all rows that it is about, each
once and in ascending order, whatever the batch size; each is hydrated as with all others.  If the
visitor stops it, it ends with the entity for which the visitor was called. -/
theorem iterate_visits_all {dep : Deployment} (hreachable : dep.Reachable)
    (hready : dep.store.lifecycle = .ready) {it : Iteration} (hnul : it.IsNulFree)
    {visitor : Visitor} (hvisitor : visitor.NeverCancels)
    (hbatch : dep.store.settings.batchSize ≤ largestPage ∨ dep.server.database.NumbersFit) :
    ∃ rows : List (Row it.listing.1), ∃ entities : List Entity,
      (∀ row, row ∈ rows ↔ row ∈ dep.server.database.contents.get it.listing.1 ∧
        it.Selects dep.server.database.contents row) ∧
      rows.Pairwise it.Precedes ∧
      entities = it.listing.2.entities dep.server.database.contents rows ∧
      List.Forall₂ Entity.Shows rows entities ∧
      ((∀ call, 0 < call → call ≤ rows.length → visitor call ≠ .stop) →
        (dep.iterate .undisturbed it visitor).1 = entities ∧
          (dep.iterate .undisturbed it visitor).2.1 = .completed) ∧
      ∀ n, 0 < n → n ≤ rows.length → visitor n = .stop →
        (∀ call, 0 < call → call < n → visitor call ≠ .stop) →
          (dep.iterate .undisturbed it visitor).1 = entities.take n ∧
            (dep.iterate .undisturbed it visitor).2.1 = .stopped n := by
  have hsound := hreachable.sound
  have hconsistent := Database.consistent_of_sound hsound
  have htrans := it.listing.2.trans
  obtain ⟨one, hshows, hall⟩ := it.exists_entities_eq_map hconsistent.allDistinct
  have hentities := hall (it.sortBy_rows_areDistinct hconsistent.allDistinct)
  have hwalk := it.walk_eq_visit hsound hvisitor hbatch
  refine ⟨sortBy it.listing.2.order (it.listing.2.rows dep.server.database.contents), _,
    fun row => mem_sortBy.trans (Iteration.mem_rows_iff hconsistent),
    (sortBy_ascending _ (Iteration.rows_distinct hconsistent it)).imp Iteration.precedes_of_lt,
    rfl, ?_, fun hproceed => ?_, fun n hpos hle hstop hfirst => ?_⟩
  · rw [hentities, List.forall₂_map_right_iff]
    exact List.forall₂_same.2 fun row _ => hshows row
  · rw [visitPage_of_proceed hvisitor] at hwalk
    · rw [iterate_eq_walk hready hnul, hwalk]
      exact ⟨rfl, rfl⟩
    · rw [hentities, List.length_map]
      intro call hpos hle
      exact hproceed call hpos (by omega)
  · rw [visitPage_of_stop hvisitor hpos (by rwa [hentities, List.length_map])
      (by rwa [Nat.zero_add]) (by simpa only [Nat.zero_add] using hfirst), Nat.zero_add] at hwalk
    rw [iterate_eq_walk hready hnul, hwalk]
    exact ⟨rfl, rfl⟩

/-- Two identities, one on a page: both are visited, or only the first if the visitor stops. -/
theorem iterate_visits_two_identities :
    let dep := (initial ⟨.addModel, 1⟩).run
      [.migrate .undisturbed false,
        .perform ⟨0, 0⟩ .undisturbed (.getOrCreateIdentity "bob"),
        .perform ⟨60, 0⟩ .undisturbed (.getOrCreateIdentity "ann")]
    (∃ rows : List (Row .identity), ∃ entities,
      (∀ row, row ∈ rows ↔ row ∈ dep.server.database.contents.identity) ∧
      rows.Pairwise (Iteration.Precedes .identities) ∧ List.Forall₂ Entity.Shows rows entities ∧
      (dep.iterate .undisturbed .identities fun _ => .proceed).1 = entities ∧
      (dep.iterate .undisturbed .identities fun _ => .proceed).2.1 = .completed) ∧
    (dep.iterate .undisturbed .identities fun _ => .stop).2.1 = .stopped 1 := by
  intro dep
  have hreachable : dep.Reachable := ⟨⟨.addModel, 1⟩, _, rfl⟩
  have hready : dep.store.lifecycle = .ready := by decide +kernel
  have hnul : Iteration.IsNulFree .identities := trivial
  have hbatch : dep.store.settings.batchSize ≤ largestPage := by decide +kernel
  constructor
  · obtain ⟨rows, entities, hmem, hpairwise, -, hshows, hproceed, -⟩ :=
      iterate_visits_all hreachable hready hnul
        (fun _ h => nomatch h : Visitor.NeverCancels fun _ => .proceed) (.inl hbatch)
    obtain ⟨hvisited, hending⟩ := hproceed fun _ _ _ h => nomatch h
    refine ⟨rows, entities, fun row => ?_, hpairwise, hshows, hvisited, hending⟩
    exact (hmem row).trans (iff_of_eq (and_true _))
  · obtain ⟨rows, entities, hmem, -, -, -, -, hstop⟩ :=
      iterate_visits_all hreachable hready hnul
        (fun _ h => nomatch h : Visitor.NeverCancels fun _ => .stop) (.inl hbatch)
    have hsome : 0 < (dep.server.database.contents.get .identity).length := by decide +kernel
    obtain ⟨row, hrow⟩ := List.exists_mem_of_length_pos hsome
    refine (hstop 1 (by decide) ?_ rfl fun call hpos hlt => ?_).2
    · exact List.length_pos_of_mem ((hmem row).2 ⟨hrow, trivial⟩)
    · omega

end Deployment
end ControlPlane
