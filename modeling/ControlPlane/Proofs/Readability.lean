/-
Documents that are read back.

A document is kept as text, and not every text that the database keeps of one is read again
(`Json.isReadable`).  Operations that write documents read them back before they end, so that one
that is not read fails its operation and is not stored.  So the documents of all rows of a session
are readable (`Deployment.Reachable.isReadable`), and reads of what was stored before need not be
guarded.
-/
import ControlPlane.Proofs.Hydration
import ControlPlane.Proofs.Inversion

namespace ControlPlane

/-! ## Stored forms -/

namespace Json

mutual

/-- The stored form of a document nests as deep as the document, and its numbers are read alike. -/
theorem reading_of_stored? {doc kept : Json} (h : stored? doc = some kept) :
    kept.depth = doc.depth ∧ kept.hasReadableNumbers = doc.hasReadableNumbers := by
  cases doc with
  | null => cases h; exact ⟨rfl, rfl⟩
  | bool b => cases h; exact ⟨rfl, rfl⟩
  | number n => cases h; exact ⟨rfl, n.isReadable_stored⟩
  | string s =>
    rw [stored?] at h
    split at h <;> cases h
    exact ⟨rfl, rfl⟩
  | array items =>
    obtain ⟨items', hitems, rfl⟩ := Option.map_eq_some_iff.1 h
    obtain ⟨hdepth, hnumbers⟩ := reading_of_storedItems? hitems
    exact ⟨congrArg (· + 1) hdepth, hnumbers⟩
  | record members =>
    obtain ⟨members', hmembers, rfl⟩ := Option.map_eq_some_iff.1 h
    obtain ⟨hdepth, hnumbers⟩ := reading_of_storedMembers? hmembers
    exact ⟨congrArg (· + 1) hdepth, hnumbers⟩

theorem reading_of_storedItems? {items kept : List Json} (h : storedItems? items = some kept) :
    itemsDepth kept = itemsDepth items ∧
      itemsHaveReadableNumbers kept = itemsHaveReadableNumbers items := by
  cases items with
  | nil => cases h; exact ⟨rfl, rfl⟩
  | cons item rest =>
    simp only [storedItems?, Option.bind_eq_bind, Option.bind_eq_some_iff, Option.pure_def,
      Option.some.injEq] at h
    obtain ⟨item', hitem, rest', hrest, rfl⟩ := h
    obtain ⟨hdepth, hnumbers⟩ := reading_of_stored? hitem
    obtain ⟨hdepths, hallNumbers⟩ := reading_of_storedItems? hrest
    simp only [itemsDepth, itemsHaveReadableNumbers, hdepth, hnumbers, hdepths, hallNumbers,
      and_self]

theorem reading_of_storedMembers? {members kept : List (String × Json)}
    (h : storedMembers? members = some kept) :
    membersDepth kept = membersDepth members ∧
      membersHaveReadableNumbers kept = membersHaveReadableNumbers members := by
  cases members with
  | nil => cases h; exact ⟨rfl, rfl⟩
  | cons first rest =>
    obtain ⟨name, value⟩ := first
    cases hname : hasNul name with
    | true => simp [storedMembers?, hname] at h
    | false =>
      simp only [storedMembers?, hname, Bool.false_eq_true, if_false, Option.bind_eq_bind,
        Option.bind_eq_some_iff, Option.pure_def, Option.some.injEq] at h
      obtain ⟨value', hvalue, rest', hrest, rfl⟩ := h
      obtain ⟨hdepth, hnumbers⟩ := reading_of_stored? hvalue
      obtain ⟨hdepths, hallNumbers⟩ := reading_of_storedMembers? hrest
      simp only [membersDepth, membersHaveReadableNumbers, hdepth, hnumbers, hdepths, hallNumbers,
        and_self]

end

end Json

/-- The entries of a configuration are stored one by one, as the members of an object are. -/
theorem reading_of_storedEntries? {entries kept : List (String × Json)}
    (h : Storable.storedItems? entries = some kept) :
    Json.membersDepth kept = Json.membersDepth entries ∧
      Json.membersHaveReadableNumbers kept = Json.membersHaveReadableNumbers entries := by
  induction entries generalizing kept with
  | nil => cases h; exact ⟨rfl, rfl⟩
  | cons first rest ih =>
    simp only [Storable.storedItems?, Option.bind_eq_bind, Option.bind_eq_some_iff,
      Option.pure_def, Option.some.injEq] at h
    obtain ⟨⟨name', value'⟩, hfirst, rest', hrest, rfl⟩ := h
    obtain ⟨name, value⟩ := first
    have hvalue : Json.stored? value = some value' := (Storable.stored?_pair_eq_some.1 hfirst).2
    obtain ⟨hdepth, hnumbers⟩ := Json.reading_of_stored? hvalue
    obtain ⟨hdepths, hallNumbers⟩ := ih hrest
    simp only [Json.membersDepth, Json.membersHaveReadableNumbers, hdepth, hnumbers, hdepths,
      hallNumbers, and_self]

theorem Config.isReadable_of_stored? {config kept : Config} (h : stored? config = some kept) :
    kept.isReadable = config.isReadable := by
  obtain ⟨hmembers, hnumbers⟩ := reading_of_storedEntries? (Storable.storedDictionary?_eq_some.1 h)
  have hdepth : (Json.record kept.entries).depth = (Json.record config.entries).depth :=
    congrArg (· + 1) hmembers
  have hnumbers : (Json.record kept.entries).hasReadableNumbers =
      (Json.record config.entries).hasReadableNumbers := hnumbers
  rw [isReadable, isReadable, Json.isReadable, Json.isReadable, hdepth, hnumbers]

/-- Whether an entry is read is decided before it is stored. -/
theorem Entry.isReadable_of_stored? {r : Relation} {e kept : Entry r} (h : stored? e = some kept) :
    kept.isReadable = e.isReadable := by
  have hsettings := (Storable.stored?_entry_eq_some.1 h).2
  have hrest : ∀ {α β : Type} [Storable α] [Storable β] {p kept : α × β},
      stored? p = some kept → stored? p.2 = some kept.2 := fun h =>
    (Storable.stored?_pair_eq_some.1 h).2
  -- The configuration stands last among the settings.
  cases r with
  | cloud =>
    obtain ⟨parts, hparts, heq⟩ := Option.map_eq_some_iff.1 hsettings
    rw [Entry.isReadable, Entry.isReadable, ← heq]
    exact Config.isReadable_of_stored? (hrest (hrest (hrest (hrest (hrest hparts)))))
  | region =>
    obtain ⟨parts, hparts, heq⟩ := Option.map_eq_some_iff.1 hsettings
    rw [Entry.isReadable, Entry.isReadable, ← heq]
    exact Config.isReadable_of_stored? (hrest hparts)
  | controller =>
    obtain ⟨parts, hparts, heq⟩ := Option.map_eq_some_iff.1 hsettings
    rw [Entry.isReadable, Entry.isReadable, ← heq]
    exact Config.isReadable_of_stored?
      (hrest (hrest (hrest (hrest (hrest (hrest (hrest (hrest hparts))))))))
  | _ => rfl

/-! ## Entities -/

theorem Region.areReadable_iff {regions : List Region} :
    areReadable regions = true ↔ ∀ region ∈ regions, region.isReadable = true := by
  induction regions with
  | nil => simp [areReadable]
  | cons region rest ih => rw [areReadable, Bool.and_eq_true, ih, List.forall_mem_cons]

theorem Link.areReadable_iff {links : List Link} :
    areReadable links = true ↔ ∀ link ∈ links, link.isReadable = true := by
  induction links with
  | nil => simp [areReadable]
  | cons link rest ih => rw [areReadable, Bool.and_eq_true, ih, List.forall_mem_cons]

theorem Cloud.isReadableIfAny_iff {cloud? : Option Cloud} :
    isReadableIfAny cloud? = true ↔ ∀ cloud ∈ cloud?, cloud.isReadable = true := by
  cases cloud? <;> simp [isReadableIfAny]

theorem Region.isReadableIfAny_iff {region? : Option Region} :
    isReadableIfAny region? = true ↔ ∀ region ∈ region?, region.isReadable = true := by
  cases region? <;> simp [isReadableIfAny]

theorem Controller.isReadableIfAny_iff {controller? : Option Controller} :
    isReadableIfAny controller? = true ↔
      ∀ controller ∈ controller?, controller.isReadable = true := by
  cases controller? <;> simp [isReadableIfAny]

theorem Cloud.isReadable_iff {cloud : Cloud} : cloud.isReadable = true ↔
    cloud.row.isReadable = true ∧ ∀ region ∈ cloud.regions, region.isReadable = true := by
  obtain ⟨row, regions, grants⟩ := cloud
  rw [isReadable, Bool.and_eq_true, Region.areReadable_iff]

theorem Region.isReadable_iff {region : Region} : region.isReadable = true ↔
    (region.row.isReadable = true ∧ ∀ cloud ∈ region.cloud, cloud.isReadable = true) ∧
      ∀ link ∈ region.links, link.isReadable = true := by
  obtain ⟨row, cloud, links⟩ := region
  rw [isReadable, Bool.and_eq_true, Bool.and_eq_true, Cloud.isReadableIfAny_iff,
    Link.areReadable_iff]

theorem Link.isReadable_iff {link : Link} : link.isReadable = true ↔
    (∀ controller ∈ link.controller, controller.isReadable = true) ∧
      ∀ region ∈ link.region, region.isReadable = true := by
  obtain ⟨row, controller, region⟩ := link
  rw [isReadable, Bool.and_eq_true, Controller.isReadableIfAny_iff, Region.isReadableIfAny_iff]

theorem Controller.isReadable_iff {controller : Controller} : controller.isReadable = true ↔
    controller.row.isReadable = true ∧ ∀ link ∈ controller.links, link.isReadable = true := by
  obtain ⟨row, links⟩ := controller
  rw [isReadable, Bool.and_eq_true, Link.areReadable_iff]

namespace Contents

/-- Whether the documents of all rows are readable. -/
def IsReadable (c : Contents) : Prop := ∀ r, ∀ row ∈ c.get r, row.isReadable = true

/-- The documents stay readable while readable rows come to them. -/
theorem IsReadable.append {c : Contents} (h : c.IsReadable) {r : Relation} {rows : List (Row r)}
    (hrows : ∀ row ∈ rows, row.isReadable = true) :
    IsReadable (c.set r (c.get r ++ rows)) :=
  PerRelation.get_set_cases
    (P := fun q (rows : List (Row q)) => ∀ row ∈ rows, row.isReadable = true)
    (fun row hrow => (List.mem_append.1 hrow).elim (h r row) (hrows row)) (fun _ _ => h _)

/-- Whether all that a graph loads beside readable rows is readable. -/
structure ReadsGraph (c : Contents) (g : Preload) : Prop where
  cloud : ∀ row, row.isReadable = true → (c.cloudAlone g row).isReadable = true
  region : ∀ row, row.isReadable = true → (c.regionAlone g row).isReadable = true
  link : ∀ row, (c.linkAlone g row).isReadable = true
  controller : ∀ row, row.isReadable = true → (c.controllerAlone g row).isReadable = true

variable {c : Contents}

/-- Readable rows are loaded beside one another as readable entities, by induction on the size of
the graph. -/
theorem IsReadable.readsGraph (h : c.IsReadable) (hc : c.AllDistinct) (g : Preload) :
    c.ReadsGraph g := by
  induction hsize : g.size using Nat.strongRecOn generalizing g with
  | ind n ih =>
    have below : ∀ {association : String}, g.contains association = true →
        c.ReadsGraph (g.nested association) :=
      fun h => ih _ (hsize ▸ Preload.size_nested_lt h) (g.nested _) rfl
    constructor
    · intro row hrow
      refine Cloud.isReadable_iff.2 ⟨hrow, fun region hregion => ?_⟩
      exact of_mem_part (P := fun region : Region => region.isReadable = true)
        (hc.hydratesGraph _).regions (hc.regionsOfClouds.distinct _)
        (fun hb row hrow => (below hb).region row (h _ row (mem_sortBy_filter hrow))) hregion
    · intro row hrow
      refine Region.isReadable_iff.2 ⟨⟨hrow, fun cloud hcloud => ?_⟩, fun link hlink => ?_⟩
      · exact of_mem_part (P := fun cloud : Cloud => cloud.isReadable = true)
          (hc.hydratesGraph _).clouds (hc.cloudsNamed.distinct _)
          (fun hb row hrow => (below hb).cloud row (h _ row (mem_sortBy_filter hrow)))
          (List.mem_of_mem_head? hcloud)
      · exact of_mem_part (P := fun link : Link => link.isReadable = true)
          (hc.hydratesGraph _).links (hc.linksOfRegions.distinct _)
          (fun hb row _ => (below hb).link row) hlink
    · intro row
      refine Link.isReadable_iff.2 ⟨fun controller hcontroller => ?_, fun region hregion => ?_⟩
      · exact of_mem_part (P := fun controller : Controller => controller.isReadable = true)
          (hc.hydratesGraph _).controllers ((hc.withIds .controller).distinct _)
          (fun hb row hrow => (below hb).controller row (h _ row (mem_sortBy_filter hrow)))
          (List.mem_of_mem_head? hcontroller)
      · exact of_mem_part (P := fun region : Region => region.isReadable = true)
          (hc.hydratesGraph _).regions ((hc.withIds .region).distinct _)
          (fun hb row hrow => (below hb).region row (h _ row (mem_sortBy_filter hrow)))
          (List.mem_of_mem_head? hregion)
    · intro row hrow
      refine Controller.isReadable_iff.2 ⟨hrow, fun link hlink => ?_⟩
      exact of_mem_part (P := fun link : Link => link.isReadable = true)
        (hc.hydratesGraph _).links (hc.linksOfControllers.distinct _)
        (fun hb row _ => (below hb).link row) hlink

theorem IsReadable.of_cloud? (h : c.IsReadable) (hc : c.AllDistinct) {name : String} {cloud : Cloud}
    (hcloud : c.cloud? name = some cloud) : cloud.isReadable = true := by
  obtain ⟨row, hrow, hcloud⟩ := Option.bind_eq_some_iff.1 hcloud
  rw [cloudOfRow?, (hc.hydratesGraph _).clouds.eq_map (.singleton row)] at hcloud
  cases hcloud
  exact (h.readsGraph hc _).cloud row (h _ row (List.mem_of_find?_eq_some hrow))

theorem IsReadable.of_regionOfRow? (h : c.IsReadable) (hc : c.AllDistinct) {row : Row .region}
    (hrow : row ∈ c.get .region) {region : Region} (hregion : c.regionOfRow? row = some region) :
    region.isReadable = true := by
  rw [regionOfRow?, (hc.hydratesGraph _).regions.eq_map (.singleton row)] at hregion
  cases hregion
  exact (h.readsGraph hc _).region row (h _ row hrow)

theorem IsReadable.of_controllerOfRow? (h : c.IsReadable) (hc : c.AllDistinct)
    {row : Row .controller} (hrow : row ∈ c.get .controller) {controller : Controller}
    (hcontroller : c.controllerOfRow? row = some controller) : controller.isReadable = true := by
  rw [controllerOfRow?, (hc.hydratesGraph _).controllers.eq_map (.singleton row)] at hcontroller
  cases hcontroller
  exact (h.readsGraph hc _).controller row (h _ row hrow)

/-- A cloud that is read shows its own row and those of all its regions. -/
theorem isReadable_of_cloud? (hc : c.AllDistinct) {name : String} {cloud : Cloud}
    (hcloud : c.cloud? name = some cloud) (hreadable : cloud.isReadable = true) :
    (∀ row ∈ c.get .cloud, row.origin = name → row.isReadable = true) ∧
      ∀ row ∈ c.get .region, row.origin.cloud = name → row.isReadable = true := by
  obtain ⟨row, hrow, hcloud⟩ := Option.bind_eq_some_iff.1 hcloud
  rw [cloudOfRow?, (hc.hydratesGraph _).clouds.eq_map (.singleton row)] at hcloud
  cases hcloud
  obtain ⟨hown, hregions⟩ := Cloud.isReadable_iff.1 hreadable
  have hmem := List.mem_of_find?_eq_some hrow
  have hname : row.origin = name := by simpa using List.find?_some hrow
  refine ⟨fun other hother horigin => ?_, fun region hregion horigin => ?_⟩
  · rwa [List.inj_on_of_nodup_map (hc .cloud).origins hother hmem (horigin.trans hname.symm)]
  · have hloaded : region ∈ c.regionsOfClouds [row.origin] :=
      mem_sortBy.2 (List.mem_filter.2 ⟨hregion, by simp [horigin, hname]⟩)
    rw [← c.showsRows_regions ((Preload.cloud "").nested "regions") (c.regionsOfClouds _)]
      at hloaded
    obtain ⟨shown, hshown, rfl⟩ := List.mem_map.1 hloaded
    exact (Region.isReadable_iff.1 (hregions shown hshown)).1.1

end Contents

/-! ## Reading back -/

section

open Script

variable {env : Environment} {before after : Progress}
  (h : before.database.contents.IsReadable) (hc : before.database.contents.AllDistinct)

include h hc

/-- Where all documents are readable, what is read is read back. -/
theorem Clouds.readBack_ok {name : String} {cloud : Cloud}
    (hget : get name env before = .ok cloud after) :
    readBack name env before = .ok cloud after := by
  obtain ⟨kept, -, hcloud, -⟩ := of_queryOne_eq_ok hget
  rw [readBack, decoded_of_ok hget, if_pos (h.of_cloud? hc hcloud)]

theorem Regions.readBack_ok {id : Int} {region : Region}
    (hread : withId id env before = .ok region after) :
    readBack id env before = .ok region after := by
  obtain ⟨kept, -, hfound, -⟩ := of_queryOne_eq_ok hread
  obtain ⟨row, hrow, hregion⟩ := Option.bind_eq_some_iff.1 hfound
  rw [readBack, decoded_of_ok hread,
    if_pos (h.of_regionOfRow? hc (List.mem_of_find?_eq_some hrow) hregion)]

theorem Controllers.readBack_ok {id : Int} {controller : Controller}
    (hread : withId id env before = .ok controller after) :
    readBack id env before = .ok controller after := by
  obtain ⟨kept, -, hfound, -⟩ := of_queryOne_eq_ok hread
  obtain ⟨row, hrow, hcontroller⟩ := Option.bind_eq_some_iff.1 hfound
  rw [readBack, decoded_of_ok hread,
    if_pos (h.of_controllerOfRow? hc (List.mem_of_find?_eq_some hrow) hcontroller)]

end

end ControlPlane
