/-
The portion of the database that is shown with a cloud.

A cloud is shown with its regions, their links and the controllers of these, and with the grants on
it and the identities that hold them.  `Contents.shownWith` is the database cut down to these rows,
and a cloud and its regions are read from it as they are from the whole
(`Contents.cloud?_shownWith`, `Contents.region?_shownWith`).  So what leaves this portion alone
leaves them alone, whatever else it does to the rows that are shown with other clouds.
-/
import ControlPlane.Proofs.Retrieval

namespace ControlPlane
namespace Contents

variable {c c' : Contents} {name : String}

/-- Whether a link is one of a region of the cloud. -/
def isLinkOf (c : Contents) (name : String) (link : Row .link) : Bool :=
  (c.get .region).any fun region =>
    region.origin.cloud = name && region.id = link.origin.region

/-- Whether a grant is one on the cloud. -/
def isGrantOn (c : Contents) (name : String) (grant : Row (.grant .cloud)) : Bool :=
  (c.get .cloud).any fun cloud => cloud.origin = name && cloud.id = grant.origin.object

/-- Whether a row is shown where the cloud of that name and its regions are. -/
def isShownWith (c : Contents) (name : String) : (q : Relation) → Row q → Bool
  | .cloud, row => row.origin = name
  | .region, row => row.origin.cloud = name
  | .link, row => c.isLinkOf name row
  | .controller, row =>
    (c.get .link).any fun link => c.isLinkOf name link && link.origin.controller = row.id
  | .grant .cloud, row => c.isGrantOn name row
  | .identity, row =>
    (c.get (.grant .cloud)).any fun grant =>
      c.isGrantOn name grant && grant.origin.identity = row.origin
  | _, _ => false

/-- The rows that are shown with a cloud, and no others. -/
def shownWith (c : Contents) (name : String) : Contents :=
  PerRelation.tabulate fun q => (c.get q).filter (c.isShownWith name q)

@[simp] theorem get_shownWith (c : Contents) (name : String) (q : Relation) :
    (c.shownWith name).get q = (c.get q).filter (c.isShownWith name q) :=
  PerRelation.get_tabulate _ q

theorem AllDistinct.shownWith (hc : c.AllDistinct) (name : String) :
    (c.shownWith name).AllDistinct := by
  intro q
  rw [get_shownWith]
  exact (hc q).sublist List.filter_sublist

/-! ## When two portions are the same -/

theorem any_and_eq {r : Relation} {rows rows' : List (Row r)} {p q : Row r → Bool}
    (h : rows'.filter p = rows.filter p) :
    (rows'.any fun row => p row && q row) = rows.any fun row => p row && q row := by
  rw [← List.any_filter, ← List.any_filter, h]

/-- Clouds are told by their names alone and regions by their clouds, links and grants by what they
are on, and controllers and identities by these; so what is shown of the rows before shows what is
shown at all. -/
theorem isShownWith_eq
    (h : ∀ q, (c'.get q).filter (c.isShownWith name q) = (c.get q).filter (c.isShownWith name q)) :
    c'.isShownWith name = c.isShownWith name := by
  have hlink : c'.isLinkOf name = c.isLinkOf name := funext fun link => any_and_eq (h .region)
  have hgrant : c'.isGrantOn name = c.isGrantOn name := funext fun grant => any_and_eq (h .cloud)
  funext q row
  cases q with
  | link => exact congrFun hlink row
  | controller =>
    simp only [isShownWith, hlink]
    exact any_and_eq (h .link)
  | identity =>
    simp only [isShownWith, hgrant]
    exact any_and_eq (h (.grant .cloud))
  | grant on =>
    cases on with
    | cloud => exact congrFun hgrant row
    | model => rfl
    | credential => rfl
  | cloud => rfl
  | region => rfl
  | credential => rfl
  | model => rfl

theorem shownWith_eq
    (h : ∀ q, (c'.get q).filter (c.isShownWith name q) = (c.get q).filter (c.isShownWith name q)) :
    c'.shownWith name = c.shownWith name := by
  refine PerRelation.ext_get fun q => ?_
  rw [get_shownWith, get_shownWith, isShownWith_eq h, h q]

theorem isShownWith_shownWith (c : Contents) (name : String) :
    (c.shownWith name).isShownWith name = c.isShownWith name :=
  isShownWith_eq fun q => by simp [List.filter_filter]

/-- Equal portions are of rows that are shown for the same reasons. -/
theorem isShownWith_of_shownWith_eq (h : c'.shownWith name = c.shownWith name) :
    c'.isShownWith name = c.isShownWith name := by
  rw [← isShownWith_shownWith c', h, isShownWith_shownWith]

/-! ## Reading the portion -/

section

variable (c)

theorem filter_shownWith {q : Relation} {p : Row q → Bool}
    (h : ∀ row ∈ c.get q, p row = true → c.isShownWith name q row = true) :
    ((c.shownWith name).get q).filter p = (c.get q).filter p := by
  rw [get_shownWith, List.filter_filter]
  refine List.filter_congr fun row hrow => ?_
  cases hp : p row with
  | false => rfl
  | true => rw [h row hrow hp]; rfl

theorem find?_shownWith {q : Relation} {p : Row q → Bool}
    (h : ∀ row ∈ c.get q, p row = true → c.isShownWith name q row = true) :
    ((c.shownWith name).get q).find? p = (c.get q).find? p := by
  rw [← List.head?_filter, ← List.head?_filter, c.filter_shownWith h]

theorem regionsOfClouds_shownWith :
    (c.shownWith name).regionsOfClouds [name] = c.regionsOfClouds [name] := by
  rw [regionsOfClouds, c.filter_shownWith fun row _ hrow => ?_]
  · rfl
  · simpa [isShownWith] using hrow

theorem cloudsNamed_shownWith :
    (c.shownWith name).cloudsNamed [name] = c.cloudsNamed [name] := by
  rw [cloudsNamed, c.filter_shownWith fun row _ hrow => ?_]
  · rfl
  · simpa [isShownWith] using hrow

theorem grantsOn_shownWith {cloud : Row .cloud} (hcloud : cloud ∈ c.get .cloud)
    (hname : cloud.origin = name) :
    (c.shownWith name).grantsOn .cloud [cloud.id] = c.grantsOn .cloud [cloud.id] := by
  rw [grantsOn, c.filter_shownWith fun row _ hrow => ?_]
  · rfl
  · have hobject : row.origin.object = cloud.id := by simpa using hrow
    refine List.any_eq_true.2 ⟨cloud, hcloud, ?_⟩
    simp [hname, hobject]

theorem identitiesNamed_shownWith {grant : Row (.grant .cloud)}
    (hgrant : grant ∈ c.get (.grant .cloud)) (hshown : c.isGrantOn name grant = true) :
    (c.shownWith name).identitiesNamed [grant.origin.identity] =
      c.identitiesNamed [grant.origin.identity] := by
  rw [identitiesNamed, c.filter_shownWith fun row _ hrow => ?_]
  · rfl
  · have hholder : row.origin = grant.origin.identity := by simpa using hrow
    refine List.any_eq_true.2 ⟨grant, hgrant, ?_⟩
    simp [hshown, hholder]

theorem withIds_shownWith {link : Row .link} (hlink : link ∈ c.get .link)
    (hshown : c.isLinkOf name link = true) :
    (c.shownWith name).withIds .controller [link.origin.controller] =
      c.withIds .controller [link.origin.controller] := by
  rw [withIds, c.filter_shownWith fun row _ hrow => ?_]
  · rfl
  · have hid : row.id = link.origin.controller := by simpa using hrow
    refine List.any_eq_true.2 ⟨link, hlink, ?_⟩
    simp [hshown, hid]

theorem isLinkOf_of_region {region : Row .region} (hregion : region ∈ c.get .region)
    (hcloud : region.origin.cloud = name) {link : Row .link}
    (hlink : link.origin.region = region.id) : c.isLinkOf name link = true :=
  List.any_eq_true.2 ⟨region, hregion, by simp [hcloud, hlink]⟩

theorem linksOfRegions_shownWith {region : Row .region} (hregion : region ∈ c.get .region)
    (hcloud : region.origin.cloud = name) :
    (c.shownWith name).linksOfRegions [region.id] = c.linksOfRegions [region.id] := by
  have hshown : ∀ link : Row .link, [region.id].contains link.origin.region = true →
      c.isLinkOf name link = true := fun link hlink =>
    c.isLinkOf_of_region hregion hcloud (by simpa using hlink)
  simp only [linksOfRegions]
  rw [c.filter_shownWith fun row _ hrow => hshown row hrow]
  -- The links are the same, and so is the controller that is joined to each of them.
  congr 2
  refine List.filterMap_congr fun link hlink => ?_
  obtain ⟨hmem, hof⟩ := List.mem_filter.1 hlink
  rw [c.find?_shownWith fun controller _ hcontroller => ?_]
  refine List.any_eq_true.2 ⟨link, hmem, ?_⟩
  have hid : link.origin.controller = controller.id := by simpa using hcontroller
  simp [hshown link hof, hid]

theorem mem_of_mem_linksOfRegions {id : Int} {link : Row .link} (h : link ∈ c.linksOfRegions [id]) :
    link ∈ c.get .link ∧ link.origin.region = id := by
  obtain ⟨⟨row, controller⟩, hjoined, rfl⟩ := List.mem_map.1 h
  obtain ⟨link, hlink, hpair⟩ := List.mem_filterMap.1 (mem_sortBy.1 hjoined)
  obtain ⟨_, -, heq⟩ := Option.map_eq_some_iff.1 hpair
  cases heq
  exact mem_filter_contains.1 hlink

/-! ## Entities -/

theorem grantOfRow_shownWith (g : Preload) {grant : Row (.grant .cloud)}
    (hgrant : grant ∈ c.get (.grant .cloud)) (hshown : c.isGrantOn name grant = true) :
    (c.shownWith name).grantOfRow g grant = c.grantOfRow g grant := by
  rw [grantOfRow, grantOfRow, c.identitiesNamed_shownWith hgrant hshown]

/-- A controller without the regions that it serves is its row. -/
theorem controllerAlone_of_bare {g : Preload} (h : g.contains "cloud_regions" = false)
    (row : Row .controller) : c.controllerAlone g row = ⟨row, []⟩ := by
  rw [controllerAlone, h]
  rfl

end

end Contents

/-! ## Graphs that stay with a cloud -/

namespace Preload

/-- Whether no more than its bare controller is loaded with a link. -/
structure StaysAtLink (g : Preload) : Prop where
  region : g.contains "cloud_region" = false
  regions : (g.nested "controller").contains "cloud_regions" = false

/-- Whether no more than its bare cloud, its links and their bare controllers are loaded with a
region. -/
structure StaysAtRegion (g : Preload) : Prop where
  regions : (g.nested "cloud").contains "regions" = false
  grants : (g.nested "cloud").contains "grants" = false
  links : (g.nested "controllers").StaysAtLink

theorem region_stays : (region "").StaysAtRegion :=
  ⟨by decide +kernel, by decide +kernel, by decide +kernel, by decide +kernel⟩

theorem cloud_stays : ((cloud "").nested "regions").StaysAtRegion :=
  ⟨by decide +kernel, by decide +kernel, by decide +kernel, by decide +kernel⟩

end Preload

namespace Contents

variable {c : Contents} (hc : c.AllDistinct) {name : String} {g : Preload}

include hc

theorem linkAlone_shownWith (hstays : g.StaysAtLink) {link : Row .link} (hlink : link ∈ c.get .link)
    (hshown : c.isLinkOf name link = true) :
    (c.shownWith name).linkAlone g link = c.linkAlone g link := by
  have hkeyed := (hc.withIds .controller).distinct [link.origin.controller]
  rw [linkAlone, linkAlone, hstays.region, c.withIds_shownWith hlink hshown,
    ((hc.shownWith name).hydratesGraph _).controllers.eq_map hkeyed,
    (hc.hydratesGraph _).controllers.eq_map hkeyed,
    funext (controllerAlone_of_bare (c.shownWith name) hstays.regions),
    funext (controllerAlone_of_bare c hstays.regions)]
  rfl

theorem regionAlone_shownWith (hstays : g.StaysAtRegion) {region : Row .region}
    (hregion : region ∈ c.get .region) (hcloud : region.origin.cloud = name) :
    (c.shownWith name).regionAlone g region = c.regionAlone g region := by
  have hlinks : (c.shownWith name).hydrateLinks (g.nested "controllers")
        ((c.shownWith name).linksOfRegions [region.id]) =
      c.hydrateLinks (g.nested "controllers") (c.linksOfRegions [region.id]) := by
    have hkeyed := hc.linksOfRegions.distinct [region.id]
    rw [c.linksOfRegions_shownWith hregion hcloud,
      ((hc.shownWith name).hydratesGraph _).links.eq_map hkeyed,
      (hc.hydratesGraph _).links.eq_map hkeyed]
    refine List.map_congr_left fun link hlink => ?_
    obtain ⟨hmem, hof⟩ := c.mem_of_mem_linksOfRegions hlink
    exact linkAlone_shownWith hc hstays.links hmem (c.isLinkOf_of_region hregion hcloud hof)
  have hclouds : (c.shownWith name).hydrateClouds (g.nested "cloud")
        ((c.shownWith name).cloudsNamed [region.origin.cloud]) =
      c.hydrateClouds (g.nested "cloud") (c.cloudsNamed [region.origin.cloud]) := by
    have hkeyed := hc.cloudsNamed.distinct [name]
    rw [hcloud, c.cloudsNamed_shownWith,
      ((hc.shownWith name).hydratesGraph _).clouds.eq_map hkeyed,
      (hc.hydratesGraph _).clouds.eq_map hkeyed]
    refine List.map_congr_left fun cloud _ => ?_
    simp only [cloudAlone, hstays.regions, hstays.grants, if_false, Bool.false_eq_true]
  rw [regionAlone, regionAlone, hlinks, hclouds]

theorem cloudAlone_shownWith (hstays : (g.nested "regions").StaysAtRegion) {cloud : Row .cloud}
    (hcloud : cloud ∈ c.get .cloud) (hname : cloud.origin = name) :
    (c.shownWith name).cloudAlone g cloud = c.cloudAlone g cloud := by
  have hregions : (c.shownWith name).hydrateRegions (g.nested "regions")
        ((c.shownWith name).regionsOfClouds [cloud.origin]) =
      c.hydrateRegions (g.nested "regions") (c.regionsOfClouds [cloud.origin]) := by
    have hkeyed := hc.regionsOfClouds.distinct [name]
    rw [hname, c.regionsOfClouds_shownWith,
      ((hc.shownWith name).hydratesGraph _).regions.eq_map hkeyed,
      (hc.hydratesGraph _).regions.eq_map hkeyed]
    refine List.map_congr_left fun region hregion => ?_
    obtain ⟨hmem, hof⟩ := mem_filter_contains.1 (mem_sortBy.1 hregion)
    exact regionAlone_shownWith hc hstays hmem hof
  have hgrants : ((c.shownWith name).grantsOn .cloud [cloud.id]).map
        ((c.shownWith name).grantOfRow (g.nested "grants")) =
      (c.grantsOn .cloud [cloud.id]).map (c.grantOfRow (g.nested "grants")) := by
    rw [c.grantsOn_shownWith hcloud hname]
    refine List.map_congr_left fun grant hgrant => ?_
    obtain ⟨hmem, hobject⟩ := mem_filter_contains.1 (mem_sortBy.1 hgrant)
    refine c.grantOfRow_shownWith _ hmem ?_
    exact List.any_eq_true.2 ⟨cloud, hcloud, by simp [hname, hobject]⟩
  rw [cloudAlone, cloudAlone, hregions, hgrants]

theorem cloud?_shownWith (name : String) : (c.shownWith name).cloud? name = c.cloud? name := by
  have hrow : (c.shownWith name).cloudRow? name = c.cloudRow? name :=
    c.find?_shownWith fun _ _ h => h
  rw [cloud?, cloud?, hrow]
  cases hfind : c.cloudRow? name with
  | none => rfl
  | some row =>
    have hmem : row ∈ c.get .cloud := List.mem_of_find?_eq_some hfind
    have hname : row.origin = name := by simpa using List.find?_some hfind
    simp only [Option.bind_some, hc.cloudOfRow?_eq, (hc.shownWith name).cloudOfRow?_eq,
      cloudAlone_shownWith hc Preload.cloud_stays hmem hname]

theorem region?_shownWith (key : RegionKey) :
    (c.shownWith key.cloud).region? key = c.region? key := by
  have hrow : (c.shownWith key.cloud).regionRow? key = c.regionRow? key := by
    refine c.find?_shownWith fun row _ h => ?_
    have hkey : row.origin = key := by simpa using h
    simp [isShownWith, hkey]
  rw [region?, region?, hrow]
  cases hfind : c.regionRow? key with
  | none => rfl
  | some row =>
    have hmem : row ∈ c.get .region := List.mem_of_find?_eq_some hfind
    have hkey : row.origin = key := by simpa using List.find?_some hfind
    simp only [Option.bind_some, hc.regionOfRow?_eq, (hc.shownWith key.cloud).regionOfRow?_eq,
      regionAlone_shownWith hc Preload.region_stays hmem (congrArg RegionKey.cloud hkey)]

end Contents
end ControlPlane
