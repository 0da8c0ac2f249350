/-
Loading the associations of entities.

Rows of one kind are hydrated together: for each path of the graph the rows that it leads to are
loaded once for all of them. What belongs to a row is then looked up among them, and what a row has
many of is dealt out, a group to each row. Going along a path leaves a smaller graph, which is why
hydration ends.
-/
import ControlPlane.Entity
import ControlPlane.Preload
import ControlPlane.Storage.Order

namespace ControlPlane
namespace Contents

/-! ## What the paths lead to -/

def identitiesNamed (c : Contents) (names : List String) : List (Row .identity) :=
  sortBy Row.byIdentityName ((c.get .identity).filter fun row => names.contains row.origin)

def cloudsNamed (c : Contents) (names : List String) : List (Row .cloud) :=
  sortBy Row.byCloudName ((c.get .cloud).filter fun row => names.contains row.origin)

def regionsOfClouds (c : Contents) (names : List String) : List (Row .region) :=
  sortBy Row.byRegionKey ((c.get .region).filter fun row => names.contains row.origin.cloud)

/-- The rows with certain numbers. -/
def withIds (c : Contents) (r : Relation) (ids : List Int) : List (Row r) :=
  sortBy Row.byId ((c.get r).filter fun row => ids.contains row.id)

/-- The links of regions, each with its controller. -/
def linksOfRegions (c : Contents) (ids : List Int) : List (Row .link) :=
  let links := (c.get .link).filter fun row => ids.contains row.origin.region
  let joined := links.filterMap fun row =>
    ((c.get .controller).find? fun controller => row.origin.controller = controller.id).map (row, ·)
  let order := compareLex (compareOn fun p : Row .link × Row .controller => p.1.origin.region)
    (compareLex (fun p q => Row.byPriority p.1 q.1) fun p q => Row.byControllerName p.2 q.2)
  (sortBy order joined).map Prod.fst

/-- The links of controllers, each with its region. -/
def linksOfControllers (c : Contents) (ids : List Int) : List (Row .link) :=
  let links := (c.get .link).filter fun row => ids.contains row.origin.controller
  let joined := links.filterMap fun row =>
    ((c.get .region).find? fun region => row.origin.region = region.id).map (row, ·)
  let order := compareLex (compareOn fun p : Row .link × Row .region => p.1.origin.controller)
    (compareLex (fun p q => Row.byPriority p.1 q.1) fun p q => Row.byRegionKey p.2 q.2)
  (sortBy order joined).map Prod.fst

def grantsOn (c : Contents) (on : Grantable) (ids : List Int) : List (Row (.grant on)) :=
  sortBy Row.byGrantee ((c.get (.grant on)).filter fun row => ids.contains row.origin.object)

/-! ## Dealing out -/

section

variable {κ ε : Type} [DecidableEq κ]

/-- Deal items out to keys: each key in turn takes the items of its own away. A key that comes again
finds none. -/
def dealOut (keyOf : ε → κ) : List ε → List κ → List (List ε)
  | _, [] => []
  | items, key :: rest =>
    let parts := items.partition fun item => keyOf item = key
    parts.1 :: dealOut keyOf parts.2 rest

@[simp] theorem length_dealOut (keyOf : ε → κ) (items : List ε) (keys : List κ) :
    (dealOut keyOf items keys).length = keys.length := by
  induction keys generalizing items with
  | nil => rfl
  | cons key rest ih => rw [dealOut, List.length_cons, ih, List.length_cons]

/-- Keys that are all different share the items out among them. -/
theorem dealOut_eq_map {keyOf : ε → κ} {keys : List κ} (h : keys.Nodup) (items : List ε) :
    dealOut keyOf items keys = keys.map fun key => items.filter fun item => keyOf item = key := by
  induction keys generalizing items with
  | nil => rfl
  | cons key rest ih =>
    obtain ⟨hkey, hrest⟩ := List.nodup_cons.1 h
    rw [dealOut, List.partition_eq_filter_filter, List.map_cons, ih hrest]
    refine congrArg _ (List.map_congr_left fun other hother => ?_)
    rw [List.filter_filter]
    refine List.filter_congr fun item _ => ?_
    by_cases hitem : keyOf item = other
    · have hne : other ≠ key := fun heq => hkey (heq ▸ hother)
      simp [hitem, hne]
    · simp [hitem]

end

/-! ## Hydration -/

def hydrateIdentities (rows : List (Row .identity)) : List Identity := rows.map Identity.mk

/-- The grants on objects, each with the number of its object. -/
def hydrateGrants (c : Contents) (on : Grantable) (g : Preload) (ids : List Int) :
    List (Int × Grant) :=
  let rows := c.grantsOn on ids
  let identities :=
    if g.contains "identity" then
      hydrateIdentities (c.identitiesNamed (rows.map fun row => row.origin.identity))
    else []
  rows.map fun row =>
    (row.origin.object,
      { identityName := row.origin.identity
        settings := row.settings
        createdAt := row.createdAt
        updatedAt := row.updatedAt
        identity := identities.find? fun identity => identity.row.origin = row.origin.identity })

/-- Deal grants out to the objects with these numbers. -/
def dealGrants (grants : List (Int × Grant)) (ids : List Int) : List (List Grant) :=
  (dealOut Prod.fst grants ids).map fun group => group.map Prod.snd

@[simp] theorem length_dealGrants (grants : List (Int × Grant)) (ids : List Int) :
    (dealGrants grants ids).length = ids.length := by
  rw [dealGrants, List.length_map, length_dealOut]

mutual

def hydrateClouds (c : Contents) (g : Preload) (rows : List (Row .cloud)) : List Cloud :=
  let regions :=
    if _ : g.contains "regions" = true then
      c.hydrateRegions (g.nested "regions") (c.regionsOfClouds (rows.map fun row => row.origin))
    else []
  let grants :=
    if g.contains "grants" then
      c.hydrateGrants .cloud (g.nested "grants") (rows.map fun row => row.id)
    else []
  let regionGroups :=
    dealOut (fun region : Region => region.row.origin.cloud) regions
      (rows.map fun row => row.origin)
  let grantGroups := dealGrants grants (rows.map fun row => row.id)
  (rows.zip (regionGroups.zip grantGroups)).map fun (row, regions, grants) => ⟨row, regions, grants⟩
termination_by g.size
decreasing_by exact Preload.size_nested_lt (by assumption)

def hydrateRegions (c : Contents) (g : Preload) (rows : List (Row .region)) : List Region :=
  let clouds :=
    if _ : g.contains "cloud" = true then
      c.hydrateClouds (g.nested "cloud") (c.cloudsNamed (rows.map fun row => row.origin.cloud))
    else []
  let links :=
    if _ : g.contains "controllers" = true then
      c.hydrateLinks (g.nested "controllers") (c.linksOfRegions (rows.map fun row => row.id))
    else []
  let linkGroups :=
    dealOut (fun link : Link => link.row.origin.region) links (rows.map fun row => row.id)
  (rows.zip linkGroups).map fun (row, links) =>
    { row := row
      cloud := clouds.find? fun cloud => cloud.row.origin = row.origin.cloud
      links := links }
termination_by g.size
decreasing_by all_goals exact Preload.size_nested_lt (by assumption)

def hydrateLinks (c : Contents) (g : Preload) (rows : List (Row .link)) : List Link :=
  let controllers :=
    if _ : g.contains "controller" = true then
      c.hydrateControllers (g.nested "controller")
        (c.withIds .controller (rows.map fun row => row.origin.controller))
    else []
  let regions :=
    if _ : g.contains "cloud_region" = true then
      c.hydrateRegions (g.nested "cloud_region")
        (c.withIds .region (rows.map fun row => row.origin.region))
    else []
  rows.map fun row =>
    { row := row
      controller := controllers.find? fun controller => controller.row.id = row.origin.controller
      region := regions.find? fun region => region.row.id = row.origin.region }
termination_by g.size
decreasing_by all_goals exact Preload.size_nested_lt (by assumption)

def hydrateControllers (c : Contents) (g : Preload) (rows : List (Row .controller)) :
    List Controller :=
  let links :=
    if _ : g.contains "cloud_regions" = true then
      c.hydrateLinks (g.nested "cloud_regions")
        (c.linksOfControllers (rows.map fun row => row.id))
    else []
  let linkGroups :=
    dealOut (fun link : Link => link.row.origin.controller) links (rows.map fun row => row.id)
  (rows.zip linkGroups).map fun (row, links) => ⟨row, links⟩
termination_by g.size
decreasing_by exact Preload.size_nested_lt (by assumption)

end

def hydrateCredentials (c : Contents) (g : Preload) (rows : List (Row .credential)) :
    List Credential :=
  let clouds :=
    if g.contains "cloud" then
      c.hydrateClouds (g.nested "cloud") (c.cloudsNamed (rows.map fun row => row.origin.cloud))
    else []
  let owners :=
    if g.contains "owner" then
      hydrateIdentities (c.identitiesNamed (rows.map fun row => row.origin.owner))
    else []
  let grants :=
    if g.contains "grants" then
      c.hydrateGrants .credential (g.nested "grants") (rows.map fun row => row.id)
    else []
  (rows.zip (dealGrants grants (rows.map fun row => row.id))).map fun (row, grants) =>
    { row := row
      cloud := clouds.find? fun cloud => cloud.row.origin = row.origin.cloud
      owner := owners.find? fun owner => owner.row.origin = row.origin.owner
      grants := grants }

def hydrateModels (c : Contents) (g : Preload) (rows : List (Row .model)) : List Model :=
  let owners :=
    if g.contains "owner" then
      hydrateIdentities (c.identitiesNamed (rows.map fun row => row.origin.owner))
    else []
  let controllers :=
    if g.contains "controller" then
      c.hydrateControllers (g.nested "controller")
        (c.withIds .controller (rows.map fun row => row.settings.controller))
    else []
  let regions :=
    if g.contains "cloud_region" then
      c.hydrateRegions (g.nested "cloud_region")
        (c.withIds .region (rows.map fun row => row.origin.region))
    else []
  let credentials :=
    if g.contains "cloud_credential" then
      c.hydrateCredentials (g.nested "cloud_credential")
        (c.withIds .credential (rows.map fun row => row.settings.credential))
    else []
  let grants :=
    if g.contains "grants" then
      c.hydrateGrants .model (g.nested "grants") (rows.map fun row => row.id)
    else []
  (rows.zip (dealGrants grants (rows.map fun row => row.id))).map fun (row, grants) =>
    { row := row
      owner := owners.find? fun owner => owner.row.origin = row.origin.owner
      controller := controllers.find? fun controller => controller.row.id = row.settings.controller
      region := regions.find? fun region => region.row.id = row.origin.region
      credential := credentials.find? fun credential => credential.row.id = row.settings.credential
      grants := grants }

end Contents
end ControlPlane
