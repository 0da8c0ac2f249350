/-
Finding rows and entities by their keys.

An entity is found with the associations of its kind's graph.
-/
import ControlPlane.Entity.Hydration

namespace ControlPlane
namespace Contents

/-! ## Rows -/

def rowWithId? (c : Contents) (r : Relation) (id : Int) : Option (Row r) :=
  (c.get r).find? fun row => row.id = id

def identityRow? (c : Contents) (name : String) : Option (Row .identity) :=
  (c.get .identity).find? fun row => row.origin = name

def cloudRow? (c : Contents) (name : String) : Option (Row .cloud) :=
  (c.get .cloud).find? fun row => row.origin = name

def regionRow? (c : Contents) (key : RegionKey) : Option (Row .region) :=
  (c.get .region).find? fun row => row.origin = key

def controllerRow? (c : Contents) : ControllerKey → Option (Row .controller)
  | .uuid u => (c.get .controller).find? fun row => row.origin.uuid = u
  | .name n => (c.get .controller).find? fun row => row.origin.name = n

def credentialRow? (c : Contents) (key : CredentialKey) : Option (Row .credential) :=
  (c.get .credential).find? fun row => row.origin = key

def modelRow? (c : Contents) : ModelKey → Option (Row .model)
  | .uuid u => (c.get .model).find? fun row => row.settings.uuid = some u
  | .ownerName owner name =>
    (c.get .model).find? fun row => row.origin.owner = owner && row.origin.name = name

/-! ## Entities -/

def identity? (c : Contents) (name : String) : Option Identity :=
  (c.identityRow? name).map Identity.mk

def cloudOfRow? (c : Contents) (row : Row .cloud) : Option Cloud :=
  (c.hydrateClouds (Preload.cloud "") [row]).head?

def regionOfRow? (c : Contents) (row : Row .region) : Option Region :=
  (c.hydrateRegions (Preload.region "") [row]).head?

def controllerOfRow? (c : Contents) (row : Row .controller) : Option Controller :=
  (c.hydrateControllers (Preload.controller "") [row]).head?

def credentialOfRow? (c : Contents) (row : Row .credential) : Option Credential :=
  (c.hydrateCredentials (Preload.credential "") [row]).head?

def modelOfRow? (c : Contents) (row : Row .model) : Option Model :=
  (c.hydrateModels (Preload.model "") [row]).head?

def cloud? (c : Contents) (name : String) : Option Cloud := (c.cloudRow? name).bind c.cloudOfRow?

def region? (c : Contents) (key : RegionKey) : Option Region :=
  (c.regionRow? key).bind c.regionOfRow?

def controller? (c : Contents) (key : ControllerKey) : Option Controller :=
  (c.controllerRow? key).bind c.controllerOfRow?

def credential? (c : Contents) (key : CredentialKey) : Option Credential :=
  (c.credentialRow? key).bind c.credentialOfRow?

def model? (c : Contents) (key : ModelKey) : Option Model := (c.modelRow? key).bind c.modelOfRow?

/-- The first region with that name, by its number, on any cloud of a provider. -/
def regionAtProvider? (c : Contents) (provider region : String) : Option Region :=
  let clouds := (c.get .cloud).filter fun cloud => cloud.settings.provider = provider
  let matching := (c.get .region).filter fun row =>
    row.origin.region = region && clouds.any fun cloud => cloud.origin = row.origin.cloud
  (sortBy Row.byId matching).head?.bind c.regionOfRow?

/-! ## Listings -/

def allClouds (c : Contents) : List Cloud :=
  c.hydrateClouds (Preload.cloud "") (sortBy Row.byCloudName (c.get .cloud))

/-- Models of which something holds, in the order of their numbers. -/
def modelsWhere (c : Contents) (holds : Row .model → Bool) : List Model :=
  c.hydrateModels (Preload.model "") (sortBy Row.byId ((c.get .model).filter holds))

/-- The credentials that an identity owns on a cloud, by their names. -/
def credentialsOwned (c : Contents) (owner cloud : String) : List Credential :=
  let rows := (c.get .credential).filter fun row =>
    row.origin.owner = owner && row.origin.cloud = cloud
  c.hydrateCredentials (Preload.credential "") (sortBy Row.byCredentialName rows)

/-- The grants that an identity holds, in the order of the numbers of their objects. -/
def grantsHeld (c : Contents) (on : Grantable) (identity : String) : List (Row (.grant on)) :=
  sortBy Row.byGrantee ((c.get (.grant on)).filter fun row => row.origin.identity = identity)

/-- The clouds on which an identity holds a grant, without their associations. -/
def cloudsGranted (c : Contents) (identity : String) : List (Cloud × Grant.Settings) :=
  let grants := c.grantsHeld .cloud identity
  let clouds := c.hydrateClouds .empty
    (c.withIds .cloud (grants.map fun grant => grant.origin.object))
  grants.filterMap fun grant =>
    (clouds.find? fun cloud => cloud.row.id = grant.origin.object).map (·, grant.settings)

/-- The models on which an identity holds a grant, without their associations. -/
def modelsGranted (c : Contents) (identity : String) : List (Model × Grant.Settings) :=
  let grants := c.grantsHeld .model identity
  let models := c.hydrateModels .empty
    (c.withIds .model (grants.map fun grant => grant.origin.object))
  grants.filterMap fun grant =>
    (models.find? fun model => model.row.id = grant.origin.object).map (·, grant.settings)

end Contents
end ControlPlane
