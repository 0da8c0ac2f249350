/-
From natural keys to the numbers of rows.

An entity that is addressed has to be there.
-/
import ControlPlane.Entity.Lookup
import ControlPlane.Storage.Script

namespace ControlPlane

open Script

def Clouds.idOf (name : String) : Script Int :=
  queryOne name fun name c => (c.cloudRow? name).map fun row => row.id

def Regions.idOf (key : RegionKey) : Script Int :=
  queryOne key fun key c => (c.regionRow? key).map fun row => row.id

def Controllers.idOf (key : ControllerKey) : Script Int :=
  queryOne key fun key c => (c.controllerRow? key).map fun row => row.id

def Models.idOf (key : ModelKey) : Script Int :=
  queryOne key fun key c => (c.modelRow? key).map fun row => row.id

def Credentials.idOf (key : CredentialKey) : Script Int :=
  queryOne key fun key c => (c.credentialRow? key).map fun row => row.id

/-- The number of a cloud to which something else refers; it is reported itself if missing. -/
def Clouds.referredId (name : String) : Script Int := about (.ofKey .cloud name) (Clouds.idOf name)

/-- The number of a region to which something else refers; it is reported itself if missing. -/
def Regions.referredId (key : RegionKey) : Script Int := about (.ofRegion key) (Regions.idOf key)

/-- The number of a controller to which something else refers; it is reported itself if missing. -/
def Controllers.referredId (key : ControllerKey) : Script Int :=
  about (.ofController key) (Controllers.idOf key)

end ControlPlane
