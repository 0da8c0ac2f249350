/-
Entities with their associations.

An entity is a row together with what has been loaded beside it. An association to one other entity
is `none`, and one to many is empty, where it was not asked for. Clouds, regions, links and
controllers contain one another; loading ends because each association is asked for by a path.
-/
import ControlPlane.Storage.Relation

namespace ControlPlane

structure Identity where
  row : Row .identity

/-- A grant as its object shows it. -/
structure Grant where
  identityName : String
  settings : Grant.Settings
  createdAt : Timestamp
  updatedAt : Timestamp
  identity : Option Identity

mutual

structure Cloud where
  row : Row .cloud
  /-- In the order of their names. -/
  regions : List Region
  /-- In the order of the names of the identities. -/
  grants : List Grant

structure Region where
  row : Row .region
  cloud : Option Cloud
  /-- From the highest priority down, then in the order of the names of the controllers. -/
  links : List Link

structure Link where
  row : Row .link
  controller : Option Controller
  region : Option Region

structure Controller where
  row : Row .controller
  /-- From the highest priority down, then in the order of the keys of the regions. -/
  links : List Link

end

mutual

/-- Whether the documents of a cloud, and of what is loaded beside it, are read from their texts. -/
def Cloud.isReadable : Cloud → Bool
  | ⟨row, regions, _⟩ => row.isReadable && Region.areReadable regions

def Region.isReadable : Region → Bool
  | ⟨row, cloud, links⟩ => row.isReadable && Cloud.isReadableIfAny cloud && Link.areReadable links

def Link.isReadable : Link → Bool
  | ⟨_, controller, region⟩ =>
    Controller.isReadableIfAny controller && Region.isReadableIfAny region

def Controller.isReadable : Controller → Bool
  | ⟨row, links⟩ => row.isReadable && Link.areReadable links

def Region.areReadable : List Region → Bool
  | [] => true
  | region :: rest => region.isReadable && Region.areReadable rest

def Link.areReadable : List Link → Bool
  | [] => true
  | link :: rest => link.isReadable && Link.areReadable rest

def Cloud.isReadableIfAny : Option Cloud → Bool
  | none => true
  | some cloud => cloud.isReadable

def Region.isReadableIfAny : Option Region → Bool
  | none => true
  | some region => region.isReadable

def Controller.isReadableIfAny : Option Controller → Bool
  | none => true
  | some controller => controller.isReadable

end

structure Credential where
  row : Row .credential
  cloud : Option Cloud
  owner : Option Identity
  /-- In the order of the names of the identities. -/
  grants : List Grant

structure Model where
  row : Row .model
  owner : Option Identity
  controller : Option Controller
  region : Option Region
  credential : Option Credential
  /-- In the order of the names of the identities. -/
  grants : List Grant

/-- An entity of any kind. -/
inductive Entity
  | cloud (cloud : Cloud)
  | region (region : Region)
  | controller (controller : Controller)
  | model (model : Model)
  | identity (identity : Identity)
  | credential (credential : Credential)

end ControlPlane
