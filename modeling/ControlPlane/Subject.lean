/-
What an operation addresses.

A subject labels the errors of the operation. A key with an empty part addresses nothing that could
exist, so an operation on it ends without a look at the database.
-/
import ControlPlane.Entity.Key
import ControlPlane.Entity.Kind

namespace ControlPlane

structure Subject where
  kind : EntityKind
  key : String
  /-- Whether an entity with this key could exist. -/
  isValid : Bool
  deriving DecidableEq, Repr, Inhabited

namespace Subject

/-- The subject with a key of one part. -/
def ofKey (kind : EntityKind) (key : String) : Subject := ⟨kind, key, !key.isEmpty⟩

/-- The subject with a key of several parts. -/
def ofParts (kind : EntityKind) (parts : List String) : Subject :=
  ⟨kind, joinKey parts, parts.all fun part => !part.isEmpty⟩

/-- The subject with a key that is never empty: an identifier, or the mark for all entities. -/
def unchecked (kind : EntityKind) (key : String) : Subject := ⟨kind, key, true⟩

/-- All entities of a kind. -/
def everything (kind : EntityKind) : Subject := unchecked kind "*"

def ofRegion (key : RegionKey) : Subject := ofParts .region key.parts

def ofController (key : ControllerKey) : Subject := ofKey .controller key.render

def ofCredential (key : CredentialKey) : Subject := ofParts .credential key.parts

def ofModel : ModelKey → Subject
  | .uuid u => ofKey .model u.render
  | .ownerName owner name => ofParts .model [owner, name]

/-- The link between a region and a controller. -/
def ofLink (region : RegionKey) (controller : ControllerKey) : Subject :=
  ofParts .link [region.cloud, region.region, controller.render]

end Subject
end ControlPlane
