/-
Natural keys: how entities are addressed from outside.

Clouds and identities are addressed by their name. An owner in a key is the name of an identity,
which may be given in its raw form.
-/
import ControlPlane.Uuid

namespace ControlPlane

structure RegionKey where
  cloud : String
  region : String
  deriving DecidableEq, Repr, Inhabited

/-- A controller is unique by its identifier and by its name. -/
inductive ControllerKey
  | uuid (uuid : Uuid)
  | name (name : String)
  deriving DecidableEq, Repr, Inhabited

/-- A model has a name under its owner from the start, and an identifier once it is provisioned. -/
inductive ModelKey
  | uuid (uuid : Uuid)
  | ownerName (owner name : String)
  deriving DecidableEq, Repr, Inhabited

structure CredentialKey where
  cloud : String
  owner : String
  name : String
  deriving DecidableEq, Repr, Inhabited

/-- The parts of a key in one text. -/
def joinKey (parts : List String) : String := String.intercalate "/" parts

namespace RegionKey

def parts (key : RegionKey) : List String := [key.cloud, key.region]

def render (key : RegionKey) : String := joinKey key.parts

end RegionKey

namespace ControllerKey

def render : ControllerKey → String
  | .uuid u => u.render
  | .name n => n

end ControllerKey

namespace ModelKey

def render : ModelKey → String
  | .uuid u => u.render
  | .ownerName owner name => joinKey [owner, name]

end ModelKey

namespace CredentialKey

def parts (key : CredentialKey) : List String := [key.cloud, key.owner, key.name]

def render (key : CredentialKey) : String := joinKey key.parts

end CredentialKey
end ControlPlane
