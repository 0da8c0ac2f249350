/-
The constraints of the database: which values are unique, and what refers to what.

Each relation has a list of uniqueness constraints, checked in their order, and a list of
references. A reference may cascade: when the row it refers to is deleted, the referring row goes
too. Otherwise the delete is refused.
-/
import ControlPlane.Storage.Failure
import ControlPlane.Storage.Relation

namespace ControlPlane

/-! ## Uniqueness -/

/-- A value in a unique column. -/
inductive Value
  | text (text : String)
  | number (number : Int)
  | uuid (uuid : Uuid)
  deriving DecidableEq, Repr, Inhabited

def Value.render : Value → String
  | .text s => s
  | .number n => toString n
  | .uuid u => u.render

/-- Columns whose values no two rows share. -/
structure Uniqueness (r : Relation) where
  name : String
  columns : List String
  /-- The values of an entry in these columns; none where one is missing, which conflicts with
  nothing. -/
  values : Entry r → Option (List Value)

namespace Uniqueness

variable {r : Relation}

/-- Whether two entries have the same values. -/
def conflicts (u : Uniqueness r) (a b : Entry r) : Bool :=
  (u.values a).isSome && u.values a = u.values b

/-- What the database says of an entry whose values another row has. -/
def detail (u : Uniqueness r) (e : Entry r) : String :=
  Failure.duplicateDetail u.columns (((u.values e).getD []).map Value.render)

end Uniqueness

def Grantable.idColumn : Grantable → String
  | .cloud => "cloud_id"
  | .model => "model_id"
  | .credential => "cloud_credential_id"

def Grantable.constraintName : Grantable → String
  | .cloud => "identity_cloud_access_object_identity_key"
  | .model => "identity_model_access_object_identity_key"
  | .credential => "identity_cloud_credential_access_object_identity_key"

/-- The uniqueness constraints of a relation, in the order in which they are checked. -/
def uniquenesses : (r : Relation) → List (Uniqueness r)
  | .identity =>
    [⟨"identities_name_key", ["name"], fun e => some [.text e.origin]⟩]
  | .cloud =>
    [⟨"clouds_name_key", ["name"], fun e => some [.text e.origin]⟩]
  | .region =>
    [⟨"cloud_regions_cloud_name_name_key", ["cloud_name", "name"],
      fun e => some [.text e.origin.cloud, .text e.origin.region]⟩]
  | .controller =>
    [⟨"controllers_name_key", ["name"], fun e => some [.text e.origin.name]⟩,
     ⟨"controllers_uuid_key", ["uuid"], fun e => some [.uuid e.origin.uuid]⟩]
  | .link =>
    [⟨"cloud_region_controller_priorities_region_controller_key",
      ["cloud_region_id", "controller_id"],
      fun e => some [.number e.origin.region, .number e.origin.controller]⟩]
  | .credential =>
    [⟨"cloud_credentials_cloud_owner_name_key", ["cloud_name", "owner_identity_name", "name"],
      fun e => some [.text e.origin.cloud, .text e.origin.owner, .text e.origin.name]⟩]
  | .model =>
    [⟨"models_uuid_key", ["uuid"], fun e => e.settings.uuid.map fun u => [.uuid u]⟩,
     ⟨"models_owner_name_key", ["owner_identity_name", "name"],
      fun e => some [.text e.origin.owner, .text e.origin.name]⟩]
  | .grant on =>
    [⟨on.constraintName, [on.idColumn, "identity_name"],
      fun e => some [.number e.origin.object, .text e.origin.identity]⟩]

/-! ## References -/

/-- A reference from the rows of one relation to those of another. -/
structure Reference (r : Relation) where
  target : Relation
  refersTo : Entry r → Row target → Bool
  /-- Whether a row goes with the row it refers to. -/
  cascades : Bool

/-- The relation of the objects of a grant. -/
@[reducible] def Grantable.relation : Grantable → Relation
  | .cloud => .cloud
  | .model => .model
  | .credential => .credential

def references : (r : Relation) → List (Reference r)
  | .identity => []
  | .cloud => []
  | .region => [⟨.cloud, fun e cloud => e.origin.cloud = cloud.origin, true⟩]
  | .controller => [⟨.region, fun e region => e.origin.hosting = region.origin, false⟩]
  | .link =>
    [⟨.region, fun e region => e.origin.region = region.id, true⟩,
     ⟨.controller, fun e controller => e.origin.controller = controller.id, true⟩]
  | .credential =>
    [⟨.cloud, fun e cloud => e.origin.cloud = cloud.origin, false⟩,
     ⟨.identity, fun e identity => e.origin.owner = identity.origin, false⟩]
  | .model =>
    [⟨.identity, fun e identity => e.origin.owner = identity.origin, false⟩,
     ⟨.controller, fun e controller => e.settings.controller = controller.id, false⟩,
     ⟨.region, fun e region => e.origin.region = region.id, false⟩,
     ⟨.credential, fun e credential => e.settings.credential = credential.id, false⟩]
  | .grant on =>
    [⟨on.relation, fun e object => e.origin.object = object.id, true⟩,
     ⟨.identity, fun e identity => e.origin.identity = identity.origin, true⟩]

/-- The relations with cascading references, each after those to which it refers. -/
def cascadeOrder : List Relation :=
  [.region, .link, .grant .cloud, .grant .model, .grant .credential]

end ControlPlane
