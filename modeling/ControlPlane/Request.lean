/-
What callers hand in to create entities and to reconcile them with a snapshot.

A model and a credential are created from their entry alone, and an update carries settings; so
these have no type of their own here.
-/
import ControlPlane.Merge
import ControlPlane.Storage.Relation

namespace ControlPlane

/-- A region to be created within a cloud. -/
structure Region.Draft where
  name : String
  settings : Region.Settings

/-- The entry of a region within a cloud. -/
def Region.Draft.entry (draft : Region.Draft) (cloud : String) : Entry .region :=
  ⟨⟨cloud, draft.name⟩, draft.settings⟩

/-- A cloud to be created, with its first regions. -/
structure Cloud.Draft where
  name : String
  settings : Cloud.Settings
  regions : List Region.Draft

def Cloud.Draft.entry (draft : Cloud.Draft) : Entry .cloud := ⟨draft.name, draft.settings⟩

/-- A region that a controller can serve, and with which priority. -/
structure RegionPriority where
  region : RegionKey
  priority : Int
  deriving DecidableEq, Repr, Inhabited

/-- A controller to be created, with the regions that it serves. -/
structure Controller.Draft where
  origin : Controller.Origin
  settings : Controller.Settings
  priorities : List RegionPriority

def Controller.Draft.entry (draft : Controller.Draft) : Entry .controller :=
  ⟨draft.origin, draft.settings⟩

/-- An identity to be created. What is left out gets a default. -/
structure Identity.Draft where
  name : String
  displayName : Option String
  access : Option Access
  isDisabled : Bool
  deriving DecidableEq, Repr, Inhabited

/-- The access of an identity, as a snapshot reports it. -/
structure GrantReport where
  identityName : String
  access : Access
  deriving DecidableEq, Repr, Inhabited

/-- A cloud as a live controller reports it. -/
structure Cloud.Snapshot where
  cloud : Cloud.Draft
  grants : List GrantReport

/-- A credential as a live controller reports it. -/
structure Credential.Snapshot where
  credential : Entry .credential
  grants : List GrantReport

/-- An entity after a merge, and what became of the rows of the snapshot. -/
structure Merged (α : Type) where
  entity : α
  tally : Tally

/-! ## Links of the highest and the lowest rank -/

/-- The priority of a controller that has a model in the region. -/
def RegionPriority.deployed : Int := 10

/-- The priority of a controller that merely supports the region. -/
def RegionPriority.supported : Int := 1

end ControlPlane
