/-
Iterations: visiting all entities of a listing, hydrated, in the order of their keys.

A listing says which rows of the database there are to visit and how they are ordered; the walk
through its pages is the same for all.
-/
import ControlPlane.Entity.Lookup
import ControlPlane.Identity.Name
import ControlPlane.Store.Paging

namespace ControlPlane

/-! ## The orders of the keys -/

instance {r : Relation} : Std.TransCmp (Row.byId (r := r)) :=
  inferInstanceAs (Std.TransCmp (compareOn fun row : Row r => row.id))

instance : Std.TransCmp Row.byIdentityName :=
  inferInstanceAs (Std.TransCmp (compareOn fun row : Row .identity => row.origin))

instance : Std.TransCmp Row.byCloudName :=
  inferInstanceAs (Std.TransCmp (compareOn fun row : Row .cloud => row.origin))

instance : Std.TransCmp Row.byControllerName :=
  inferInstanceAs (Std.TransCmp (compareOn fun row : Row .controller => row.origin.name))

instance : Std.TransCmp Row.byRegionKey :=
  inferInstanceAs (Std.TransCmp (compareLex (compareOn fun row : Row .region => row.origin.cloud)
    (compareOn fun row => row.origin.region)))

instance : Std.TransCmp Row.byCredentialName :=
  inferInstanceAs (Std.TransCmp
    (compareLex (compareOn fun row : Row .credential => row.origin.cloud)
      (compareOn fun row => row.origin.name)))

/-! ## Listings -/

/-- The rows of a relation that an iteration visits, and what it shows of them. -/
structure Listing (r : Relation) where
  rows : Contents → List (Row r)
  order : Row r → Row r → Ordering
  trans : Std.TransCmp order
  entities : Contents → List (Row r) → List Entity

/-- Walk through a listing. -/
def Listing.walk {r : Relation} (l : Listing r) (c : Contents) (visitor : Visitor) (batch : Nat) :
    Walk Entity :=
  have := l.trans
  ControlPlane.walk l.order (l.entities c) visitor (l.rows c) batch

inductive Iteration
  | clouds
  /-- All regions, or those of one cloud. -/
  | regions (cloud : Option String)
  | controllers
  | models
  | modelsOn (controller : ControllerKey)
  | identities
  /-- The credentials of an owner, on all clouds or on one. -/
  | credentials (owner : String) (cloud : Option String)
  deriving DecidableEq, Repr

namespace Iteration

def name : Iteration → String
  | .clouds => "clouds.for_each"
  | .regions _ => "cloud_regions.for_each"
  | .controllers => "controllers.for_each"
  | .models => "models.for_each"
  | .modelsOn _ => "controllers.for_each_model"
  | .identities => "identities.for_each"
  | .credentials _ _ => "cloud_credentials.for_each"

/-- The kind of entity that is visited. -/
def kind : Iteration → EntityKind
  | .clouds => .cloud
  | .regions _ => .region
  | .controllers => .controller
  | .models => .model
  | .modelsOn _ => .model
  | .identities => .identity
  | .credentials _ _ => .credential

def subject (it : Iteration) : Subject := .everything it.kind

/-- Whether the database takes the parameters of the statements. -/
def hasStorableParameters : Iteration → Bool
  | .regions cloud => (stored? cloud).isSome
  | .modelsOn controller => (stored? controller).isSome
  | .credentials owner cloud => (stored? (IdentityName.sanitise owner, cloud)).isSome
  | _ => true

def modelEntities (c : Contents) (rows : List (Row .model)) : List Entity :=
  (c.hydrateModels (Preload.model "") rows).map .model

def listing : Iteration → (r : Relation) × Listing r
  | .clouds =>
    ⟨.cloud,
      { rows := fun c => c.get .cloud
        order := Row.byCloudName
        trans := inferInstance
        entities := fun c rows => (c.hydrateClouds (Preload.cloud "") rows).map .cloud }⟩
  | .regions cloud =>
    ⟨.region,
      { rows := fun c => (c.get .region).filter fun row => cloud.all fun name =>
          row.origin.cloud = name
        order := Row.byRegionKey
        trans := inferInstance
        entities := fun c rows => (c.hydrateRegions (Preload.region "") rows).map .region }⟩
  | .controllers =>
    ⟨.controller,
      { rows := fun c => c.get .controller
        order := Row.byControllerName
        trans := inferInstance
        entities := fun c rows =>
          (c.hydrateControllers (Preload.controller "") rows).map .controller }⟩
  | .models =>
    ⟨.model,
      { rows := fun c => c.get .model
        order := Row.byId
        trans := inferInstance
        entities := modelEntities }⟩
  | .modelsOn controller =>
    ⟨.model,
      { rows := fun c => (c.get .model).filter fun row =>
          (c.controllerRow? controller).any fun host => row.settings.controller = host.id
        order := Row.byId
        trans := inferInstance
        entities := modelEntities }⟩
  | .identities =>
    ⟨.identity,
      { rows := fun c => c.get .identity
        order := Row.byIdentityName
        trans := inferInstance
        entities := fun _ rows => (Contents.hydrateIdentities rows).map .identity }⟩
  | .credentials owner cloud =>
    ⟨.credential,
      { rows := fun c => (c.get .credential).filter fun row =>
          row.origin.owner = IdentityName.sanitise owner &&
            cloud.all fun name => row.origin.cloud = name
        order := Row.byCredentialName
        trans := inferInstance
        entities := fun c rows =>
          (c.hydrateCredentials (Preload.credential "") rows).map .credential }⟩

/-- Visit everything that there is in the database. -/
def walk (it : Iteration) (c : Contents) (visitor : Visitor) (batch : Nat) : Walk Entity :=
  it.listing.2.walk c visitor batch

end Iteration
end ControlPlane
