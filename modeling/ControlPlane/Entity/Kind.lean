/-
The kinds of entity by which errors are labelled.
-/

namespace ControlPlane

inductive EntityKind
  | cloud
  | region
  | link
  | controller
  | model
  | identity
  | credential
  | schema
  deriving DecidableEq, Repr, Inhabited

/-- The kind in words. -/
def EntityKind.name : EntityKind → String
  | .cloud => "cloud"
  | .region => "cloud region"
  | .link => "controller priority"
  | .controller => "controller"
  | .model => "model"
  | .identity => "identity"
  | .credential => "cloud credential"
  | .schema => "schema"

end ControlPlane
