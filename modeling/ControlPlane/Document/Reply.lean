/-
How replies and errors are written in documents.
-/
import ControlPlane.Document.Entity
import ControlPlane.Store.Operation

namespace ControlPlane

open Json

namespace Entity

/-- The name of the member that holds an entity among other things. -/
def label : Entity → String
  | .cloud _ => "cloud"
  | .region _ => "cloud_region"
  | .controller _ => "controller"
  | .model _ => "model"
  | .identity _ => "identity"
  | .credential _ => "cloud_credential"

def toDocument : Entity → Json
  | .cloud c => c.toDocument
  | .region r => r.toDocument
  | .controller c => c.toDocument
  | .model m => m.toDocument
  | .identity i => i.toDocument
  | .credential c => c.toDocument

end Entity

def Tally.toDocument (tally : Tally) : Json :=
  .object (Merge.all.map fun outcome => (outcome.name, .int (tally.count outcome)))

/-- An entity with the grant by which an identity has access to it. Models show when the identity
last connected. -/
def Entity.grantedDocument (entity : Entity) (grant : Grant.Settings) : Json :=
  let connection : List (String × Json) :=
    match entity with
    | .model _ => [("last_connection", .ofOption .ofTimestamp grant.lastConnection)]
    | _ => []
  .object <|
    [(entity.label, entity.toDocument), ("access", .string grant.access.name)] ++ connection

def Reply.toDocument : Reply → Json
  | .done => .null
  | .entity e => e.toDocument
  | .entities es => .ofList Entity.toDocument es
  | .granted held => .ofList (fun (e, grant) => e.grantedDocument grant) held
  | .merge o => .string o.name
  | .merged outcome =>
    .object [("entity", outcome.entity.toDocument), ("tally", outcome.tally.toDocument),
      ("noop", .bool outcome.tally.isNoop)]

def StoreError.members (e : StoreError) : List (String × Json) :=
  let message : List (String × Json) :=
    match e.message? with
    | some text => [("message", .string text)]
    | none => []
  let uniqueness : List (String × Json) :=
    match e.cause with
    | .alreadyExists _ _ name => [("constraint", .ofOption .string name)]
    | _ => []
  [("error", .string e.code), ("op", .string e.operation)] ++ message ++ uniqueness

def StoreError.toDocument (e : StoreError) : Json := .object e.members

end ControlPlane
