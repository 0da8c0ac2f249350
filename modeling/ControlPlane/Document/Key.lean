/-
How natural keys are written in documents.

A key that is a choice between forms is an object with one member, named for the form.
-/
import ControlPlane.Document.Value
import ControlPlane.Entity.Key

namespace ControlPlane

open Json

namespace RegionKey

def toDocument (key : RegionKey) : Json :=
  .object [("cloud", .string key.cloud), ("region", .string key.region)]

def ofDocument? (doc : Json) : Option RegionKey := do
  let doc ← fields? [.required "cloud", .required "region"] doc
  return ⟨← Decode.text (doc.member "cloud"), ← Decode.text (doc.member "region")⟩

end RegionKey

namespace ControllerKey

def toDocument : ControllerKey → Json
  | .uuid u => .object [("uuid", .ofUuid u)]
  | .name n => .object [("name", .string n)]

def ofDocument? : Json → Option ControllerKey
  | .record [("uuid", doc)] => (Decode.uuid doc).map .uuid
  | .record [("name", doc)] => (Decode.text doc).map .name
  | _ => none

end ControllerKey

namespace ModelKey

def toDocument : ModelKey → Json
  | .uuid u => .object [("uuid", .ofUuid u)]
  | .ownerName owner name =>
    .object [("owner_name", .object [("owner", .string owner), ("name", .string name)])]

def ofDocument? : Json → Option ModelKey
  | .record [("uuid", doc)] => (Decode.uuid doc).map .uuid
  | .record [("owner_name", doc)] => do
    let doc ← fields? [.required "owner", .required "name"] doc
    return .ownerName (← Decode.text (doc.member "owner")) (← Decode.text (doc.member "name"))
  | _ => none

end ModelKey

namespace CredentialKey

def toDocument (key : CredentialKey) : Json :=
  .object [("cloud", .string key.cloud), ("owner", .string key.owner), ("name", .string key.name)]

def ofDocument? (doc : Json) : Option CredentialKey := do
  let doc ← fields? [.required "cloud", .required "owner", .required "name"] doc
  return {
    cloud := ← Decode.text (doc.member "cloud")
    owner := ← Decode.text (doc.member "owner")
    name := ← Decode.text (doc.member "name") }

end CredentialKey
end ControlPlane
