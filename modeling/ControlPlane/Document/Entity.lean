/-
How entities are written in documents.

An association that was not loaded is written as `null` or as an empty array. A document is read
along its depth, which bounds how deep its entities can contain one another.
-/
import ControlPlane.Document.Settings
import ControlPlane.Entity

namespace ControlPlane

open Json

/-! ## Rows -/

/-- When a row was inserted and last written. -/
def Row.times {r : Relation} (row : Row r) : List (String × Json) :=
  [("created_at", .ofTimestamp row.createdAt), ("updated_at", .ofTimestamp row.updatedAt)]

/-- A row from its entry and an object with what the database adds. -/
def Row.ofMembers? {r : Relation} (e : Entry r) (doc : Json) : Option (Row r) := do
  return {
    e with
    id := ← Decode.int64 (doc.member "id")
    createdAt := ← Decode.timestamp (doc.member "created_at")
    updatedAt := ← Decode.timestamp (doc.member "updated_at") }

/-! ## Identities and grants -/

namespace Identity

def fields : List Field :=
  [.required "id", .required "name"] ++ Settings.fields ++
    [.required "created_at", .required "updated_at"]

def toDocument (identity : Identity) : Json :=
  .object <|
    [("id", .int identity.row.id), ("name", .string identity.row.origin)] ++
      identity.row.settings.members ++ identity.row.times

def ofDocument? (doc : Json) : Option Identity := do
  let doc ← Json.fields? fields doc
  let entry : Entry .identity :=
    ⟨← Decode.text (doc.member "name"), ← Settings.ofMembers? doc⟩
  return ⟨← Row.ofMembers? entry doc⟩

end Identity

namespace Grant

def fields : List Field :=
  [.required "identity_name", .required "access", .optional "last_connection",
    .required "created_at", .required "updated_at", .optional "identity"]

def toDocument (grant : Grant) : Json :=
  .object
    [("identity_name", .string grant.identityName),
      ("access", .string grant.settings.access.name),
      ("last_connection", .ofOption .ofTimestamp grant.settings.lastConnection),
      ("created_at", .ofTimestamp grant.createdAt), ("updated_at", .ofTimestamp grant.updatedAt),
      ("identity", .ofOption Identity.toDocument grant.identity)]

def ofDocument? (doc : Json) : Option Grant := do
  let doc ← Json.fields? fields doc
  return {
    identityName := ← Decode.text (doc.member "identity_name")
    settings :=
      ⟨← Decode.access (doc.member "access"),
        ← Decode.optional Decode.timestamp (doc.member "last_connection")⟩
    createdAt := ← Decode.timestamp (doc.member "created_at")
    updatedAt := ← Decode.timestamp (doc.member "updated_at")
    identity := ← Decode.optional Identity.ofDocument? (doc.member "identity") }

end Grant

/-! ## Clouds, regions, links and controllers -/

namespace Cloud

def fields : List Field :=
  [.required "id", .required "name"] ++ Settings.fields ++
    [.required "created_at", .required "updated_at", .required "regions", .required "grants"]

def rowMembers (row : Row .cloud) : List (String × Json) :=
  [("id", .int row.id), ("name", .string row.origin)] ++ row.settings.members ++ row.times

def row? (doc : Json) : Option (Row .cloud) := do
  Row.ofMembers? ⟨← Decode.text (doc.member "name"), ← Settings.ofMembers? doc⟩ doc

end Cloud

namespace Region

def fields : List Field :=
  [.required "id", .required "cloud_name", .required "name"] ++ Settings.fields ++
    [.required "created_at", .required "updated_at", .optional "cloud", .required "controllers"]

def rowMembers (row : Row .region) : List (String × Json) :=
  [("id", .int row.id), ("cloud_name", .string row.origin.cloud),
    ("name", .string row.origin.region)] ++ row.settings.members ++ row.times

def row? (doc : Json) : Option (Row .region) := do
  let origin : RegionKey :=
    ⟨← Decode.text (doc.member "cloud_name"), ← Decode.text (doc.member "name")⟩
  Row.ofMembers? ⟨origin, ← Settings.ofMembers? doc⟩ doc

end Region

namespace Link

def fields : List Field :=
  [.required "id", .required "cloud_region_id", .required "controller_id", .required "priority",
    .required "created_at", .required "updated_at", .optional "controller",
    .optional "cloud_region"]

def rowMembers (row : Row .link) : List (String × Json) :=
  [("id", .int row.id), ("cloud_region_id", .int row.origin.region),
    ("controller_id", .int row.origin.controller), ("priority", .int row.settings)] ++ row.times

def row? (doc : Json) : Option (Row .link) := do
  let origin : Link.Origin :=
    ⟨← Decode.int64 (doc.member "cloud_region_id"), ← Decode.int64 (doc.member "controller_id")⟩
  Row.ofMembers? ⟨origin, ← Decode.int32 (doc.member "priority")⟩ doc

end Link

namespace Controller

def fields : List Field :=
  [.required "id", .required "name", .required "uuid", .required "admin_user",
    .required "admin_password", .required "ca_certificate", .required "public_address",
    .required "cloud_name", .required "cloud_region", .required "deprecated",
    .required "agent_version", .required "addresses", .optional "unavailable_since",
    .required "config", .required "created_at", .required "updated_at",
    .required "cloud_regions"]

def originMembers (o : Controller.Origin) : List (String × Json) :=
  [("name", .string o.name), ("uuid", .ofUuid o.uuid), ("cloud_name", .string o.hosting.cloud),
    ("cloud_region", .string o.hosting.region)]

def origin? (doc : Json) : Option Controller.Origin := do
  return {
    name := ← Decode.text (doc.member "name")
    uuid := ← Decode.uuid (doc.member "uuid")
    hosting :=
      ⟨← Decode.text (doc.member "cloud_name"), ← Decode.text (doc.member "cloud_region")⟩ }

def rowMembers (row : Row .controller) : List (String × Json) :=
  ("id", .int row.id) :: originMembers row.origin ++ row.settings.members ++ row.times

def row? (doc : Json) : Option (Row .controller) := do
  Row.ofMembers? ⟨← origin? doc, ← Settings.ofMembers? doc⟩ doc

end Controller

mutual

def Cloud.toDocument : Cloud → Json
  | ⟨row, regions, grants⟩ =>
    .object <| Cloud.rowMembers row ++
      [("regions", .array (Region.listDocuments regions)),
        ("grants", .ofList Grant.toDocument grants)]

def Region.toDocument : Region → Json
  | ⟨row, cloud, links⟩ =>
    .object <| Region.rowMembers row ++
      [("cloud", Cloud.optionDocument cloud), ("controllers", .array (Link.listDocuments links))]

def Link.toDocument : Link → Json
  | ⟨row, controller, region⟩ =>
    .object <| Link.rowMembers row ++
      [("controller", Controller.optionDocument controller),
        ("cloud_region", Region.optionDocument region)]

def Controller.toDocument : Controller → Json
  | ⟨row, links⟩ =>
    .object <| Controller.rowMembers row ++ [("cloud_regions", .array (Link.listDocuments links))]

def Region.listDocuments : List Region → List Json
  | [] => []
  | region :: rest => region.toDocument :: Region.listDocuments rest

def Link.listDocuments : List Link → List Json
  | [] => []
  | link :: rest => link.toDocument :: Link.listDocuments rest

def Cloud.optionDocument : Option Cloud → Json
  | none => .null
  | some cloud => cloud.toDocument

def Region.optionDocument : Option Region → Json
  | none => .null
  | some region => region.toDocument

def Controller.optionDocument : Option Controller → Json
  | none => .null
  | some controller => controller.toDocument

end

mutual

def Cloud.read? : Nat → Decoder Cloud
  | 0, _ => none
  | depth + 1, doc => do
    let doc ← fields? Cloud.fields doc
    return {
      row := ← Cloud.row? doc
      regions := ← Decode.list (Region.read? depth) (doc.member "regions")
      grants := ← Decode.list Grant.ofDocument? (doc.member "grants") }

def Region.read? : Nat → Decoder Region
  | 0, _ => none
  | depth + 1, doc => do
    let doc ← fields? Region.fields doc
    return {
      row := ← Region.row? doc
      cloud := ← Decode.optional (Cloud.read? depth) (doc.member "cloud")
      links := ← Decode.list (Link.read? depth) (doc.member "controllers") }

def Link.read? : Nat → Decoder Link
  | 0, _ => none
  | depth + 1, doc => do
    let doc ← fields? Link.fields doc
    return {
      row := ← Link.row? doc
      controller := ← Decode.optional (Controller.read? depth) (doc.member "controller")
      region := ← Decode.optional (Region.read? depth) (doc.member "cloud_region") }

def Controller.read? : Nat → Decoder Controller
  | 0, _ => none
  | depth + 1, doc => do
    let doc ← fields? Controller.fields doc
    return {
      row := ← Controller.row? doc
      links := ← Decode.list (Link.read? depth) (doc.member "cloud_regions") }

end

def Cloud.ofDocument? (doc : Json) : Option Cloud := Cloud.read? doc.depth doc

def Region.ofDocument? (doc : Json) : Option Region := Region.read? doc.depth doc

def Link.ofDocument? (doc : Json) : Option Link := Link.read? doc.depth doc

def Controller.ofDocument? (doc : Json) : Option Controller := Controller.read? doc.depth doc

/-! ## Credentials and models -/

namespace Credential

def originMembers (key : CredentialKey) : List (String × Json) :=
  [("cloud_name", .string key.cloud), ("owner_identity_name", .string key.owner),
    ("name", .string key.name)]

def originFields : List Field :=
  [.required "cloud_name", .required "owner_identity_name", .required "name"]

def origin? (doc : Json) : Option CredentialKey := do
  return {
    cloud := ← Decode.text (doc.member "cloud_name")
    owner := ← Decode.text (doc.member "owner_identity_name")
    name := ← Decode.text (doc.member "name") }

def fields : List Field :=
  [.required "id"] ++ originFields ++ Settings.fields ++
    [.required "created_at", .required "updated_at", .optional "cloud", .optional "owner",
      .required "grants"]

def toDocument (credential : Credential) : Json :=
  .object <|
    ("id", .int credential.row.id) :: originMembers credential.row.origin ++
      credential.row.settings.members ++ credential.row.times ++
      [("cloud", .ofOption Cloud.toDocument credential.cloud),
        ("owner", .ofOption Identity.toDocument credential.owner),
        ("grants", .ofList Grant.toDocument credential.grants)]

def ofDocument? (doc : Json) : Option Credential := do
  let doc ← Json.fields? fields doc
  return {
    row := ← Row.ofMembers? ⟨← origin? doc, ← Settings.ofMembers? doc⟩ doc
    cloud := ← Decode.optional Cloud.ofDocument? (doc.member "cloud")
    owner := ← Decode.optional Identity.ofDocument? (doc.member "owner")
    grants := ← Decode.list Grant.ofDocument? (doc.member "grants") }

end Credential

namespace Model

/-- The fields of a model that is to be created, which are those of its entry. -/
def entryFields : List Field :=
  [.optional "uuid", .required "name", .required "owner_identity_name",
    .required "controller_id", .required "cloud_region_id", .required "cloud_credential_id"] ++
    Settings.reportedFields

def entryMembers (e : Entry .model) : List (String × Json) :=
  [("name", .string e.origin.name), ("owner_identity_name", .string e.origin.owner),
    ("cloud_region_id", .int e.origin.region)] ++ e.settings.members

def entry? (doc : Json) : Option (Entry .model) := do
  let origin : Model.Origin :=
    { owner := ← Decode.text (doc.member "owner_identity_name")
      name := ← Decode.text (doc.member "name")
      region := ← Decode.int64 (doc.member "cloud_region_id") }
  return ⟨origin, ← Settings.ofMembers? doc⟩

def fields : List Field :=
  [.required "id"] ++ entryFields ++
    [.required "created_at", .required "updated_at", .optional "owner", .optional "controller",
      .optional "cloud_region", .optional "cloud_credential", .required "grants"]

def toDocument (model : Model) : Json :=
  .object <|
    ("id", .int model.row.id) :: entryMembers model.row.toEntry ++ model.row.times ++
      [("owner", .ofOption Identity.toDocument model.owner),
        ("controller", .ofOption Controller.toDocument model.controller),
        ("cloud_region", .ofOption Region.toDocument model.region),
        ("cloud_credential", .ofOption Credential.toDocument model.credential),
        ("grants", .ofList Grant.toDocument model.grants)]

def ofDocument? (doc : Json) : Option Model := do
  let doc ← Json.fields? fields doc
  return {
    row := ← Row.ofMembers? (← entry? doc) doc
    owner := ← Decode.optional Identity.ofDocument? (doc.member "owner")
    controller := ← Decode.optional Controller.ofDocument? (doc.member "controller")
    region := ← Decode.optional Region.ofDocument? (doc.member "cloud_region")
    credential := ← Decode.optional Credential.ofDocument? (doc.member "cloud_credential")
    grants := ← Decode.list Grant.ofDocument? (doc.member "grants") }

end Model
end ControlPlane
