/-
How settings are written in documents.

The settings of an entity are members of its own document, and the whole of a request to update.
Either has to have every field.
-/
import ControlPlane.Document.Value

namespace ControlPlane

open Json

namespace Endpoints

def fields : List Field :=
  [.required "endpoint", .required "identity_endpoint", .required "storage_endpoint"]

def members (e : Endpoints) : List (String × Json) :=
  [("endpoint", .string e.main), ("identity_endpoint", .string e.identity),
    ("storage_endpoint", .string e.storage)]

def ofMembers? (doc : Json) : Option Endpoints := do
  return {
    main := ← Decode.text (doc.member "endpoint")
    identity := ← Decode.text (doc.member "identity_endpoint")
    storage := ← Decode.text (doc.member "storage_endpoint") }

end Endpoints

namespace Cloud.Settings

def fields : List Field :=
  [.required "provider_type", .required "host_cloud_region", .required "auth_types"] ++
    Endpoints.fields ++ [.required "ca_certificates", .required "config"]

def members (s : Settings) : List (String × Json) :=
  [("provider_type", .string s.provider), ("host_cloud_region", .string s.hostRegion),
    ("auth_types", .ofList .string s.authTypes)] ++ s.endpoints.members ++
    [("ca_certificates", .ofList .string s.certificates), ("config", .ofConfig s.config)]

def toDocument (s : Settings) : Json := .object s.members

/-- The settings from an object that has their fields. -/
def ofMembers? (doc : Json) : Option Settings := do
  return {
    provider := ← Decode.text (doc.member "provider_type")
    hostRegion := ← Decode.text (doc.member "host_cloud_region")
    authTypes := ← Decode.texts (doc.member "auth_types")
    endpoints := ← Endpoints.ofMembers? doc
    certificates := ← Decode.texts (doc.member "ca_certificates")
    config := ← Decode.config (doc.member "config") }

def ofDocument? (doc : Json) : Option Settings := Json.fields? fields doc >>= ofMembers?

end Cloud.Settings

namespace Region.Settings

def fields : List Field := Endpoints.fields ++ [.required "config"]

def members (s : Settings) : List (String × Json) :=
  s.endpoints.members ++ [("config", .ofConfig s.config)]

def toDocument (s : Settings) : Json := .object s.members

/-- The settings from an object that has their fields. -/
def ofMembers? (doc : Json) : Option Settings := do
  return {
    endpoints := ← Endpoints.ofMembers? doc
    config := ← Decode.config (doc.member "config") }

def ofDocument? (doc : Json) : Option Settings := Json.fields? fields doc >>= ofMembers?

end Region.Settings

namespace Address

def toDocument (a : Address) : Json :=
  .object [("value", .string a.value), ("port", .int a.port), ("scope", .string a.scope)]

/-- An address may leave out its scope. -/
def ofDocument? (doc : Json) : Option Address := do
  let doc ← fields? [.required "value", .required "port", .defaulted "scope" (.string "")] doc
  return {
    value := ← Decode.text (doc.member "value")
    port := ← Decode.unsigned 16 (doc.member "port")
    scope := ← Decode.text (doc.member "scope") }

end Address

namespace Controller.Settings

def fields : List Field :=
  [.required "admin_user", .required "admin_password", .required "ca_certificate",
    .required "public_address", .required "deprecated", .required "agent_version",
    .required "addresses", .optional "unavailable_since", .required "config"]

def members (s : Settings) : List (String × Json) :=
  [("admin_user", .string s.adminUser), ("admin_password", .string s.adminPassword),
    ("ca_certificate", .string s.certificate), ("public_address", .string s.publicAddress),
    ("deprecated", .bool s.isDeprecated), ("agent_version", .string s.agentVersion),
    ("addresses", .ofList Address.toDocument s.addresses),
    ("unavailable_since", .ofOption .ofTimestamp s.unavailableSince),
    ("config", .ofConfig s.config)]

def toDocument (s : Settings) : Json := .object s.members

/-- The settings from an object that has their fields. -/
def ofMembers? (doc : Json) : Option Settings := do
  return {
    adminUser := ← Decode.text (doc.member "admin_user")
    adminPassword := ← Decode.text (doc.member "admin_password")
    certificate := ← Decode.text (doc.member "ca_certificate")
    publicAddress := ← Decode.text (doc.member "public_address")
    isDeprecated := ← Decode.boolean (doc.member "deprecated")
    agentVersion := ← Decode.text (doc.member "agent_version")
    addresses := ← Decode.list Address.ofDocument? (doc.member "addresses")
    unavailableSince := ← Decode.optional Decode.timestamp (doc.member "unavailable_since")
    config := ← Decode.config (doc.member "config") }

def ofDocument? (doc : Json) : Option Settings := Json.fields? fields doc >>= ofMembers?

end Controller.Settings

namespace Model.Status

def toDocument (s : Status) : Json :=
  .object [("status", .string s.text), ("info", .string s.info),
    ("since", .ofOption .ofTimestamp s.since), ("version", .string s.version)]

def ofDocument? (doc : Json) : Option Status := do
  let doc ← fields?
    [.required "status", .required "info", .optional "since", .required "version"] doc
  return {
    text := ← Decode.text (doc.member "status")
    info := ← Decode.text (doc.member "info")
    since := ← Decode.optional Decode.timestamp (doc.member "since")
    version := ← Decode.text (doc.member "version") }

end Model.Status

namespace Model.Support

def toDocument (s : Support) : Json :=
  .object [("level", .string s.level), ("owner", .string s.owner)]

def ofDocument? (doc : Json) : Option Support := do
  let doc ← fields? [.required "level", .required "owner"] doc
  return {
    level := ← Decode.text (doc.member "level")
    owner := ← Decode.text (doc.member "owner") }

end Model.Support

namespace Model.Settings

/-- The fields behind those that say what the model is and where. -/
def reportedFields : List Field :=
  [.required "model_type", .required "is_controller", .required "default_series",
    .required "life", .required "status", .required "sla", .required "cores",
    .required "machines", .required "units"]

def fields : List Field :=
  [.optional "uuid", .required "controller_id", .required "cloud_credential_id"] ++ reportedFields

def members (s : Settings) : List (String × Json) :=
  [("uuid", .ofOption .ofUuid s.uuid), ("controller_id", .int s.controller),
    ("cloud_credential_id", .int s.credential), ("model_type", .string s.type),
    ("is_controller", .bool s.isController), ("default_series", .string s.series),
    ("life", .string s.life.name), ("status", s.status.toDocument), ("sla", s.support.toDocument),
    ("cores", .int s.cores), ("machines", .int s.machines), ("units", .int s.units)]

def toDocument (s : Settings) : Json := .object s.members

/-- The settings from an object that has their fields. -/
def ofMembers? (doc : Json) : Option Settings := do
  return {
    uuid := ← Decode.optional Decode.uuid (doc.member "uuid")
    controller := ← Decode.int64 (doc.member "controller_id")
    credential := ← Decode.int64 (doc.member "cloud_credential_id")
    type := ← Decode.text (doc.member "model_type")
    isController := ← Decode.boolean (doc.member "is_controller")
    series := ← Decode.text (doc.member "default_series")
    life := ← Decode.life (doc.member "life")
    status := ← Status.ofDocument? (doc.member "status")
    support := ← Support.ofDocument? (doc.member "sla")
    cores := ← Decode.int64 (doc.member "cores")
    machines := ← Decode.int64 (doc.member "machines")
    units := ← Decode.int64 (doc.member "units") }

def ofDocument? (doc : Json) : Option Settings := Json.fields? fields doc >>= ofMembers?

end Model.Settings

namespace Credential.Settings

def fields : List Field :=
  [.required "auth_type", .required "label", .required "attributes_in_vault",
    .required "attributes", .optional "valid"]

def members (s : Settings) : List (String × Json) :=
  [("auth_type", .string s.authType), ("label", .string s.label),
    ("attributes_in_vault", .bool s.isInVault),
    ("attributes", .record (s.attributes.entries.map fun (name, value) => (name, .string value))),
    ("valid", .ofOption .bool s.isValid)]

def toDocument (s : Settings) : Json := .object s.members

/-- The settings from an object that has their fields. -/
def ofMembers? (doc : Json) : Option Settings := do
  return {
    authType := ← Decode.text (doc.member "auth_type")
    label := ← Decode.text (doc.member "label")
    isInVault := ← Decode.boolean (doc.member "attributes_in_vault")
    attributes := .ofList (← Decode.dictionary Decode.text (doc.member "attributes"))
    isValid := ← Decode.optional Decode.boolean (doc.member "valid") }

def ofDocument? (doc : Json) : Option Settings := Json.fields? fields doc >>= ofMembers?

end Credential.Settings

namespace Identity.Settings

def fields : List Field :=
  [.required "display_name", .required "controller_access", .optional "last_login",
    .required "disabled"]

def members (s : Settings) : List (String × Json) :=
  [("display_name", .string s.displayName), ("controller_access", .string s.access.name),
    ("last_login", .ofOption .ofTimestamp s.lastLogin), ("disabled", .bool s.isDisabled)]

def toDocument (s : Settings) : Json := .object s.members

/-- The settings from an object that has their fields. -/
def ofMembers? (doc : Json) : Option Settings := do
  return {
    displayName := ← Decode.text (doc.member "display_name")
    access := ← Decode.access (doc.member "controller_access")
    lastLogin := ← Decode.optional Decode.timestamp (doc.member "last_login")
    isDisabled := ← Decode.boolean (doc.member "disabled") }

def ofDocument? (doc : Json) : Option Settings := Json.fields? fields doc >>= ofMembers?

end Identity.Settings
end ControlPlane
