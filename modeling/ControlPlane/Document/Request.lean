/-
How requests are written in documents.

A complete request has every field. A partial one is laid over the blank request of its kind before
it is read, so it need not have any.
-/
import ControlPlane.Document.Entity
import ControlPlane.Document.Key
import ControlPlane.Request

namespace ControlPlane

open Json

/-! ## Regions and clouds -/

namespace Region.Settings

def blank : Settings := ⟨.none, .empty⟩

/-- The settings of a partial request to update. -/
def ofPartial? (doc : Json) : Option Settings := ofDocument? (doc.completedBy blank.toDocument)

end Region.Settings

namespace Region.Draft

def fields : List Field := .required "name" :: Settings.fields

def toDocument (draft : Draft) : Json :=
  .object (("name", .string draft.name) :: draft.settings.members)

def ofDocument? (doc : Json) : Option Draft := do
  let doc ← Json.fields? fields doc
  return ⟨← Decode.text (doc.member "name"), ← Settings.ofMembers? doc⟩

def blank : Draft := ⟨"", .blank⟩

/-- A partial draft with the fields that it leaves out. -/
def complete (doc : Json) : Json := doc.completedBy blank.toDocument

def ofPartial? (doc : Json) : Option Draft := ofDocument? (complete doc)

end Region.Draft

namespace Cloud.Settings

def blank : Settings := ⟨"", "", [], .none, [], .empty⟩

/-- The settings of a partial request to update. -/
def ofPartial? (doc : Json) : Option Settings := ofDocument? (doc.completedBy blank.toDocument)

end Cloud.Settings

namespace Cloud.Draft

def fields : List Field := .required "name" :: Settings.fields ++ [.required "regions"]

def toDocument (draft : Draft) : Json :=
  .object <|
    ("name", .string draft.name) :: draft.settings.members ++
      [("regions", .ofList Region.Draft.toDocument draft.regions)]

def ofDocument? (doc : Json) : Option Draft := do
  let doc ← Json.fields? fields doc
  return {
    name := ← Decode.text (doc.member "name")
    settings := ← Settings.ofMembers? doc
    regions := ← Decode.list Region.Draft.ofDocument? (doc.member "regions") }

def blank : Draft := ⟨"", .blank, []⟩

/-- A partial draft with the fields that it leaves out, in its regions too. -/
def complete (doc : Json) : Json :=
  let doc := doc.completedBy blank.toDocument
  match doc.member "regions" with
  | .array regions =>
    doc.overlay (.object [("regions", .array (regions.map Region.Draft.complete))])
  | _ => doc

def ofPartial? (doc : Json) : Option Draft := ofDocument? (complete doc)

end Cloud.Draft

namespace GrantReport

def toDocument (report : GrantReport) : Json :=
  .object [("identity_name", .string report.identityName), ("access", .string report.access.name)]

def ofDocument? (doc : Json) : Option GrantReport := do
  let doc ← fields? [.required "identity_name", .required "access"] doc
  return ⟨← Decode.text (doc.member "identity_name"), ← Decode.access (doc.member "access")⟩

end GrantReport

namespace Cloud.Snapshot

def toDocument (snapshot : Snapshot) : Json :=
  .object [("cloud", snapshot.cloud.toDocument),
    ("grants", .ofList GrantReport.toDocument snapshot.grants)]

def ofDocument? (doc : Json) : Option Snapshot := do
  let doc ← fields? [.required "cloud", .required "grants"] doc
  return {
    cloud := ← Draft.ofDocument? (doc.member "cloud")
    grants := ← Decode.list GrantReport.ofDocument? (doc.member "grants") }

def blank : Snapshot := ⟨.blank, []⟩

def ofPartial? (doc : Json) : Option Snapshot :=
  match doc.completedBy blank.toDocument with
  | .record members =>
    let doc := Json.record members
    ofDocument? (doc.overlay (.object [("cloud", Draft.complete (doc.member "cloud"))]))
  | doc => ofDocument? doc

end Cloud.Snapshot

/-- A region to be created, with the name of its cloud. -/
def Region.entry? (doc : Json) : Option (Entry .region) := do
  let doc ← fields? [.required "cloud_name", .required "region"] doc
  return (← Draft.ofDocument? (doc.member "region")).entry (← Decode.text (doc.member "cloud_name"))

def Region.entryDocument (e : Entry .region) : Json :=
  .object [("cloud_name", .string e.origin.cloud),
    ("region", Draft.toDocument ⟨e.origin.region, e.settings⟩)]

/-! ## Controllers -/

namespace Controller.Settings

def blank : Settings := ⟨"", "", "", "", false, "", [], none, .empty⟩

/-- The settings of a partial request to update. -/
def ofPartial? (doc : Json) : Option Settings := ofDocument? (doc.completedBy blank.toDocument)

end Controller.Settings

namespace RegionPriority

def toDocument (p : RegionPriority) : Json :=
  .object [("region", p.region.toDocument), ("priority", .int p.priority)]

def ofDocument? (doc : Json) : Option RegionPriority := do
  let doc ← fields? [.required "region", .required "priority"] doc
  return ⟨← RegionKey.ofDocument? (doc.member "region"), ← Decode.int32 (doc.member "priority")⟩

end RegionPriority

namespace Controller.Draft

def fields : List Field :=
  [.required "name", .required "uuid", .required "admin_user", .required "admin_password",
    .required "ca_certificate", .required "public_address", .required "cloud_name",
    .required "cloud_region", .required "deprecated", .required "agent_version",
    .required "addresses", .optional "unavailable_since", .required "config",
    .required "region_priorities"]

def toDocument (draft : Draft) : Json :=
  .object <|
    originMembers draft.origin ++ draft.settings.members ++
      [("region_priorities", .ofList RegionPriority.toDocument draft.priorities)]

def ofDocument? (doc : Json) : Option Draft := do
  let doc ← Json.fields? fields doc
  return {
    origin := ← origin? doc
    settings := ← Settings.ofMembers? doc
    priorities := ← Decode.list RegionPriority.ofDocument? (doc.member "region_priorities") }

/-- A controller about which nothing is known but its name and its place. -/
def minimal (origin : Controller.Origin) : Draft := ⟨origin, .blank, []⟩

def blank : Draft := minimal ⟨"", .nil, ⟨"", ""⟩⟩

def ofPartial? (doc : Json) : Option Draft := ofDocument? (doc.completedBy blank.toDocument)

end Controller.Draft

/-! ## Models -/

namespace Model

/-- A model about which nothing is known but its name and its place. -/
def minimalEntry (owner name : String) (controller region credential : Int) : Entry .model where
  origin := ⟨owner, name, region⟩
  settings :=
    { uuid := none
      controller := controller
      credential := credential
      type := ""
      isController := false
      series := ""
      life := .alive
      status := ⟨"", "", none, ""⟩
      support := ⟨"", ""⟩
      cores := 0
      machines := 0
      units := 0 }

def entryDocument (e : Entry .model) : Json := .object (entryMembers e)

def entryOfDocument? (doc : Json) : Option (Entry .model) := Json.fields? entryFields doc >>= entry?

def entryOfPartial? (doc : Json) : Option (Entry .model) :=
  entryOfDocument? (doc.completedBy (entryDocument (minimalEntry "" "" 0 0 0)))

end Model

/-! ## Credentials -/

namespace Credential

def Settings.blank : Settings := ⟨"", "", false, .empty, none⟩

/-- The settings of a partial request to update. -/
def Settings.ofPartial? (doc : Json) : Option Settings :=
  Settings.ofDocument? (doc.completedBy Settings.blank.toDocument)

def entryDocument (e : Entry .credential) : Json :=
  .object (originMembers e.origin ++ e.settings.members)

def entryOfDocument? (doc : Json) : Option (Entry .credential) := do
  let doc ← Json.fields? (originFields ++ Settings.fields) doc
  return ⟨← origin? doc, ← Settings.ofMembers? doc⟩

def blankEntry : Entry .credential := ⟨⟨"", "", ""⟩, .blank⟩

def entryOfPartial? (doc : Json) : Option (Entry .credential) :=
  entryOfDocument? (doc.completedBy (entryDocument blankEntry))

end Credential

namespace Credential.Snapshot

def toDocument (snapshot : Snapshot) : Json :=
  .object [("credential", entryDocument snapshot.credential),
    ("grants", .ofList GrantReport.toDocument snapshot.grants)]

def ofDocument? (doc : Json) : Option Snapshot := do
  let doc ← fields? [.required "credential", .required "grants"] doc
  return {
    credential := ← entryOfDocument? (doc.member "credential")
    grants := ← Decode.list GrantReport.ofDocument? (doc.member "grants") }

def blank : Snapshot := ⟨blankEntry, []⟩

def ofPartial? (doc : Json) : Option Snapshot := ofDocument? (doc.completedBy blank.toDocument)

end Credential.Snapshot

/-! ## Identities -/

namespace Identity

def Settings.blank : Settings := ⟨"", .login, none, false⟩

/-- The settings of a partial request to update. -/
def Settings.ofPartial? (doc : Json) : Option Settings :=
  Settings.ofDocument? (doc.completedBy Settings.blank.toDocument)

/-- An identity to be created: only its name has to be there. -/
def Draft.ofPartial? (doc : Json) : Option Draft := do
  return {
    name := ← Decode.text (doc.member "name")
    displayName := ← Decode.optional Decode.text (doc.member "display_name")
    access := ← Decode.optional Decode.access (doc.member "controller_access")
    isDisabled := (← Decode.optional Decode.boolean (doc.member "disabled")).getD false }

end Identity
end ControlPlane
