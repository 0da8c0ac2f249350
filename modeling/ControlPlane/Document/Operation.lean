/-
How operations are written in documents.

An operation is an object whose member `op` names it and whose other members are its arguments. In
place of the settings to write, an update may carry a patch: the entity is fetched first, and the
patch is laid over the settings that it has.
-/
import ControlPlane.Document.Request
import ControlPlane.Store.Iteration
import ControlPlane.Store.Operation

namespace ControlPlane

open Json

/-- The name of the operation that a document asks for. -/
def operationName? (doc : Json) : Option String := Decode.text (doc.member "op")

namespace Arguments

/-! ## Arguments that several operations share -/

def name? (doc : Json) : Option String := Decode.text (doc.member "name")

def cloud? (doc : Json) : Option String := Decode.text (doc.member "cloud")

def identity? (doc : Json) : Option String := Decode.text (doc.member "identity")

def access? (doc : Json) : Option (Option Access) :=
  Decode.optional Decode.access (doc.member "access")

/-- The key of a region in two arguments. -/
def regionKey? (doc : Json) : Option RegionKey := do
  return ⟨← cloud? doc, ← Decode.text (doc.member "region")⟩

def linkedController? (doc : Json) : Option ControllerKey :=
  ControllerKey.ofDocument? (doc.member "controller")

def controllerKey? (doc : Json) : Option ControllerKey :=
  ControllerKey.ofDocument? (doc.member "key")

def modelKey? (doc : Json) : Option ModelKey := ModelKey.ofDocument? (doc.member "key")

def credentialKey? (doc : Json) : Option CredentialKey :=
  CredentialKey.ofDocument? (doc.member "key")

/-- A region to be created, in an argument beside the name of its cloud. -/
def newRegion? (doc : Json) : Option (Entry .region) := do
  let draft ← Region.Draft.ofPartial? (doc.member "region")
  return draft.entry (← Decode.text (doc.member "cloud_name"))

end Arguments

open Arguments

/-! ## Operations -/

def cloudOperation? (op : String) (doc : Json) : Option Operation :=
  match op with
  | "clouds.list" => some .listClouds
  | "clouds.add" => return .addCloud (← Cloud.Draft.ofPartial? (doc.member "cloud"))
  | "clouds.get" => return .getCloud (← name? doc)
  | "clouds.update" =>
    return .updateCloud (← name? doc) (← Cloud.Settings.ofPartial? (doc.member "update"))
  | "clouds.delete" => return .deleteCloud (← name? doc)
  | "clouds.set_cloud" =>
    return .reconcileCloud (← Cloud.Snapshot.ofPartial? (doc.member "snapshot"))
  | "clouds.add_region" => return .addRegionToCloud (← newRegion? doc)
  | "clouds.update_grant" =>
    return .assignCloudGrant (← cloud? doc) (← identity? doc) (← access? doc)
  | _ => none

def regionOperation? (op : String) (doc : Json) : Option Operation :=
  match op with
  | "cloud_regions.add" => return .addRegion (← newRegion? doc)
  | "cloud_regions.get" => return .getRegion (← regionKey? doc)
  | "cloud_regions.update" =>
    return .updateRegion (← regionKey? doc) (← Region.Settings.ofPartial? (doc.member "update"))
  | "cloud_regions.delete" => return .deleteRegion (← regionKey? doc)
  | "cloud_regions.find_region" =>
    return .findRegion (← Decode.text (doc.member "provider_type"))
      (← Decode.text (doc.member "region"))
  | "cloud_regions.set_controller_priority" =>
    return .assignPriority (← regionKey? doc) (← linkedController? doc)
      (← Decode.int32 (doc.member "priority"))
  | "cloud_regions.remove_controller_priority" =>
    return .removePriority (← regionKey? doc) (← linkedController? doc)
  | _ => none

def controllerOperation? (op : String) (doc : Json) : Option Operation :=
  match op with
  | "controllers.add" =>
    return .addController (← Controller.Draft.ofPartial? (doc.member "controller"))
  | "controllers.get" => return .getController (← controllerKey? doc)
  | "controllers.update" =>
    return .updateController (← controllerKey? doc)
      (← Controller.Settings.ofPartial? (doc.member "update"))
  | "controllers.delete" => return .deleteController (← controllerKey? doc)
  | _ => none

def modelOperation? (op : String) (doc : Json) : Option Operation :=
  match op with
  | "models.add" => return .addModel (← Model.entryOfPartial? (doc.member "model"))
  | "models.get" => return .getModel (← modelKey? doc)
  | "models.update" =>
    return .updateModel (← modelKey? doc) (← Model.Settings.ofDocument? (doc.member "update"))
  | "models.delete" => return .deleteModel (← modelKey? doc)
  | "models.get_by_uuids" =>
    return .modelsWithUuids (← Decode.list Decode.uuid (doc.member "uuids"))
  | "models.using_credential" =>
    return .modelsUsingCredential (← Decode.int64 (doc.member "credential_id"))
  | "models.update_grant" =>
    return .assignModelGrant (← modelKey? doc) (← identity? doc) (← access? doc)
  | "models.touch_grant_connection" =>
    return .recordConnection (← modelKey? doc) (← identity? doc)
      (← Decode.timestamp (doc.member "at"))
  | _ => none

def identityOperation? (op : String) (doc : Json) : Option Operation :=
  match op with
  | "identities.get_identity" => return .getOrCreateIdentity (← name? doc)
  | "identities.add" => return .addIdentity (← Identity.Draft.ofPartial? (doc.member "identity"))
  | "identities.get" => return .getIdentity (← name? doc)
  | "identities.update" =>
    return .updateIdentity (← name? doc) (← Identity.Settings.ofPartial? (doc.member "update"))
  | "identities.delete" => return .deleteIdentity (← name? doc)
  | "identities.clouds" => return .cloudsOfIdentity (← name? doc)
  | "identities.models" => return .modelsOfIdentity (← name? doc)
  | "identities.cloud_credentials" => return .credentialsOfIdentity (← name? doc) (← cloud? doc)
  | _ => none

def credentialOperation? (op : String) (doc : Json) : Option Operation :=
  match op with
  | "cloud_credentials.add" =>
    return .addCredential (← Credential.entryOfPartial? (doc.member "credential"))
  | "cloud_credentials.get" => return .getCredential (← credentialKey? doc)
  | "cloud_credentials.update" =>
    return .updateCredential (← credentialKey? doc)
      (← Credential.Settings.ofPartial? (doc.member "update"))
  | "cloud_credentials.delete" => return .deleteCredential (← credentialKey? doc)
  | "cloud_credentials.set_cloud_credential" =>
    return .reconcileCredential (← Credential.Snapshot.ofPartial? (doc.member "snapshot"))
  | "cloud_credentials.update_grant" =>
    return .assignCredentialGrant (← credentialKey? doc) (← identity? doc) (← access? doc)
  | _ => none

def Operation.ofDocument? (doc : Json) : Option Operation := do
  let op ← operationName? doc
  cloudOperation? op doc <|> regionOperation? op doc <|> controllerOperation? op doc <|>
    modelOperation? op doc <|> identityOperation? op doc <|> credentialOperation? op doc

/-! ## Patches -/

/-- An update by a patch: what is fetched, and the update that follows from it. -/
structure Patch where
  fetch : Operation
  update? : Entity → Option Operation

/-- The patch that a document asks for. -/
def Patch.ofDocument? (doc : Json) : Option Patch := do
  let patch := doc.member "patch"
  match ← operationName? doc with
  | "clouds.update" =>
    let name ← name? doc
    return ⟨.getCloud name, fun
      | .cloud cloud =>
        (Cloud.Settings.ofDocument? (cloud.row.settings.toDocument.overlay patch)).map
          (.updateCloud name)
      | _ => none⟩
  | "controllers.update" =>
    let key ← controllerKey? doc
    return ⟨.getController key, fun
      | .controller controller =>
        (Controller.Settings.ofDocument? (controller.row.settings.toDocument.overlay patch)).map
          (.updateController key)
      | _ => none⟩
  | "models.update" =>
    let key ← modelKey? doc
    return ⟨.getModel key, fun
      | .model model =>
        (Model.Settings.ofDocument? (model.row.settings.toDocument.overlay patch)).map
          (.updateModel key)
      | _ => none⟩
  | "identities.update" =>
    let name ← name? doc
    return ⟨.getIdentity name, fun
      | .identity identity =>
        (Identity.Settings.ofDocument? (identity.row.settings.toDocument.overlay patch)).map
          (.updateIdentity name)
      | _ => none⟩
  | "cloud_credentials.update" =>
    let key ← credentialKey? doc
    return ⟨.getCredential key, fun
      | .credential credential =>
        (Credential.Settings.ofDocument? (credential.row.settings.toDocument.overlay patch)).map
          (.updateCredential key)
      | _ => none⟩
  | _ => none

/-! ## Iterations -/

def Iteration.ofDocument? (doc : Json) : Option Iteration := do
  let cloud? := Decode.optional Decode.text (doc.member "cloud")
  match ← operationName? doc with
  | "clouds.for_each" => return .clouds
  | "cloud_regions.for_each" => return .regions (← cloud?)
  | "controllers.for_each" => return .controllers
  | "models.for_each" => return .models
  | "controllers.for_each_model" => return .modelsOn (← controllerKey? doc)
  | "identities.for_each" => return .identities
  | "cloud_credentials.for_each" =>
    return .credentials (← Decode.text (doc.member "owner")) (← cloud?)
  | _ => none

end ControlPlane
