/-
The operations of the store, apart from the iterations.

Each operation has a plan: its name, the subject by which its errors are labelled, and the script
that the database runs. Names of identities are brought to their safe form here, before anything
else sees them.
-/
import ControlPlane.Store.Clouds
import ControlPlane.Store.Controllers
import ControlPlane.Store.Credentials
import ControlPlane.Store.Models

namespace ControlPlane

/-! ## Replies -/

/-- What an operation answers when it succeeds. -/
inductive Reply
  | done
  | entity (entity : Entity)
  | entities (entities : List Entity)
  /-- Entities to which an identity has access, each with its grant. -/
  | granted (held : List (Entity × Grant.Settings))
  | merge (outcome : Merge)
  | merged (merged : Merged Entity)

/-! ## Safe forms of keys -/

def ModelKey.sanitise : ModelKey → ModelKey
  | .uuid u => .uuid u
  | .ownerName owner name => .ownerName (IdentityName.sanitise owner) name

def CredentialKey.sanitise (key : CredentialKey) : CredentialKey :=
  { key with owner := IdentityName.sanitise key.owner }

def Model.sanitiseOwner (e : Entry .model) : Entry .model :=
  { e with origin := { e.origin with owner := IdentityName.sanitise e.origin.owner } }

def Credential.sanitiseOwner (e : Entry .credential) : Entry .credential :=
  { e with origin := e.origin.sanitise }

/-! ## Operations -/

inductive Operation
  | listClouds
  | addCloud (draft : Cloud.Draft)
  | getCloud (name : String)
  | updateCloud (name : String) (settings : Cloud.Settings)
  | deleteCloud (name : String)
  | reconcileCloud (snapshot : Cloud.Snapshot)
  | addRegionToCloud (entry : Entry .region)
  | assignCloudGrant (cloud identity : String) (access : Option Access)
  | addRegion (entry : Entry .region)
  | getRegion (key : RegionKey)
  | updateRegion (key : RegionKey) (settings : Region.Settings)
  | deleteRegion (key : RegionKey)
  | findRegion (provider region : String)
  | assignPriority (region : RegionKey) (controller : ControllerKey) (priority : Int)
  | removePriority (region : RegionKey) (controller : ControllerKey)
  | addController (draft : Controller.Draft)
  | getController (key : ControllerKey)
  | updateController (key : ControllerKey) (settings : Controller.Settings)
  | deleteController (key : ControllerKey)
  | addModel (entry : Entry .model)
  | getModel (key : ModelKey)
  | updateModel (key : ModelKey) (settings : Model.Settings)
  | deleteModel (key : ModelKey)
  | modelsWithUuids (uuids : List Uuid)
  | modelsUsingCredential (credential : Int)
  | assignModelGrant (key : ModelKey) (identity : String) (access : Option Access)
  | recordConnection (key : ModelKey) (identity : String) (time : Timestamp)
  | getOrCreateIdentity (name : String)
  | addIdentity (draft : Identity.Draft)
  | getIdentity (name : String)
  | updateIdentity (name : String) (settings : Identity.Settings)
  | deleteIdentity (name : String)
  | cloudsOfIdentity (name : String)
  | modelsOfIdentity (name : String)
  | credentialsOfIdentity (name cloud : String)
  | addCredential (entry : Entry .credential)
  | getCredential (key : CredentialKey)
  | updateCredential (key : CredentialKey) (settings : Credential.Settings)
  | deleteCredential (key : CredentialKey)
  | reconcileCredential (snapshot : Credential.Snapshot)
  | assignCredentialGrant (key : CredentialKey) (identity : String) (access : Option Access)

/-- How an operation is carried out. -/
structure Plan where
  /-- The name under which the operation is counted and its errors are reported. -/
  name : String
  subject : Subject
  script : Script Reply

namespace Reply

def ofCloud (cloud : Cloud) : Reply := .entity (.cloud cloud)

def ofRegion (region : Region) : Reply := .entity (.region region)

def ofController (controller : Controller) : Reply := .entity (.controller controller)

def ofModel (model : Model) : Reply := .entity (.model model)

def ofModels (models : List Model) : Reply := .entities (models.map .model)

def ofIdentity (identity : Identity) : Reply := .entity (.identity identity)

def ofCredential (credential : Credential) : Reply := .entity (.credential credential)

def ofUnit (_ : Unit) : Reply := .done

end Reply

open IdentityName (sanitise)

def Operation.plan : Operation → Plan
  | .listClouds =>
    ⟨"clouds.list", .everything .cloud,
      (fun clouds => .entities (clouds.map .cloud)) <$> Clouds.list⟩
  | .addCloud draft => ⟨"clouds.add", .ofKey .cloud draft.name, .ofCloud <$> Clouds.add draft⟩
  | .getCloud name => ⟨"clouds.get", .ofKey .cloud name, .ofCloud <$> Clouds.get name⟩
  | .updateCloud name settings =>
    ⟨"clouds.update", .ofKey .cloud name, .ofCloud <$> Clouds.overwrite name settings⟩
  | .deleteCloud name => ⟨"clouds.delete", .ofKey .cloud name, .ofUnit <$> Clouds.remove name⟩
  | .reconcileCloud snapshot =>
    ⟨"clouds.set_cloud", .ofKey .cloud snapshot.cloud.name,
      (fun m => .merged ⟨.cloud m.entity, m.tally⟩) <$> Clouds.reconcile snapshot⟩
  | .addRegionToCloud entry =>
    ⟨"clouds.add_region", .ofRegion entry.origin, .ofRegion <$> Regions.add entry⟩
  | .assignCloudGrant cloud identity access =>
    ⟨"clouds.update_grant", .ofKey .cloud cloud,
      .ofUnit <$> Clouds.assignGrant cloud (sanitise identity) access⟩
  | .addRegion entry =>
    ⟨"cloud_regions.add", .ofRegion entry.origin, .ofRegion <$> Regions.add entry⟩
  | .getRegion key => ⟨"cloud_regions.get", .ofRegion key, .ofRegion <$> Regions.get key⟩
  | .updateRegion key settings =>
    ⟨"cloud_regions.update", .ofRegion key, .ofRegion <$> Regions.overwrite key settings⟩
  | .deleteRegion key => ⟨"cloud_regions.delete", .ofRegion key, .ofUnit <$> Regions.remove key⟩
  | .findRegion provider region =>
    ⟨"cloud_regions.find_region", .ofParts .region [provider, region],
      .ofRegion <$> Regions.findAtProvider provider region⟩
  | .assignPriority region controller priority =>
    ⟨"cloud_regions.set_controller_priority", .ofLink region controller,
      .merge <$> Links.assign region controller priority⟩
  | .removePriority region controller =>
    ⟨"cloud_regions.remove_controller_priority", .ofLink region controller,
      .ofUnit <$> Links.remove region controller⟩
  | .addController draft =>
    ⟨"controllers.add", .ofKey .controller draft.origin.name,
      .ofController <$> Controllers.add draft⟩
  | .getController key =>
    ⟨"controllers.get", .ofController key, .ofController <$> Controllers.get key⟩
  | .updateController key settings =>
    ⟨"controllers.update", .ofController key,
      .ofController <$> Controllers.overwrite key settings⟩
  | .deleteController key =>
    ⟨"controllers.delete", .ofController key, .ofUnit <$> Controllers.remove key⟩
  | .addModel entry =>
    let entry := Model.sanitiseOwner entry
    ⟨"models.add", .ofParts .model [entry.origin.owner, entry.origin.name],
      .ofModel <$> Models.add entry⟩
  | .getModel key =>
    ⟨"models.get", .ofModel key.sanitise, .ofModel <$> Models.get key.sanitise⟩
  | .updateModel key settings =>
    ⟨"models.update", .ofModel key.sanitise, .ofModel <$> Models.overwrite key.sanitise settings⟩
  | .deleteModel key =>
    ⟨"models.delete", .ofModel key.sanitise, .ofUnit <$> Models.remove key.sanitise⟩
  | .modelsWithUuids uuids =>
    ⟨"models.get_by_uuids", .everything .model, .ofModels <$> Models.withUuids uuids⟩
  | .modelsUsingCredential credential =>
    ⟨"models.using_credential", .unchecked .credential (toString credential),
      .ofModels <$> Models.usingCredential credential⟩
  | .assignModelGrant key identity access =>
    ⟨"models.update_grant", .ofModel key.sanitise,
      .ofUnit <$> Models.assignGrant key.sanitise (sanitise identity) access⟩
  | .recordConnection key identity time =>
    ⟨"models.touch_grant_connection", .ofModel key.sanitise,
      .ofUnit <$> Models.recordConnection key.sanitise (sanitise identity) time⟩
  | .getOrCreateIdentity name =>
    ⟨"identities.get_identity", .ofKey .identity (sanitise name),
      .ofIdentity <$> Identities.getOrCreate (sanitise name)⟩
  | .addIdentity draft =>
    ⟨"identities.add", .ofKey .identity (sanitise draft.name),
      .ofIdentity <$> Identities.add { draft with name := sanitise draft.name }⟩
  | .getIdentity name =>
    ⟨"identities.get", .ofKey .identity (sanitise name),
      .ofIdentity <$> Identities.get (sanitise name)⟩
  | .updateIdentity name settings =>
    ⟨"identities.update", .ofKey .identity (sanitise name),
      .ofIdentity <$> Identities.overwrite (sanitise name) settings⟩
  | .deleteIdentity name =>
    ⟨"identities.delete", .ofKey .identity (sanitise name),
      .ofUnit <$> Identities.remove (sanitise name)⟩
  | .cloudsOfIdentity name =>
    ⟨"identities.clouds", .ofKey .identity (sanitise name),
      (fun held => .granted (held.map fun (cloud, grant) => (.cloud cloud, grant))) <$>
        Identities.clouds (sanitise name)⟩
  | .modelsOfIdentity name =>
    ⟨"identities.models", .ofKey .identity (sanitise name),
      (fun held => .granted (held.map fun (model, grant) => (.model model, grant))) <$>
        Identities.models (sanitise name)⟩
  | .credentialsOfIdentity name cloud =>
    ⟨"identities.cloud_credentials", .ofParts .credential [cloud, sanitise name],
      (fun credentials => .entities (credentials.map .credential)) <$>
        Identities.credentials (sanitise name) cloud⟩
  | .addCredential entry =>
    let entry := Credential.sanitiseOwner entry
    ⟨"cloud_credentials.add", .ofCredential entry.origin,
      .ofCredential <$> Credentials.add entry⟩
  | .getCredential key =>
    ⟨"cloud_credentials.get", .ofCredential key.sanitise,
      .ofCredential <$> Credentials.get key.sanitise⟩
  | .updateCredential key settings =>
    ⟨"cloud_credentials.update", .ofCredential key.sanitise,
      .ofCredential <$> Credentials.overwrite key.sanitise settings⟩
  | .deleteCredential key =>
    ⟨"cloud_credentials.delete", .ofCredential key.sanitise,
      .ofUnit <$> Credentials.remove key.sanitise⟩
  | .reconcileCredential snapshot =>
    let entry := Credential.sanitiseOwner snapshot.credential
    ⟨"cloud_credentials.set_cloud_credential", .ofCredential entry.origin,
      (fun m => .merged ⟨.credential m.entity, m.tally⟩) <$>
        Credentials.reconcile entry snapshot.grants⟩
  | .assignCredentialGrant key identity access =>
    ⟨"cloud_credentials.update_grant", .ofCredential key.sanitise,
      .ofUnit <$> Credentials.assignGrant key.sanitise (sanitise identity) access⟩

end ControlPlane
