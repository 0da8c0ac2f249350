/-
The settings of entities: what an update overwrites.

Keys, placements and what other entities refer to are fixed when an entity is created and stand
elsewhere. Each structure here is at once what is stored and what a request to update carries.
-/
import ControlPlane.Storage.Storable

namespace ControlPlane

open Storable (exact via)

/-- Free-form configuration. -/
abbrev Config := Dictionary Json

/-- Whether a configuration is read from the text that the database keeps of it. -/
def Config.isReadable (config : Config) : Bool := Json.isReadable (.record config.entries)

/-- Where the services of a cloud or a region answer. -/
structure Endpoints where
  main : String
  identity : String
  storage : String
  deriving DecidableEq, Inhabited

def Endpoints.none : Endpoints := ⟨"", "", ""⟩

instance : Storable Endpoints :=
  via (fun e => (e.main, e.identity, e.storage)) (fun (m, i, s) => ⟨m, i, s⟩) fun _ => rfl

structure Cloud.Settings where
  provider : String
  /-- The region that hosts this cloud, as `cloud/region`; empty for a public cloud. -/
  hostRegion : String
  authTypes : List String
  endpoints : Endpoints
  certificates : List String
  config : Config

instance : Storable Cloud.Settings :=
  via (fun s => (s.provider, s.hostRegion, s.authTypes, s.endpoints, s.certificates, s.config))
    (fun (p, h, a, e, c, k) => ⟨p, h, a, e, c, k⟩) fun _ => rfl

structure Region.Settings where
  endpoints : Endpoints
  config : Config

instance : Storable Region.Settings :=
  via (fun s => (s.endpoints, s.config)) (fun (e, k) => ⟨e, k⟩) fun _ => rfl

/-- One address at which a controller can be reached. -/
structure Address where
  value : String
  port : Nat
  scope : String
  deriving DecidableEq, Repr, Inhabited

instance : Storable Address :=
  via (fun a => (a.value, a.port, a.scope)) (fun (v, p, s) => ⟨v, p, s⟩) fun _ => rfl

/-- Whether a controller can be given new models. -/
inductive Availability
  | available
  /-- It can still be reached, but gets no new models. -/
  | deprecated
  | unavailable
  deriving DecidableEq, Repr, Inhabited

namespace Availability

def all : List Availability := [available, deprecated, unavailable]

def name : Availability → String
  | available => "available"
  | deprecated => "deprecated"
  | unavailable => "unavailable"

def named? (text : String) : Option Availability := all.find? fun a => a.name = text

end Availability

structure Controller.Settings where
  adminUser : String
  adminPassword : String
  certificate : String
  publicAddress : String
  isDeprecated : Bool
  agentVersion : String
  addresses : List Address
  unavailableSince : Option Timestamp
  config : Config

instance : Storable Controller.Settings :=
  via
    (fun s => (s.adminUser, s.adminPassword, s.certificate, s.publicAddress, s.isDeprecated,
      s.agentVersion, s.addresses, s.unavailableSince, s.config))
    (fun (u, p, c, a, d, v, l, t, k) => ⟨u, p, c, a, d, v, l, t, k⟩) fun _ => rfl

/-- A controller that cannot be reached is unavailable, deprecated or not. -/
def Controller.Settings.availability (s : Controller.Settings) : Availability :=
  if s.unavailableSince.isSome then .unavailable
  else if s.isDeprecated then .deprecated
  else .available

/-- The last status that was reported for a model. -/
structure Model.Status where
  text : String
  info : String
  since : Option Timestamp
  version : String
  deriving DecidableEq, Repr, Inhabited

instance : Storable Model.Status :=
  via (fun s => (s.text, s.info, s.since, s.version)) (fun (t, i, s, v) => ⟨t, i, s, v⟩)
    fun _ => rfl

/-- The agreement on support for a model. -/
structure Model.Support where
  level : String
  owner : String
  deriving DecidableEq, Repr, Inhabited

instance : Storable Model.Support :=
  via (fun s => (s.level, s.owner)) (fun (l, o) => ⟨l, o⟩) fun _ => rfl

structure Model.Settings where
  /-- None until the model is provisioned. -/
  uuid : Option Uuid
  controller : Int
  credential : Int
  type : String
  isController : Bool
  series : String
  life : Life
  status : Model.Status
  support : Model.Support
  cores : Int
  machines : Int
  units : Int
  deriving DecidableEq, Repr, Inhabited

instance : Storable Model.Settings :=
  via
    (fun s => (s.uuid, s.controller, s.credential, s.type, s.isController, s.series, s.life,
      s.status, s.support, s.cores, s.machines, s.units))
    (fun (u, c, k, t, i, s, l, a, p, n, m, v) => ⟨u, c, k, t, i, s, l, a, p, n, m, v⟩) fun _ => rfl

structure Credential.Settings where
  authType : String
  label : String
  /-- Whether the attributes are kept in a vault and not here. -/
  isInVault : Bool
  attributes : Dictionary String
  /-- None until the credential has been checked against its cloud. -/
  isValid : Option Bool
  deriving DecidableEq

instance : Storable Credential.Settings :=
  via (fun s => (s.authType, s.label, s.isInVault, s.attributes, s.isValid))
    (fun (a, l, v, d, i) => ⟨a, l, v, d, i⟩) fun _ => rfl

structure Identity.Settings where
  displayName : String
  /-- The access to all controllers. -/
  access : Access
  lastLogin : Option Timestamp
  isDisabled : Bool
  deriving DecidableEq, Repr, Inhabited

instance : Storable Identity.Settings :=
  via (fun s => (s.displayName, s.access, s.lastLogin, s.isDisabled))
    (fun (n, a, l, d) => ⟨n, a, l, d⟩) fun _ => rfl

/-- What a grant allows. -/
structure Grant.Settings where
  access : Access
  /-- When the identity last connected; grants on models alone record it. -/
  lastConnection : Option Timestamp
  deriving DecidableEq, Repr, Inhabited

instance : Storable Grant.Settings :=
  via (fun s => (s.access, s.lastConnection)) (fun (a, l) => ⟨a, l⟩) fun _ => rfl

end ControlPlane
