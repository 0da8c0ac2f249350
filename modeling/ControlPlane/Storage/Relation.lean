/-
The relations of the database and their rows.

A row has its origin, which is fixed when it is inserted, and its settings, which an update
overwrites. Whatever identifies a row from outside, and whatever places it under another row for
good, is part of its origin; so no update can move a row or rename it. What a model refers to and
may change (its controller, its credential, its identifier) is in its settings.
-/
import ControlPlane.Entity.Key
import ControlPlane.Entity.Settings

namespace ControlPlane

/-- The objects to which identities are granted access. -/
inductive Grantable
  | cloud
  | model
  | credential
  deriving DecidableEq, Repr, Inhabited

inductive Relation
  | identity
  | cloud
  | region
  | controller
  /-- The links between regions and the controllers that serve them. -/
  | link
  | credential
  | model
  | grant (on : Grantable)
  deriving DecidableEq, Repr, Inhabited

/-! ## Origins -/

structure Controller.Origin where
  name : String
  uuid : Uuid
  /-- The region that hosts the controller. -/
  hosting : RegionKey
  deriving DecidableEq, Repr, Inhabited

structure Link.Origin where
  region : Int
  controller : Int
  deriving DecidableEq, Repr, Inhabited

structure Model.Origin where
  owner : String
  name : String
  region : Int
  deriving DecidableEq, Repr, Inhabited

structure Grant.Origin where
  object : Int
  identity : String
  deriving DecidableEq, Repr, Inhabited

/-- What is fixed when a row is inserted. Clouds and identities have a name and no more. -/
@[reducible] def Origin : Relation → Type
  | .identity => String
  | .cloud => String
  | .region => RegionKey
  | .controller => Controller.Origin
  | .link => Link.Origin
  | .credential => CredentialKey
  | .model => Model.Origin
  | .grant _ => Grant.Origin

/-- What an update overwrites. -/
@[reducible] def Settings : Relation → Type
  | .identity => Identity.Settings
  | .cloud => Cloud.Settings
  | .region => Region.Settings
  | .controller => Controller.Settings
  | .link => Int
  | .credential => Credential.Settings
  | .model => Model.Settings
  | .grant _ => Grant.Settings

open Storable (via)

instance : Storable RegionKey :=
  via (fun k => (k.cloud, k.region)) (fun (c, r) => ⟨c, r⟩) fun _ => rfl

instance : Storable CredentialKey :=
  via (fun k => (k.cloud, k.owner, k.name)) (fun (c, o, n) => ⟨c, o, n⟩) fun _ => rfl

instance : Storable ControllerKey where
  stored?
    | .uuid u => some (.uuid u)
    | .name n => (stored? n).map .name
  stored?_stored? := by
    intro key kept h
    cases key with
    | uuid u => simp only [Option.some.injEq] at h; subst h; rfl
    | name n =>
      obtain ⟨m, hm, rfl⟩ := Option.map_eq_some_iff.1 h
      simp [Storable.stored?_stored? hm]

instance : Storable ModelKey where
  stored?
    | .uuid u => some (.uuid u)
    | .ownerName owner name => (stored? (owner, name)).map fun p => .ownerName p.1 p.2
  stored?_stored? := by
    intro key kept h
    cases key with
    | uuid u => simp only [Option.some.injEq] at h; subst h; rfl
    | ownerName owner name =>
      obtain ⟨p, hp, rfl⟩ := Option.map_eq_some_iff.1 h
      simp [Storable.stored?_stored? hp]

instance : Storable Controller.Origin :=
  via (fun o => (o.name, o.uuid, o.hosting)) (fun (n, u, h) => ⟨n, u, h⟩) fun _ => rfl

instance : Storable Link.Origin :=
  via (fun o => (o.region, o.controller)) (fun (r, c) => ⟨r, c⟩) fun _ => rfl

instance : Storable Model.Origin :=
  via (fun o => (o.owner, o.name, o.region)) (fun (o, n, r) => ⟨o, n, r⟩) fun _ => rfl

instance : Storable Grant.Origin :=
  via (fun o => (o.object, o.identity)) (fun (o, i) => ⟨o, i⟩) fun _ => rfl

instance : (r : Relation) → Storable (Origin r)
  | .identity => inferInstanceAs (Storable String)
  | .cloud => inferInstanceAs (Storable String)
  | .region => inferInstanceAs (Storable RegionKey)
  | .controller => inferInstanceAs (Storable Controller.Origin)
  | .link => inferInstanceAs (Storable Link.Origin)
  | .credential => inferInstanceAs (Storable CredentialKey)
  | .model => inferInstanceAs (Storable Model.Origin)
  | .grant _ => inferInstanceAs (Storable Grant.Origin)

instance : (r : Relation) → Storable (Settings r)
  | .identity => inferInstanceAs (Storable Identity.Settings)
  | .cloud => inferInstanceAs (Storable Cloud.Settings)
  | .region => inferInstanceAs (Storable Region.Settings)
  | .controller => inferInstanceAs (Storable Controller.Settings)
  | .link => inferInstanceAs (Storable Int)
  | .credential => inferInstanceAs (Storable Credential.Settings)
  | .model => inferInstanceAs (Storable Model.Settings)
  | .grant _ => inferInstanceAs (Storable Grant.Settings)

/-! ## Rows -/

/-- What a row holds apart from what the database adds. -/
structure Entry (r : Relation) where
  origin : Origin r
  settings : Settings r

instance (r : Relation) : Storable (Entry r) :=
  via (fun e => (e.origin, e.settings)) (fun (o, s) => ⟨o, s⟩) fun _ => rfl

/-- Whether the documents of an entry are read from the texts that the database keeps of them. Those
of a fixed form always are. -/
def Entry.isReadable : {r : Relation} → Entry r → Bool
  | .cloud, e => e.settings.config.isReadable
  | .region, e => e.settings.config.isReadable
  | .controller, e => e.settings.config.isReadable
  | _, _ => true

/-- A row; the database numbers it and keeps when it was inserted and last written. -/
structure Row (r : Relation) extends Entry r where
  id : Int
  createdAt : Timestamp
  updatedAt : Timestamp

/-! ## One value for each relation -/

structure PerRelation (α : Relation → Type) where
  identity : α .identity
  cloud : α .cloud
  region : α .region
  controller : α .controller
  link : α .link
  credential : α .credential
  model : α .model
  cloudGrant : α (.grant .cloud)
  modelGrant : α (.grant .model)
  credentialGrant : α (.grant .credential)

namespace PerRelation

variable {α : Relation → Type}

def get (t : PerRelation α) : (r : Relation) → α r
  | .identity => t.identity
  | .cloud => t.cloud
  | .region => t.region
  | .controller => t.controller
  | .link => t.link
  | .credential => t.credential
  | .model => t.model
  | .grant .cloud => t.cloudGrant
  | .grant .model => t.modelGrant
  | .grant .credential => t.credentialGrant

def set (t : PerRelation α) : (r : Relation) → α r → PerRelation α
  | .identity, a => { t with identity := a }
  | .cloud, a => { t with cloud := a }
  | .region, a => { t with region := a }
  | .controller, a => { t with controller := a }
  | .link, a => { t with link := a }
  | .credential, a => { t with credential := a }
  | .model, a => { t with model := a }
  | .grant .cloud, a => { t with cloudGrant := a }
  | .grant .model, a => { t with modelGrant := a }
  | .grant .credential, a => { t with credentialGrant := a }

def tabulate (f : (r : Relation) → α r) : PerRelation α where
  identity := f .identity
  cloud := f .cloud
  region := f .region
  controller := f .controller
  link := f .link
  credential := f .credential
  model := f .model
  cloudGrant := f (.grant .cloud)
  modelGrant := f (.grant .model)
  credentialGrant := f (.grant .credential)

@[simp] theorem get_set_self (t : PerRelation α) (r : Relation) (a : α r) :
    (t.set r a).get r = a := by
  cases r with
  | grant on => cases on <;> rfl
  | _ => rfl

theorem get_set_of_ne (t : PerRelation α) {r other : Relation} (a : α r) (h : other ≠ r) :
    (t.set r a).get other = t.get other := by
  rcases r with _ | _ | _ | _ | _ | _ | _ | _ | _ | _ <;>
    rcases other with _ | _ | _ | _ | _ | _ | _ | _ | _ | _ <;> simp_all [get, set]

@[simp] theorem get_tabulate (f : (r : Relation) → α r) (r : Relation) :
    (tabulate f).get r = f r := by
  cases r with
  | grant on => cases on <;> rfl
  | _ => rfl

theorem ext_get {t u : PerRelation α} (h : ∀ r, t.get r = u.get r) : t = u := by
  cases t
  cases u
  simp only [mk.injEq]
  exact ⟨h .identity, h .cloud, h .region, h .controller, h .link, h .credential, h .model,
    h (.grant .cloud), h (.grant .model), h (.grant .credential)⟩

end PerRelation
end ControlPlane
