/-
The statements of the store's operations.

For each thing that the store does, the law says which statements have to be allowed for it to stay
within what is allowed: the entries that it may insert, one by one, and the relations in which it
updates or deletes.  Of identities, which other operations create on the way, the updates and
deletes are told apart too.  `Operation.within_writes` puts these laws together: an operation
creates rows of few origins only, those of `Operation.Creates`, and writes little else.
-/
import ControlPlane.Proofs.Evolution
import ControlPlane.Proofs.Storable
import ControlPlane.Store.Operation

namespace ControlPlane

open Script
open Statement (AllowsInsert AllowsUpdate AllowsDelete AllowsUpdates AllowsDeletes)

variable {env : Environment} {allowed : Statement → Prop}

/-! ## Rows that are read again -/

theorem Clouds.idOf_within (name : String) : Within env allowed (Clouds.idOf name) :=
  within_queryOne _ _

theorem Regions.idOf_within (key : RegionKey) : Within env allowed (Regions.idOf key) :=
  within_queryOne _ _

theorem Controllers.idOf_within (key : ControllerKey) :
    Within env allowed (Controllers.idOf key) :=
  within_queryOne _ _

theorem Models.idOf_within (key : ModelKey) : Within env allowed (Models.idOf key) :=
  within_queryOne _ _

theorem Credentials.idOf_within (key : CredentialKey) :
    Within env allowed (Credentials.idOf key) :=
  within_queryOne _ _

theorem Clouds.readBack_within (name : String) : Within env allowed (Clouds.readBack name) :=
  within_decoded _ (within_queryOne _ _)

theorem Regions.readBack_within (id : Int) : Within env allowed (Regions.readBack id) :=
  within_decoded _ (within_queryOne _ _)

theorem Controllers.readBack_within (id : Int) : Within env allowed (Controllers.readBack id) :=
  within_decoded _ (within_queryOne _ _)

theorem Clouds.referredId_within (name : String) : Within env allowed (Clouds.referredId name) :=
  within_about _ (Clouds.idOf_within name)

theorem Regions.referredId_within (key : RegionKey) :
    Within env allowed (Regions.referredId key) :=
  within_about _ (Regions.idOf_within key)

theorem Controllers.referredId_within (key : ControllerKey) :
    Within env allowed (Controllers.referredId key) :=
  within_about _ (Controllers.idOf_within key)

/-! ## Identities and grants -/

namespace Identities

theorem ensure_within {name : String}
    (h : AllowsInsert allowed (firstEntry name env.defaultAccess)) :
    Within env allowed (ensure name) := by
  intro before
  rw [ensure, bind_ok (read_ok env before)]
  exact within_insertNew h before

theorem getOrCreate_within {name : String}
    (h : AllowsInsert allowed (firstEntry name env.defaultAccess)) :
    Within env allowed (getOrCreate name) :=
  within_transaction (within_bind (ensure_within h) fun _ => within_queryOne _ _)

/-- The entry of an identity that is added. -/
def draftEntry (draft : Identity.Draft) (access : Access) : Entry .identity :=
  ⟨draft.name,
    { displayName := displayNameOr draft.name (draft.displayName.getD "")
      access := draft.access.getD access
      lastLogin := none
      isDisabled := draft.isDisabled }⟩

theorem add_within {draft : Identity.Draft}
    (h : AllowsInsert allowed (draftEntry draft env.defaultAccess)) :
    Within env allowed (add draft) := by
  intro before
  rw [add, bind_ok (read_ok env before)]
  exact within_bind (within_insert _ h) (fun _ => within_pure _) before

theorem overwrite_within {name : String} {settings : Identity.Settings}
    (h : AllowsUpdate allowed
      (name, { settings with displayName := displayNameOr name settings.displayName })
      (fun p (row : Row .identity) => row.origin = p.1) (fun p _ => p.2)) :
    Within env allowed (overwrite name settings) := by
  refine within_bind (within_update _ _ _ h) fun written => ?_
  cases written with
  | none => exact within_fail _
  | some row => exact within_pure _

theorem remove_within {name : String}
    (h : AllowsDelete allowed name fun name (row : Row .identity) => row.origin = name) :
    Within env allowed (remove name) := by
  refine within_bind (within_delete _ _ h) fun found => ?_
  cases found with
  | false => exact within_fail _
  | true => exact within_pure _

end Identities

namespace Grants

variable {on : Grantable} {object : Int} {identity : String}

theorem merge_within {access : Access}
    (hidentity : AllowsInsert allowed (Identities.firstEntry identity env.defaultAccess))
    (hinsert : AllowsInsert allowed (⟨⟨object, identity⟩, ⟨access, none⟩⟩ : Entry (.grant on)))
    (hupdate : AllowsUpdates allowed (.grant on)) :
    Within env allowed (merge on object identity access) :=
  within_bind (Identities.ensure_within hidentity) fun _ =>
    within_insertOrChange hinsert fun _ _ => hupdate _ _

theorem assign_within {access : Option Access}
    (hidentity : access ≠ none →
      AllowsInsert allowed (Identities.firstEntry identity env.defaultAccess))
    (hinsert : ∀ level, access = some level →
      AllowsInsert allowed (⟨⟨object, identity⟩, ⟨level, none⟩⟩ : Entry (.grant on)))
    (hupdate : AllowsUpdates allowed (.grant on)) (hdelete : AllowsDeletes allowed (.grant on)) :
    Within env allowed (assign on object identity access) := by
  cases access with
  | some level =>
    refine within_bind ?_ fun _ => within_pure _
    exact merge_within (hidentity (by simp)) (hinsert level rfl) hupdate
  | none => exact within_bind (within_delete _ _ fun _ _ => hdelete _) fun _ => within_pure _

theorem mergeReports_within {reports : List GrantReport}
    (hidentity : ∀ report ∈ reports, AllowsInsert allowed
      (Identities.firstEntry (IdentityName.sanitise report.identityName) env.defaultAccess))
    (hinsert : ∀ report ∈ reports, AllowsInsert allowed
      (⟨⟨object, IdentityName.sanitise report.identityName⟩, ⟨report.access, none⟩⟩ :
        Entry (.grant on)))
    (hupdate : AllowsUpdates allowed (.grant on)) :
    Within env allowed (mergeReports on object reports) :=
  within_each fun report hreport =>
    merge_within (hidentity report hreport) (hinsert report hreport) hupdate

end Grants

/-! ## Regions, clouds and links -/

namespace Regions

theorem insertUnder_within {e : Entry .region} (h : AllowsInsert allowed e) :
    Within env allowed (insertUnder e) := by
  refine within_bind (Clouds.referredId_within _) fun _ => ?_
  exact within_bind (within_about _ (within_insert _ h)) fun _ => within_pure _

theorem add_within {e : Entry .region} (h : AllowsInsert allowed e) :
    Within env allowed (add e) :=
  within_transaction (within_bind (insertUnder_within h) fun _ => readBack_within _)

theorem overwrite_within {key : RegionKey} {settings : Region.Settings}
    (h : AllowsUpdate allowed (key, settings) (fun p (row : Row .region) => row.origin = p.1)
      (fun p _ => p.2)) : Within env allowed (overwrite key settings) := by
  refine within_transaction (within_bind (within_update _ _ _ h) fun written => ?_)
  cases written with
  | none => exact within_fail _
  | some row => exact readBack_within _

theorem remove_within {key : RegionKey}
    (h : AllowsDelete allowed key fun key (row : Row .region) => row.origin = key) :
    Within env allowed (remove key) := by
  refine within_bind (within_delete _ _ h) fun found => ?_
  cases found with
  | false => exact within_fail _
  | true => exact within_pure _

end Regions

namespace Clouds

theorem add_within {draft : Cloud.Draft} (hcloud : AllowsInsert allowed draft.entry)
    (hregions : ∀ region ∈ draft.regions, AllowsInsert allowed (region.entry draft.name)) :
    Within env allowed (add draft) := by
  refine within_transaction (within_bind (within_insert _ hcloud) fun _ => ?_)
  refine within_bind (within_each fun region hregion => ?_) fun _ => readBack_within _
  exact Regions.insertUnder_within (hregions region hregion)

theorem overwrite_within {name : String} {settings : Cloud.Settings}
    (h : AllowsUpdate allowed (name, settings) (fun p (row : Row .cloud) => row.origin = p.1)
      (fun p _ => p.2)) : Within env allowed (overwrite name settings) := by
  refine within_transaction (within_bind (within_update _ _ _ h) fun written => ?_)
  cases written with
  | none => exact within_fail _
  | some row => exact readBack_within _

theorem remove_within {name : String}
    (h : AllowsDelete allowed name fun name (row : Row .cloud) => row.origin = name) :
    Within env allowed (remove name) := by
  refine within_bind (within_delete _ _ h) fun found => ?_
  cases found with
  | false => exact within_fail _
  | true => exact within_pure _

theorem reconcile_within {snapshot : Cloud.Snapshot}
    (hcloud : AllowsInsert allowed snapshot.cloud.entry)
    (hregions : ∀ region ∈ snapshot.cloud.regions,
      AllowsInsert allowed (region.entry snapshot.cloud.name))
    (hidentity : ∀ report ∈ snapshot.grants, AllowsInsert allowed
      (Identities.firstEntry (IdentityName.sanitise report.identityName) env.defaultAccess))
    (hinsert : ∀ object, ∀ report ∈ snapshot.grants, AllowsInsert allowed
      (⟨⟨object, IdentityName.sanitise report.identityName⟩, ⟨report.access, none⟩⟩ :
        Entry (.grant .cloud)))
    (hupdate : AllowsUpdates allowed (.grant .cloud)) :
    Within env allowed (reconcile snapshot) := by
  refine within_transaction (within_bind (within_insertNew hcloud) fun _ => ?_)
  refine within_bind (idOf_within _) fun id => ?_
  refine within_bind (within_each fun region hregion => ?_) fun _ => ?_
  · exact within_insertNew (hregions region hregion)
  refine within_bind (Grants.mergeReports_within hidentity (hinsert id) hupdate) fun _ => ?_
  exact within_bind (readBack_within _) fun _ => within_pure _

theorem assignGrant_within {name identity : String} {access : Option Access}
    (hidentity : access ≠ none →
      AllowsInsert allowed (Identities.firstEntry identity env.defaultAccess))
    (hinsert : ∀ object level, access = some level →
      AllowsInsert allowed (⟨⟨object, identity⟩, ⟨level, none⟩⟩ : Entry (.grant .cloud)))
    (hupdate : AllowsUpdates allowed (.grant .cloud))
    (hdelete : AllowsDeletes allowed (.grant .cloud)) :
    Within env allowed (assignGrant name identity access) := by
  refine within_transaction (within_bind (idOf_within _) fun id => ?_)
  exact Grants.assign_within hidentity (hinsert id) hupdate hdelete

end Clouds

namespace Links

theorem merge_within {region controller priority : Int}
    (hinsert : AllowsInsert allowed (⟨⟨region, controller⟩, priority⟩ : Entry .link))
    (hupdate : AllowsUpdates allowed .link) :
    Within env allowed (merge region controller priority) :=
  within_insertOrChange hinsert fun _ _ => hupdate _ _

theorem assign_within {region : RegionKey} {controller : ControllerKey} {priority : Int}
    (hinsert : ∀ region controller,
      AllowsInsert allowed (⟨⟨region, controller⟩, priority⟩ : Entry .link))
    (hupdate : AllowsUpdates allowed .link) :
    Within env allowed (assign region controller priority) := by
  refine within_bind (Regions.referredId_within _) fun region => ?_
  refine within_bind (Controllers.referredId_within _) fun controller => ?_
  exact merge_within (hinsert region controller) hupdate

theorem remove_within {region : RegionKey} {controller : ControllerKey}
    (h : AllowsDeletes allowed .link) : Within env allowed (remove region controller) := by
  refine within_bind (Regions.referredId_within _) fun _ => ?_
  refine within_bind (Controllers.referredId_within _) fun _ => ?_
  refine within_bind (within_delete _ _ fun _ _ => h _) fun found => ?_
  cases found with
  | false => exact within_fail _
  | true => exact within_pure _

end Links

/-! ## Controllers -/

namespace Controllers

theorem add_within {draft : Controller.Draft} (hcontroller : AllowsInsert allowed draft.entry)
    (hlinks : ∀ region controller, ∀ p ∈ draft.priorities,
      AllowsInsert allowed (⟨⟨region, controller⟩, p.priority⟩ : Entry .link))
    (hupdate : AllowsUpdates allowed .link) : Within env allowed (add draft) := by
  refine within_transaction (within_bind (Regions.referredId_within _) fun _ => ?_)
  refine within_bind (within_insert _ hcontroller) fun row => ?_
  refine within_bind (within_each fun p hp => ?_) fun _ => readBack_within _
  refine within_bind (Regions.referredId_within _) fun region => ?_
  exact Links.merge_within (hlinks region row.id p hp) hupdate

theorem overwrite_within {key : ControllerKey} {settings : Controller.Settings}
    (h : ∀ id : Int, AllowsUpdate allowed (id, settings)
      (fun p (row : Row .controller) => row.id = p.1) (fun p _ => p.2)) :
    Within env allowed (overwrite key settings) := by
  refine within_transaction (within_bind (idOf_within _) fun id => ?_)
  exact within_bind (within_update _ _ _ (h id)) fun _ => readBack_within _

theorem remove_within {key : ControllerKey} (h : AllowsDeletes allowed .controller) :
    Within env allowed (remove key) := by
  refine within_bind (idOf_within _) fun id => ?_
  exact within_bind (within_delete _ _ fun _ _ => h _) fun _ => within_pure _

end Controllers

/-! ## Models -/

namespace Models

theorem add_within {e : Entry .model}
    (hidentity : AllowsInsert allowed (Identities.firstEntry e.origin.owner env.defaultAccess))
    (hmodel : AllowsInsert allowed e) : Within env allowed (add e) := by
  refine within_transaction (within_bind (Identities.ensure_within hidentity) fun _ => ?_)
  exact within_bind (within_insert _ hmodel) fun _ => within_queryOne _ _

theorem overwrite_within {key : ModelKey} {settings : Model.Settings}
    (h : ∀ id : Int, AllowsUpdate allowed (id, settings)
      (fun p (row : Row .model) => row.id = p.1) (fun p _ => p.2)) :
    Within env allowed (overwrite key settings) := by
  refine within_transaction (within_bind (idOf_within _) fun id => ?_)
  exact within_bind (within_update _ _ _ (h id)) fun _ => within_queryOne _ _

theorem remove_within {key : ModelKey} (h : AllowsDeletes allowed .model) :
    Within env allowed (remove key) := by
  refine within_bind (idOf_within _) fun id => ?_
  exact within_bind (within_delete _ _ fun _ _ => h _) fun _ => within_pure _

theorem assignGrant_within {key : ModelKey} {identity : String} {access : Option Access}
    (hidentity : access ≠ none →
      AllowsInsert allowed (Identities.firstEntry identity env.defaultAccess))
    (hinsert : ∀ object level, access = some level →
      AllowsInsert allowed (⟨⟨object, identity⟩, ⟨level, none⟩⟩ : Entry (.grant .model)))
    (hupdate : AllowsUpdates allowed (.grant .model))
    (hdelete : AllowsDeletes allowed (.grant .model)) :
    Within env allowed (assignGrant key identity access) := by
  refine within_transaction (within_bind (idOf_within _) fun id => ?_)
  exact Grants.assign_within hidentity (hinsert id) hupdate hdelete

theorem recordConnection_within {key : ModelKey} {identity : String} {time : Timestamp}
    (h : AllowsUpdates allowed (.grant .model)) :
    Within env allowed (recordConnection key identity time) := by
  refine within_bind (idOf_within _) fun id => ?_
  refine within_bind (within_update _ _ _ fun _ _ => h _ _) fun written => ?_
  cases written with
  | none => exact within_fail _
  | some row => exact within_pure _

end Models

/-! ## Credentials -/

namespace Credentials

theorem prepare_within {key : CredentialKey}
    (h : AllowsInsert allowed (Identities.firstEntry key.owner env.defaultAccess)) :
    Within env allowed (prepare key) := by
  refine within_bind (Clouds.referredId_within _) fun _ => ?_
  exact within_bind (Identities.ensure_within h) fun _ => within_pure _

theorem add_within {e : Entry .credential}
    (hidentity : AllowsInsert allowed (Identities.firstEntry e.origin.owner env.defaultAccess))
    (hcredential : AllowsInsert allowed e) : Within env allowed (add e) := by
  refine within_transaction (within_bind (prepare_within hidentity) fun _ => ?_)
  exact within_bind (within_insert _ hcredential) fun _ => within_queryOne _ _

theorem overwrite_within {key : CredentialKey} {settings : Credential.Settings}
    (h : AllowsUpdate allowed (key, settings) (fun p (row : Row .credential) => row.origin = p.1)
      (fun p _ => p.2)) : Within env allowed (overwrite key settings) := by
  refine within_transaction (within_bind (within_update _ _ _ h) fun written => ?_)
  cases written with
  | none => exact within_fail _
  | some row => exact within_queryOne _ _

theorem remove_within {key : CredentialKey} (h : AllowsDeletes allowed .credential) :
    Within env allowed (remove key) := by
  refine within_bind (within_delete _ _ fun _ _ => h _) fun found => ?_
  cases found with
  | false => exact within_fail _
  | true => exact within_pure _

theorem reconcile_within {e : Entry .credential} {reports : List GrantReport}
    (howner : AllowsInsert allowed (Identities.firstEntry e.origin.owner env.defaultAccess))
    (hcredential : AllowsInsert allowed e)
    (hidentity : ∀ report ∈ reports, AllowsInsert allowed
      (Identities.firstEntry (IdentityName.sanitise report.identityName) env.defaultAccess))
    (hinsert : ∀ object, ∀ report ∈ reports, AllowsInsert allowed
      (⟨⟨object, IdentityName.sanitise report.identityName⟩, ⟨report.access, none⟩⟩ :
        Entry (.grant .credential)))
    (hupdate : AllowsUpdates allowed (.grant .credential)) :
    Within env allowed (reconcile e reports) := by
  refine within_transaction (within_bind (prepare_within howner) fun _ => ?_)
  refine within_bind (within_insertNew hcredential) fun _ => ?_
  refine within_bind (idOf_within _) fun id => ?_
  refine within_bind (Grants.mergeReports_within hidentity (hinsert id) hupdate) fun _ => ?_
  exact within_bind (within_queryOne _ _) fun _ => within_pure _

theorem assignGrant_within {key : CredentialKey} {identity : String} {access : Option Access}
    (hidentity : access ≠ none →
      AllowsInsert allowed (Identities.firstEntry identity env.defaultAccess))
    (hinsert : ∀ object level, access = some level →
      AllowsInsert allowed (⟨⟨object, identity⟩, ⟨level, none⟩⟩ : Entry (.grant .credential)))
    (hupdate : AllowsUpdates allowed (.grant .credential))
    (hdelete : AllowsDeletes allowed (.grant .credential)) :
    Within env allowed (assignGrant key identity access) := by
  refine within_transaction (within_bind (idOf_within _) fun id => ?_)
  exact Grants.assign_within hidentity (hinsert id) hupdate hdelete

end Credentials

/-! ## Operations -/

namespace Operation

open IdentityName (sanitise)

/-- The identities that an operation may create, those that it only names included. -/
def identities : Operation → List String
  | .reconcileCloud snapshot => snapshot.grants.map fun report => sanitise report.identityName
  | .assignCloudGrant _ identity (some _) => [sanitise identity]
  | .addModel entry => [sanitise entry.origin.owner]
  | .assignModelGrant _ identity (some _) => [sanitise identity]
  | .getOrCreateIdentity name => [sanitise name]
  | .addIdentity draft => [sanitise draft.name]
  | .addCredential entry => [sanitise entry.origin.owner]
  | .reconcileCredential snapshot =>
    sanitise snapshot.credential.origin.owner ::
      snapshot.grants.map fun report => sanitise report.identityName
  | .assignCredentialGrant _ identity (some _) => [sanitise identity]
  | _ => []

def clouds : Operation → List String
  | .addCloud draft => [draft.name]
  | .reconcileCloud snapshot => [snapshot.cloud.name]
  | _ => []

def regions : Operation → List RegionKey
  | .addCloud draft => draft.regions.map fun region => ⟨draft.name, region.name⟩
  | .reconcileCloud snapshot =>
    snapshot.cloud.regions.map fun region => ⟨snapshot.cloud.name, region.name⟩
  | .addRegionToCloud entry => [entry.origin]
  | .addRegion entry => [entry.origin]
  | _ => []

def controllers : Operation → List Controller.Origin
  | .addController draft => [draft.origin]
  | _ => []

def credentials : Operation → List CredentialKey
  | .addCredential entry => [entry.origin.sanitise]
  | .reconcileCredential snapshot => [snapshot.credential.origin.sanitise]
  | _ => []

def models : Operation → List Model.Origin
  | .addModel entry => [(Model.sanitiseOwner entry).origin]
  | _ => []

/-- Whether an operation may create a row with an origin.  Links and grants are addressed by the
rows that they join and have no keys of their own. -/
def Creates (op : Operation) : (r : Relation) → Origin r → Prop
  | .identity, name => name ∈ op.identities
  | .cloud, name => name ∈ op.clouds
  | .region, key => key ∈ op.regions
  | .controller, origin => origin ∈ op.controllers
  | .link, _ => True
  | .credential, key => key ∈ op.credentials
  | .model, origin => origin ∈ op.models
  | .grant _, _ => True

/-- The objects on which an operation gives, changes or takes away grants. -/
def grantsOn? : Operation → Option Grantable
  | .reconcileCloud _ => some .cloud
  | .assignCloudGrant _ _ _ => some .cloud
  | .assignModelGrant _ _ _ => some .model
  | .recordConnection _ _ _ => some .model
  | .reconcileCredential _ => some .credential
  | .assignCredentialGrant _ _ _ => some .credential
  | _ => none

/-- Where an operation deletes rows; rows elsewhere may go with them. -/
def deletesIn? : Operation → Option Relation
  | .deleteCloud _ => some .cloud
  | .assignCloudGrant _ _ _ => some (.grant .cloud)
  | .deleteRegion _ => some .region
  | .removePriority _ _ => some .link
  | .deleteController _ => some .controller
  | .deleteModel _ => some .model
  | .assignModelGrant _ _ _ => some (.grant .model)
  | .deleteIdentity _ => some .identity
  | .deleteCredential _ => some .credential
  | .assignCredentialGrant _ _ _ => some (.grant .credential)
  | _ => none

/-- Whether an operation may insert an entry, its origin apart.  An identity that is not added as
such gets nothing but what identities have by default. -/
def Furnishes (op : Operation) (access : Access) : {r : Relation} → Entry r → Prop
  | .identity, e => (∃ draft, op = .addIdentity draft) ∨ e = Identities.firstEntry e.origin access
  | .grant on, _ => op.grantsOn? = some on
  | _, _ => True

/-- Whether an operation may update the row that is meant. -/
def Changes (op : Operation) : (r : Relation) → (Row r → Bool) → Prop
  | .identity, which => ∃ name settings, op = .updateIdentity name settings ∧
    which = fun row : Row .identity => row.origin = sanitise name
  | .cloud, _ => ∃ name settings, op = .updateCloud name settings
  | .region, _ => ∃ key settings, op = .updateRegion key settings
  | .controller, _ => ∃ key settings, op = .updateController key settings
  | .grant on, _ => op.grantsOn? = some on
  | _, _ => True

/-- Whether an operation may delete the rows that are meant. -/
def Removes (op : Operation) : (r : Relation) → (Row r → Bool) → Prop
  | .identity, which => ∃ name, op = .deleteIdentity name ∧
    which = fun row : Row .identity => row.origin = sanitise name
  | .cloud, which => ∃ name, op = .deleteCloud name ∧
    which = fun row : Row .cloud => row.origin = name
  | .region, which => ∃ key, op = .deleteRegion key ∧
    which = fun row : Row .region => row.origin = key
  | r, _ => op.deletesIn? = some r

theorem deletesIn?_of_removes {op : Operation} {r : Relation} {which : Row r → Bool}
    (h : op.Removes r which) : op.deletesIn? = some r := by
  cases r with
  | identity =>
    obtain ⟨name, rfl, -⟩ := h
    rfl
  | cloud =>
    obtain ⟨name, rfl, -⟩ := h
    rfl
  | region =>
    obtain ⟨key, rfl, -⟩ := h
    rfl
  | _ => exact h

/-- Whether an operation may write by a statement, where identities have this access by default. -/
def Writes (op : Operation) (access : Access) : Statement → Prop
  | .insert (r := r) e =>
    op.Creates r e.origin ∧ stored? e.origin = some e.origin ∧ op.Furnishes access e
  | .update (r := r) which _ => op.Changes r which
  | .delete (r := r) which => op.Removes r which

section

variable {op : Operation} {access : Access} {r : Relation}

theorem allowsInsert_writes {e : Entry r} (hcreates : op.Creates r e.origin)
    (hfurnishes : ∀ kept, stored? e = some kept → op.Furnishes access kept) :
    AllowsInsert (op.Writes access) e := by
  intro kept hkept
  have horigin : kept.origin = e.origin := Storable.origin_of_stored? hkept
  have hstored := (Storable.stored?_entry_eq_some.1 (Storable.stored?_stored? hkept)).1
  exact ⟨by rwa [horigin], hstored, hfurnishes kept hkept⟩

theorem allowsInsert_firstEntry {name : String} (hname : name ∈ op.identities) :
    AllowsInsert (op.Writes access) (Identities.firstEntry name access) := by
  refine allowsInsert_writes (r := .identity) hname fun kept hkept => .inr ?_
  have hnul : Text.IsNulFree name :=
    Storable.isNulFree_of_stored? (Storable.stored?_entry_eq_some.1 hkept).1
  rw [Storable.stored?_firstEntry hnul, Option.some_inj] at hkept
  subst hkept
  rfl

end

/-- Operations write nothing but what they may write. -/
theorem within_writes (op : Operation) (env : Environment) :
    Within env (op.Writes env.defaultAccess) op.plan.script := by
  have hlink : ∀ {e : Entry .link}, AllowsInsert (op.Writes env.defaultAccess) e :=
    allowsInsert_writes trivial fun _ _ => trivial
  cases op with
  | listClouds => exact within_map _ (within_query _ _)
  | addCloud draft =>
    refine within_map _ (Clouds.add_within
      (allowsInsert_writes List.mem_cons_self fun _ _ => trivial) fun region hregion => ?_)
    exact allowsInsert_writes (List.mem_map_of_mem hregion) fun _ _ => trivial
  | getCloud name => exact within_map _ (within_queryOne _ _)
  | updateCloud name settings =>
    exact within_map _ (Clouds.overwrite_within fun _ _ => ⟨name, settings, rfl⟩)
  | deleteCloud name =>
    refine within_map _ (Clouds.remove_within fun kept hkept => ⟨name, rfl, ?_⟩)
    rw [Storable.isExact_text _ _ hkept]
  | reconcileCloud snapshot =>
    refine within_map _ (Clouds.reconcile_within
      (allowsInsert_writes List.mem_cons_self fun _ _ => trivial) ?_ ?_
      (fun _ _ _ => allowsInsert_writes trivial fun _ _ => rfl) fun _ _ => rfl)
    · intro region hregion
      exact allowsInsert_writes (List.mem_map_of_mem hregion) fun _ _ => trivial
    · intro report hreport
      exact allowsInsert_firstEntry (List.mem_map_of_mem hreport)
  | addRegionToCloud entry =>
    exact within_map _ (Regions.add_within
      (allowsInsert_writes List.mem_cons_self fun _ _ => trivial))
  | assignCloudGrant cloud identity access =>
    refine within_map _ (Clouds.assignGrant_within (fun hsome => ?_)
      (fun _ _ _ => allowsInsert_writes trivial fun _ _ => rfl) (fun _ _ => rfl) fun _ => rfl)
    obtain ⟨level, rfl⟩ := Option.ne_none_iff_exists'.1 hsome
    exact allowsInsert_firstEntry List.mem_cons_self
  | addRegion entry =>
    exact within_map _ (Regions.add_within
      (allowsInsert_writes List.mem_cons_self fun _ _ => trivial))
  | getRegion key => exact within_map _ (within_queryOne _ _)
  | updateRegion key settings =>
    exact within_map _ (Regions.overwrite_within fun _ _ => ⟨key, settings, rfl⟩)
  | deleteRegion key =>
    refine within_map _ (Regions.remove_within fun kept hkept => ⟨key, rfl, ?_⟩)
    rw [Storable.isExact_regionKey _ _ hkept]
  | findRegion provider region => exact within_map _ (within_queryOne _ _)
  | assignPriority region controller priority =>
    exact within_map _ (Links.assign_within (fun _ _ => hlink) fun _ _ => trivial)
  | removePriority region controller => exact within_map _ (Links.remove_within fun _ => rfl)
  | addController draft =>
    exact within_map _ (Controllers.add_within
      (allowsInsert_writes List.mem_cons_self fun _ _ => trivial) (fun _ _ _ _ => hlink)
      fun _ _ => trivial)
  | getController key => exact within_map _ (within_queryOne _ _)
  | updateController key settings =>
    exact within_map _ (Controllers.overwrite_within fun _ _ _ => ⟨key, settings, rfl⟩)
  | deleteController key => exact within_map _ (Controllers.remove_within fun _ => rfl)
  | addModel entry =>
    exact within_map _ (Models.add_within (allowsInsert_firstEntry List.mem_cons_self)
      (allowsInsert_writes List.mem_cons_self fun _ _ => trivial))
  | getModel key => exact within_map _ (within_queryOne _ _)
  | updateModel key settings => exact within_map _ (Models.overwrite_within fun _ _ _ => trivial)
  | deleteModel key => exact within_map _ (Models.remove_within fun _ => rfl)
  | modelsWithUuids uuids => exact within_map _ (within_query _ _)
  | modelsUsingCredential credential => exact within_map _ (within_query _ _)
  | assignModelGrant key identity access =>
    refine within_map _ (Models.assignGrant_within (fun hsome => ?_)
      (fun _ _ _ => allowsInsert_writes trivial fun _ _ => rfl) (fun _ _ => rfl) fun _ => rfl)
    obtain ⟨level, rfl⟩ := Option.ne_none_iff_exists'.1 hsome
    exact allowsInsert_firstEntry List.mem_cons_self
  | recordConnection key identity time =>
    exact within_map _ (Models.recordConnection_within fun _ _ => rfl)
  | getOrCreateIdentity name =>
    exact within_map _
      (Identities.getOrCreate_within (allowsInsert_firstEntry List.mem_cons_self))
  | addIdentity draft =>
    exact within_map _ (Identities.add_within
      (allowsInsert_writes List.mem_cons_self fun _ _ => .inl ⟨draft, rfl⟩))
  | getIdentity name => exact within_map _ (within_queryOne _ _)
  | updateIdentity name settings =>
    refine within_map _ (Identities.overwrite_within fun kept hkept => ⟨name, settings, rfl, ?_⟩)
    have hname : kept.1 = sanitise name :=
      Storable.isExact_text _ _ (Storable.stored?_pair_eq_some.1 hkept).1
    simp only [hname]
  | deleteIdentity name =>
    refine within_map _ (Identities.remove_within fun kept hkept => ⟨name, rfl, ?_⟩)
    rw [Storable.isExact_text _ _ hkept]
  | cloudsOfIdentity name => exact within_map _ (within_query _ _)
  | modelsOfIdentity name => exact within_map _ (within_query _ _)
  | credentialsOfIdentity name cloud => exact within_map _ (within_query _ _)
  | addCredential entry =>
    exact within_map _ (Credentials.add_within (allowsInsert_firstEntry List.mem_cons_self)
      (allowsInsert_writes List.mem_cons_self fun _ _ => trivial))
  | getCredential key => exact within_map _ (within_queryOne _ _)
  | updateCredential key settings =>
    exact within_map _ (Credentials.overwrite_within fun _ _ => trivial)
  | deleteCredential key => exact within_map _ (Credentials.remove_within fun _ => rfl)
  | reconcileCredential snapshot =>
    refine within_map _ (Credentials.reconcile_within
      (allowsInsert_firstEntry List.mem_cons_self)
      (allowsInsert_writes List.mem_cons_self fun _ _ => trivial) (fun report hreport => ?_)
      (fun _ _ _ => allowsInsert_writes trivial fun _ _ => rfl) fun _ _ => rfl)
    exact allowsInsert_firstEntry (List.mem_cons_of_mem _ (List.mem_map_of_mem hreport))
  | assignCredentialGrant key identity access =>
    refine within_map _ (Credentials.assignGrant_within (fun hsome => ?_)
      (fun _ _ _ => allowsInsert_writes trivial fun _ _ => rfl) (fun _ _ => rfl) fun _ => rfl)
    obtain ⟨level, rfl⟩ := Option.ne_none_iff_exists'.1 hsome
    exact allowsInsert_firstEntry List.mem_cons_self

end Operation

/-- Whether a statement inserts, if it inserts, a row with an origin of which something holds. -/
def Statement.InsertsOnly (P : (r : Relation) → Origin r → Prop) : Statement → Prop
  | .insert (r := r) e => P r e.origin ∧ stored? e.origin = some e.origin
  | _ => True

section

variable {P : (r : Relation) → Origin r → Prop}

theorem allowsInsert_of_origin {r : Relation} {e : Entry r} (h : P r e.origin) :
    AllowsInsert (Statement.InsertsOnly P) e := by
  intro kept hkept
  have horigin : kept.origin = e.origin := Storable.origin_of_stored? hkept
  have hstored := (Storable.stored?_entry_eq_some.1 (Storable.stored?_stored? hkept)).1
  exact ⟨by rwa [horigin], hstored⟩

theorem allowsUpdates_insertsOnly (r : Relation) : AllowsUpdates (Statement.InsertsOnly P) r :=
  fun _ _ => trivial

end

/-- Operations create nothing but what they may create. -/
theorem Operation.within_creates (op : Operation) (env : Environment) :
    Within env (Statement.InsertsOnly op.Creates) op.plan.script := by
  intro before
  refine (op.within_writes env before).mono fun statement hwrites => ?_
  cases statement with
  | insert e => exact ⟨hwrites.1, hwrites.2.1⟩
  | update => trivial
  | delete => trivial

/-- Every operation is made of statements and transactions alone. -/
theorem Operation.within (op : Operation) (env : Environment) :
    Within env (fun _ => True) op.plan.script :=
  fun before => (op.within_creates env before).mono fun _ _ => trivial

end ControlPlane
