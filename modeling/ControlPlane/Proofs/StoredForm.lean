/-
The settings of rows, in the form in which the database gives them back.

Whatever is written has gone through the database, which stores the stored form of a value as it
is.  So the settings of a row could be written once more without a change.  An identity, moreover,
is never given an empty display name where its name has a default.
-/
import ControlPlane.Proofs.Admission
import ControlPlane.Proofs.Integrity

namespace ControlPlane

open IdentityName (sanitise)
open Script
open Statement (AllowsInsert AllowsUpdate AllowsUpdates)

/-! ## Display names -/

/-- The default takes the place of an empty display name only once. -/
theorem Identities.displayNameOr_displayNameOr (name given : String) :
    displayNameOr name (displayNameOr name given) = displayNameOr name given := by
  by_cases hgiven : given.isEmpty = true
  · simp only [displayNameOr, hgiven, if_true, ite_self]
  · simp only [displayNameOr, hgiven, if_false, Bool.false_eq_true]

theorem Identities.displayNameOr_displayName (name : String) :
    displayNameOr name (IdentityName.displayName name) = IdentityName.displayName name :=
  ite_self _

theorem Storable.displayName_of_stored? {settings kept : Identity.Settings}
    (h : stored? settings = some kept) : kept.displayName = settings.displayName := by
  obtain ⟨parts, hparts, rfl⟩ := Option.map_eq_some_iff.1 h
  exact isExact_text _ _ (stored?_pair_eq_some.1 hparts).1

/-! ## Entries -/

/-- Whether the settings of an entry could be written once more without a change.  Grants are left
out: their settings are not written as a whole. -/
def Entry.IsSettled : {r : Relation} → Entry r → Prop
  | .identity, e => stored? e.settings = some e.settings ∧
    Identities.displayNameOr e.origin e.settings.displayName = e.settings.displayName
  | .grant _, _ => True
  | _, e => stored? e.settings = some e.settings

namespace Entry.IsSettled

variable {r : Relation}

/-- What is inserted has been stored, so it is settled once its display name is. -/
theorem of_stored? {e kept : Entry r} (hkept : stored? e = some kept) (hr : r ≠ .identity) :
    kept.IsSettled := by
  have hsettings := (Storable.stored?_entry_eq_some.1 (Storable.stored?_stored? hkept)).2
  cases r with
  | identity => exact absurd rfl hr
  | grant on => trivial
  | _ => exact hsettings

theorem of_identity {e kept : Entry .identity} (hkept : stored? e = some kept)
    (hdisplay : Identities.displayNameOr e.origin e.settings.displayName =
      e.settings.displayName) : kept.IsSettled := by
  refine ⟨(Storable.stored?_entry_eq_some.1 (Storable.stored?_stored? hkept)).2, ?_⟩
  rw [Storable.origin_of_stored? hkept,
    Storable.displayName_of_stored? (Storable.stored?_entry_eq_some.1 hkept).2]
  exact hdisplay

theorem firstEntry {name : String} {access : Access} {kept : Entry .identity}
    (hkept : stored? (Identities.firstEntry name access) = some kept) : kept.IsSettled :=
  of_identity hkept (Identities.displayNameOr_displayName name)

end Entry.IsSettled

/-! ## Statements -/

namespace Statement

/-- Whether a statement leaves every row settled, if all rows were. -/
def Settles : Statement → Prop := Keeps Entry.IsSettled

variable {r : Relation}

theorem allowsInsert_settles (r : Relation) (hr : r ≠ .identity) {e : Entry r} :
    AllowsInsert Settles e :=
  fun _ hkept => .of_stored? hkept hr

theorem allowsInsert_firstEntry (name : String) (access : Access) :
    AllowsInsert Settles (Identities.firstEntry name access) :=
  fun _ hkept => .firstEntry hkept

theorem allowsUpdates_settles (on : Grantable) : AllowsUpdates Settles (.grant on) :=
  fun _ _ _ _ _ => trivial

/-- An update that writes whole settings writes what is stored of them. -/
theorem allowsUpdate_settles {α : Type} [Storable α] (r : Relation) (hr : r ≠ .identity) {key : α}
    {settings : Settings r} {which : α × Settings r → Row r → Bool} :
    AllowsUpdate Settles (key, settings) which fun p _ => p.2 := by
  intro kept hkept row _ _
  have hstored : stored? kept.2 = some kept.2 :=
    Storable.stored?_stored? (Storable.stored?_pair_eq_some.1 hkept).2
  cases r with
  | identity => exact absurd rfl hr
  | grant on => trivial
  | _ => exact hstored

end Statement

namespace Database

/-- Whether the settings of all rows could be written once more without a change. -/
def Settled (db : Database) : Prop := ∀ r, ∀ row ∈ db.contents.get r, row.toEntry.IsSettled

theorem empty_settled : empty.Settled := by
  intro r row hrow
  simp [empty] at hrow

theorem Evolution.settled {now : Timestamp} {db after : Database}
    (h : Evolution now Statement.Settles db after) (hsettled : db.Settled) : after.Settled :=
  h.all_of_keeps hsettled

end Database

/-! ## Operations -/

section

variable {env : Environment} {on : Grantable}

theorem allowsInsert_grant {e : Entry (.grant on)} : AllowsInsert Statement.Settles e :=
  Statement.allowsInsert_settles _ (Relation.grant_ne_identity on)

theorem allowsInsert_reports (reports : List GrantReport) : ∀ report ∈ reports,
    AllowsInsert Statement.Settles
      (Identities.firstEntry (sanitise report.identityName) env.defaultAccess) :=
  fun _ _ => Statement.allowsInsert_firstEntry _ _

/-- The display name of an identity that is added or overwritten has gone through the default. -/
theorem Identities.allowsInsert_draftEntry (draft : Identity.Draft) (access : Access) :
    AllowsInsert Statement.Settles (draftEntry draft access) :=
  fun _ hkept => .of_identity hkept (displayNameOr_displayNameOr _ _)

theorem Identities.allowsUpdate_overwrite (name : String) (settings : Identity.Settings) :
    AllowsUpdate Statement.Settles
      (name, { settings with displayName := displayNameOr name settings.displayName })
      (fun p (row : Row .identity) => row.origin = p.1) (fun p _ => p.2) := by
  intro kept hkept row hwhich _
  obtain ⟨hname, hsettings⟩ := Storable.stored?_pair_eq_some.1 hkept
  have horigin : row.origin = name :=
    (of_decide_eq_true hwhich).trans (Storable.isExact_text _ _ hname)
  refine ⟨Storable.stored?_stored? hsettings, ?_⟩
  rw [Storable.displayName_of_stored? hsettings, horigin]
  exact displayNameOr_displayNameOr _ _

/-- Operations write nothing but settings in stored form. -/
theorem Operation.within_settles (op : Operation) (env : Environment) :
    Within env Statement.Settles op.plan.script := by
  have hgrants : ∀ on, AllowsUpdates Statement.Settles (.grant on) :=
    Statement.allowsUpdates_settles
  have hlinks : AllowsUpdates Statement.Settles .link := fun _ _ _ _ _ => rfl
  have hnamed : ∀ name, AllowsInsert Statement.Settles
      (Identities.firstEntry name env.defaultAccess) :=
    fun _ => Statement.allowsInsert_firstEntry _ _
  have hplain : ∀ r, r ≠ .identity → ∀ {e : Entry r}, AllowsInsert Statement.Settles e :=
    Statement.allowsInsert_settles
  have hdelete : ∀ r, Statement.AllowsDeletes Statement.Settles r := fun _ _ => trivial
  cases op with
  | listClouds => exact within_map _ (within_query _ _)
  | addCloud draft =>
    exact within_map _
      (Clouds.add_within (hplain .cloud nofun) fun _ _ => hplain .region nofun)
  | getCloud name => exact within_map _ (within_queryOne _ _)
  | updateCloud name settings =>
    exact within_map _ (Clouds.overwrite_within (Statement.allowsUpdate_settles .cloud nofun))
  | deleteCloud name => exact within_map _ (Clouds.remove_within fun _ _ => trivial)
  | reconcileCloud snapshot =>
    exact within_map _ (Clouds.reconcile_within (hplain .cloud nofun)
      (fun _ _ => hplain .region nofun) (allowsInsert_reports _)
      (fun _ _ _ => allowsInsert_grant) (hgrants _))
  | addRegionToCloud entry => exact within_map _ (Regions.add_within (hplain .region nofun))
  | assignCloudGrant cloud identity access =>
    exact within_map _ (Clouds.assignGrant_within (fun _ => hnamed _)
      (fun _ _ _ => allowsInsert_grant) (hgrants _) (hdelete _))
  | addRegion entry => exact within_map _ (Regions.add_within (hplain .region nofun))
  | getRegion key => exact within_map _ (within_queryOne _ _)
  | updateRegion key settings =>
    exact within_map _ (Regions.overwrite_within (Statement.allowsUpdate_settles .region nofun))
  | deleteRegion key => exact within_map _ (Regions.remove_within fun _ _ => trivial)
  | findRegion provider region => exact within_map _ (within_queryOne _ _)
  | assignPriority region controller priority =>
    exact within_map _ (Links.assign_within (fun _ _ => hplain .link nofun) hlinks)
  | removePriority region controller => exact within_map _ (Links.remove_within (hdelete _))
  | addController draft =>
    exact within_map _ (Controllers.add_within (hplain .controller nofun)
      (fun _ _ _ _ => hplain .link nofun) hlinks)
  | getController key => exact within_map _ (within_queryOne _ _)
  | updateController key settings =>
    exact within_map _
      (Controllers.overwrite_within fun _ => Statement.allowsUpdate_settles .controller nofun)
  | deleteController key => exact within_map _ (Controllers.remove_within (hdelete _))
  | addModel entry => exact within_map _ (Models.add_within (hnamed _) (hplain .model nofun))
  | getModel key => exact within_map _ (within_queryOne _ _)
  | updateModel key settings =>
    exact within_map _
      (Models.overwrite_within fun _ => Statement.allowsUpdate_settles .model nofun)
  | deleteModel key => exact within_map _ (Models.remove_within (hdelete _))
  | modelsWithUuids uuids => exact within_map _ (within_query _ _)
  | modelsUsingCredential credential => exact within_map _ (within_query _ _)
  | assignModelGrant key identity access =>
    exact within_map _ (Models.assignGrant_within (fun _ => hnamed _)
      (fun _ _ _ => allowsInsert_grant) (hgrants _) (hdelete _))
  | recordConnection key identity time =>
    exact within_map _ (Models.recordConnection_within (hgrants _))
  | getOrCreateIdentity name => exact within_map _ (Identities.getOrCreate_within (hnamed _))
  | addIdentity draft =>
    exact within_map _ (Identities.add_within (Identities.allowsInsert_draftEntry _ _))
  | getIdentity name => exact within_map _ (within_queryOne _ _)
  | updateIdentity name settings =>
    exact within_map _ (Identities.overwrite_within (Identities.allowsUpdate_overwrite _ _))
  | deleteIdentity name => exact within_map _ (Identities.remove_within fun _ _ => trivial)
  | cloudsOfIdentity name => exact within_map _ (within_query _ _)
  | modelsOfIdentity name => exact within_map _ (within_query _ _)
  | credentialsOfIdentity name cloud => exact within_map _ (within_query _ _)
  | addCredential entry =>
    exact within_map _ (Credentials.add_within (hnamed _) (hplain .credential nofun))
  | getCredential key => exact within_map _ (within_queryOne _ _)
  | updateCredential key settings =>
    exact within_map _
      (Credentials.overwrite_within (Statement.allowsUpdate_settles .credential nofun))
  | deleteCredential key => exact within_map _ (Credentials.remove_within (hdelete _))
  | reconcileCredential snapshot =>
    exact within_map _ (Credentials.reconcile_within (hnamed _) (hplain .credential nofun)
      (allowsInsert_reports _) (fun _ _ _ => allowsInsert_grant) (hgrants _))
  | assignCredentialGrant key identity access =>
    exact within_map _ (Credentials.assignGrant_within (fun _ => hnamed _)
      (fun _ _ _ => allowsInsert_grant) (hgrants _) (hdelete _))

end

/-! ## Sessions -/

/-- What a session has stored could be stored once more without a change. -/
theorem Deployment.Reachable.settled {dep : Deployment} (h : dep.Reachable) :
    dep.server.database.Settled :=
  h.database_induction Database.empty_settled fun _ _ _ op _ hsettled =>
    (Store.perform_evolution_of_within (fun _ => op.within_settles _) _).settled hsettled

end ControlPlane
