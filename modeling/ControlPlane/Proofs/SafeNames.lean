/-
Raw names and safe names.

The safe form of a name is its own safe form, hash included.  Every operation brings the names of
identities to their safe form before anything else sees them, so an operation cannot tell a name
from another with the same safe form, and neither can an iteration.  What is stored comes from
operations, and so only safe names are stored (`Deployment.Reachable.names_interchangeable`).
-/
import ControlPlane.Proofs.Consistency
import ControlPlane.Proofs.Creation

namespace ControlPlane

/-! ## The safe form of a safe form -/

namespace IdentityName

theorem isForbidden_digitChar : ∀ n < 16, isForbidden (Nat.digitChar n) = false := by decide

theorem isForbidden_safeChar (c : Char) : isForbidden (safeChar c) = false := by
  by_cases h : isForbidden c = true
  · rw [safeChar, if_pos h]
    decide
  · rw [safeChar, if_neg h]
    simpa using h

theorem isForbidden_shortHash {name : List Char} {c : Char} (h : c ∈ shortHash name) :
    isForbidden c = false := by
  obtain ⟨byte, -, hc⟩ := List.mem_flatMap.1 h
  have hbyte := byte.toNat_lt
  rcases List.mem_pair.1 hc with rfl | rfl
  · exact isForbidden_digitChar _ (by omega)
  · exact isForbidden_digitChar _ (by omega)

/-- A name without unsafe characters is its own safe form. -/
theorem sanitiseWith_of_safe {hash : List Char → List Char} {name : List Char}
    (h : ∀ c ∈ name, isForbidden c = false) : sanitiseWith hash name = name := by
  refine if_neg fun hany => ?_
  obtain ⟨c, hc, hforbidden⟩ := List.any_eq_true.1 hany
  rw [h c hc] at hforbidden
  cases hforbidden

theorem isForbidden_of_mem_sanitiseWith {name : List Char} {c : Char}
    (h : c ∈ sanitiseWith shortHash name) : isForbidden c = false := by
  rw [sanitiseWith] at h
  split at h
  next =>
    rcases mem_markDomain h with hmark | hname
    · exact isForbidden_shortHash hmark
    · obtain ⟨d, -, rfl⟩ := List.mem_map.1 hname
      exact isForbidden_safeChar d
  next hsafe => simpa using fun hforbidden => hsafe (List.any_eq_true.2 ⟨c, h, hforbidden⟩)

@[simp] theorem sanitise_sanitise (name : String) : sanitise (sanitise name) = sanitise name := by
  rw [sanitise, sanitise, String.toList_ofList,
    sanitiseWith_of_safe fun _ => isForbidden_of_mem_sanitiseWith]

end IdentityName

open IdentityName (sanitise)

/-! ## Calls with safe names -/

@[simp] theorem ModelKey.sanitise_sanitise (key : ModelKey) :
    key.sanitise.sanitise = key.sanitise := by
  cases key with
  | uuid u => rfl
  | ownerName owner name => simp [ModelKey.sanitise]

@[simp] theorem CredentialKey.sanitise_sanitise (key : CredentialKey) :
    key.sanitise.sanitise = key.sanitise := by
  simp [CredentialKey.sanitise]

@[simp] theorem Model.sanitiseOwner_sanitiseOwner (e : Entry .model) :
    Model.sanitiseOwner (Model.sanitiseOwner e) = Model.sanitiseOwner e := by
  simp [Model.sanitiseOwner]

@[simp] theorem Credential.sanitiseOwner_sanitiseOwner (e : Entry .credential) :
    Credential.sanitiseOwner (Credential.sanitiseOwner e) = Credential.sanitiseOwner e := by
  simp [Credential.sanitiseOwner]

def GrantReport.sanitise (report : GrantReport) : GrantReport :=
  { report with identityName := IdentityName.sanitise report.identityName }

@[simp] theorem GrantReport.sanitise_sanitise (report : GrantReport) :
    report.sanitise.sanitise = report.sanitise := by
  simp [GrantReport.sanitise]

/-- The same operation with every name of an identity in its safe form: the name that it is about,
owners in keys, entries and snapshots, and those to whom access is granted. -/
def Operation.sanitise : Operation → Operation
  | .reconcileCloud snapshot =>
    .reconcileCloud { snapshot with grants := snapshot.grants.map GrantReport.sanitise }
  | .assignCloudGrant cloud identity access =>
    .assignCloudGrant cloud (IdentityName.sanitise identity) access
  | .addModel entry => .addModel (Model.sanitiseOwner entry)
  | .getModel key => .getModel key.sanitise
  | .updateModel key settings => .updateModel key.sanitise settings
  | .deleteModel key => .deleteModel key.sanitise
  | .assignModelGrant key identity access =>
    .assignModelGrant key.sanitise (IdentityName.sanitise identity) access
  | .recordConnection key identity time =>
    .recordConnection key.sanitise (IdentityName.sanitise identity) time
  | .getOrCreateIdentity name => .getOrCreateIdentity (IdentityName.sanitise name)
  | .addIdentity draft => .addIdentity { draft with name := IdentityName.sanitise draft.name }
  | .getIdentity name => .getIdentity (IdentityName.sanitise name)
  | .updateIdentity name settings => .updateIdentity (IdentityName.sanitise name) settings
  | .deleteIdentity name => .deleteIdentity (IdentityName.sanitise name)
  | .cloudsOfIdentity name => .cloudsOfIdentity (IdentityName.sanitise name)
  | .modelsOfIdentity name => .modelsOfIdentity (IdentityName.sanitise name)
  | .credentialsOfIdentity name cloud => .credentialsOfIdentity (IdentityName.sanitise name) cloud
  | .addCredential entry => .addCredential (Credential.sanitiseOwner entry)
  | .getCredential key => .getCredential key.sanitise
  | .updateCredential key settings => .updateCredential key.sanitise settings
  | .deleteCredential key => .deleteCredential key.sanitise
  | .reconcileCredential snapshot =>
    .reconcileCredential
      ⟨Credential.sanitiseOwner snapshot.credential, snapshot.grants.map GrantReport.sanitise⟩
  | .assignCredentialGrant key identity access =>
    .assignCredentialGrant key.sanitise (IdentityName.sanitise identity) access
  | op => op

def Iteration.sanitise : Iteration → Iteration
  | .credentials owner cloud => .credentials (IdentityName.sanitise owner) cloud
  | it => it

@[simp] theorem Operation.sanitise_sanitise (op : Operation) :
    op.sanitise.sanitise = op.sanitise := by
  cases op <;> simp [Operation.sanitise]

@[simp] theorem Iteration.sanitise_sanitise (it : Iteration) :
    it.sanitise.sanitise = it.sanitise := by
  cases it <;> simp [Iteration.sanitise]

/-! ## What calls see of names -/

theorem Script.each_map {α β γ : Type} (f : β → Script γ) (g : α → β) (items : List α) :
    each f (items.map g) = each (fun a => f (g a)) items := by
  induction items with
  | nil => rfl
  | cons a rest ih => rw [List.map_cons, each, each, ih]

theorem Grants.mergeReports_sanitise (on : Grantable) (object : Int) (reports : List GrantReport) :
    mergeReports on object (reports.map GrantReport.sanitise) =
      mergeReports on object reports := by
  show Script.each _ (reports.map GrantReport.sanitise) = Script.each _ reports
  rw [Script.each_map]
  simp [GrantReport.sanitise]

theorem Operation.plan_sanitise (op : Operation) : op.sanitise.plan = op.plan := by
  cases op with
  | reconcileCloud snapshot =>
    simp only [Operation.sanitise, plan, Clouds.reconcile, Grants.mergeReports_sanitise]
  | reconcileCredential snapshot =>
    simp only [Operation.sanitise, plan, Credential.sanitiseOwner_sanitiseOwner,
      Credentials.reconcile, Grants.mergeReports_sanitise]
  | _ => simp [Operation.sanitise, plan]

namespace Iteration

theorem name_sanitise (it : Iteration) : it.sanitise.name = it.name := by
  cases it <;> rfl

theorem hasStorableParameters_sanitise (it : Iteration) :
    it.sanitise.hasStorableParameters = it.hasStorableParameters := by
  cases it <;> simp [Iteration.sanitise, hasStorableParameters]

theorem walk_sanitise (it : Iteration) (c : Contents) (visitor : Visitor) (batch : Nat) :
    it.sanitise.walk c visitor batch = it.walk c visitor batch := by
  cases it with
  | credentials owner cloud =>
    simp only [Iteration.sanitise, walk, listing, IdentityName.sanitise_sanitise]
  | _ => rfl

end Iteration

theorem Store.iterate_sanitise (store : Store) (course : Course) (it : Iteration)
    (visitor : Visitor) (db : Database) :
    store.iterate course it.sanitise visitor db = store.iterate course it visitor db := by
  simp only [iterate, it.name_sanitise, it.hasStorableParameters_sanitise, it.walk_sanitise]

namespace Deployment

theorem perform_sanitise (dep : Deployment) (now : Timestamp) (course : Course) (op : Operation) :
    dep.perform now course op.sanitise = dep.perform now course op := by
  simp only [perform, Store.perform, op.plan_sanitise]

theorem iterate_sanitise (dep : Deployment) (course : Course) (it : Iteration)
    (visitor : Visitor) :
    dep.iterate course it.sanitise visitor = dep.iterate course it visitor := by
  simp only [iterate, Store.iterate_sanitise, it.name_sanitise]

end Deployment

/-! ## Stored names -/

/-- Whether every name of an identity that is stored is its own safe form. -/
structure Contents.HasSafeNames (c : Contents) : Prop where
  identities : ∀ row ∈ c.identity, sanitise row.origin = row.origin
  modelOwners : ∀ row ∈ c.model, sanitise row.origin.owner = row.origin.owner
  credentialOwners : ∀ row ∈ c.credential, sanitise row.origin.owner = row.origin.owner
  grantees : ∀ on, ∀ row ∈ c.get (.grant on), sanitise row.origin.identity = row.origin.identity

theorem Operation.sanitise_of_mem_identities {op : Operation} {name : String}
    (h : name ∈ op.identities) : IdentityName.sanitise name = name := by
  suffices hraw : ∃ raw, IdentityName.sanitise raw = name by
    obtain ⟨raw, rfl⟩ := hraw
    exact IdentityName.sanitise_sanitise raw
  have hreports : ∀ {reports : List GrantReport},
      name ∈ reports.map (fun report => IdentityName.sanitise report.identityName) →
        ∃ raw, IdentityName.sanitise raw = name := by
    intro reports hmem
    obtain ⟨report, -, hname⟩ := List.mem_map.1 hmem
    exact ⟨report.identityName, hname⟩
  have hsingle : ∀ {raw : String}, name ∈ [IdentityName.sanitise raw] →
      ∃ raw, IdentityName.sanitise raw = name :=
    fun {raw} hmem => ⟨raw, (List.mem_singleton.1 hmem).symm⟩
  unfold identities at h
  split at h
  next => exact hreports h
  next => exact hsingle h
  next => exact hsingle h
  next => exact hsingle h
  next => exact hsingle h
  next => exact hsingle h
  next => exact hsingle h
  next =>
    rcases List.mem_cons.1 h with heq | hmem
    · exact ⟨_, heq.symm⟩
    · exact hreports hmem
  next => exact hsingle h
  next => cases h

/-- Owners and those to whom access is granted are identities, so it is enough that these have safe
names. -/
theorem Database.Consistent.hasSafeNames {db : Database} (h : db.Consistent)
    (hidentities : ∀ row ∈ db.contents.identity, sanitise row.origin = row.origin) :
    db.contents.HasSafeNames where
  identities := hidentities
  modelOwners row hrow := by
    obtain ⟨owner, howner, hname⟩ := h.ownerOfModel row hrow
    rw [← hname]
    exact hidentities owner howner
  credentialOwners row hrow := by
    obtain ⟨owner, howner, hname⟩ := h.ownerOfCredential row hrow
    rw [← hname]
    exact hidentities owner howner
  grantees on row hrow := by
    obtain ⟨identity, hidentity, hname⟩ := h.identityOfGrant on row hrow
    rw [← hname]
    exact hidentities identity hidentity

namespace Deployment

theorem Reachable.hasSafeNames {dep : Deployment} (h : dep.Reachable) :
    dep.server.database.contents.HasSafeNames := by
  refine (Database.consistent_of_sound h.sound).hasSafeNames fun row hrow => ?_
  obtain ⟨settings, steps, rfl⟩ := h
  obtain ⟨-, -, op, -, -, hcreates, -⟩ := exists_creation (r := .identity) hrow
  exact Operation.sanitise_of_mem_identities hcreates

/-- A session stores safe names only.  What comes of a call, the deployment after it included, does
not change with the form in which the call names identities, and the safe form of a call is such a
form. -/
theorem Reachable.names_interchangeable {dep : Deployment} (h : dep.Reachable) :
    dep.server.database.contents.HasSafeNames ∧
    (∀ now course (op op' : Operation), op.sanitise = op'.sanitise →
      dep.perform now course op = dep.perform now course op') ∧
    (∀ course (it it' : Iteration) visitor, it.sanitise = it'.sanitise →
      dep.iterate course it visitor = dep.iterate course it' visitor) ∧
    (∀ op : Operation, op.sanitise.sanitise = op.sanitise) ∧
    ∀ it : Iteration, it.sanitise.sanitise = it.sanitise := by
  refine ⟨h.hasSafeNames, ?_, ?_, Operation.sanitise_sanitise, Iteration.sanitise_sanitise⟩
  · intro now course op op' hsame
    rw [← perform_sanitise, hsame, perform_sanitise]
  · intro course it it' visitor hsame
    rw [← iterate_sanitise, hsame, iterate_sanitise]

/-- An identity that was created under an unsafe name is found under both of its names. -/
theorem names_interchangeable_eve :
    let dep := (initial .default).run
      [.migrate .undisturbed false,
        .perform ⟨0, 0⟩ .undisturbed (.getOrCreateIdentity "eve_x@corp")]
    sanitise "eve_x@corp" = "eve-xac7e61@corp" ∧
    dep.server.database.contents.identity.map (fun row => row.origin) = ["eve-xac7e61@corp"] ∧
    dep.server.database.contents.HasSafeNames ∧
    dep.perform ⟨60, 0⟩ .undisturbed (.getIdentity "eve_x@corp") =
      dep.perform ⟨60, 0⟩ .undisturbed (.getIdentity "eve-xac7e61@corp") ∧
    (dep.perform ⟨60, 0⟩ .undisturbed (.getIdentity "eve_x@corp")).1.isOk = true := by
  intro dep
  have hsafe : sanitise "eve_x@corp" = "eve-xac7e61@corp" := by decide +kernel
  have hsame : (Operation.getIdentity "eve_x@corp").sanitise =
      (Operation.getIdentity "eve-xac7e61@corp").sanitise := by
    rw [← hsafe]
    exact (Operation.sanitise_sanitise (.getIdentity "eve_x@corp")).symm
  have hreachable : dep.Reachable := ⟨.default, _, rfl⟩
  exact ⟨hsafe, by decide +kernel, (Reachable.names_interchangeable hreachable).1,
    (Reachable.names_interchangeable hreachable).2.1 _ _ _ _ hsame, by decide +kernel⟩

end Deployment
end ControlPlane
