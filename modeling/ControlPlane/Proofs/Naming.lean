/-
Empty parts of keys.

An operation on a key with an empty part ends before it reaches the database, so an entity that is
stored under such a key cannot be addressed by it.  What an operation addresses is checked for that,
what it creates on the way is not: the regions in the draft of a cloud and the identities to which
access is granted.  Where these have names, all keys are free of empty parts
(`Deployment.keyParts_nonempty`); where they have none, they are stored without
(`Deployment.exists_emptyPart`).
-/
import ControlPlane.Proofs.Creation
import ControlPlane.Proofs.Execution

namespace ControlPlane

/-- The texts that make up the natural key of a row.  Links and grants have none. -/
def keyParts : (r : Relation) → Origin r → List String
  | .identity, name => [name]
  | .cloud, name => [name]
  | .region, key => key.parts
  | .controller, origin => [origin.name]
  | .link, _ => []
  | .credential, key => key.parts
  | .model, origin => [origin.owner, origin.name]
  | .grant _, _ => []

namespace Subject

theorem isValid_ofKey {kind : EntityKind} {key : String} :
    (ofKey kind key).isValid = true ↔ "" ∉ [key] := by
  show (!key.isEmpty) = true ↔ _
  constructor
  · intro h hmem
    obtain rfl := List.mem_singleton.1 hmem
    cases h
  · intro h
    have hne : key ≠ "" := fun heq => h (List.mem_singleton.2 heq.symm)
    simpa using hne

theorem isValid_ofParts {kind : EntityKind} {parts : List String} :
    (ofParts kind parts).isValid = true ↔ "" ∉ parts := by
  show (parts.all fun part => !part.isEmpty) = true ↔ _
  rw [List.all_eq_true]
  constructor
  · intro h hmem
    cases h "" hmem
  · intro h part hpart
    have hne : part ≠ "" := fun heq => h (heq ▸ hpart)
    simpa using hne

end Subject

namespace IdentityName

/-- The safe form of a name is empty only if the name is. -/
theorem eq_empty_of_sanitise {name : String} (h : sanitise name = "") : name = "" := by
  have hlist : sanitiseWith shortHash name.toList = [] := by
    have htoList := congrArg String.toList h
    rwa [sanitise, String.toList_ofList] at htoList
  apply String.toList_injective
  rw [String.toList_empty]
  cases hname : name.toList with
  | nil => rfl
  | cons c rest =>
    rw [hname, sanitiseWith] at hlist
    split at hlist
    next =>
      rw [List.map_cons, markDomain] at hlist
      split at hlist
      next => exact absurd (List.append_eq_nil_iff.1 hlist).2 (List.cons_ne_nil _ _)
      next => cases hlist
    next => cases hlist

end IdentityName

namespace Operation

/-- The regions that an operation creates along with a cloud. -/
def regionDrafts : Operation → List Region.Draft
  | .addCloud draft => draft.regions
  | .reconcileCloud snapshot => snapshot.cloud.regions
  | _ => []

/-- The identities to which an operation grants access, as it names them. -/
def grantees : Operation → List String
  | .reconcileCloud snapshot => snapshot.grants.map fun report => report.identityName
  | .assignCloudGrant _ identity (some _) => [identity]
  | .assignModelGrant _ identity (some _) => [identity]
  | .reconcileCredential snapshot => snapshot.grants.map fun report => report.identityName
  | .assignCredentialGrant _ identity (some _) => [identity]
  | _ => []

/-- Whether an operation leaves a name empty that its subject does not show. -/
def LeavesNameless (op : Operation) : Relation → Prop
  | .region => ∃ draft ∈ op.regionDrafts, draft.name = ""
  | .identity => "" ∈ op.grantees
  | _ => False

variable {op : Operation}

theorem leavesNameless_of_identity (hvalid : op.plan.subject.isValid = true)
    (h : "" ∈ op.identities) : op.LeavesNameless .identity := by
  have hreports : ∀ {reports : List GrantReport},
      "" ∈ reports.map (fun report => IdentityName.sanitise report.identityName) →
        "" ∈ reports.map fun report => report.identityName := by
    intro reports hmem
    obtain ⟨report, hreport, hname⟩ := List.mem_map.1 hmem
    exact List.mem_map.2 ⟨report, hreport, IdentityName.eq_empty_of_sanitise hname⟩
  have hgrantee : ∀ {identity : String}, "" ∈ [IdentityName.sanitise identity] →
      "" ∈ [identity] := by
    intro identity hmem
    rw [IdentityName.eq_empty_of_sanitise (List.mem_singleton.1 hmem).symm]
    exact List.mem_cons_self
  -- An owner and the identity of an operation on identities stand in the subject, which is valid.
  unfold identities at h
  split at h
  next => exact hreports h
  next => exact hgrantee h
  next entry =>
    have howner := Subject.isValid_ofParts.1 hvalid
    rw [List.mem_singleton.1 h] at howner
    exact absurd List.mem_cons_self howner
  next => exact hgrantee h
  next => exact absurd h (Subject.isValid_ofKey.1 hvalid)
  next => exact absurd h (Subject.isValid_ofKey.1 hvalid)
  next entry =>
    have howner := Subject.isValid_ofParts.1 hvalid
    rw [List.mem_singleton.1 h] at howner
    exact absurd (List.mem_cons_of_mem _ List.mem_cons_self) howner
  next snapshot =>
    rcases List.mem_cons.1 h with heq | hmem
    · have howner := Subject.isValid_ofParts.1 hvalid
      rw [heq] at howner
      exact absurd (List.mem_cons_of_mem _ List.mem_cons_self) howner
    · exact hreports hmem
  next => exact hgrantee h
  next => cases h

theorem leavesNameless_of_region (hvalid : op.plan.subject.isValid = true) {key : RegionKey}
    (hkey : key ∈ op.regions) (h : "" ∈ key.parts) : op.LeavesNameless .region := by
  have hdrafts : ∀ {name : String} {drafts : List Region.Draft}, "" ∉ [name] →
      key ∈ drafts.map (fun region => ⟨name, region.name⟩) → ∃ draft ∈ drafts, draft.name = "" := by
    intro name drafts hname hmem
    obtain ⟨draft, hdraft, rfl⟩ := List.mem_map.1 hmem
    rcases List.mem_pair.1 h with heq | heq
    · exact absurd (List.mem_singleton.2 heq) hname
    · exact ⟨draft, hdraft, heq.symm⟩
  unfold regions at hkey
  split at hkey
  next => exact hdrafts (Subject.isValid_ofKey.1 hvalid) hkey
  next => exact hdrafts (Subject.isValid_ofKey.1 hvalid) hkey
  next =>
    rw [List.mem_singleton.1 hkey] at h
    exact absurd h (Subject.isValid_ofParts.1 hvalid)
  next =>
    rw [List.mem_singleton.1 hkey] at h
    exact absurd h (Subject.isValid_ofParts.1 hvalid)
  next => cases hkey

/-- The keys of all other kinds are those that operations address. -/
theorem leavesNameless_of_creates (hvalid : op.plan.subject.isValid = true) {r : Relation}
    {origin : Origin r} (hcreates : op.Creates r origin) (h : "" ∈ keyParts r origin) :
    op.LeavesNameless r := by
  cases r with
  | identity =>
    obtain rfl := List.mem_singleton.1 h
    exact leavesNameless_of_identity hvalid hcreates
  | cloud =>
    obtain rfl := List.mem_singleton.1 h
    have hmem : "" ∈ op.clouds := hcreates
    unfold clouds at hmem
    split at hmem
    next => exact absurd hmem (Subject.isValid_ofKey.1 hvalid)
    next => exact absurd hmem (Subject.isValid_ofKey.1 hvalid)
    next => cases hmem
  | region => exact leavesNameless_of_region hvalid hcreates h
  | controller =>
    have hmem : origin ∈ op.controllers := hcreates
    unfold controllers at hmem
    split at hmem
    next =>
      obtain rfl := List.mem_singleton.1 hmem
      exact absurd h (Subject.isValid_ofKey.1 hvalid)
    next => cases hmem
  | link => cases h
  | credential =>
    have hmem : origin ∈ op.credentials := hcreates
    unfold credentials at hmem
    split at hmem
    next =>
      obtain rfl := List.mem_singleton.1 hmem
      exact absurd h (Subject.isValid_ofParts.1 hvalid)
    next =>
      obtain rfl := List.mem_singleton.1 hmem
      exact absurd h (Subject.isValid_ofParts.1 hvalid)
    next => cases hmem
  | model =>
    have hmem : origin ∈ op.models := hcreates
    unfold models at hmem
    split at hmem
    next =>
      obtain rfl := List.mem_singleton.1 hmem
      exact absurd h (Subject.isValid_ofParts.1 hvalid)
    next => cases hmem
  | grant on => cases h

end Operation

namespace Deployment

/-- No key that a session has stored has an empty part, but for regions which some operation of the
session created without a name along with their cloud, and identities without a name to which one
granted access. -/
theorem keyParts_nonempty {settings : StoreSettings} {steps : List Step} {r : Relation}
    (hnamed : ∀ now course op, Step.perform now course op ∈ steps → ¬op.LeavesNameless r) :
    ∀ row ∈ ((initial settings).run steps).server.database.contents.get r,
      "" ∉ keyParts r row.origin := by
  intro row hrow hempty
  obtain ⟨now, course, op, hstep, hvalid, hcreates, -⟩ := exists_creation hrow
  exact hnamed now course op hstep (Operation.leavesNameless_of_creates hvalid hcreates hempty)

/-- A session that creates a cloud with a region and grants access to the cloud. -/
def namingSteps (region grantee : String) : List Step :=
  [.migrate .undisturbed false,
    .perform ⟨0, 0⟩ .undisturbed
      (.addCloud ⟨"aws", ⟨"ec2", "", [], .none, [], .empty⟩, [⟨region, .none, .empty⟩]⟩),
    .perform ⟨60, 0⟩ .undisturbed (.assignCloudGrant "aws" grantee (some .addModel))]

theorem keyParts_nonempty_west :
    let dep := (initial .default).run (namingSteps "west" "ann")
    dep.server.database.contents.region.map (fun row => row.origin) = [⟨"aws", "west"⟩] ∧
      ∀ row ∈ dep.server.database.contents.region, "" ∉ keyParts .region row.origin := by
  refine ⟨by decide +kernel, keyParts_nonempty (r := .region) ?_⟩
  intro now course op hstep hnameless
  simp only [namingSteps, List.mem_cons, List.not_mem_nil, or_false, reduceCtorEq, false_or,
    Step.perform.injEq] at hstep
  obtain ⟨draft, hdraft, hname⟩ := hnameless
  rcases hstep with ⟨-, -, rfl⟩ | ⟨-, -, rfl⟩
  · obtain rfl := List.mem_singleton.1 hdraft
    exact absurd hname (by decide)
  · cases hdraft

/-- Without names, a region and an identity are stored all the same, and the region cannot be found
by its key. -/
theorem exists_emptyPart :
    let dep := (initial .default).run (namingSteps "" "")
    (∃ row ∈ dep.server.database.contents.region, "" ∈ keyParts .region row.origin) ∧
    (∃ row ∈ dep.server.database.contents.identity, "" ∈ keyParts .identity row.origin) ∧
    (dep.perform ⟨120, 0⟩ .undisturbed (.getRegion ⟨"aws", ""⟩)).1 =
      .error (.notFound "cloud_regions.get" (.ofRegion ⟨"aws", ""⟩)) := by
  intro dep
  have hready : dep.store.lifecycle = .ready := by decide +kernel
  have hget : (dep.perform ⟨120, 0⟩ .undisturbed (.getRegion ⟨"aws", ""⟩)).1 =
      .error (.notFound "cloud_regions.get" (.ofRegion ⟨"aws", ""⟩)) := by
    rw [perform, Store.perform_of_invalid hready (by decide)]
    rfl
  have hregion : dep.server.database.contents.region.any
      (fun row => "" ∈ keyParts .region row.origin) = true := by decide +kernel
  have hidentity : dep.server.database.contents.identity.any
      (fun row => "" ∈ keyParts .identity row.origin) = true := by decide +kernel
  obtain ⟨region, hregion, hregionEmpty⟩ := List.any_eq_true.1 hregion
  obtain ⟨identity, hidentity, hidentityEmpty⟩ := List.any_eq_true.1 hidentity
  exact ⟨⟨region, hregion, of_decide_eq_true hregionEmpty⟩,
    ⟨identity, hidentity, of_decide_eq_true hidentityEmpty⟩, hget⟩

end Deployment
end ControlPlane
