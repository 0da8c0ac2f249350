/-
Adding what exists already.

A key that a row has is in the way of every entry that has it too, whatever else they differ in.
The insert of such an entry fails as a duplicate (`Script.insert_of_names`), before the database
looks where the entry refers to, and the insert is what every add comes to once the rows that it
looks up are there.  So the add answers that the entity exists already, and what it did on the way
is undone.
-/
import ControlPlane.Proofs.Renewal
import ControlPlane.Proofs.Sequencing

namespace ControlPlane

open Script

/-! ## Entries in the way of others -/

theorem Contents.refusal?_of_conflicts {r : Relation} {c : Contents} {others : List (Row r)}
    {e : Entry r} {u : Uniqueness r} (hu : u ∈ uniquenesses r) {row : Row r} (hrow : row ∈ others)
    (hconflicts : u.conflicts e row.toEntry = true) :
    ∃ name detail, c.refusal? others e = some (.duplicate name detail) := by
  rw [refusal?]
  cases hduplicate : duplicate? others e with
  | some found => exact ⟨_, _, rfl⟩
  | none =>
    rw [duplicate?_eq_none.1 hduplicate u hu row hrow] at hconflicts
    cases hconflicts

/-- Whether a region that is to host a controller is there.  What else an entry refers to by its key
is what another entry with that key refers to. -/
def Contents.HasHost (c : Contents) : {r : Relation} → Entry r → Prop
  | .controller, e => ∃ region ∈ c.region, region.origin = e.origin.hosting
  | _, _ => True

namespace Script

variable {env : Environment} {before : Progress} (hcalm : env.disturbance = none)

include hcalm

/-- An entry with a key that is taken is refused as a duplicate. -/
theorem insert_of_names {key : Key} {old : Row key.relation}
    (hold : old ∈ before.database.contents.get key.relation) (hnames : key.Names old.toEntry)
    {e kept : Entry key.relation} (hkept : stored? e = some kept) (he : key.Names e) :
    ∃ name detail after,
      insert e env before = .error (.failed (.duplicate name detail) none) after := by
  obtain ⟨u, hu, hconflicts⟩ := Key.exists_conflicts (Key.names_of_stored? hkept he) hnames
  obtain ⟨name, detail, hrefusal⟩ :=
    Contents.refusal?_of_conflicts (c := before.database.contents) hu hold hconflicts
  exact ⟨name, detail, _, insert_of_error hcalm hkept
    (Database.insert_of_refusal?_eq_some hrefusal env.now)⟩

/-- An add under a key that is taken fails as a duplicate. -/
theorem add_of_names (hsound : before.database.Sound) {key : Key} {old : Row key.relation}
    (hold : old ∈ before.database.contents.get key.relation) (hnames : key.Names old.toEntry)
    {op : Operation} {e kept : Entry key.relation} (hadds : op.Adds env.defaultAccess e)
    (hkept : stored? e = some kept) (he : key.Names e)
    (hhost : before.database.contents.HasHost e) :
    ∃ name detail subject after,
      op.plan.script env before = .error (.failed (.duplicate name detail) subject) after ∧
        subject.getD op.plan.subject = op.plan.subject := by
  have hconsistent := Database.consistent_of_sound hsound
  cases key with
  | cloud name =>
    obtain ⟨draft, rfl, rfl⟩ := hadds
    obtain ⟨constraint, detail, last, hinsert⟩ := insert_of_names hcalm hold hnames hkept he
    exact ⟨constraint, detail, _, _, map_error (transaction_error (bind_error hinsert _)) _, rfl⟩
  | region key =>
    obtain ⟨constraint, detail, last, hinsert⟩ := insert_of_names hcalm hold hnames hkept he
    obtain ⟨cloud, hcloud, hname⟩ := hconsistent.cloudOfRegion old hold
    have hsame : old.origin = e.origin := Eq.trans hnames he.symm
    obtain ⟨_, hreferred⟩ := Clouds.referredId_ok hcalm
      (Storable.isNulFree_of_regionKey (Storable.stored?_origin hkept)).1
      ⟨cloud, hcloud, hname.trans (congrArg RegionKey.cloud hsame)⟩
    have hunder : Regions.insertUnder e env before =
        .error (.failed (.duplicate constraint detail) (some (.ofRegion e.origin))) last :=
      (bind_ok hreferred _).trans (bind_error (about_error _ hinsert) _)
    rcases hadds with rfl | rfl
    · exact ⟨constraint, detail, _, _, map_error (transaction_error (bind_error hunder _)) _, rfl⟩
    · exact ⟨constraint, detail, _, _, map_error (transaction_error (bind_error hunder _)) _, rfl⟩
  | controller key =>
    obtain ⟨draft, rfl, rfl⟩ := hadds
    obtain ⟨constraint, detail, last, hinsert⟩ := insert_of_names hcalm hold hnames hkept he
    have hstored : stored? draft.origin = some draft.origin := Storable.stored?_origin hkept
    obtain ⟨_, hreferred⟩ :=
      Regions.referredId_ok hcalm (Storable.stored?_hosting hstored) hhost
    exact ⟨constraint, detail, _, _,
      map_error (transaction_error ((bind_ok hreferred _).trans (bind_error hinsert _))) _, rfl⟩
  | model key =>
    obtain ⟨given, rfl, rfl⟩ := hadds
    have howner := (Storable.isNulFree_of_modelOrigin (Storable.stored?_origin hkept)).1
    obtain ⟨outcome, middle, owners, hensure, -, hmiddle, -⟩ :=
      Identities.ensure_ok hcalm hsound howner
    have hold : old ∈ middle.database.contents.get (Key.model key).relation := by
      rwa [hmiddle]
    obtain ⟨constraint, detail, last, hinsert⟩ := insert_of_names hcalm hold hnames hkept he
    exact ⟨constraint, detail, _, _,
      map_error (transaction_error ((bind_ok hensure _).trans (bind_error hinsert _))) _, rfl⟩
  | credential key =>
    obtain ⟨given, rfl, rfl⟩ := hadds
    obtain ⟨cloud, hcloud, hname⟩ := hconsistent.cloudOfCredential old hold
    have hsame : old.origin = (Credential.sanitiseOwner given).origin := Eq.trans hnames he.symm
    obtain ⟨middle, owners, hprepare, -, hmiddle, -⟩ :=
      Credentials.prepare_ok hcalm hsound (Storable.stored?_origin hkept)
        ⟨cloud, hcloud, hname.trans (congrArg CredentialKey.cloud hsame)⟩
    have hold : old ∈ middle.database.contents.get (Key.credential key).relation := by
      rwa [hmiddle]
    obtain ⟨constraint, detail, last, hinsert⟩ := insert_of_names hcalm hold hnames hkept he
    exact ⟨constraint, detail, _, _,
      map_error (transaction_error ((bind_ok hprepare _).trans (bind_error hinsert _))) _, rfl⟩
  | identity name =>
    obtain ⟨draft, rfl, rfl⟩ := hadds
    obtain ⟨constraint, detail, last, hinsert⟩ := insert_of_names hcalm hold hnames hkept he
    exact ⟨constraint, detail, _, _,
      map_error ((bind_ok (read_ok env before) _).trans (bind_error hinsert _)) _, rfl⟩

end Script

/-! ## Operations -/

namespace Deployment

/-- Whether no entry with a key can be added: an add answers that the entity exists already, and
changes no row. -/
def RefusesAdds (dep : Deployment) (key : Key) : Prop :=
  ∀ now op, ∀ e kept : Entry key.relation, op.Adds dep.store.settings.defaultAccess e →
    key.Names e → "" ∉ keyParts key.relation e.origin → stored? e = some kept →
    dep.server.database.contents.HasHost e →
    let call := dep.perform now .undisturbed op
    (∃ conflict constraint, call.1 =
      .error ⟨op.plan.name, .alreadyExists op.plan.subject.kind conflict constraint⟩) ∧
    call.2.server.database.contents = dep.server.database.contents

/-- A key that a row has is in the way of every other entry that has it. -/
theorem Reachable.refusesAdds {dep : Deployment} (hreachable : dep.Reachable)
    (hready : dep.store.lifecycle = .ready) {key : Key} {old : Row key.relation}
    (hold : old ∈ dep.server.database.contents.get key.relation)
    (hnames : key.Names old.toEntry) : dep.RefusesAdds key := by
  intro now op e kept hadds he hparts hkept hhost call
  have hcalm : (dep.store.environment now .undisturbed).disturbance = none := rfl
  have hsound : (Progress.mk dep.server.database false).database.Sound := hreachable.sound
  obtain ⟨constraint, detail, subject, after, hrun, hsubject⟩ :=
    Script.add_of_names hcalm hsound hold hnames hadds hkept he hhost
  have hvalid := (Operation.isValid_iff_of_adds hadds).2 hparts
  have hperform := Store.perform_of_error hready hvalid hrun
  have herror : Store.errorOf op.plan (.failed (.duplicate constraint detail) subject) =
      ⟨op.plan.name, .alreadyExists op.plan.subject.kind
        ((detail.bind Failure.conflictingValue?).getD op.plan.subject.key) constraint⟩ := by
    rw [Store.errorOf, hsubject]
    rfl
  refine ⟨⟨_, constraint, (congrArg Prod.fst hperform).trans (congrArg Except.error herror)⟩, ?_⟩
  · rw [database_perform]
    exact Store.contents_of_perform_error (congrArg Prod.fst hperform)

end Deployment
end ControlPlane
