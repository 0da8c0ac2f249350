/-
Duplicates, and what is said of them.

The database tells the values of a duplicate in a sentence, and whatever marks they contain they are
read back out of it as they are (`Failure.conflictingValue?_duplicateDetail`).  A script stops for a
duplicate only at an insert that is not a merge, or where it gives a model another identifier; every
other script is peaceful (`Script.IsPeaceful`).  So an operation that answers that something exists
already has offered an entry with the values that it tells, beside another entry that has them
(`Deployment.Reachable.alreadyExists_truthful`).
-/
import ControlPlane.Proofs.Delimiters
import ControlPlane.Proofs.Failures

namespace ControlPlane

open Script
open IdentityName (sanitise)

/-! ## The values in the sentence -/

/-- What stands in the sentence before the values has nothing of the mark that opens them. -/
theorem Uniqueness.eq_not_mem_columns {r : Relation} {u : Uniqueness r}
    (hu : u ∈ uniquenesses r) : '=' ∉ (String.intercalate ", " u.columns).toList := by
  cases r with
  | grant on =>
    obtain rfl := List.mem_singleton.1 hu
    cases on <;> decide +kernel
  | controller =>
    simp only [uniquenesses, List.mem_cons, List.not_mem_nil, or_false] at hu
    rcases hu with rfl | rfl <;> decide +kernel
  | model =>
    simp only [uniquenesses, List.mem_cons, List.not_mem_nil, or_false] at hu
    rcases hu with rfl | rfl <;> decide +kernel
  | _ =>
    obtain rfl := List.mem_singleton.1 hu
    decide +kernel

/-- Whatever the values are, they are read back. -/
theorem Failure.conflictingValue?_duplicateDetail {columns : List String}
    (h : '=' ∉ (String.intercalate ", " columns).toList) (values : List String) :
    conflictingValue? (duplicateDetail columns values) =
      some (String.intercalate ", " values) := by
  have hopening : '=' ∈ "=(".toList := by decide
  exact conflictingValue?_sentence (fun hwithin => h (hwithin.mem hopening)) _

/-! ## Entries that clash -/

/-- The unique values of an entry are stored as they are. -/
theorem Uniqueness.values_of_stored? {r : Relation} {u : Uniqueness r} (hu : u ∈ uniquenesses r)
    {e kept : Entry r} (h : stored? e = some kept) : u.values kept = u.values e := by
  have horigin := Storable.origin_of_stored? h
  cases r with
  | model =>
    have huuid := Storable.uuid_of_stored? (Storable.stored?_entry_eq_some.1 h).2
    simp only [uniquenesses, List.mem_cons, List.not_mem_nil, or_false] at hu
    rcases hu with rfl | rfl
    · simp only [huuid]
    · simp only [horigin]
  | controller =>
    simp only [uniquenesses, List.mem_cons, List.not_mem_nil, or_false] at hu
    rcases hu with rfl | rfl <;> simp only [horigin]
  | _ =>
    obtain rfl := List.mem_singleton.1 hu
    simp only [horigin]

/-- Whether the database says of an entry that it has the unique values of one of several others:
under the name of the constraint and with the values. -/
def Clash {r : Relation} (e : Entry r) (others : List (Entry r)) (name detail : Option String) :
    Prop :=
  ∃ u ∈ uniquenesses r, ∃ values, name = some u.name ∧ u.values e = some values ∧
    detail = some (Failure.duplicateDetail u.columns (values.map Value.render)) ∧
    ∃ other ∈ others, u.values other = some values

section

variable {r : Relation} {c : Contents} {others more : List (Entry r)} {e kept : Entry r}
  {name detail : Option String}

theorem clash_of_refusal? {rows : List (Row r)}
    (hkept : ∀ u ∈ uniquenesses r, u.values kept = u.values e)
    (h : c.refusal? rows kept = some (.duplicate name detail)) :
    Clash e (rows.map Row.toEntry) name detail := by
  rcases Contents.refusal?_eq_some h with hother | ⟨u, hu, hduplicate, row, hrow, hconflicts⟩
  · cases hother
  cases hduplicate
  obtain ⟨hsome, hvalues⟩ := Bool.and_eq_true_iff.1 hconflicts
  have hvalues := of_decide_eq_true hvalues
  obtain ⟨values, hgiven⟩ := Option.isSome_iff_exists.1 hsome
  refine ⟨u, hu, values, rfl, ?_, ?_, row.toEntry, List.mem_map_of_mem hrow, ?_⟩
  · rw [← hkept u hu, hgiven]
  · rw [Uniqueness.detail, hgiven]
    rfl
  · rw [← hvalues, hgiven]

/-- A clash with entries of which each has the unique values of one of others is one with
those. -/
theorem Clash.of_values (h : Clash e others name detail)
    (hvalues : ∀ other ∈ others, ∃ same ∈ more, ∀ u ∈ uniquenesses r,
      u.values other = u.values same) : Clash e more name detail := by
  obtain ⟨u, hu, values, hname, he, hdetail, other, hother, hsame⟩ := h
  obtain ⟨same, hmem, heq⟩ := hvalues other hother
  exact ⟨u, hu, values, hname, he, hdetail, same, hmem, (heq u hu).symm.trans hsame⟩

end

/-! ## Peaceful scripts -/

/-- Whether a script never fails for a duplicate. -/
@[reducible] def Script.IsPeaceful {α : Type} (env : Environment) (body : Script α) : Prop :=
  FailsOnly env (· = .noRow) body

theorem Script.isPeaceful_fail {α : Type} {env : Environment} :
    IsPeaceful env (fail .noRow : Script α) := by
  refine failsOnly_fail ?_
  rfl

theorem Script.isPeaceful_queryOne {α β : Type} {env : Environment} [Storable α] (params : α)
    (f : α → Contents → Option β) : IsPeaceful env (queryOne params f) := by
  refine failsOnly_queryOne ?_ params f
  rfl

/-! ## What the store does in peace -/

section

variable {env : Environment}

theorem Clouds.referredId_isPeaceful (name : String) : IsPeaceful env (referredId name) :=
  failsOnly_about _ (isPeaceful_queryOne _ _)

theorem Regions.referredId_isPeaceful (key : RegionKey) : IsPeaceful env (referredId key) :=
  failsOnly_about _ (isPeaceful_queryOne _ _)

theorem Controllers.referredId_isPeaceful (key : ControllerKey) :
    IsPeaceful env (referredId key) :=
  failsOnly_about _ (isPeaceful_queryOne _ _)

namespace Identities

theorem getOrCreate_isPeaceful (name : String) : IsPeaceful env (getOrCreate name) :=
  failsOnly_transaction
    (failsOnly_bind (ensure_failsOnly name) fun _ => isPeaceful_queryOne _ _)

theorem overwrite_isPeaceful (name : String) (settings : Identity.Settings) :
    IsPeaceful env (overwrite name settings) := by
  refine failsOnly_bind (failsOnly_update (r := .identity) (.inl nofun) _ _ _) fun written => ?_
  cases written with
  | none => exact isPeaceful_fail
  | some row => exact failsOnly_pure _

end Identities

namespace Grants

/-- Access is assigned once the object is found. -/
theorem assign_found_isPeaceful {on : Grantable} {find : Script Int}
    (hfind : IsPeaceful env find) (identity : String) (access : Option Access) :
    IsPeaceful env (transaction do
      let id ← find
      assign on id identity access) :=
  failsOnly_transaction (failsOnly_bind hfind fun _ => assign_failsOnly _ _ _ _)

end Grants

namespace Links

theorem assign_isPeaceful (region : RegionKey) (controller : ControllerKey) (priority : Int) :
    IsPeaceful env (assign region controller priority) :=
  failsOnly_bind (Regions.referredId_isPeaceful region) fun _ =>
    failsOnly_bind (Controllers.referredId_isPeaceful controller) fun _ =>
      merge_failsOnly _ _ _

end Links

namespace Script

/-- A delete that has to find something. -/
theorem isPeaceful_deleteFound {α : Type} {r : Relation} [Storable α] (params : α)
    (which : α → Row r → Bool) :
    IsPeaceful env (do
      let found ← delete params which
      unless found do fail .noRow : Script Unit) := by
  refine failsOnly_bind (failsOnly_delete _ _) fun found => ?_
  cases found with
  | false => exact isPeaceful_fail
  | true => exact failsOnly_pure _

end Script

theorem Links.remove_isPeaceful (region : RegionKey) (controller : ControllerKey) :
    IsPeaceful env (remove region controller) :=
  failsOnly_bind (Regions.referredId_isPeaceful region) fun _ =>
    failsOnly_bind (Controllers.referredId_isPeaceful controller) fun _ =>
      isPeaceful_deleteFound _ _

theorem Regions.overwrite_isPeaceful (key : RegionKey) (settings : Region.Settings) :
    IsPeaceful env (overwrite key settings) := by
  refine failsOnly_transaction
    (failsOnly_bind (failsOnly_update (r := .region) (.inl nofun) _ _ _) fun written => ?_)
  cases written with
  | none => exact isPeaceful_fail
  | some row => exact failsOnly_decoded _ (isPeaceful_queryOne _ _)

theorem Clouds.overwrite_isPeaceful (name : String) (settings : Cloud.Settings) :
    IsPeaceful env (overwrite name settings) := by
  refine failsOnly_transaction
    (failsOnly_bind (failsOnly_update (r := .cloud) (.inl nofun) _ _ _) fun written => ?_)
  cases written with
  | none => exact isPeaceful_fail
  | some row => exact failsOnly_decoded _ (isPeaceful_queryOne _ _)

theorem Clouds.reconcile_isPeaceful (snapshot : Cloud.Snapshot) :
    IsPeaceful env (reconcile snapshot) := by
  refine failsOnly_transaction (failsOnly_bind (failsOnly_insertNew _) fun _ => ?_)
  refine failsOnly_bind (isPeaceful_queryOne _ _) fun id => ?_
  refine failsOnly_bind (failsOnly_each (fun _ => failsOnly_insertNew _) _) fun _ => ?_
  refine failsOnly_bind (Grants.mergeReports_failsOnly _ _ _) fun _ => ?_
  refine failsOnly_bind (failsOnly_decoded _ (isPeaceful_queryOne _ _)) fun _ => ?_
  exact failsOnly_pure _

theorem Credentials.prepare_isPeaceful (key : CredentialKey) : IsPeaceful env (prepare key) :=
  failsOnly_bind (Clouds.referredId_isPeaceful _) fun _ =>
    failsOnly_bind (Identities.ensure_failsOnly _) fun _ => failsOnly_pure _

theorem Credentials.overwrite_isPeaceful (key : CredentialKey)
    (settings : Credential.Settings) : IsPeaceful env (overwrite key settings) := by
  refine failsOnly_transaction
    (failsOnly_bind (failsOnly_update (r := .credential) (.inl nofun) _ _ _) fun written => ?_)
  cases written with
  | none => exact isPeaceful_fail
  | some row => exact isPeaceful_queryOne _ _

theorem Credentials.reconcile_isPeaceful (e : Entry .credential) (reports : List GrantReport) :
    IsPeaceful env (reconcile e reports) := by
  refine failsOnly_transaction (failsOnly_bind (prepare_isPeaceful _) fun _ => ?_)
  refine failsOnly_bind (failsOnly_insertNew _) fun _ => ?_
  refine failsOnly_bind (isPeaceful_queryOne _ _) fun id => ?_
  refine failsOnly_bind (Grants.mergeReports_failsOnly _ _ _) fun _ => ?_
  exact failsOnly_bind (isPeaceful_queryOne _ _) fun _ => failsOnly_pure _

/-- What is addressed by a number that is looked up first, and then deleted. -/
theorem Script.isPeaceful_deleteNumbered {r : Relation} {find : Script Int}
    (hfind : IsPeaceful env find) :
    IsPeaceful env (do
      let id ← find
      let _ ← delete id fun id (row : Row r) => row.id = id : Script Unit) :=
  failsOnly_bind hfind fun _ =>
    failsOnly_bind (failsOnly_delete _ _) fun _ => failsOnly_pure _

theorem Controllers.overwrite_isPeaceful (key : ControllerKey) (settings : Controller.Settings) :
    IsPeaceful env (overwrite key settings) := by
  refine failsOnly_transaction (failsOnly_bind (isPeaceful_queryOne _ _) fun id => ?_)
  exact failsOnly_bind (failsOnly_update (r := .controller) (.inl nofun) _ _ _) fun _ =>
    failsOnly_decoded _ (isPeaceful_queryOne _ _)

theorem Models.recordConnection_isPeaceful (key : ModelKey) (identity : String)
    (time : Timestamp) : IsPeaceful env (recordConnection key identity time) := by
  refine failsOnly_bind (isPeaceful_queryOne _ _) fun id => ?_
  refine failsOnly_bind (failsOnly_update (r := .grant .model) (.inl nofun) _ _ _) fun written => ?_
  cases written with
  | none => exact isPeaceful_fail
  | some row => exact failsOnly_pure _

end

namespace Operation

/-- Whether an operation may find that something exists already: it adds, or gives a model other
settings. -/
def canConflict : Operation → Bool
  | .addCloud _ => true
  | .addRegionToCloud _ => true
  | .addRegion _ => true
  | .addController _ => true
  | .addModel _ => true
  | .updateModel _ _ => true
  | .addIdentity _ => true
  | .addCredential _ => true
  | _ => false

/-- All other operations are peaceful. -/
theorem isPeaceful {op : Operation} (h : op.canConflict = false) (env : Environment) :
    IsPeaceful env op.plan.script := by
  cases op with
  | addCloud draft => cases h
  | addRegionToCloud entry => cases h
  | addRegion entry => cases h
  | addController draft => cases h
  | addModel entry => cases h
  | updateModel key settings => cases h
  | addIdentity draft => cases h
  | addCredential entry => cases h
  | listClouds => exact failsOnly_map _ (failsOnly_query _ _)
  | getCloud name => exact failsOnly_map _ (isPeaceful_queryOne _ _)
  | updateCloud name settings =>
    exact failsOnly_map _ (Clouds.overwrite_isPeaceful _ settings)
  | deleteCloud name => exact failsOnly_map _ (isPeaceful_deleteFound _ _)
  | reconcileCloud snapshot => exact failsOnly_map _ (Clouds.reconcile_isPeaceful snapshot)
  | assignCloudGrant cloud identity access =>
    exact failsOnly_map _ (Grants.assign_found_isPeaceful (isPeaceful_queryOne _ _) _ _)
  | getRegion key => exact failsOnly_map _ (isPeaceful_queryOne _ _)
  | updateRegion key settings =>
    exact failsOnly_map _ (Regions.overwrite_isPeaceful key settings)
  | deleteRegion key => exact failsOnly_map _ (isPeaceful_deleteFound _ _)
  | findRegion provider region => exact failsOnly_map _ (isPeaceful_queryOne _ _)
  | assignPriority region controller priority =>
    exact failsOnly_map _ (Links.assign_isPeaceful region controller priority)
  | removePriority region controller =>
    exact failsOnly_map _ (Links.remove_isPeaceful region controller)
  | getController key => exact failsOnly_map _ (isPeaceful_queryOne _ _)
  | updateController key settings =>
    exact failsOnly_map _ (Controllers.overwrite_isPeaceful key settings)
  | deleteController key =>
    exact failsOnly_map _ (isPeaceful_deleteNumbered (isPeaceful_queryOne _ _))
  | getModel key => exact failsOnly_map _ (isPeaceful_queryOne _ _)
  | deleteModel key =>
    exact failsOnly_map _ (isPeaceful_deleteNumbered (isPeaceful_queryOne _ _))
  | modelsWithUuids uuids => exact failsOnly_map _ (failsOnly_query _ _)
  | modelsUsingCredential credential => exact failsOnly_map _ (failsOnly_query _ _)
  | assignModelGrant key identity access =>
    exact failsOnly_map _ (Grants.assign_found_isPeaceful (isPeaceful_queryOne _ _) _ _)
  | recordConnection key identity time =>
    exact failsOnly_map _ (Models.recordConnection_isPeaceful _ _ _)
  | getOrCreateIdentity name => exact failsOnly_map _ (Identities.getOrCreate_isPeaceful _)
  | getIdentity name => exact failsOnly_map _ (isPeaceful_queryOne _ _)
  | updateIdentity name settings =>
    exact failsOnly_map _ (Identities.overwrite_isPeaceful _ settings)
  | deleteIdentity name => exact failsOnly_map _ (isPeaceful_deleteFound _ _)
  | cloudsOfIdentity name => exact failsOnly_map _ (failsOnly_query _ _)
  | modelsOfIdentity name => exact failsOnly_map _ (failsOnly_query _ _)
  | credentialsOfIdentity name cloud => exact failsOnly_map _ (failsOnly_query _ _)
  | getCredential key => exact failsOnly_map _ (isPeaceful_queryOne _ _)
  | updateCredential key settings =>
    exact failsOnly_map _ (Credentials.overwrite_isPeaceful _ settings)
  | deleteCredential key => exact failsOnly_map _ (isPeaceful_deleteFound _ _)
  | reconcileCredential snapshot =>
    exact failsOnly_map _ (Credentials.reconcile_isPeaceful _ _)
  | assignCredentialGrant key identity access =>
    exact failsOnly_map _ (Grants.assign_found_isPeaceful (isPeaceful_queryOne _ _) _ _)

end Operation

/-! ## Inserts that are refused -/

namespace Script

variable {r : Relation} {env : Environment} {before after : Progress}
  {name detail : Option String} {subject : Option Subject}

theorem clash_of_insert {e : Entry r}
    (h : insert e env before = .error (.failed (.duplicate name detail) subject) after) :
    subject = none ∧
      Clash e ((before.database.contents.get r).map Row.toEntry) name detail := by
  rcases of_insert_eq_error h with hblameless | ⟨kept, failure, hkept, hrefusal, hstop⟩
  · cases hblameless.failure_eq
  · cases hstop
    exact ⟨rfl, clash_of_refusal? (fun u hu => u.values_of_stored? hu hkept) hrefusal⟩

theorem IsPeaceful.ne_error {α : Type} {body : Script α} (h : IsPeaceful env body)
    (hsound : before.database.Sound) :
    body env before ≠ .error (.failed (.duplicate name detail) subject) after :=
  FailsOnly.ne_error hsound nofun nofun h

/-- What comes before in peace is not what stops. -/
theorem of_peaceful_bind {α β : Type} {body : Script α} {next : α → Script β}
    (hbody : IsPeaceful env body) (hsound : before.database.Sound)
    (h : (body >>= next) env before = .error (.failed (.duplicate name detail) subject) after) :
    ∃ a middle, body env before = .ok a middle ∧ middle.database.Sound ∧
      next a env middle = .error (.failed (.duplicate name detail) subject) after :=
  of_failsOnly_bind hsound nofun nofun hbody h

/-- Nor is what comes after an insert in peace. -/
theorem clash_of_insert_bind {β : Type} {e : Entry r} {next : Row r → Script β}
    (hsound : before.database.Sound) (hnext : ∀ row, IsPeaceful env (next row))
    (h : (insert e >>= next) env before =
      .error (.failed (.duplicate name detail) subject) after) :
    subject = none ∧
      Clash e ((before.database.contents.get r).map Row.toEntry) name detail := by
  rcases of_bind_eq_error h with hinsert | ⟨row, middle, hinsert, hstop⟩
  · exact clash_of_insert hinsert
  · have hmiddle : middle.database.Sound :=
      sound_of_ok (within_insert _ fun _ _ => trivial) hinsert hsound
    exact absurd hstop ((hnext row).ne_error hmiddle)

/-- A region that is inserted is what the stop is about. -/
theorem clash_of_insertUnder (hsound : before.database.Sound) {e : Entry .region}
    (h : Regions.insertUnder e env before =
      .error (.failed (.duplicate name detail) subject) after) :
    subject = some (.ofRegion e.origin) ∧
      Clash e ((before.database.contents.get .region).map Row.toEntry) name detail := by
  obtain ⟨_, middle, hreferred, -, hrest⟩ :=
    of_peaceful_bind (Clouds.referredId_isPeaceful _) hsound h
  obtain ⟨_, -, -, rfl⟩ := of_queryOne_eq_ok (of_about_eq_ok hreferred)
  rcases of_bind_eq_error hrest with hstop | ⟨_, _, -, hdone⟩
  · obtain ⟨inner, hinsert, heq⟩ := of_about_eq_error hstop
    cases inner with
    | interrupted why => cases heq
    | failed failure label =>
      cases label <;> cases heq
      · exact ⟨rfl, (clash_of_insert hinsert).2⟩
      · cases (clash_of_insert hinsert).1
  · cases hdone

/-- Of regions that are inserted one after another, one clashes with what was stored or with one of
those before it. -/
theorem clash_of_regions (hsound : before.database.Sound) {cloud : String}
    {drafts : List Region.Draft}
    (h : each (fun draft => Regions.insertUnder (draft.entry cloud)) drafts env before =
      .error (.failed (.duplicate name detail) subject) after) :
    ∃ first draft rest, drafts = first ++ draft :: rest ∧
      subject = some (.ofRegion ⟨cloud, draft.name⟩) ∧
      Clash (draft.entry cloud) ((before.database.contents.get .region).map Row.toEntry ++
        first.map fun earlier => earlier.entry cloud) name detail := by
  obtain ⟨first, draft, rest, ids, middle, hsplit, hdone, hstop⟩ := of_each_eq_error h
  have hwithin : Within env (fun _ => True)
      (each (fun draft => Regions.insertUnder (draft.entry cloud)) first) :=
    within_each fun _ _ => Regions.insertUnder_within fun _ _ => trivial
  obtain ⟨hsubject, hclash⟩ :=
    clash_of_insertUnder ((evolution_of_ok hwithin hdone).sound hsound) hstop
  refine ⟨first, draft, rest, hsplit, hsubject, hclash.of_values fun other hother => ?_⟩
  -- The rows beside which the region stands are those from before and those of earlier regions.
  obtain ⟨rows, hstored, hall⟩ := Regions.appends_of_each hdone
  obtain ⟨row, hrow, rfl⟩ := List.mem_map.1 hother
  have hrow : row ∈ before.database.contents.region ++ rows := hall ▸ hrow
  rcases List.mem_append.1 hrow with hold | hnew
  · exact ⟨row.toEntry, List.mem_append_left _ (List.mem_map_of_mem hold), fun _ _ => rfl⟩
  · have hmem : some row.toEntry ∈ rows.map fun row => some row.toEntry :=
      List.mem_map_of_mem hnew
    rw [← hstored] at hmem
    obtain ⟨earlier, hearlier, hkept⟩ := List.mem_map.1 hmem
    exact ⟨earlier.entry cloud, List.mem_append_right _ (List.mem_map_of_mem hearlier),
      fun u hu => u.values_of_stored? hu hkept⟩

/-- A model that is given other settings clashes with another model. -/
theorem clash_of_updateModel (hdistinct : before.database.contents.Distinct)
    {row : Row .model} (hrow : row ∈ before.database.contents.get .model)
    {settings : Model.Settings}
    (h : update (row.id, settings) (fun p (row : Row .model) => row.id = p.1) (fun p _ => p.2) env
      before = .error (.failed (.duplicate name detail) subject) after) :
    subject = none ∧ Clash (⟨row.origin, settings⟩ : Entry .model)
      (((before.database.contents.get .model).filter fun other => other.id != row.id).map
        Row.toEntry) name detail := by
  rcases of_update_eq_error h with hblameless | ⟨kept, failure, hkept, hupdate, hstop⟩
  · cases hblameless.failure_eq
  cases hstop
  obtain ⟨hid, hsettings⟩ := Storable.stored?_pair_eq_some.1 hkept
  have hid : row.id = kept.1 := Option.some.inj hid
  unfold Contents.update at hupdate
  split at hupdate
  next => cases hupdate
  next found hfind =>
    have hfound : found.id = kept.1 := by simpa using List.find?_some hfind
    obtain rfl := hdistinct.eq (List.mem_of_find?_eq_some hfind) hrow (hfound.trans hid.symm)
    dsimp only at hupdate
    split at hupdate
    next hrefusal =>
      cases hupdate
      refine ⟨rfl, clash_of_refusal? (fun u hu => ?_) hrefusal⟩
      have huuid : kept.2.uuid = settings.uuid := Storable.uuid_of_stored? hsettings
      simp only [uniquenesses, List.mem_cons, List.not_mem_nil, or_false] at hu
      rcases hu with rfl | rfl
      · simp only [huuid]
      · rfl
    next => cases hupdate

end Script

/-! ## What operations offer -/

/-- Where entities of a kind are stored. -/
def EntityKind.relation? : EntityKind → Option Relation
  | .cloud => some .cloud
  | .region => some .region
  | .link => some .link
  | .controller => some .controller
  | .model => some .model
  | .identity => some .identity
  | .credential => some .credential
  | .schema => none

namespace Operation

/-- Whether an operation offers an entry that has to stand beside others: one that it adds, beside
the rows that are stored; a region of a cloud that it adds, beside the regions before it too; or a
model with other settings, beside the other models. -/
inductive Offers (access : Access) (c : Contents) :
    Operation → {r : Relation} → Entry r → List (Entry r) → Prop
  | added {op : Operation} {r : Relation} {e : Entry r} (h : op.Adds access e) :
    Offers access c op e ((c.get r).map Row.toEntry)
  | region {draft : Cloud.Draft} {first rest : List Region.Draft} {region : Region.Draft}
    (h : draft.regions = first ++ region :: rest) :
    Offers access c (.addCloud draft) (region.entry draft.name)
      ((c.get .region).map Row.toEntry ++ first.map fun earlier => earlier.entry draft.name)
  | revised {key : ModelKey} {settings : Model.Settings} {row : Row .model}
    (h : c.modelRow? key.sanitise = some row) :
    Offers access c (.updateModel key settings) (⟨row.origin, settings⟩ : Entry .model)
      (((c.get .model).filter fun other => other.id != row.id).map Row.toEntry)

variable {env : Environment} {before after : Progress} {name detail : Option String}
  {subject : Option Subject}

theorem clash_of_addRegion (hsound : before.database.Sound) {op : Operation}
    {entry : Entry .region} (hadds : op.Adds env.defaultAccess entry)
    (hrun : (Reply.ofRegion <$> Regions.add entry) env before =
      .error (.failed (.duplicate name detail) subject) after) :
    ∃ r, (subject.getD op.plan.subject).kind.relation? = some r ∧
      ∃ (e : Entry r) (others : List (Entry r)),
        op.Offers env.defaultAccess before.database.contents e others ∧
          Clash e others name detail := by
  obtain ⟨last, hbody, -⟩ := of_transaction_eq_error (of_map_eq_error hrun)
  rcases of_bind_eq_error hbody with hinsert | ⟨_, start, hinsert, hread⟩
  · obtain ⟨rfl, hclash⟩ := clash_of_insertUnder hsound hinsert
    exact ⟨.region, rfl, _, _, .added hadds, hclash⟩
  · have hstart : start.database.Sound :=
      sound_of_ok (Regions.insertUnder_within fun _ _ => trivial) hinsert hsound
    exact absurd hread (IsPeaceful.ne_error (failsOnly_decoded _ (isPeaceful_queryOne _ _)) hstart)

theorem clash_of_addCloud (hsound : before.database.Sound) {draft : Cloud.Draft}
    (hrun : Clouds.add draft env before =
      .error (.failed (.duplicate name detail) subject) after) :
    subject = none ∧
        Clash draft.entry ((before.database.contents.get .cloud).map Row.toEntry) name detail ∨
      ∃ first region rest, draft.regions = first ++ region :: rest ∧
        subject = some (.ofRegion ⟨draft.name, region.name⟩) ∧
        Clash (region.entry draft.name)
          ((before.database.contents.get .region).map Row.toEntry ++
            first.map fun earlier => earlier.entry draft.name) name detail := by
  obtain ⟨last, hbody, -⟩ := of_transaction_eq_error hrun
  rcases of_bind_eq_error hbody with hcloud | ⟨row, middle, hcloud, hrest⟩
  · exact .inl (clash_of_insert hcloud)
  have hmiddle : middle.database.Sound :=
    sound_of_ok (within_insert _ fun _ _ => trivial) hcloud hsound
  have hrows : middle.database.contents.get .region = before.database.contents.get .region :=
    (evolution_of_ok (within_insert _ (allowsInsert_spares (by decide))) hcloud).get_eq
  rcases of_bind_eq_error hrest with hregions | ⟨ids, start, hregions, hget⟩
  · rw [← hrows]
    exact .inr (clash_of_regions hmiddle hregions)
  · have hstart : start.database.Sound := sound_of_ok
      (within_each fun _ _ => Regions.insertUnder_within fun _ _ => trivial) hregions hmiddle
    exact absurd hget (IsPeaceful.ne_error (failsOnly_decoded _ (isPeaceful_queryOne _ _)) hstart)

/-- An operation that stops for a duplicate has offered an entry that clashes, and the stop is about
an entity of its kind. -/
theorem clash_of_duplicate {op : Operation} (hsound : before.database.Sound)
    (hrun : op.plan.script env before =
      .error (.failed (.duplicate name detail) subject) after) :
    op.canConflict = true ∧ ∃ r, (subject.getD op.plan.subject).kind.relation? = some r ∧
      ∃ (e : Entry r) (others : List (Entry r)),
        op.Offers env.defaultAccess before.database.contents e others ∧
          Clash e others name detail := by
  cases hconflict : op.canConflict with
  | false =>
    exact absurd hrun ((isPeaceful hconflict env).ne_error hsound)
  | true =>
    refine ⟨rfl, ?_⟩
    cases op with
    | addCloud draft =>
      rcases clash_of_addCloud hsound (of_map_eq_error hrun) with
        ⟨rfl, hclash⟩ | ⟨first, region, rest, hsplit, rfl, hclash⟩
      · exact ⟨.cloud, rfl, _, _, .added ⟨draft, rfl, rfl⟩, hclash⟩
      · exact ⟨.region, rfl, _, _, .region hsplit, hclash⟩
    | addRegionToCloud entry => exact clash_of_addRegion hsound (.inr rfl) hrun
    | addRegion entry => exact clash_of_addRegion hsound (.inl rfl) hrun
    | addController draft =>
      obtain ⟨last, hbody, -⟩ := of_transaction_eq_error (of_map_eq_error hrun)
      obtain ⟨_, middle, hhost, hmiddle, hrest⟩ :=
        of_peaceful_bind (Regions.referredId_isPeaceful _) hsound hbody
      obtain ⟨_, -, -, rfl⟩ := of_queryOne_eq_ok (of_about_eq_ok hhost)
      obtain ⟨rfl, hclash⟩ := clash_of_insert_bind hmiddle (fun row =>
        failsOnly_bind (failsOnly_each (fun p =>
          failsOnly_bind (Regions.referredId_isPeaceful _) fun _ =>
            Links.merge_failsOnly _ _ _) _) fun _ =>
              failsOnly_decoded _ (isPeaceful_queryOne _ _)) hrest
      exact ⟨.controller, rfl, _, _, .added ⟨draft, rfl, rfl⟩, hclash⟩
    | addModel entry =>
      obtain ⟨last, hbody, -⟩ := of_transaction_eq_error (of_map_eq_error hrun)
      obtain ⟨_, middle, howner, hmiddle, hrest⟩ :=
        of_peaceful_bind (Identities.ensure_failsOnly _) hsound hbody
      obtain ⟨rfl, hclash⟩ :=
        clash_of_insert_bind hmiddle (fun _ => isPeaceful_queryOne _ _) hrest
      have hrows : middle.database.contents.get .model = before.database.contents.get .model :=
        (evolution_of_ok (Identities.ensure_spares (by decide) _) howner).get_eq
      rw [hrows] at hclash
      exact ⟨.model, rfl, _, _, .added ⟨entry, rfl, rfl⟩, hclash⟩
    | updateModel key settings =>
      obtain ⟨last, hbody, -⟩ := of_transaction_eq_error (of_map_eq_error hrun)
      obtain ⟨_, middle, hid, hmiddle, hrest⟩ :=
        of_peaceful_bind (isPeaceful_queryOne _ _) hsound hbody
      obtain ⟨row, hrow, rfl, rfl⟩ := of_number_eq_ok Storable.isExact_modelKey hid
      have hmem : row ∈ middle.database.contents.get .model :=
        (Key.names_of_row? ((Key.row?_model key _).trans hrow)).1
      have hkind : (Subject.ofModel key.sanitise).kind = .model := by cases key <;> rfl
      rcases of_bind_eq_error hrest with hupdate | ⟨_, start, hupdate, hread⟩
      · obtain ⟨rfl, hclash⟩ := clash_of_updateModel hsound.distinct hmem hupdate
        exact ⟨.model, congrArg EntityKind.relation? hkind, _, _, .revised hrow, hclash⟩
      · have hstart : start.database.Sound :=
          sound_of_ok (within_update _ _ _ fun _ _ => trivial) hupdate hsound
        exact absurd hread (IsPeaceful.ne_error (isPeaceful_queryOne _ _) hstart)
    | addIdentity draft =>
      have hbody := (bind_ok (read_ok env before) _).symm.trans (of_map_eq_error hrun)
      obtain ⟨rfl, hclash⟩ := clash_of_insert_bind hsound (fun _ => failsOnly_pure _) hbody
      exact ⟨.identity, rfl, _, _, .added ⟨draft, rfl, rfl⟩, hclash⟩
    | addCredential entry =>
      obtain ⟨last, hbody, -⟩ := of_transaction_eq_error (of_map_eq_error hrun)
      obtain ⟨_, middle, hprepare, hmiddle, hrest⟩ :=
        of_peaceful_bind (Credentials.prepare_isPeaceful _) hsound hbody
      obtain ⟨rfl, hclash⟩ :=
        clash_of_insert_bind hmiddle (fun _ => isPeaceful_queryOne _ _) hrest
      have hrows : middle.database.contents.get .credential =
          before.database.contents.get .credential :=
        (evolution_of_ok (Credentials.prepare_within
          (allowsInsert_spares (by decide))) hprepare).get_eq
      rw [hrows] at hclash
      exact ⟨.credential, rfl, _, _, .added ⟨entry, rfl, rfl⟩, hclash⟩
    | _ => cases hconflict

end Operation

/-! ## Answers -/

namespace Deployment

/-- An operation that answers that something exists already is an add or gives a model other
settings.  It has offered an entry of that kind, the constraint is one of its relation, the key is
what the entry has in its columns, and among the entries beside which it would stand is one that has
the same.  Iterations and migrations never answer so. -/
theorem Reachable.alreadyExists_truthful {dep : Deployment} (hreachable : dep.Reachable) :
    (∀ now course op operation kind key constraint,
      (dep.perform now course op).1 =
        .error ⟨operation, .alreadyExists kind key constraint⟩ →
      op.canConflict = true ∧ ∃ r, kind.relation? = some r ∧
        ∃ (e : Entry r) (others : List (Entry r)),
          op.Offers dep.store.settings.defaultAccess dep.server.database.contents e others ∧
          ∃ u ∈ uniquenesses r, ∃ values, constraint = some u.name ∧ u.values e = some values ∧
            key = String.intercalate ", " (values.map Value.render) ∧
            ∃ other ∈ others, u.values other = some values) ∧
    (∀ course it visitor e, (dep.iterate course it visitor).2.1 = .failed e →
      e.code ≠ "already_exists") ∧
    ∀ course reset e, (dep.migrate course reset).1 = .error e → e.code ≠ "already_exists" := by
  have hcode : ∀ {e : StoreError}, e.cause.entity? = none → e.code ≠ "already_exists" := by
    rintro ⟨operation, cause⟩ hentity
    cases cause with
    | notFound kind key => cases hentity
    | alreadyExists kind key constraint => cases hentity
    | _ => simp [StoreError.code]
  refine ⟨?_, fun _ _ _ _ h => hcode (entity?_of_iterate h),
    fun _ _ _ h => hcode (entity?_of_migrate h)⟩
  intro now course op operation kind key constraint hanswer
  rcases Store.of_perform_eq_error hanswer (Option.some_ne_none _) with
    ⟨-, hnotFound⟩ | ⟨-, stop, after, hrun, herror⟩
  · cases hnotFound
  cases stop with
  | interrupted why => cases herror
  | failed failure subject =>
    cases failure with
    | noRow => cases herror
    | other => cases herror
    | duplicate name detail =>
      obtain ⟨hconflict, r, hkind, e, others, hoffers, u, hu, values, rfl, hvalues, rfl, hother⟩ :=
        Operation.clash_of_duplicate (hreachable.sound) hrun
      cases herror
      refine ⟨hconflict, r, hkind, e, others, hoffers, u, hu, values, rfl, hvalues, ?_, hother⟩
      rw [Option.bind_some,
        Failure.conflictingValue?_duplicateDetail (Uniqueness.eq_not_mem_columns hu)]
      rfl

/-- A cloud with a region twice, under a name with all the marks of the sentence. -/
def markedRegions : Cloud.Draft :=
  let region : Region.Draft := ⟨"a)=(b, c)", .none, .empty⟩
  ⟨"aws", ⟨"ec2", "", [], .none, [], .empty⟩, [region, region]⟩

/-- The key in the answer is that of the region as it was asked for. -/
theorem Reachable.alreadyExists_truthful_marks :
    let dep := (initial .default).run [.migrate .undisturbed false]
    (dep.perform ⟨0, 0⟩ .undisturbed (.addCloud markedRegions)).1 =
      .error ⟨"clouds.add", .alreadyExists .region "aws, a)=(b, c)"
        (some "cloud_regions_cloud_name_name_key")⟩ ∧
    ∃ (e : Entry .region) (others : List (Entry .region)),
      (Operation.addCloud markedRegions).Offers dep.store.settings.defaultAccess
        dep.server.database.contents e others ∧
      ∃ u ∈ uniquenesses .region, ∃ values, u.values e = some values ∧
        "aws, a)=(b, c)" = String.intercalate ", " (values.map Value.render) ∧
        ∃ other ∈ others, u.values other = some values := by
  intro dep
  have hanswer : (dep.perform ⟨0, 0⟩ .undisturbed (.addCloud markedRegions)).1 =
      .error ⟨"clouds.add", .alreadyExists .region "aws, a)=(b, c)"
        (some "cloud_regions_cloud_name_name_key")⟩ := rfl
  have hreachable : dep.Reachable := ⟨.default, _, rfl⟩
  obtain ⟨-, r, hkind, e, others, hoffers, u, hu, values, -, hvalues, hkey, hother⟩ :=
    (alreadyExists_truthful hreachable).1 _ _ _ _ _ _ _ hanswer
  obtain rfl : .region = r := Option.some.inj hkind
  exact ⟨hanswer, e, others, hoffers, u, hu, values, hvalues, hkey, hother⟩

end Deployment
end ControlPlane
