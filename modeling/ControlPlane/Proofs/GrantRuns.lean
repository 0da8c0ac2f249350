/-
What operations do to the map of grants.

`Operation.grantEvents` says of each operation which events it is, where it succeeds: the operations
that assign access and those that reconcile with a snapshot assign levels, in order; a connection is
recorded; and an object or an identity is deleted.  All others are none.  A run that ends with a
value makes of the map what its events make of it (`Operation.grantMap_of_ok`), whatever else it
wrote on the way.
-/
import ControlPlane.Proofs.GrantMap
import ControlPlane.Proofs.Repetition

namespace ControlPlane

open Script
open IdentityName (sanitise)

variable {env : Environment} {before after : Progress}

/-! ## Scripts -/

/-- Scripts that leave grants alone leave their map alone. -/
theorem Script.grantMap_of_spares {α : Type} {body : Script α} {a : α}
    (hspares : ∀ on, Within env (Statement.Spares (.grant on)) body)
    (h : body env before = .ok a after) :
    after.database.contents.grantMap = before.database.contents.grantMap :=
  Contents.grantMap_congr fun on => (evolution_of_ok (hspares on) h).get_eq

theorem Identities.ensure_spares {q : Relation} (hq : Relation.identity ≠ q) (name : String) :
    Within env (Statement.Spares q) (ensure name) :=
  ensure_within (allowsInsert_spares hq)

namespace Grants

variable {on : Grantable} {object : Int}

/-- A merge assigns a level. -/
theorem grantMap_of_merge (hsound : before.database.Sound) {identity : String} {access : Access}
    {outcome : Merge} (h : merge on object identity access env before = .ok outcome after) :
    after.database.contents.grantMap = before.database.contents.grantMap.after
      (.assigned ⟨on, object, identity⟩ (some access)) := by
  have hnul := isNulFree_of_merge_eq_ok h
  obtain ⟨_, middle, hensure, hmerge⟩ := of_bind_eq_ok h
  have hmiddle : middle.database.Sound :=
    sound_of_ok (Identities.ensure_within fun _ _ => trivial) hensure hsound
  rw [← grantMap_of_spares (fun on =>
    Identities.ensure_spares (Relation.grant_ne_identity on).symm _) hensure]
  let c := middle.database.contents
  let entry : Entry (.grant on) := ⟨⟨object, identity⟩, ⟨access, none⟩⟩
  have hkeyed := Relation.grant_isKeyed on
  obtain ⟨kept, hkept, hcases⟩ := of_insertOr_eq_ok hmerge
  obtain rfl : entry = kept :=
    Option.some.inj ((Storable.stored?_grant hnul access).symm.trans hkept)
  rcases hcases with ⟨hrefusal, -, rfl⟩ | ⟨name, detail, hrefusal, hconflict⟩
  · have hnew : ∀ old ∈ c.get (.grant on), old.origin ≠ entry.origin := by
      intro old hold horigin
      obtain ⟨name, detail, hrefused⟩ := Contents.refusal?_of_mem (c := c) hkeyed hold horigin
      rw [hrefusal] at hrefused
      cases hrefused
    refine (Contents.grantMap_append hnew).trans ?_
    rw [GrantMap.after, Contents.grantMap_eq_none.2 hnew]
    rfl
  · obtain ⟨row, hrow, horigin⟩ := Contents.exists_origin_of_refusal? hkeyed hrefusal
    have hforce : c.grantMap ⟨on, entry.origin⟩ = some row.settings := by
      rw [← horigin]
      exact Contents.grantMap_of_mem hmiddle.unique hrow
    obtain ⟨written, _, hupdate, hlast⟩ := of_bind_eq_ok hconflict
    obtain ⟨params, contents, hparams, hupdate, rfl⟩ := of_update_eq_ok hupdate
    obtain rfl := Option.some.inj ((stored?_level hnul object access).symm.trans hparams)
    have hcontents : after.database.contents = contents := by
      cases written <;> cases hlast <;> rfl
    rw [hcontents, GrantMap.after, hforce]
    rcases Contents.grantMap_of_update hmiddle.unique hmiddle.closed hmiddle.distinct hupdate with
      ⟨-, rfl, hnone⟩ | ⟨found, hfound, hwhich, -, hmap⟩
    · -- The level is in force, so nothing is written.
      have hlevel : row.settings.access = access := by
        have hrow' := hnone row hrow
        simpa [horigin, entry] using hrow'
      rw [← hlevel]
      exact (Function.update_eq_self_iff.2 hforce.symm).symm
    · rw [Bool.and_eq_true_iff, decide_eq_true_iff] at hwhich
      have hsame : found = row :=
        hmiddle.unique.eq_of_origin hkeyed hfound hrow (hwhich.1.trans horigin.symm)
      rw [hmap, hwhich.1, hsame]
      rfl

theorem mergeReports_spares {q : Relation} (hidentity : .identity ≠ q) (hgrant : .grant on ≠ q)
    {reports : List GrantReport} :
    Within env (Statement.Spares q) (mergeReports on object reports) :=
  mergeReports_within (fun _ _ => allowsInsert_spares hidentity)
    (fun _ _ => allowsInsert_spares hgrant) (allowsUpdates_spares hgrant)

/-- The merge of reports assigns the levels that they tell, in their order. -/
theorem grantMap_of_mergeReports (hsound : before.database.Sound) {reports : List GrantReport}
    {outcomes : List Merge}
    (h : mergeReports on object reports env before = .ok outcomes after) :
    after.database.contents.grantMap =
      (reports.map fun report => GrantEvent.assigned ⟨on, object, report.identity⟩
        (some report.access)).foldl GrantMap.after before.database.contents.grantMap := by
  induction reports generalizing before outcomes with
  | nil =>
    cases h
    rfl
  | cons report rest ih =>
    obtain ⟨outcome, middle, hmerge, h⟩ := of_bind_eq_ok h
    obtain ⟨later, done, hrest, h⟩ := of_bind_eq_ok h
    cases h
    have hmiddle : middle.database.Sound := sound_of_ok
      (merge_within (fun _ _ => trivial) (fun _ _ => trivial) fun _ _ => trivial) hmerge hsound
    rw [ih hmiddle hrest, grantMap_of_merge hsound hmerge]
    rfl

/-- Whether access is given or taken away, that is what happens to the map. -/
theorem grantMap_of_assign (hsound : before.database.Sound) {identity : String}
    {access : Option Access} (h : assign on object identity access env before = .ok () after) :
    after.database.contents.grantMap = before.database.contents.grantMap.after
      (.assigned ⟨on, object, identity⟩ access) := by
  cases access with
  | some level =>
    obtain ⟨_, _, hmerge, h⟩ := of_bind_eq_ok h
    cases h
    exact grantMap_of_merge hsound hmerge
  | none =>
    obtain ⟨found, _, hdelete, h⟩ := of_bind_eq_ok h
    cases h
    obtain ⟨params, contents, hparams, hdelete, rfl⟩ := of_delete_eq_ok hdelete
    obtain rfl := Storable.isExact_pair Storable.isExact_int Storable.isExact_text _ _ hparams
    exact Contents.grantMap_of_delete_grant hsound.unique hsound.closed hsound.distinct hdelete

end Grants

/-! ## Operations that leave grants alone -/

/-- Whether an operation writes to no grants and deletes nothing on which grants depend. -/
def Operation.LeavesGrants (op : Operation) : Prop :=
  op.grantsOn? = none ∧ ∀ r ∈ op.deletesIn?, r ∈ [Relation.region, .link, .controller]

section

variable {op : Operation} {access : Access} {now : Timestamp} {db later : Database}

theorem Database.Write.grantMap_eq (hleaves : op.LeavesGrants) {statement : Statement}
    (hwrites : op.Writes access statement) (hsound : db.Sound)
    (hwrite : Write now statement db later) :
    later.contents.grantMap = db.contents.grantMap := by
  obtain ⟨hgrants, hdeletes⟩ := hleaves
  cases statement with
  | @insert r e =>
    refine Contents.grantMap_congr fun on => hwrite.get_eq ?_
    rintro rfl
    have hfurnishes : op.grantsOn? = some on := hwrites.2.2
    rw [hgrants] at hfurnishes
    cases hfurnishes
  | @update r which change =>
    refine Contents.grantMap_congr fun on => hwrite.get_eq ?_
    rintro rfl
    have hchanges : op.grantsOn? = some on := hwrites
    rw [hgrants] at hchanges
    cases hchanges
  | @delete r which =>
    have hr : r ∈ [Relation.region, .link, .controller] :=
      hdeletes r (Operation.deletesIn?_of_removes hwrites)
    cases hwrite with
    | delete hdelete =>
      refine Contents.grantMap_of_delete_elsewhere hsound.unique hsound.closed hsound.distinct
        hdelete ?_ ?_ ?_
      · rintro on rfl
        simp at hr
      · rintro on rfl
        cases on <;> simp at hr
      · rintro rfl
        simp at hr

theorem Database.Evolution.grantMap_eq (hleaves : op.LeavesGrants)
    (h : Evolution now (op.Writes access) db later) (hsound : db.Sound) :
    later.contents.grantMap = db.contents.grantMap := by
  induction h with
  | refl => rfl
  | write hwrites hwrite => exact hwrite.grantMap_eq hleaves hwrites hsound
  | trans first _ ihfirst ihsecond =>
    exact (ihsecond (first.sound hsound)).trans (ihfirst hsound)
  | undo => rfl

end

/-! ## Operations -/

/-- An object on which grants are given, by its key. -/
inductive GrantObject
  | cloud (name : String)
  | model (key : ModelKey)
  | credential (key : CredentialKey)

namespace GrantObject

@[reducible] def on : GrantObject → Grantable
  | cloud _ => .cloud
  | model _ => .model
  | credential _ => .credential

def row? : (object : GrantObject) → Contents → Option (Row object.on.relation)
  | cloud name, c => c.cloudRow? name
  | model key, c => c.modelRow? key.sanitise
  | credential key, c => c.credentialRow? key.sanitise

/-- Its number, which is looked up. -/
def number : GrantObject → Script Int
  | cloud name => Clouds.idOf name
  | model key => Models.idOf key.sanitise
  | credential key => Credentials.idOf key.sanitise

/-- The operation that assigns access to it. -/
def assign (identity : String) (access : Option Access) : GrantObject → Operation
  | cloud name => .assignCloudGrant name identity access
  | model key => .assignModelGrant key identity access
  | credential key => .assignCredentialGrant key identity access

/-- What happens where identities are assigned access to it, one after another. -/
def assigned (object : GrantObject) (c : Contents) (grants : List (String × Option Access)) :
    List GrantEvent :=
  match object.row? c with
  | some row => grants.map fun p => .assigned ⟨object.on, row.id, p.1⟩ p.2
  | none => []

/-- What happens where it is deleted. -/
def deleted (object : GrantObject) (c : Contents) : List GrantEvent :=
  match object.row? c with
  | some row => [.objectDeleted object.on row.id]
  | none => []

end GrantObject

namespace GrantObject

theorem script_assign (object : GrantObject) (identity : String) (access : Option Access) :
    (object.assign identity access).plan.script = Reply.ofUnit <$> transaction
      (object.number >>= fun id => Grants.assign object.on id (sanitise identity) access) := by
  cases object <;> rfl

theorem of_number_eq_ok {object : GrantObject} {id : Int}
    (h : object.number env before = .ok id after) :
    ∃ row, object.row? before.database.contents = some row ∧ row.id = id ∧ after = before := by
  cases object with
  | cloud name => exact Script.of_number_eq_ok Storable.isExact_text h
  | model key => exact Script.of_number_eq_ok Storable.isExact_modelKey h
  | credential key => exact Script.of_number_eq_ok Storable.isExact_credentialKey h

/-- The key under which it is stored. -/
def key : GrantObject → Key
  | cloud name => .cloud name
  | model key => .model key
  | credential key => .credential key

theorem subject_assign (object : GrantObject) (identity : String) (access : Option Access) :
    (object.assign identity access).plan.subject = object.key.subject := by
  cases object <;> rfl

theorem mem_of_row? {object : GrantObject} {c : Contents} {row : Row object.on.relation}
    (h : object.row? c = some row) : row ∈ c.get object.on.relation := by
  cases object with
  | cloud name => exact List.mem_of_find?_eq_some h
  | model key => cases key <;> exact List.mem_of_find?_eq_some h
  | credential key => exact List.mem_of_find?_eq_some h

/-- Where nothing happens to the relation of an object, its row stays. -/
theorem row?_congr (object : GrantObject) {c c' : Contents}
    (h : c.get object.on.relation = c'.get object.on.relation) :
    object.row? c = object.row? c' := by
  cases object with
  | cloud name => simp only [row?, Contents.cloudRow?, h]
  | model key => cases key <;> simp only [row?, ModelKey.sanitise, Contents.modelRow?, h]
  | credential key => simp only [row?, Contents.credentialRow?, h]

section

variable (hcalm : env.disturbance = none)

include hcalm

theorem number_ok (object : GrantObject) (hstorable : object.key.IsStorable)
    {row : Row object.on.relation} (hrow : object.row? before.database.contents = some row) :
    object.number env before = .ok row.id before := by
  cases object with
  | cloud name =>
    exact queryOne_ok hcalm hstorable (congrArg (Option.map fun row : Row .cloud => row.id) hrow)
  | model key =>
    exact queryOne_ok hcalm hstorable (congrArg (Option.map fun row : Row .model => row.id) hrow)
  | credential key =>
    exact queryOne_ok hcalm hstorable
      (congrArg (Option.map fun row : Row .credential => row.id) hrow)

theorem number_error (object : GrantObject) (hstorable : object.key.IsStorable)
    (hnone : object.row? before.database.contents = none) :
    object.number env before = .error (.failed .noRow none) before := by
  cases object with
  | cloud name =>
    exact queryOne_of_none hcalm hstorable
      (congrArg (Option.map fun row : Row .cloud => row.id) hnone)
  | model key =>
    exact queryOne_of_none hcalm hstorable
      (congrArg (Option.map fun row : Row .model => row.id) hnone)
  | credential key =>
    exact queryOne_of_none hcalm hstorable
      (congrArg (Option.map fun row : Row .credential => row.id) hnone)

end

/-- An object to which access is assigned is there, and what is assigned happens to the map. -/
theorem grantMap_of_assign (object : GrantObject) (hsound : before.database.Sound)
    {identity : String} {access : Option Access} {reply : Reply}
    (h : (object.assign identity access).plan.script env before = .ok reply after) :
    after.database.contents.grantMap =
      (object.assigned before.database.contents [(sanitise identity, access)]).foldl
        GrantMap.after before.database.contents.grantMap := by
  rw [script_assign] at h
  obtain ⟨_, hrun, -⟩ := of_map_eq_ok h
  obtain ⟨id, middle, hid, hassign⟩ := of_bind_eq_ok (of_transaction_eq_ok hrun)
  obtain ⟨row, hrow, rfl, rfl⟩ := of_number_eq_ok hid
  rw [Grants.grantMap_of_assign hsound hassign, assigned, hrow]
  rfl

/-- An object that is deleted is there, and no other row is meant. -/
theorem of_deletion_eq_ok (object : GrantObject) (hsound : before.database.Sound) {reply : Reply}
    (h : object.key.deletion.plan.script env before = .ok reply after) :
    ∃ root, ∃ which : Row object.on.relation → Bool, ∃ found,
      object.row? before.database.contents = some root ∧
      (∀ row ∈ before.database.contents.get object.on.relation,
        which row = true ↔ row.id = root.id) ∧
      before.database.contents.delete which = .ok (found, after.database.contents) := by
  have hnamed : ∀ {root : Row object.key.relation},
      object.key.row? before.database.contents = some root →
      ∀ row ∈ before.database.contents.get object.key.relation,
        object.key.Names row.toEntry ↔ row.id = root.id := fun hroot row hrow =>
    Key.names_iff hsound.unique hsound.distinct (Key.names_of_row? hroot).1
      (Key.names_of_row? hroot).2 hrow
  cases object with
  | cloud name =>
    obtain ⟨_, hrun, -⟩ := of_map_eq_ok h
    obtain ⟨kept, contents, hkept, hdelete, rfl⟩ := of_found_eq_ok hrun
    obtain rfl := Storable.isExact_text _ _ hkept
    obtain ⟨root, hroot⟩ := Contents.exists_find?_of_delete hdelete
    exact ⟨root, _, true, hroot, fun row hrow => decide_eq_true_iff.trans (hnamed hroot row hrow),
      hdelete⟩
  | model key =>
    -- Models are looked up first, and what is deleted is the row of that number.
    obtain ⟨_, hrun, -⟩ := of_map_eq_ok h
    obtain ⟨id, middle, hid, hrun⟩ := of_bind_eq_ok hrun
    obtain ⟨found, last, hdelete, hlast⟩ := of_bind_eq_ok hrun
    cases hlast
    obtain ⟨kept, contents, hkept, hdelete, rfl⟩ := of_delete_eq_ok hdelete
    obtain ⟨root, hroot, rfl, rfl⟩ := Script.of_number_eq_ok Storable.isExact_modelKey hid
    cases hkept
    exact ⟨root, _, found, hroot, fun row _ => decide_eq_true_iff, hdelete⟩
  | credential key =>
    obtain ⟨_, hrun, -⟩ := of_map_eq_ok h
    obtain ⟨kept, contents, hkept, hdelete, rfl⟩ := of_found_eq_ok hrun
    obtain rfl := Storable.isExact_credentialKey _ _ hkept
    obtain ⟨root, hroot⟩ := Contents.exists_find?_of_delete hdelete
    exact ⟨root, _, true, hroot, fun row hrow => decide_eq_true_iff.trans (hnamed hroot row hrow),
      hdelete⟩

/-- An object that is deleted takes its entries with it. -/
theorem grantMap_of_deletion (object : GrantObject) (hsound : before.database.Sound)
    {reply : Reply} (h : object.key.deletion.plan.script env before = .ok reply after) :
    after.database.contents.grantMap =
      (object.deleted before.database.contents).foldl GrantMap.after
        before.database.contents.grantMap := by
  obtain ⟨root, which, found, hrow, hwhich, hdelete⟩ := of_deletion_eq_ok object hsound h
  have hmap := Contents.grantMap_of_delete_object hsound.unique hsound.closed hsound.distinct
    (mem_of_row? hrow) hwhich hdelete
  rw [hmap, deleted, hrow]
  rfl

/-- What happens to the map where reports on an object are merged that is there. -/
theorem foldl_assigned {object : GrantObject} {c : Contents} {root : Row object.on.relation}
    (hrow : object.row? c = some root) (reports : List GrantReport) (m : GrantMap) :
    (object.assigned c (reports.map fun report => (report.identity, some report.access))).foldl
        GrantMap.after m =
      (reports.map fun report => GrantEvent.assigned ⟨object.on, root.id, report.identity⟩
        (some report.access)).foldl GrantMap.after m := by
  rw [assigned, hrow]
  dsimp only
  rw [List.map_map]
  rfl

end GrantObject

/-- A cloud is reconciled by assigning what the snapshot reports. -/
theorem Clouds.grantMap_of_reconcile (hsound : before.database.Sound) {snapshot : Cloud.Snapshot}
    {merged : Merged Cloud} (h : reconcile snapshot env before = .ok merged after) :
    after.database.contents.grantMap =
      ((GrantObject.cloud snapshot.cloud.name).assigned after.database.contents
        (snapshot.grants.map fun report => (report.identity, some report.access))).foldl
          GrantMap.after before.database.contents.grantMap := by
  obtain ⟨_, _, _, row, start, middle, hcloud, -, hrow, hregions, hgrants, -⟩ :=
    of_reconcile_eq_ok h
  have hmiddle : middle.database.Sound :=
    sound_of_ok (within_each fun _ _ => within_insertNew fun _ _ => trivial) hregions
      (sound_of_ok (within_insertNew fun _ _ => trivial) hcloud hsound)
  have hcloudNe : ∀ on, Relation.cloud ≠ .grant on := nofun
  have hregionNe : ∀ on, Relation.region ≠ .grant on := nofun
  have hsame : middle.database.contents.grantMap = before.database.contents.grantMap :=
    (grantMap_of_spares (fun on => within_each fun _ _ =>
      within_insertNew (allowsInsert_spares (hregionNe on))) hregions).trans
      (grantMap_of_spares (fun on => within_insertNew (allowsInsert_spares (hcloudNe on))) hcloud)
  have hclouds : after.database.contents.get .cloud = start.database.contents.get .cloud :=
    (evolution_of_ok (Grants.mergeReports_spares (by decide) (by decide)) hgrants).get_eq.trans
      (evolution_of_ok (within_each fun _ _ => within_insertNew (allowsInsert_spares (by decide)))
        hregions).get_eq
  have hrow' : (GrantObject.cloud snapshot.cloud.name).row? after.database.contents = some row := by
    rw [GrantObject.row?, Contents.cloudRow?, hclouds]
    exact hrow
  rw [Grants.grantMap_of_mergeReports hmiddle hgrants, hsame]
  exact (GrantObject.foldl_assigned hrow' _ _).symm

/-- A credential is reconciled by assigning what the snapshot reports. -/
theorem Credentials.grantMap_of_reconcile (hsound : before.database.Sound)
    {snapshot : Credential.Snapshot} {merged : Merged Credential}
    (h : reconcile (Credential.sanitiseOwner snapshot.credential) snapshot.grants env before =
      .ok merged after) :
    after.database.contents.grantMap =
      ((GrantObject.credential snapshot.credential.origin).assigned after.database.contents
        (snapshot.grants.map fun report => (report.identity, some report.access))).foldl
          GrantMap.after before.database.contents.grantMap := by
  obtain ⟨_, _, row, _, middle, hprepare, hcredential, -, hrow, hgrants, -⟩ :=
    of_reconcile_eq_ok h
  have hmiddle : middle.database.Sound :=
    sound_of_ok (within_insertNew fun _ _ => trivial) hcredential
      (sound_of_ok (prepare_within fun _ _ => trivial) hprepare hsound)
  have hcredentialNe : ∀ on, Relation.credential ≠ .grant on := nofun
  have hsame : middle.database.contents.grantMap = before.database.contents.grantMap :=
    (grantMap_of_spares (fun on => within_insertNew (allowsInsert_spares (hcredentialNe on)))
      hcredential).trans
      (grantMap_of_spares (fun on =>
        prepare_within (allowsInsert_spares (Relation.grant_ne_identity on).symm)) hprepare)
  have hcredentials :
      after.database.contents.get .credential = middle.database.contents.get .credential :=
    (evolution_of_ok (Grants.mergeReports_spares (by decide) (by decide)) hgrants).get_eq
  have hrow' : (GrantObject.credential snapshot.credential.origin).row? after.database.contents =
      some row := by
    rw [GrantObject.row?, Contents.credentialRow?, hcredentials]
    exact hrow
  rw [Grants.grantMap_of_mergeReports hmiddle hgrants, hsame]
  exact (GrantObject.foldl_assigned hrow' _ _).symm

/-- What happens where a connection to a model is recorded. -/
def GrantObject.connected (c : Contents) (key : ModelKey) (identity : String) (time : Timestamp) :
    List GrantEvent :=
  match (GrantObject.model key).row? c with
  | some row =>
    [.connected ⟨.model, row.id, identity⟩ (Timestamp.ofStoredMicros time.storedMicros)]
  | none => []

/-- Of an instant the database keeps microseconds. -/
theorem Timestamp.eq_of_stored? {time kept : Timestamp} (h : time.stored? = some kept) :
    kept = ofStoredMicros time.storedMicros := by
  simp only [Timestamp.stored?] at h
  split at h
  next => cases h
  next => exact (Option.some.inj h).symm

/-- A connection is recorded in the grant that the identity holds. -/
theorem Models.grantMap_of_recordConnection (hsound : before.database.Sound) {key : ModelKey}
    {identity : String} {time : Timestamp}
    (h : recordConnection key.sanitise identity time env before = .ok () after) :
    after.database.contents.grantMap =
      (GrantObject.connected before.database.contents key identity time).foldl GrantMap.after
        before.database.contents.grantMap := by
  obtain ⟨id, middle, hid, h⟩ := of_bind_eq_ok h
  obtain ⟨written, last, hrun, hlast⟩ := of_bind_eq_ok h
  obtain ⟨kept, contents, hkept, hupdate, rfl⟩ := of_update_eq_ok hrun
  obtain ⟨hnumber, hrest⟩ := Storable.stored?_pair_eq_some.1 hkept
  obtain ⟨hname, htime⟩ := Storable.stored?_pair_eq_some.1 hrest
  have hid : (GrantObject.model key).number env before = .ok id middle := hid
  obtain ⟨model, hrow, rfl, rfl⟩ := GrantObject.of_number_eq_ok hid
  rw [GrantObject.connected, hrow]
  rcases Contents.grantMap_of_update hsound.unique hsound.closed hsound.distinct hupdate with
    ⟨rfl, -⟩ | ⟨row, hmem, hwhich, hwritten, hmap⟩
  · cases hlast
  · have horigin : row.origin = ⟨model.id, identity⟩ := by
      rw [of_decide_eq_true hwhich, Storable.isExact_int _ _ hnumber,
        Storable.isExact_text _ _ hname]
    have hforce := Contents.grantMap_of_mem hsound.unique hmem
    obtain ⟨new, rfl⟩ := Option.ne_none_iff_exists'.1 hwritten
    cases hlast
    rw [horigin] at hmap hforce
    rw [hmap, Timestamp.eq_of_stored? htime, List.foldl_cons, List.foldl_nil, GrantMap.after,
      hforce]
    rfl

namespace Operation

/-- What an operation that succeeds does to the grants.  Keys are those of the objects that were
there before it, or after it where a snapshot may have brought in its object. -/
def grantEvents (before after : Contents) : Operation → List GrantEvent
  | .assignCloudGrant cloud identity access =>
    (GrantObject.cloud cloud).assigned before [(sanitise identity, access)]
  | .assignModelGrant key identity access =>
    (GrantObject.model key).assigned before [(sanitise identity, access)]
  | .assignCredentialGrant key identity access =>
    (GrantObject.credential key).assigned before [(sanitise identity, access)]
  | .reconcileCloud snapshot =>
    (GrantObject.cloud snapshot.cloud.name).assigned after
      (snapshot.grants.map fun report => (report.identity, some report.access))
  | .reconcileCredential snapshot =>
    (GrantObject.credential snapshot.credential.origin).assigned after
      (snapshot.grants.map fun report => (report.identity, some report.access))
  | .recordConnection key identity time =>
    GrantObject.connected before key (sanitise identity) time
  | .deleteCloud name => (GrantObject.cloud name).deleted before
  | .deleteModel key => (GrantObject.model key).deleted before
  | .deleteCredential key => (GrantObject.credential key).deleted before
  | .deleteIdentity name => [.identityDeleted (sanitise name)]
  | _ => []

/-- The map after an operation that succeeds is the map before it, after what happened. -/
theorem grantMap_of_ok (hsound : before.database.Sound) {op : Operation} {reply : Reply}
    (h : op.plan.script env before = .ok reply after) :
    after.database.contents.grantMap =
      (op.grantEvents before.database.contents after.database.contents).foldl GrantMap.after
        before.database.contents.grantMap := by
  have hleaves : ∀ {op : Operation}, op.LeavesGrants → op.plan.script env before = .ok reply after →
      after.database.contents.grantMap = before.database.contents.grantMap :=
    fun hleaves h => (evolution_of_ok (within_writes _ env) h).grantMap_eq hleaves hsound
  cases op with
  | assignCloudGrant cloud identity access =>
    exact GrantObject.grantMap_of_assign (.cloud cloud) hsound h
  | assignModelGrant key identity access =>
    exact GrantObject.grantMap_of_assign (.model key) hsound h
  | assignCredentialGrant key identity access =>
    exact GrantObject.grantMap_of_assign (.credential key) hsound h
  | reconcileCloud snapshot =>
    obtain ⟨_, hrun, -⟩ := of_map_eq_ok h
    exact Clouds.grantMap_of_reconcile hsound hrun
  | reconcileCredential snapshot =>
    obtain ⟨_, hrun, -⟩ := of_map_eq_ok h
    exact Credentials.grantMap_of_reconcile hsound hrun
  | recordConnection key identity time =>
    obtain ⟨_, hrun, -⟩ := of_map_eq_ok h
    exact Models.grantMap_of_recordConnection hsound hrun
  | deleteCloud name => exact GrantObject.grantMap_of_deletion (.cloud name) hsound h
  | deleteModel key => exact GrantObject.grantMap_of_deletion (.model key) hsound h
  | deleteCredential key => exact GrantObject.grantMap_of_deletion (.credential key) hsound h
  | deleteIdentity name =>
    obtain ⟨_, hrun, -⟩ := of_map_eq_ok h
    obtain ⟨kept, contents, hkept, hdelete, rfl⟩ := of_found_eq_ok hrun
    obtain rfl := Storable.isExact_text _ _ hkept
    exact Contents.grantMap_of_delete_identity hsound.unique hsound.closed hsound.distinct hdelete
  | _ => exact hleaves ⟨rfl, by simp [deletesIn?]⟩ h

end Operation

end ControlPlane
