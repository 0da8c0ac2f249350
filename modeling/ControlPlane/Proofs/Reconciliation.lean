/-
Reconciling a cloud with a snapshot.

`Reconciled` says all that a reconciliation makes of a database: which rows each relation gets, what
becomes of the grants that were there, that no other row changes, and how this is tallied.  The
reconciliation of a ready store that nothing interrupts comes to exactly that, whatever is stored,
unless a document that it adds is not read back.
-/
import ControlPlane.Proofs.Absorption
import ControlPlane.Proofs.Documents

namespace ControlPlane

/-- Whether a row has the settings of a draft, its configuration as the database gives it back. -/
def Cloud.Draft.IsStoredIn (draft : Cloud.Draft) (row : Row .cloud) : Prop :=
  row.origin = draft.name ∧ ∃ config, stored? draft.settings.config = some config ∧
    row.settings = { draft.settings with config := config }

/-- Whether a row has the settings of a draft, its configuration as the database gives it back. -/
def Region.Draft.IsStoredIn (draft : Region.Draft) (cloud : String) (row : Row .region) : Prop :=
  row.origin = ⟨cloud, draft.name⟩ ∧ ∃ config, stored? draft.settings.config = some config ∧
    row.settings = { draft.settings with config := config }

/-- What the reconciliation of a cloud with a snapshot makes of a database: the rows that each
relation gets, `cloud` being the row of the cloud after it. -/
structure Reconciled (now : Timestamp) (access : Access) (snapshot : Cloud.Snapshot)
    (before after : Database) (cloud : Row .cloud) (clouds : List (Row .cloud))
    (regions : List (Row .region)) (identities : List (Row .identity))
    (grants : List (Row (.grant .cloud))) (tally : Tally) : Prop where
  /-- A cloud that is stored stays, and a missing one is added as the snapshot has it. -/
  cloudRows : after.contents.cloud = before.contents.cloud ++ clouds
  cloudsAdmitted : Admitted now [snapshot.cloud.entry] before.contents.cloud clouds
  cloudsStored : ∀ row ∈ clouds, snapshot.cloud.IsStoredIn row
  cloudFound : cloud ∈ after.contents.cloud ∧ cloud.origin = snapshot.cloud.name
  /-- Regions that are stored stay, and each missing one is added as it first occurs. -/
  regionRows : after.contents.region = before.contents.region ++ regions
  regionsAdmitted : Admitted now snapshot.cloud.regionEntries before.contents.region regions
  regionsStored : ∀ row ∈ regions, ∃ draft ∈ snapshot.cloud.regions,
    (draft.entry snapshot.cloud.name).IsFirstOf snapshot.cloud.regionEntries ∧
      draft.IsStoredIn snapshot.cloud.name row
  /-- Identities that are stored stay, and each missing one that a grant names is added. -/
  identityRows : after.contents.identity = before.contents.identity ++ identities
  identitiesAdmitted : Admitted now (snapshot.identityEntries access) before.contents.identity
    identities
  identitiesStored : ∀ row ∈ identities, row.toEntry = Identities.firstEntry row.origin access
  /-- Each grant that is stored is what the reports make of it. -/
  grantRows : ∃ kept, after.contents.cloudGrant = kept ++ grants ∧
    List.Forall₂ (Regranted cloud.id now (before.contents.levelOn? .cloud cloud.id)
      snapshot.grants) before.contents.cloudGrant kept
  granted : ∀ row ∈ grants, row.IsGrantedBy cloud.id now snapshot.grants
  grantsAbsent : ∀ row ∈ grants, ∀ old ∈ before.contents.cloudGrant, old.origin ≠ row.origin
  grantsDistinct : grants.Pairwise fun a b => a.origin ≠ b.origin
  /-- Each identity has the level of its last report. -/
  levels : ∀ report ∈ snapshot.grants,
    after.contents.levelOn? .cloud cloud.id report.identity =
      lastReported? snapshot.grants report.identity
  controllers : after.contents.controller = before.contents.controller
  links : after.contents.link = before.contents.link
  credentials : after.contents.credential = before.contents.credential
  models : after.contents.model = before.contents.model
  modelGrants : after.contents.modelGrant = before.contents.modelGrant
  credentialGrants : after.contents.credentialGrant = before.contents.credentialGrant
  /-- No row has the number of another that there was. -/
  follows : after.Follows before
  total : tally.inserted + tally.updated + tally.unchanged =
    1 + snapshot.cloud.regions.length + snapshot.grants.length
  inserted : tally.inserted = clouds.length + regions.length + grants.length
  updated : tally.updated =
    (differing (before.contents.levelOn? .cloud cloud.id) snapshot.grants).length

/-! ## Rows of drafts -/

section

variable {now : Timestamp} {access : Access} {snapshot : Cloud.Snapshot}

theorem isStoredIn_of_admitted_cloud (hnul : snapshot.IsNulFree) {rows clouds : List (Row .cloud)}
    (h : Admitted now [snapshot.cloud.entry] rows clouds) :
    ∀ row ∈ clouds, snapshot.cloud.IsStoredIn row := by
  intro row hrow
  obtain ⟨e, hfirst, -, hstored⟩ := h.stores row hrow
  obtain ⟨config, hconfig, hkept⟩ := Storable.stored?_cloud hnul.name hnul.settings
  rw [List.mem_singleton.1 hfirst.mem, hkept, Option.some_inj] at hstored
  exact ⟨(congrArg Entry.origin hstored).symm, config, hconfig,
    (congrArg Entry.settings hstored).symm⟩

theorem isStoredIn_of_admitted_region (hnul : snapshot.IsNulFree)
    {rows regions : List (Row .region)}
    (h : Admitted now snapshot.cloud.regionEntries rows regions) :
    ∀ row ∈ regions, ∃ draft ∈ snapshot.cloud.regions,
      (draft.entry snapshot.cloud.name).IsFirstOf snapshot.cloud.regionEntries ∧
        draft.IsStoredIn snapshot.cloud.name row := by
  intro row hrow
  obtain ⟨e, hfirst, -, hstored⟩ := h.stores row hrow
  obtain ⟨draft, hdraft, rfl⟩ := List.mem_map.1 hfirst.mem
  obtain ⟨hname, hsettings⟩ := hnul.regions draft hdraft
  obtain ⟨config, hconfig, hkept⟩ := Storable.stored?_region hnul.name hname hsettings
  rw [hkept, Option.some_inj] at hstored
  exact ⟨draft, hdraft, hfirst, (congrArg Entry.origin hstored).symm, config, hconfig,
    (congrArg Entry.settings hstored).symm⟩

theorem eq_firstEntry_of_admitted (hnul : snapshot.IsNulFree)
    {rows identities : List (Row .identity)}
    (h : Admitted now (snapshot.identityEntries access) rows identities) :
    ∀ row ∈ identities, row.toEntry = Identities.firstEntry row.origin access := by
  intro row hrow
  obtain ⟨e, hfirst, horigin, hstored⟩ := h.stores row hrow
  obtain ⟨report, hreport, rfl⟩ := List.mem_map.1 hfirst.mem
  have hname : Text.IsNulFree report.identity :=
    IdentityName.isNulFree_sanitise (hnul.grants report hreport)
  rw [Storable.stored?_firstEntry hname, Option.some_inj] at hstored
  rw [← horigin, ← hstored]
  rfl

end

/-- What a merge makes of the rows is what a reconciliation makes of them. -/
theorem Absorbed.reconciled {now : Timestamp} {access : Access} {snapshot : Cloud.Snapshot}
    (hnul : snapshot.IsNulFree) {db after : Database} (hunique : db.contents.Unique)
    (hfollows : after.Follows db) {middle : Contents} {added : PerRelation fun r => List (Row r)}
    {cloud : Row .cloud} {identities : List (Row .identity)} {grants : List (Row (.grant .cloud))}
    {outcomes : List Merge}
    (hfound : after.contents.cloudRow? snapshot.cloud.name = some cloud)
    (h : Absorbed (.cloud snapshot) cloud.id now access db.contents middle after.contents added
      identities grants outcomes) :
    Reconciled now access snapshot db after cloud added.cloud added.region identities grants
      (Tally.ofList outcomes) := by
  obtain ⟨hinserted, hupdated, htotal⟩ := Tally.of_amountTo h.amount
  have hreported : @Reported .cloud cloud.id now access snapshot.grants middle after.contents
      identities grants := h.reported
  have hothers := hreported.others
  have hkept : ∀ {r}, r ≠ .identity → r ≠ .grant .cloud →
      ((Snapshot.cloud snapshot).entries access).get r = [] →
        after.contents.get r = db.contents.get r := fun hidentity hgrant hnone =>
    (hothers _ hidentity hgrant).trans (h.get_eq hnone)
  have hidentity : middle.get .identity = db.contents.get .identity := h.get_eq rfl
  have hgrant : middle.get (.grant .cloud) = db.contents.get (.grant .cloud) := h.get_grant .cloud
  have hnamed := hreported.named
  rw [hidentity] at hnamed
  exact {
    cloudRows := (hothers .cloud nofun nofun).trans (h.rows .cloud)
    cloudsAdmitted := h.admitted .cloud
    cloudsStored := isStoredIn_of_admitted_cloud hnul (h.admitted .cloud)
    cloudFound := ⟨List.mem_of_find?_eq_some hfound, by simpa using List.find?_some hfound⟩
    regionRows := (hothers .region nofun nofun).trans (h.rows .region)
    regionsAdmitted := h.admitted .region
    regionsStored := isStoredIn_of_admitted_region hnul (h.admitted .region)
    identityRows := hreported.identity.trans (congrArg (· ++ identities) hidentity)
    identitiesAdmitted := hnamed
    identitiesStored := eq_firstEntry_of_admitted hnul hnamed
    grantRows := by
      refine ⟨_, hreported.grant, ?_⟩
      rw [hgrant]
      exact forall₂_regranted fun row hrow hobject =>
        Contents.levelOn?_of_mem hunique hrow (by rw [← hobject])
    granted := hreported.granted
    grantsAbsent := fun row hrow old hold => hreported.absent row hrow old (by rwa [hgrant])
    grantsDistinct := hreported.distinct
    levels := fun report hreport => by
      rw [hreported.levelOn?_eq]
      cases hlast : lastReported? snapshot.grants report.identity with
      | some level => rfl
      | none => exact absurd rfl (lastReported?_eq_none.1 hlast report hreport)
    controllers := hkept (r := .controller) nofun nofun rfl
    links := hkept (r := .link) nofun nofun rfl
    credentials := hkept (r := .credential) nofun nofun rfl
    models := hkept (r := .model) nofun nofun rfl
    modelGrants := hkept (r := .grant .model) nofun nofun rfl
    credentialGrants := hkept (r := .grant .credential) nofun nofun rfl
    follows := hfollows
    total := htotal
    inserted := hinserted
    updated := hupdated }

namespace Clouds

variable {env : Environment} {before : Progress} {snapshot : Cloud.Snapshot}

/-- Where all documents that it adds are read back, a reconciliation comes to what it should. -/
theorem reconcile_ok (hcalm : env.disturbance = none) (hsound : before.database.Sound)
    (hreadable : before.database.contents.IsReadable) (hnul : snapshot.IsNulFree)
    (hback : snapshot.IsReadBack before.database.contents) :
    ∃ entity tally after cloud clouds regions identities grants,
      reconcile snapshot env before = .ok ⟨entity, tally⟩ after ∧ entity.row = cloud ∧
        Reconciled env.now env.defaultAccess snapshot before.database after.database cloud clouds
          regions identities grants tally := by
  obtain ⟨entity, cloud, outcomes, after, middle, added, identities, grants, hrun, hfound, -, hrow,
    habsorbed⟩ := reconcile_absorbs hcalm hsound hreadable hnul.isTaken hback
  have hfollows : after.database.Follows before.database := by
    have hwithin : Script.Within env (fun _ => True) (reconcile snapshot) :=
      reconcile_within (fun _ _ => trivial) (fun _ _ _ _ => trivial) (fun _ _ _ _ => trivial)
        (fun _ _ _ _ _ => trivial) fun _ _ => trivial
    exact (Script.evolution_of_ok hwithin hrun).follows
  exact ⟨entity, _, after, cloud, _, _, identities, grants, hrun, hrow,
    habsorbed.reconciled hnul hsound.unique hfollows hfound⟩

/-- Where a document that it adds is not read back, a reconciliation fails. -/
theorem reconcile_unread (hcalm : env.disturbance = none) (hsound : before.database.Sound)
    (hreadable : before.database.contents.IsReadable) (hnul : snapshot.IsNulFree)
    (hback : ¬snapshot.IsReadBack before.database.contents) :
    ∃ after, reconcile snapshot env before = .error (.failed .other none) after ∧
      after.database.contents = before.database.contents := by
  obtain ⟨entity, cloud, outcomes, after, middle, added, identities, grants, hrun, hafterSound, -,
    hentity, -, habsorbed⟩ := reconcile_steps hcalm hsound hnul.isTaken
  have hunread : ¬entity.isReadable = true := fun hread =>
    hback ((isReadable_iff_isReadBack hreadable hafterSound hentity habsorbed).1 hread)
  rw [if_neg hunread] at hrun
  exact ⟨_, hrun, rfl⟩

end Clouds

/-! ## The operation -/

namespace Deployment

theorem isValid_reconcileCloud {snapshot : Cloud.Snapshot} (hname : snapshot.cloud.name ≠ "") :
    (Operation.reconcileCloud snapshot).plan.subject.isValid = true := by
  show (!snapshot.cloud.name.isEmpty) = true
  simpa using hname

/-- A reconciliation of a document that is not read back fails, and no row changes. -/
theorem reconcileCloud_unread {dep : Deployment} (hreachable : dep.Reachable)
    (hready : dep.store.lifecycle = .ready) {snapshot : Cloud.Snapshot}
    (hname : snapshot.cloud.name ≠ "") (hnul : snapshot.IsNulFree) (now : Timestamp)
    (hback : ¬snapshot.IsReadBack dep.server.database.contents) :
    let call := dep.perform now .undisturbed (.reconcileCloud snapshot)
    call.1 = .error ⟨"clouds.set_cloud", .internal⟩ ∧
      call.2.server.database.contents = dep.server.database.contents := by
  intro call
  have hcalm : (dep.store.environment now .undisturbed).disturbance = none := rfl
  have hsound : (Progress.mk dep.server.database false).database.Sound := hreachable.sound
  have hdatabase : call.2.server.database =
      (dep.store.perform now .undisturbed (.reconcileCloud snapshot) dep.server.database).2 :=
    database_perform ..
  obtain ⟨after, hrun, hafter⟩ :=
    Clouds.reconcile_unread hcalm hsound hreachable.isReadable hnul hback
  have hperform :=
    Store.perform_of_error hready (isValid_reconcileCloud hname) (Script.map_error hrun _)
  refine ⟨congrArg Prod.fst hperform, ?_⟩
  rw [hdatabase, hperform]
  exact hafter

/-- The reconciliation of a cloud with a snapshot succeeds whatever is stored, if the store is
ready, nothing interrupts it, the cloud has a name, U+0000 does not occur and the documents that it
adds are read back; and it leaves exactly what `Reconciled` says.  If one is not read back, it fails
and no row changes. -/
theorem reconcileCloud_reconciled {dep : Deployment} (hreachable : dep.Reachable)
    (hready : dep.store.lifecycle = .ready) {snapshot : Cloud.Snapshot}
    (hname : snapshot.cloud.name ≠ "") (hnul : snapshot.IsNulFree) (now : Timestamp) :
    let call := dep.perform now .undisturbed (.reconcileCloud snapshot)
    (snapshot.IsReadBack dep.server.database.contents →
      ∃ entity tally cloud clouds regions identities grants,
        call.1 = .ok (.merged ⟨.cloud entity, tally⟩) ∧ entity.row = cloud ∧
          Reconciled now dep.store.settings.defaultAccess snapshot dep.server.database
            call.2.server.database cloud clouds regions identities grants tally) ∧
    (¬snapshot.IsReadBack dep.server.database.contents →
      call.1 = .error ⟨"clouds.set_cloud", .internal⟩ ∧
        call.2.server.database.contents = dep.server.database.contents) := by
  intro call
  have hcalm : (dep.store.environment now .undisturbed).disturbance = none := rfl
  have hsound : (Progress.mk dep.server.database false).database.Sound := hreachable.sound
  have hdatabase : call.2.server.database =
      (dep.store.perform now .undisturbed (.reconcileCloud snapshot) dep.server.database).2 :=
    database_perform ..
  refine ⟨fun hback => ?_, reconcileCloud_unread hreachable hready hname hnul now⟩
  obtain ⟨entity, tally, after, cloud, clouds, regions, identities, grants, hrun, hrow,
    hreconciled⟩ := Clouds.reconcile_ok hcalm hsound hreachable.isReadable hnul hback
  have hperform :=
    Store.perform_ok hready (isValid_reconcileCloud hname) (Script.map_ok hrun _)
  refine ⟨entity, tally, cloud, clouds, regions, identities, grants,
    congrArg Prod.fst hperform, hrow, ?_⟩
  rw [hdatabase, hperform]
  exact hreconciled

/-- A second snapshot of a cloud: it adds a region and a grant, and changes the grant there is. -/
theorem reconcileCloud_secondSnapshot :
    let snapshot (regions : List String) (grants : List GrantReport) : Cloud.Snapshot :=
      ⟨⟨"aws", ⟨"ec2", "", ["userpass"], .none, [], .empty⟩,
        regions.map fun name => ⟨name, .none, .empty⟩⟩, grants⟩
    let dep := (initial .default).run
      [.migrate .undisturbed false,
        .perform ⟨0, 0⟩ .undisturbed
          (.reconcileCloud (snapshot ["us-east-1"] [⟨"alice@example.com", .admin⟩]))]
    let second := snapshot ["eu-west-1", "us-east-1"]
      [⟨"alice@example.com", .addModel⟩, ⟨"bob@example.com", .addModel⟩]
    let result := dep.perform ⟨60, 0⟩ .undisturbed (.reconcileCloud second)
    ∃ entity cloud clouds regions identities grants,
      result.1 = .ok (.merged ⟨.cloud entity, ⟨2, 1, 2⟩⟩) ∧ entity.row = cloud ∧
        Reconciled ⟨60, 0⟩ .addModel second dep.server.database result.2.server.database cloud
          clouds regions identities grants ⟨2, 1, 2⟩ := by
  intro snapshot dep second result
  have hreachable : dep.Reachable := ⟨.default, _, rfl⟩
  have hready : dep.store.lifecycle = .ready := by decide +kernel
  have haccess : dep.store.settings.defaultAccess = .addModel := by decide +kernel
  have htext : ∀ s ∈ ["", "aws", "ec2", "userpass", "eu-west-1", "us-east-1", "alice@example.com",
      "bob@example.com"], Text.IsNulFree s := by
    simp [Text.IsNulFree]
  have hendpoints : Endpoints.none.IsNulFree :=
    ⟨htext "" (by simp), htext "" (by simp), htext "" (by simp)⟩
  have hconfig : Config.IsNulFree .empty := fun _ hmem => absurd hmem List.not_mem_nil
  have hnul : second.IsNulFree := by
    refine ⟨htext "aws" (by simp), ⟨htext "ec2" (by simp), htext "" (by simp), ?_, hendpoints,
      fun _ hmem => absurd hmem List.not_mem_nil, hconfig⟩, ?_, ?_⟩
    · intro type htype
      rw [List.mem_singleton.1 htype]
      exact htext "userpass" (by simp)
    · intro region hregion
      obtain ⟨name, hname, rfl⟩ := List.mem_map.1 hregion
      refine ⟨htext name ?_, hendpoints, hconfig⟩
      rcases List.mem_pair.1 hname with rfl | rfl <;> simp
    · intro report hreport
      rcases List.mem_pair.1 hreport with rfl | rfl
      · exact htext "alice@example.com" (by simp)
      · exact htext "bob@example.com" (by simp)
  have hback : second.IsReadBack dep.server.database.contents := by
    refine ⟨fun e hfirst _ => ?_, fun e hfirst _ => ?_⟩
    · rw [List.mem_singleton.1 hfirst.mem]
      decide
    · obtain ⟨region, hregion, rfl⟩ := List.mem_map.1 hfirst.mem
      obtain ⟨name, -, rfl⟩ := List.mem_map.1 hregion
      rfl
  have htally : result.1.toOption.bind Reply.tally? = some ⟨2, 1, 2⟩ := by decide +kernel
  obtain ⟨entity, tally, cloud, clouds, regions, identities, grants, hanswer, hrow, hreconciled⟩ :=
    (reconcileCloud_reconciled hreachable hready (by decide) hnul ⟨60, 0⟩).1 hback
  have htally' : tally = ⟨2, 1, 2⟩ := by
    rw [show result.1 = _ from hanswer] at htally
    exact Option.some.inj htally
  rw [haccess] at hreconciled
  subst htally'
  exact ⟨entity, cloud, clouds, regions, identities, grants, hanswer, hrow, hreconciled⟩

/-- A snapshot of a missing cloud whose configuration has the largest float.  The database takes it,
and gives back digits that are read as a number beyond the range of floats. -/
theorem reconcileCloud_largestFloat :
    let snapshot : Cloud.Snapshot :=
      ⟨⟨"aws", ⟨"", "", [], .none, [],
        ⟨[("k", .number (.float false ⟨17976931348623157, 292⟩))], by decide⟩⟩, []⟩, []⟩
    let dep := (initial .default).run [.migrate .undisturbed false]
    let call := dep.perform ⟨0, 0⟩ .undisturbed (.reconcileCloud snapshot)
    dep.Reachable ∧ dep.store.lifecycle = .ready ∧ snapshot.cloud.name ≠ "" ∧
      snapshot.IsNulFree ∧ call.1 = .error ⟨"clouds.set_cloud", .internal⟩ ∧
        call.2.server.database.contents.cloud = [] := by
  intro snapshot dep call
  have htext : ∀ s ∈ ["", "aws", "k"], Text.IsNulFree s := by simp [Text.IsNulFree]
  have hempty : Text.IsNulFree "" := htext "" (by simp)
  have hconfig : Config.IsNulFree snapshot.cloud.settings.config := by
    intro e he
    rw [List.mem_singleton.1 he]
    exact ⟨htext "k" (by simp), trivial⟩
  have hnul : snapshot.IsNulFree :=
    ⟨htext "aws" (by simp), ⟨hempty, hempty, List.forall_mem_nil _, ⟨hempty, hempty, hempty⟩,
      List.forall_mem_nil _, hconfig⟩, List.forall_mem_nil _, List.forall_mem_nil _⟩
  have hreachable : dep.Reachable := ⟨.default, _, rfl⟩
  have hready : dep.store.lifecycle = .ready := by decide +kernel
  have hname : snapshot.cloud.name ≠ "" := by decide
  have hmissing : dep.server.database.contents.cloud = [] := by decide +kernel
  have hback : ¬snapshot.IsReadBack dep.server.database.contents := by
    intro hback
    have hunread : snapshot.cloud.entry.isReadable = false := by decide +kernel
    have habsent : ∀ row ∈ dep.server.database.contents.get .cloud,
        row.origin ≠ snapshot.cloud.entry.origin := fun row hrow => by
      rw [show dep.server.database.contents.get .cloud = [] from hmissing] at hrow
      cases hrow
    have hread := hback.cloud snapshot.cloud.entry ⟨[], [], rfl, List.forall_mem_nil _⟩ habsent
    rw [hunread] at hread
    cases hread
  obtain ⟨hanswer, hcontents⟩ :=
    reconcileCloud_unread hreachable hready hname hnul ⟨0, 0⟩ hback
  exact ⟨hreachable, hready, hname, hnul, hanswer, by rw [hcontents, hmissing]⟩

end Deployment
end ControlPlane
