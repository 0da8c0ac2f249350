/-
Merging a snapshot twice.

After a merge each origin that the snapshot names has a row, and each grant that it reports has the
level of the last report.  So the same snapshot adds nothing a second time, and writes a grant only
to bring its level there once more.  It does so if and only if reports on one identity contradict
each other: the first of them that differs from the level in force is written, and a later one takes
that back.  The theorem of this file is `Deployment.Reachable.reconcile_twice`.
-/
import ControlPlane.Proofs.Absorption
import ControlPlane.Proofs.Documents
import ControlPlane.Proofs.Inversion

namespace ControlPlane

/-! ## Reports that are in force -/

/-- Whether reports on one identity tell of one level. -/
def Agree (reports : List GrantReport) : Prop :=
  ∀ a ∈ reports, ∀ b ∈ reports, a.identity = b.identity → a.access = b.access

section

variable {reports : List GrantReport} {inForce : String → Option Access}

theorem mem_of_lastReported? {identity : String} {level : Access}
    (h : lastReported? reports identity = some level) :
    ∃ report ∈ reports, report.identity = identity ∧ report.access = level := by
  obtain ⟨report, hfind, haccess⟩ := Option.map_eq_some_iff.1 h
  have hidentity : report.identity = identity := by simpa using List.find?_some hfind
  exact ⟨report, List.mem_reverse.1 (List.mem_of_find?_eq_some hfind), hidentity, haccess⟩

theorem exists_lastReported? {report : GrantReport} (hreport : report ∈ reports) :
    ∃ level, lastReported? reports report.identity = some level := by
  cases hlast : lastReported? reports report.identity with
  | some level => exact ⟨level, rfl⟩
  | none => exact absurd rfl (lastReported?_eq_none.1 hlast report hreport)

/-- A report of the level in force changes no level. -/
theorem levelsAfter_of_inForce {report : GrantReport}
    (h : inForce report.identity = some report.access) : levelsAfter inForce report = inForce := by
  rw [levelsAfter, ← h]
  exact Function.update_eq_self _ _

theorem differing_eq_nil (h : ∀ report ∈ reports, inForce report.identity = some report.access) :
    differing inForce reports = [] := by
  induction reports with
  | nil => rfl
  | cons report rest ih =>
    have hfirst := h report List.mem_cons_self
    rw [differing_cons_of_same (.inr hfirst), levelsAfter_of_inForce hfirst]
    exact ih fun other hother => h other (List.mem_cons_of_mem _ hother)

/-- Where no report changes a level, each tells of the level that was in force at the start. -/
theorem inForce_of_differing_eq_nil (hlevels : ∀ report ∈ reports, inForce report.identity ≠ none)
    (h : differing inForce reports = []) :
    ∀ report ∈ reports, inForce report.identity = some report.access := by
  induction reports with
  | nil => exact nofun
  | cons report rest ih =>
    have hfirst : inForce report.identity = some report.access := by
      by_contra hdiffers
      have hne : ¬(inForce report.identity = none ∨
          inForce report.identity = some report.access) :=
        not_or.2 ⟨hlevels report List.mem_cons_self, hdiffers⟩
      rw [differing, if_neg hne] at h
      cases h
    rw [differing_cons_of_same (.inr hfirst), levelsAfter_of_inForce hfirst] at h
    intro other hother
    rcases List.mem_cons.1 hother with rfl | hother
    · exact hfirst
    · exact ih (fun a ha => hlevels a (List.mem_cons_of_mem _ ha)) h other hother

/-- Where the last reports are in force, reports change a level if and only if two of them
contradict each other. -/
theorem differing_eq_nil_iff
    (hlast : ∀ report ∈ reports,
      inForce report.identity = lastReported? reports report.identity) :
    differing inForce reports = [] ↔ Agree reports := by
  constructor
  · intro h a ha b hb hidentity
    have hlevels : ∀ report ∈ reports, inForce report.identity ≠ none := by
      intro report hreport hnone
      obtain ⟨level, hlevel⟩ := exists_lastReported? hreport
      rw [hlast report hreport, hlevel] at hnone
      cases hnone
    have hforce := inForce_of_differing_eq_nil hlevels h
    have hboth : some a.access = some b.access := by
      rw [← hforce a ha, ← hforce b hb, hidentity]
    exact Option.some.inj hboth
  · intro h
    refine differing_eq_nil fun report hreport => ?_
    -- The level in force is that of the last report on the identity, with which this one agrees.
    obtain ⟨level, hlevel⟩ := exists_lastReported? hreport
    obtain ⟨other, hother, hidentity, haccess⟩ := mem_of_lastReported? hlevel
    rw [hlast report hreport, hlevel, ← haccess, h other hother report hreport hidentity]

end

/-! ## A second merge -/

namespace Reported

variable {on : Grantable} {object : Int} {now later : Timestamp} {access access' : Access}
  {reports : List GrantReport} {before after last : Contents}
  {identities identities' : List (Row .identity)} {grants grants' : List (Row (.grant on))}

/-- Reports take no origin away. -/
theorem exists_origin (h : Reported object now access reports before after identities grants)
    {r : Relation} {row : Row r} (hrow : row ∈ before.get r) :
    ∃ new ∈ after.get r, new.origin = row.origin := by
  by_cases hidentity : r = .identity
  · subst hidentity
    exact ⟨row, h.identity ▸ List.mem_append_left _ hrow, rfl⟩
  by_cases hgrant : r = .grant on
  · subst hgrant
    refine ⟨_, h.grant ▸ List.mem_append_left _ (List.mem_map_of_mem hrow), ?_⟩
    exact Row.origin_foldl_reported reports row
  · exact ⟨row, h.others r hidentity hgrant ▸ hrow, rfl⟩

theorem adds_nothing (h : Reported object now access reports before after identities grants)
    (h' : Reported object later access' reports after last identities' grants') :
    identities' = [] ∧ grants' = [] := by
  constructor
  · refine h'.named.eq_nil fun e he => ?_
    obtain ⟨report, hreport, rfl⟩ := List.mem_map.1 he
    obtain ⟨row, hrow, horigin⟩ := h.named.covers _ (List.mem_map_of_mem hreport)
    exact ⟨row, h.identity ▸ hrow, horigin⟩
  · refine List.eq_nil_iff_forall_not_mem.2 fun row hrow => ?_
    have hgranted := h'.granted row hrow
    obtain ⟨report, hreport, hidentity, -⟩ := mem_of_lastReported? hgranted.level
    obtain ⟨old, hold, horigin⟩ := h.covers report hreport
    refine h'.absent row hrow old hold ?_
    rw [horigin, hidentity, ← hgranted.object]

end Reported

/-- Whether rows are others, but for the times at which grants on an object were last written. -/
structure Retimed (on : Grantable) (object : Int) (before after : Contents) : Prop where
  others : ∀ r, r ≠ .grant on → after.get r = before.get r
  grants : List.Forall₂ (fun old new : Row (.grant on) =>
      new = { old with updatedAt := new.updatedAt } ∧ (old.origin.object ≠ object → new = old))
    (before.get (.grant on)) (after.get (.grant on))

/-- What a second merge of a snapshot makes of the rows that the first one left. -/
structure Repeated (snapshot : Snapshot) (object : Int) (before after : Contents) (tally : Tally) :
    Prop where
  retimed : Retimed snapshot.on object before after
  isNoop_iff : tally.isNoop = true ↔ Agree snapshot.reports
  unchanged : tally.isNoop = true → after = before ∧ tally = ⟨0, 0, snapshot.size⟩

namespace Absorbed

variable {snapshot : Snapshot} {object object' : Int} {now later : Timestamp}
  {access access' : Access} {before middle after middle' last : Contents}
  {added added' : PerRelation fun r => List (Row r)} {identities identities' : List (Row .identity)}
  {grants grants' : List (Row (.grant snapshot.on))} {outcomes outcomes' : List Merge}

/-- The entries of a snapshot have their origins, whatever the access of new identities. -/
theorem exists_entry {r : Relation} {e : Entry r} (he : e ∈ (snapshot.entries access').get r) :
    ∃ other ∈ (snapshot.entries access).get r, other.origin = e.origin := by
  cases snapshot with
  | cloud s => exact ⟨e, he, rfl⟩
  | credential s =>
    cases r with
    | identity =>
      obtain rfl := List.mem_singleton.1 he
      exact ⟨_, List.mem_singleton_self _, rfl⟩
    | grant on => cases on <;> exact ⟨e, he, rfl⟩
    | _ => exact ⟨e, he, rfl⟩

theorem adds_nothing (h : Absorbed snapshot object now access before middle after added identities
      grants outcomes)
    (h' : Absorbed snapshot object' later access' after middle' last added' identities' grants'
      outcomes') (r : Relation) : added'.get r = [] := by
  refine (h'.admitted r).eq_nil fun e he => ?_
  obtain ⟨other, hother, hsame⟩ :
      ∃ other ∈ (snapshot.entries access).get r, other.origin = e.origin := exists_entry he
  obtain ⟨row, hrow, horigin⟩ := (h.admitted r).covers other hother
  obtain ⟨new, hnew, hkept⟩ := h.reported.exists_origin ((h.rows r).symm ▸ hrow)
  exact ⟨new, hnew, hkept.trans (horigin.trans hsame)⟩

/-- A second merge changes nothing before the reports come. -/
theorem middle_eq (h : Absorbed snapshot object now access before middle after added identities
      grants outcomes)
    (h' : Absorbed snapshot object' later access' after middle' last added' identities' grants'
      outcomes') : middle' = after := by
  refine PerRelation.ext_get fun r => ?_
  rw [h'.rows r, h.adds_nothing h' r, List.append_nil]

/-- After a merge the levels that are in force are those of the last reports. -/
theorem levelOn?_eq (h : Absorbed snapshot object now access before middle after added identities
    grants outcomes) {report : GrantReport} (hreport : report ∈ snapshot.reports) :
    after.levelOn? snapshot.on object report.identity =
      lastReported? snapshot.reports report.identity := by
  obtain ⟨level, hlevel⟩ := exists_lastReported? hreport
  rw [h.reported.levelOn?_eq, hlevel, Option.some_or]

/-- A grant that the same reports go over once more changes at most in its time. -/
theorem eq_of_regranted (h : Absorbed snapshot object now access before middle after added
      identities grants outcomes) (hunique : after.Unique) {old new : Row (.grant snapshot.on)}
    (hold : old ∈ after.get (.grant snapshot.on))
    (hnew : Regranted object later (after.levelOn? snapshot.on object) snapshot.reports old new) :
    new = { old with updatedAt := new.updatedAt } := by
  have haccess : new.settings.access = old.settings.access := by
    by_cases hobject : old.origin.object = object
    · rw [hnew.level hobject]
      cases hlast : lastReported? snapshot.reports old.origin.identity with
      | none => rfl
      | some level =>
        have horigin : old.origin = ⟨object, old.origin.identity⟩ := by rw [← hobject]
        have hforce : after.levelOn? snapshot.on object old.origin.identity =
            some old.settings.access := Contents.levelOn?_of_mem hunique hold horigin
        rw [h.reported.levelOn?_eq, hlast, Option.some_or] at hforce
        exact Option.some.inj hforce
    · rw [hnew.elsewhere hobject]
  have hid := hnew.id
  have horigin := hnew.origin
  have hcreated := hnew.createdAt
  have hconnection := hnew.lastConnection
  obtain ⟨⟨origin, ⟨access, lastConnection⟩⟩, id, createdAt, updatedAt⟩ := new
  dsimp only at haccess hid horigin hcreated hconnection ⊢
  subst haccess hid horigin hcreated hconnection
  rfl

/-- A second merge leaves the relation of the object alone. -/
theorem on_eq (h : Absorbed snapshot object now access before middle after added identities grants
      outcomes)
    (h' : Absorbed snapshot object' later access' after middle' last added' identities' grants'
      outcomes') : last.get snapshot.on.relation = after.get snapshot.on.relation := by
  have hreported := h'.reported
  rw [h.middle_eq h'] at hreported
  exact hreported.others _ snapshot.on.relation_ne_identity (snapshot.on.relation_ne_grant _)

/-- What merging a snapshot makes of the rows that the same merge left. -/
theorem repeated (h : Absorbed snapshot object now access before middle after added identities
      grants outcomes) (hunique : after.Unique)
    (h' : Absorbed snapshot object later access' after middle' last added' identities' grants'
      outcomes') : Repeated snapshot object after last (Tally.ofList outcomes') := by
  have hreported := h'.reported
  rw [h.middle_eq h'] at hreported
  obtain ⟨hidentities, hgrants⟩ := h.reported.adds_nothing hreported
  have hothers : ∀ r, r ≠ .grant snapshot.on → last.get r = after.get r := by
    intro r hr
    by_cases hidentity : r = .identity
    · subst hidentity
      rw [hreported.identity, hidentities, List.append_nil]
    · exact hreported.others r hidentity hr
  have hgrantRows : last.get (.grant snapshot.on) = (after.get (.grant snapshot.on)).map
      fun row => snapshot.reports.foldl (Row.reported object later) row := by
    rw [hreported.grant, hgrants, List.append_nil]
  have hregranted : ∀ row ∈ after.get (.grant snapshot.on),
      Regranted object later (after.levelOn? snapshot.on object) snapshot.reports row
        (snapshot.reports.foldl (Row.reported object later) row) := by
    intro row hrow
    refine regranted_foldl snapshot.reports fun hobject => ?_
    exact Contents.levelOn?_of_mem hunique hrow (by rw [← hobject])
  obtain ⟨hinserted, hupdated, htotal⟩ := Tally.of_amountTo h'.amount
  rw [h.adds_nothing h', h.adds_nothing h', hgrants] at hinserted
  have hnoop : (Tally.ofList outcomes').isNoop = true ↔
      differing (after.levelOn? snapshot.on object) snapshot.reports = [] := by
    rw [Tally.isNoop, hinserted, hupdated]
    simp
  refine ⟨⟨hothers, ?_⟩, ?_, fun hunchanged => ⟨?_, ?_⟩⟩
  · rw [hgrantRows, List.forall₂_map_right_iff, List.forall₂_same]
    intro row hrow
    exact ⟨h.eq_of_regranted hunique hrow (hregranted row hrow), (hregranted row hrow).elsewhere⟩
  · rw [hnoop]
    exact differing_eq_nil_iff fun report hreport => h.levelOn?_eq hreport
  · have hnone := hnoop.1 hunchanged
    refine PerRelation.ext_get fun r => ?_
    by_cases hr : r = .grant snapshot.on
    · subst hr
      rw [hgrantRows]
      refine (List.map_congr_left fun row hrow => ?_).trans (List.map_id _)
      -- No report differs, so the time of the row stays, and all else stays anyway.
      have hunmoved := (hregranted row hrow).unmoved (by simp [hnone])
      rw [h.eq_of_regranted hunique hrow (hregranted row hrow), hunmoved]
      rfl
    · exact hothers r hr
  · exact Tally.eq_of_isNoop hunchanged htotal

/-- Entries and reports leave the cloud of a credential where it is, and no document is missing any
more. -/
theorem isTaken (h : Absorbed snapshot object now access before middle after added identities grants
    outcomes) (htaken : snapshot.IsTaken before) : snapshot.IsTaken after := by
  cases snapshot with
  | cloud s =>
    have hrows : ∀ r, r ≠ .identity → r ≠ .grant .cloud →
        after.get r = before.get r ++ added.get r := fun r hidentity hgrant =>
      (h.reported.others r hidentity hgrant).trans (h.rows r)
    refine ⟨htaken.1, ?_, ?_⟩
    · rw [hrows .cloud nofun nofun]
      exact (h.admitted .cloud).areReadBack
    · rw [hrows .region nofun nofun]
      exact (h.admitted .region).areReadBack
  | credential s =>
    obtain ⟨⟨row, hrow, horigin⟩, hcredential, hgrants⟩ := htaken
    have hmiddle : row ∈ middle.get .cloud := by
      rw [h.rows]
      exact List.mem_append_left _ hrow
    obtain ⟨new, hnew, hsame⟩ := h.reported.exists_origin hmiddle
    exact ⟨⟨new, hnew, hsame.trans horigin⟩, hcredential, hgrants⟩

end Absorbed

theorem Snapshot.object?_congr {snapshot : Snapshot} {c c' : Contents}
    (h : c.get snapshot.on.relation = c'.get snapshot.on.relation) :
    snapshot.object? c = snapshot.object? c' := by
  cases snapshot with
  | cloud s =>
    have hclouds : c.get .cloud = c'.get .cloud := h
    simp only [object?, Contents.cloudRow?, hclouds]
  | credential s =>
    have hcredentials : c.get .credential = c'.get .credential := h
    simp only [object?, Contents.credentialRow?, hcredentials]

/-! ## Merging twice -/

namespace Deployment

/-- The same snapshot, merged once more directly after a merge that succeeded, succeeds as well; it
changes nothing but the times of grants on its object, and not even these if its reports agree. -/
theorem Reachable.reconcile_twice {dep : Deployment} (hreachable : dep.Reachable)
    {snapshot : Snapshot} {now : Timestamp} {course : Course} {reply : Reply}
    (hfirst : (dep.perform now course snapshot.operation).1 = .ok reply) (later : Timestamp) :
    let first := (dep.perform now course snapshot.operation).2
    let second := first.perform later .undisturbed snapshot.operation
    ∃ object entity tally entity' tally', reply = .merged ⟨entity, tally⟩ ∧
      snapshot.object? first.server.database.contents = some object ∧
      second.1 = .ok (.merged ⟨entity', tally'⟩) ∧
      Repeated snapshot object first.server.database.contents
        second.2.server.database.contents tally' ∧
      (tally'.isNoop = true → entity' = entity) := by
  intro first second
  obtain ⟨hready, hvalid, progress, hscript, hdatabase⟩ := Store.of_perform_eq_ok hfirst
  have hsound : (Progress.mk dep.server.database false).database.Sound := hreachable.sound
  obtain ⟨hcalm, htaken⟩ :=
    Snapshot.isTaken_of_script_eq_ok hsound hreachable.isReadable hscript
  obtain ⟨entity, object, outcomes, after, middle, added, identities, grants, hrun, hobject,
    hentity, habsorbed⟩ := Snapshot.absorbs hcalm hsound hreachable.isReadable htaken
  rw [hrun] at hscript
  cases hscript
  have hdatabase : first.server.database = progress.database :=
    (database_perform dep now course snapshot.operation).trans hdatabase
  have hreachableFirst : first.Reachable :=
    hreachable.run [.perform now course snapshot.operation]
  have hsoundFirst : (Progress.mk first.server.database false).database.Sound :=
    hreachableFirst.sound
  have hreadyFirst : first.store.lifecycle = .ready := by
    rw [show first.store = dep.store from store_perform dep now course snapshot.operation, hready]
  have hcalmFirst : (first.store.environment later .undisturbed).disturbance = none := rfl
  have htakenFirst : snapshot.IsTaken first.server.database.contents := by
    rw [hdatabase]
    exact habsorbed.isTaken htaken
  obtain ⟨entity', object', outcomes', last, middle', added', identities', grants', hrun',
    hobject', hentity', habsorbed'⟩ :=
    Snapshot.absorbs hcalmFirst hsoundFirst hreachableFirst.isReadable htakenFirst
  have hperform := Store.perform_ok hreadyFirst hvalid hrun'
  have hlast : second.2.server.database = last.database := by
    rw [database_perform, hperform]
  rw [hdatabase] at habsorbed'
  have hsame : object' = object := by
    have hkept := Snapshot.object?_congr (habsorbed.on_eq habsorbed')
    rw [hobject', hobject] at hkept
    exact Option.some.inj hkept
  subst hsame
  have hunique : progress.database.contents.Unique := hdatabase ▸ hsoundFirst.unique
  have hrepeated := habsorbed.repeated hunique habsorbed'
  refine ⟨object', entity, _, entity', _, rfl, ?_, congrArg Prod.fst hperform, ?_, fun hnoop => ?_⟩
  · rw [hdatabase]
    exact hobject
  · rw [hdatabase, hlast]
    exact hrepeated
  · rw [(hrepeated.unchanged hnoop).1, hentity] at hentity'
    exact (Option.some.inj hentity').symm

/-- A snapshot that contradicts itself writes the grant twice whenever it is merged. -/
theorem reconcile_twice_contradiction :
    let snapshot : Snapshot := .credential ⟨⟨⟨"aws", "ann", "main"⟩, ⟨"", "", false, .empty, none⟩⟩,
      [⟨"bob", .admin⟩, ⟨"bob", .read⟩]⟩
    let dep := (initial .default).run
      [.migrate .undisturbed false,
        .perform ⟨0, 0⟩ .undisturbed (.addCloud ⟨"aws", ⟨"ec2", "", [], .none, [], .empty⟩, []⟩)]
    let first := dep.perform ⟨60, 0⟩ .undisturbed snapshot.operation
    let second := first.2.perform ⟨120, 0⟩ .undisturbed snapshot.operation
    first.1.toOption.bind Reply.tally? = some ⟨2, 1, 0⟩ ∧
    second.1.toOption.bind Reply.tally? = some ⟨0, 2, 1⟩ ∧
    ∃ object, snapshot.object? first.2.server.database.contents = some object ∧
      Repeated snapshot object first.2.server.database.contents
        second.2.server.database.contents ⟨0, 2, 1⟩ := by
  intro snapshot dep first second
  have hreachable : dep.Reachable := ⟨.default, _, rfl⟩
  have htally : first.1.toOption.bind Reply.tally? = some ⟨2, 1, 0⟩ := by decide +kernel
  have htally' : second.1.toOption.bind Reply.tally? = some ⟨0, 2, 1⟩ := by decide +kernel
  cases hfirst : first.1 with
  | error e =>
    rw [hfirst] at htally
    cases htally
  | ok reply =>
    obtain ⟨object, entity, tally, entity', tally', -, hobject, hanswer, hrepeated, -⟩ :=
      hreachable.reconcile_twice hfirst ⟨120, 0⟩
    obtain rfl : tally' = ⟨0, 2, 1⟩ := by
      rw [show second.1 = _ from hanswer] at htally'
      exact Option.some.inj htally'
    exact ⟨hfirst ▸ htally, htally', object, hobject, hrepeated⟩

end Deployment
end ControlPlane
