/-
Rows that change under a merge, and what is reported of them.

A merge names rows by their origins and reports of each what became of it (`Verdict`).  A row that
was there changes only if it is reported as updated, and every other row of any relation is as it
was (`Database.Accounted`).  The reports of consecutive runs stand one after another.  Rows that are
inserted have numbers of their own and are never confused with those that were there, and identities
that are created on the way are no matter of the report.
-/
import ControlPlane.Proofs.Priorities
import ControlPlane.Proofs.Revision

namespace ControlPlane

open Script

/-- Whether a statement is an insert. -/
def Statement.IsInsert : Statement → Prop
  | .insert _ => True
  | _ => False

/-- A row, by its relation and its origin, and what a merge reports of it. -/
structure Verdict where
  row : (r : Relation) × Origin r
  outcome : Merge

namespace Database

variable {report first second : List Verdict} {before middle after : Database}

/-- Whether all rows but those that are reported as updated are as they were, apart from rows that
are new. -/
structure Accounted (report : List Verdict) (before after : Database) : Prop where
  drawn : ∀ r, before.sequences.get r ≤ after.sequences.get r
  rows : ∀ r, ∀ row ∈ after.contents.get r, row ∈ before.contents.get r ∨
    ⟨⟨r, row.origin⟩, .updated⟩ ∈ report ∨ before.sequences.get r ≤ row.id

namespace Accounted

theorem of_subset (hdrawn : ∀ r, before.sequences.get r ≤ after.sequences.get r)
    (h : ∀ r, after.contents.get r ⊆ before.contents.get r) : Accounted report before after :=
  ⟨hdrawn, fun r _ hrow => .inl (h r hrow)⟩

theorem refl (db : Database) : Accounted report db db :=
  of_subset (fun _ => Int.le_refl _) fun _ => List.Subset.refl _

theorem trans (h : Accounted first before middle) (h' : Accounted second middle after) :
    Accounted (first ++ second) before after where
  drawn r := Int.le_trans (h.drawn r) (h'.drawn r)
  rows r row hrow := by
    rcases h'.rows r row hrow with hmiddle | hupdated | hnew
    · rcases h.rows r row hmiddle with hbefore | hupdated | hnew
      · exact .inl hbefore
      · exact .inr (.inl (List.mem_append_left _ hupdated))
      · exact .inr (.inr hnew)
    · exact .inr (.inl (List.mem_append_right _ hupdated))
    · exact .inr (.inr (Int.le_trans (h.drawn r) hnew))

theorem mono (h : Accounted first before after) (hsubset : first ⊆ second) :
    Accounted second before after where
  drawn := h.drawn
  rows r row hrow := (h.rows r row hrow).imp_right (Or.imp_left fun hupdated => hsubset hupdated)

/-- A row that was there and is not reported as updated is as it was. -/
theorem eq (h : Accounted report before after) (hsound : before.Sound) {r : Relation}
    {old new : Row r} (hold : old ∈ before.contents.get r) (hnew : new ∈ after.contents.get r)
    (hid : new.id = old.id) (horigin : new.origin = old.origin)
    (hspared : ⟨⟨r, old.origin⟩, .updated⟩ ∉ report) : new = old := by
  rcases h.rows r new hnew with hbefore | hupdated | hlate
  · exact hsound.distinct.eq hbefore hold hid
  · rw [horigin] at hupdated
    exact absurd hupdated hspared
  · have hdrawn := (hsound.numbered r old hold).2
    omega

end Accounted

/-! ## Statements -/

variable {now : Timestamp} {r : Relation}

theorem accounted_insert (db : Database) (e : Entry r) :
    Accounted report db (db.insert now e).2 := by
  refine ⟨sequence_le_insert db now e, ?_⟩
  obtain ⟨-, ⟨failure, -, -, hcontents⟩ | ⟨row, -, rfl, -, hcontents⟩⟩ :=
    insert_cases (Prod.eta (db.insert now e)).symm
  · rw [hcontents]
    exact fun _ _ hrow => .inl hrow
  rw [hcontents]
  refine PerRelation.get_set_cases (P := fun q (rows : List (Row q)) => ∀ row ∈ rows,
    row ∈ db.contents.get q ∨ ⟨⟨q, row.origin⟩, .updated⟩ ∈ report ∨
      db.sequences.get q ≤ row.id) (fun row hrow => ?_) fun _ _ _ hrow => .inl hrow
  rcases List.mem_append.1 hrow with hrow | hrow
  · exact .inl hrow
  · obtain rfl := List.mem_singleton.1 hrow
    exact .inr (.inr (Int.le_refl _))

/-- An update that writes a row with a known origin is accounted for if it is reported. -/
theorem accounted_update {which : Row r → Bool} {change : Settings r → Settings r}
    {written : Option (Row r)} {contents : Contents} {origin : Origin r}
    (h : before.contents.update now which change = .ok (written, contents))
    (hwhich : ∀ row, which row = true → row.origin = origin)
    (hreported : written ≠ none → ⟨⟨r, origin⟩, .updated⟩ ∈ report) :
    Accounted report before { before with contents := contents } := by
  rcases Contents.update_cases h with ⟨rfl, rfl⟩ | ⟨row, new, hfind, rfl, hnew, -, hcontents⟩
  · exact .refl before
  have horigin : new.origin = origin := by
    rw [hnew]
    exact hwhich row (List.find?_some hfind)
  refine ⟨fun _ => Int.le_refl _, ?_⟩
  rw [hcontents]
  refine PerRelation.get_set_cases (P := fun q (rows : List (Row q)) => ∀ row ∈ rows,
    row ∈ before.contents.get q ∨ ⟨⟨q, row.origin⟩, .updated⟩ ∈ report ∨
      before.sequences.get q ≤ row.id) (fun other hother => ?_) fun _ _ _ hrow => .inl hrow
  obtain ⟨old, hold, rfl⟩ := List.mem_map.1 hother
  split
  next => exact .inr (.inl (horigin ▸ hreported (Option.some_ne_none _)))
  next => exact .inl hold

theorem Write.accounted {statement : Statement} (h : Write now statement before after)
    (hinsert : statement.IsInsert) : Accounted [] before after := by
  cases h with
  | insert => exact accounted_insert before _
  | lose => exact .of_subset (sequence_le_insert before now _) fun _ => List.Subset.refl _
  | update => exact hinsert.elim
  | delete => exact hinsert.elim

/-- Inserts change none of the rows that are there. -/
theorem Evolution.accounted (h : Evolution now Statement.IsInsert before after) :
    Accounted report before after := by
  have hunreported : Accounted [] before after := by
    induction h with
    | refl db => exact .refl db
    | write hinsert hwrite => exact hwrite.accounted hinsert
    | trans _ _ ihfirst ihsecond => exact ihfirst.trans ihsecond
    | undo _ ih => exact .of_subset ih.drawn fun _ => List.Subset.refl _
  exact hunreported.mono (List.nil_subset _)

end Database

open Database (Accounted)
open Statement (AllowsInsert)

variable {env : Environment} {before after : Progress}

/-! ## Merges -/

theorem allowsInsert_isInsert {r : Relation} {e : Entry r} : AllowsInsert Statement.IsInsert e :=
  fun _ _ => trivial

namespace Script

variable {α : Type} {r : Relation}

/-- A row that is merged changes if that is reported, and no other row changes. -/
theorem accounted_of_insertOrChange [Storable α] {e : Entry r} {params : α}
    {which : α → Row r → Bool} {change : α → Settings r → Settings r} {outcome : Merge}
    (h : insertOrChange e params which change env before = .ok outcome after)
    (hwhich : ∀ kept, stored? params = some kept →
      ∀ row, which kept row = true → row.origin = e.origin) :
    Accounted [⟨⟨r, e.origin⟩, outcome⟩] before.database after.database := by
  obtain ⟨kept, -, ⟨hfree, -, rfl⟩ | ⟨name, detail, hrefused, hconflict⟩⟩ := of_insertOr_eq_ok h
  · have hinserted : Accounted [⟨⟨r, e.origin⟩, outcome⟩] before.database
        (before.database.insert env.now kept).2 := Database.accounted_insert before.database kept
    rwa [Database.insert_of_refusal? hfree] at hinserted
  have hdrawn := Database.sequence_le_insert before.database env.now kept
  rw [Database.insert_of_refusal?_eq_some hrefused] at hdrawn
  have hrest : Accounted [] before.database (before.database.draw r).2 :=
    .of_subset hdrawn fun _ => List.Subset.refl _
  obtain ⟨written, middle, hupdate, hdone⟩ := of_bind_eq_ok hconflict
  obtain ⟨params, contents, hparams, hwritten, rfl⟩ := of_update_eq_ok hupdate
  have hreported : written ≠ none →
      (⟨⟨r, e.origin⟩, .updated⟩ : Verdict) ∈ [(⟨⟨r, e.origin⟩, outcome⟩ : Verdict)] := by
    intro hsome
    cases written with
    | none => exact absurd rfl hsome
    | some row =>
      cases hdone
      exact List.mem_cons_self
  have hall := hrest.trans
    (Database.accounted_update hwritten (hwhich params hparams) hreported)
  cases written <;> cases hdone <;> exact hall

theorem accounted_of_insertNew {e : Entry r} {outcome : Merge}
    (h : insertNew e env before = .ok outcome after) {report : List Verdict} :
    Accounted report before.database after.database :=
  (evolution_of_ok (within_insertNew allowsInsert_isInsert) h).accounted

/-- Items that are merged one after another are reported one after another. -/
theorem accounted_of_each {f : α → Script Merge} (key : α → (r : Relation) × Origin r)
    (hone : ∀ {a outcome before after}, f a env before = .ok outcome after →
      Accounted [⟨key a, outcome⟩] before.database after.database)
    {items : List α} {outcomes : List Merge} (h : each f items env before = .ok outcomes after) :
    ∃ report : List Verdict, report.map Verdict.row = items.map key ∧
      report.map Verdict.outcome = outcomes ∧ Accounted report before.database after.database := by
  induction items generalizing before outcomes with
  | nil =>
    cases h
    exact ⟨[], rfl, rfl, .refl _⟩
  | cons first rest ih =>
    obtain ⟨outcome, middle, hfirst, h⟩ := of_bind_eq_ok h
    obtain ⟨later, last, hrest, hdone⟩ := of_bind_eq_ok h
    cases hdone
    obtain ⟨report, hrows, rfl, haccounted⟩ := ih hrest
    refine ⟨⟨key first, outcome⟩ :: report, ?_, rfl, (hone hfirst).trans haccounted⟩
    rw [List.map_cons, List.map_cons, hrows]

end Script

theorem Links.accounted_of_merge {region controller priority : Int} {outcome : Merge}
    (h : merge region controller priority env before = .ok outcome after) :
    Accounted [⟨⟨.link, ⟨region, controller⟩⟩, outcome⟩] before.database after.database := by
  refine accounted_of_insertOrChange h fun kept hkept row hrow => ?_
  cases hkept
  exact of_decide_eq_true (Bool.and_eq_true_iff.1 hrow).1

namespace Grants

variable {on : Grantable} {object : Int}

theorem accounted_of_merge {identity : String} {access : Access} {outcome : Merge}
    (h : merge on object identity access env before = .ok outcome after) :
    Accounted [⟨⟨.grant on, ⟨object, identity⟩⟩, outcome⟩] before.database after.database := by
  have hnul := isNulFree_of_merge_eq_ok h
  obtain ⟨_, middle, hensure, hmerge⟩ := of_bind_eq_ok h
  have hensured : Accounted [] before.database middle.database :=
    (evolution_of_ok (Identities.ensure_within allowsInsert_isInsert) hensure).accounted
  refine hensured.trans (accounted_of_insertOrChange hmerge fun kept hkept row hrow => ?_)
  obtain rfl := Option.some.inj ((stored?_level hnul object access).symm.trans hkept)
  exact of_decide_eq_true (Bool.and_eq_true_iff.1 hrow).1

theorem accounted_of_mergeReports {reports : List GrantReport} {outcomes : List Merge}
    (h : mergeReports on object reports env before = .ok outcomes after) :
    ∃ report : List Verdict,
      report.map Verdict.row =
        reports.map (fun one => ⟨.grant on, ⟨object, one.identity⟩⟩) ∧
      report.map Verdict.outcome = outcomes ∧ Accounted report before.database after.database :=
  accounted_of_each (fun one : GrantReport => ⟨.grant on, ⟨object, one.identity⟩⟩)
    accounted_of_merge h

end Grants

/-! ## Operations -/

/-- The rows that an operation merges, in the order in which it reports them. -/
def Operation.merged? (c : Contents) : Operation → Option (List ((r : Relation) × Origin r))
  | .assignPriority region controller _ => do
    let region ← c.regionRow? region
    let controller ← c.controllerRow? controller
    return [⟨.link, ⟨region.id, controller.id⟩⟩]
  | .reconcileCloud snapshot => do
    let cloud ← c.cloudRow? snapshot.cloud.name
    return ⟨.cloud, snapshot.cloud.name⟩ ::
      snapshot.cloud.regions.map (fun region => ⟨.region, ⟨snapshot.cloud.name, region.name⟩⟩) ++
      snapshot.grants.map fun report => ⟨.grant .cloud, ⟨cloud.id, report.identity⟩⟩
  | .reconcileCredential snapshot => do
    let credential ← c.credentialRow? snapshot.entry.origin
    return ⟨.credential, snapshot.entry.origin⟩ ::
      snapshot.grants.map fun report => ⟨.grant .credential, ⟨credential.id, report.identity⟩⟩
  | _ => none

/-- What a reply reports of the rows that were merged. -/
def Reply.report? : Reply → Option Tally
  | .merge outcome => some (Tally.ofList [outcome])
  | reply => reply.tally?

theorem Links.accounted_of_assign {region : RegionKey} {controller : ControllerKey}
    {priority : Int} {outcome : Merge}
    (h : assign region controller priority env before = .ok outcome after) :
    ∃ row, Operation.merged? after.database.contents
        (.assignPriority region controller priority) = some [row] ∧
      Accounted [⟨row, outcome⟩] before.database after.database := by
  obtain ⟨_, middle, hregion, hrest⟩ := of_bind_eq_ok h
  obtain ⟨found, hfound, rfl, rfl⟩ :=
    of_number_eq_ok Storable.isExact_regionKey (of_about_eq_ok hregion)
  obtain ⟨_, start, hcontroller, hmerge⟩ := of_bind_eq_ok hrest
  obtain ⟨other, hother, rfl, rfl⟩ :=
    of_number_eq_ok Storable.isExact_controllerKey (of_about_eq_ok hcontroller)
  have hspares : ∀ {q : Relation}, .link ≠ q →
      after.database.contents.get q = start.database.contents.get q := fun hq =>
    (evolution_of_ok
      (merge_within (allowsInsert_spares hq) (allowsUpdates_spares hq)) hmerge).get_eq
  have hregionRow : after.database.contents.regionRow? region = some found := by
    rw [Contents.regionRow?, hspares (q := .region) nofun]
    exact hfound
  have hcontrollerRow : after.database.contents.controllerRow? controller = some other := by
    rw [← hother]
    cases controller <;> rw [Contents.controllerRow?, hspares (q := .controller) nofun] <;> rfl
  refine ⟨⟨.link, ⟨found.id, other.id⟩⟩, ?_, accounted_of_merge hmerge⟩
  rw [Operation.merged?, hregionRow, hcontrollerRow]
  rfl

theorem Clouds.accounted_of_reconcile {snapshot : Cloud.Snapshot} {merged : Merged Cloud}
    (h : reconcile snapshot env before = .ok merged after) :
    ∃ report : List Verdict, Operation.merged? after.database.contents (.reconcileCloud snapshot) =
        some (report.map Verdict.row) ∧
      Tally.ofList (report.map Verdict.outcome) = merged.tally ∧
      Accounted report before.database after.database := by
  obtain ⟨outcome, first, hcloud, h⟩ := of_bind_eq_ok (of_transaction_eq_ok h)
  obtain ⟨_, start, hid, h⟩ := of_bind_eq_ok h
  obtain ⟨_, middle, hregions, h⟩ := of_bind_eq_ok h
  obtain ⟨_, last, hgrants, h⟩ := of_bind_eq_ok h
  obtain ⟨cloud, done, hget, hdone⟩ := of_bind_eq_ok h
  cases hdone
  obtain ⟨-, -, -, rfl⟩ := of_queryOne_eq_ok (of_decoded_eq_ok hget).1
  obtain ⟨row, hrow, rfl, rfl⟩ := of_number_eq_ok Storable.isExact_text hid
  obtain ⟨regions, hregionRows, rfl, hregionsAccounted⟩ := accounted_of_each
    (fun region : Region.Draft => ⟨.region, ⟨snapshot.cloud.name, region.name⟩⟩)
    (fun hone => accounted_of_insertNew hone) hregions
  obtain ⟨grants, hgrantRows, rfl, hgrantsAccounted⟩ := Grants.accounted_of_mergeReports hgrants
  have hmiddle : middle.database.contents.get .cloud = start.database.contents.get .cloud :=
    (evolution_of_ok (within_each fun _ _ =>
      within_insertNew (allowsInsert_spares (by decide))) hregions).get_eq
  have hafter : after.database.contents.get .cloud = middle.database.contents.get .cloud :=
    (evolution_of_ok (Grants.mergeReports_spares (by decide) (by decide)) hgrants).get_eq
  have hfound : after.database.contents.cloudRow? snapshot.cloud.name = some row := by
    rw [Contents.cloudRow?, hafter, hmiddle]
    exact hrow
  refine ⟨⟨⟨.cloud, snapshot.cloud.name⟩, outcome⟩ :: (regions ++ grants), ?_, ?_, ?_⟩
  · rw [Operation.merged?, hfound, List.map_cons, List.map_append, hregionRows, hgrantRows]
    rfl
  · rw [List.map_cons, List.map_append]
    rfl
  · have hmerged : Accounted [⟨⟨.cloud, snapshot.cloud.name⟩, outcome⟩] before.database
        start.database := accounted_of_insertNew hcloud
    exact hmerged.trans (hregionsAccounted.trans hgrantsAccounted)

theorem Credentials.accounted_of_reconcile {snapshot : Credential.Snapshot}
    {merged : Merged Credential}
    (h : reconcile snapshot.entry snapshot.grants env before = .ok merged after) :
    ∃ report : List Verdict,
      Operation.merged? after.database.contents (.reconcileCredential snapshot) =
        some (report.map Verdict.row) ∧
      Tally.ofList (report.map Verdict.outcome) = merged.tally ∧
      Accounted report before.database after.database := by
  obtain ⟨_, first, hprepare, h⟩ := of_bind_eq_ok (of_transaction_eq_ok h)
  obtain ⟨outcome, second, hcredential, h⟩ := of_bind_eq_ok h
  obtain ⟨_, start, hid, h⟩ := of_bind_eq_ok h
  obtain ⟨_, last, hgrants, h⟩ := of_bind_eq_ok h
  obtain ⟨credential, done, hread, hdone⟩ := of_bind_eq_ok h
  cases hdone
  obtain ⟨-, -, -, rfl⟩ := of_queryOne_eq_ok hread
  obtain ⟨row, hrow, rfl, rfl⟩ := of_number_eq_ok Storable.isExact_credentialKey hid
  obtain ⟨grants, hgrantRows, rfl, hgrantsAccounted⟩ := Grants.accounted_of_mergeReports hgrants
  have hafter : after.database.contents.get .credential = start.database.contents.get .credential :=
    (evolution_of_ok (Grants.mergeReports_spares (by decide) (by decide)) hgrants).get_eq
  have hfound : after.database.contents.credentialRow? snapshot.entry.origin = some row := by
    rw [Contents.credentialRow?, hafter]
    exact hrow
  have hprepared : Accounted [] before.database first.database :=
    (evolution_of_ok (prepare_within allowsInsert_isInsert) hprepare).accounted
  have hmerged : Accounted [⟨⟨.credential, snapshot.entry.origin⟩, outcome⟩] first.database
      start.database := accounted_of_insertNew hcredential
  refine ⟨⟨⟨.credential, snapshot.entry.origin⟩, outcome⟩ :: grants, ?_, rfl,
    hprepared.trans (hmerged.trans hgrantsAccounted)⟩
  rw [Operation.merged?, hfound, List.map_cons, hgrantRows]
  rfl

/-- An operation that reports what became of rows accounts for all that it changed. -/
theorem Operation.accounted_of_report {op : Operation} {reply : Reply} {tally : Tally}
    (hrun : op.plan.script env before = .ok reply after) (hreport : reply.report? = some tally) :
    ∃ report : List Verdict,
      op.merged? after.database.contents = some (report.map Verdict.row) ∧
      Tally.ofList (report.map Verdict.outcome) = tally ∧
      Accounted report before.database after.database := by
  cases op with
  | assignPriority region controller priority =>
    obtain ⟨outcome, hassign, rfl⟩ := of_map_eq_ok hrun
    cases hreport
    obtain ⟨row, hmerged, haccounted⟩ := Links.accounted_of_assign hassign
    exact ⟨[⟨row, outcome⟩], hmerged, rfl, haccounted⟩
  | reconcileCloud snapshot =>
    obtain ⟨merged, hreconcile, rfl⟩ := of_map_eq_ok hrun
    cases hreport
    exact Clouds.accounted_of_reconcile hreconcile
  | reconcileCredential snapshot =>
    obtain ⟨merged, hreconcile, rfl⟩ := of_map_eq_ok hrun
    cases hreport
    exact Credentials.accounted_of_reconcile hreconcile
  | _ =>
    obtain ⟨_, -, rfl⟩ := of_map_eq_ok hrun
    cases hreport

end ControlPlane
