/-
Granting what reports tell.

A report whose identity has a grant on the object updates it (`Contents.updateByReport`), and only
where the level differs; otherwise it adds one.  From the run of one report follows by induction the
run of a list of them: it succeeds as long as the object is there, and comes to what `Reported` says
of the rows.
-/
import ControlPlane.Proofs.Reports

namespace ControlPlane

namespace Contents

variable {r : Relation} {c : Contents}

section

variable {on : Grantable} {object : Int} {report : GrantReport} {row : Row (.grant on)}

/-- The update that merges a report into the grant that it is about. -/
def updateByReport (c : Contents) (on : Grantable) (object : Int) (now : Timestamp)
    (report : GrantReport) : Except Failure (Option (Row (.grant on)) × Contents) :=
  c.update now
    (fun row => row.origin = ⟨object, report.identity⟩ && row.settings.access ≠ report.access)
    (fun settings => { settings with access := report.access })

/-- A level that is in force is not written again. -/
theorem updateByReport_of_same (hunique : c.Unique) (hrow : row ∈ c.get (.grant on))
    (horigin : row.origin = ⟨object, report.identity⟩)
    (hlevel : row.settings.access = report.access) (now : Timestamp) :
    c.updateByReport on object now report = .ok (none, c.set (.grant on)
      ((c.get (.grant on)).map fun row => row.reported object now report)) := by
  have hsame : ∀ other ∈ c.get (.grant on), other.origin = ⟨object, report.identity⟩ →
      other.settings.access = report.access := by
    intro other hother hother'
    rw [hunique.eq_of_origin (Relation.grant_isKeyed on) hother hrow (hother'.trans horigin.symm)]
    exact hlevel
  have hfind : (c.get (.grant on)).find? (fun row : Row (.grant on) =>
      row.origin = ⟨object, report.identity⟩ && row.settings.access ≠ report.access) = none := by
    refine List.find?_eq_none.2 fun other hother hwhich => ?_
    rw [Bool.and_eq_true_iff, decide_eq_true_iff, decide_eq_true_iff] at hwhich
    exact hwhich.2 (hsame other hother hwhich.1)
  have hmap : ((c.get (.grant on)).map fun row => row.reported object now report) =
      c.get (.grant on) :=
    (List.map_congr_left fun other hother => Row.reported_of_same (hsame other hother)).trans
      (List.map_id _)
  rw [updateByReport, update, hfind, hmap, PerRelation.set_get_self]

/-- Another level is written, into the grant that the report is about and no other. -/
theorem updateByReport_of_differs (hunique : c.Unique) (hclosed : c.Closed) (hdistinct : c.Distinct)
    (hrow : row ∈ c.get (.grant on)) (horigin : row.origin = ⟨object, report.identity⟩)
    (hlevel : row.settings.access ≠ report.access) (now : Timestamp) :
    ∃ written, c.updateByReport on object now report = .ok (some written, c.set (.grant on)
      ((c.get (.grant on)).map fun row => row.reported object now report)) := by
  have hkeyed := Relation.grant_isKeyed on
  have honly : ∀ other ∈ c.get (.grant on), other.origin = ⟨object, report.identity⟩ →
      other = row := fun other hother hother' =>
    hunique.eq_of_origin hkeyed hother hrow (hother'.trans horigin.symm)
  have hfind : (c.get (.grant on)).find? (fun row : Row (.grant on) =>
      row.origin = ⟨object, report.identity⟩ && row.settings.access ≠ report.access) =
        some row := by
    cases hfound : (c.get (.grant on)).find? fun row : Row (.grant on) =>
        row.origin = ⟨object, report.identity⟩ && row.settings.access ≠ report.access with
    | none =>
      refine absurd ?_ (List.find?_eq_none.1 hfound row hrow)
      rw [Bool.and_eq_true_iff, decide_eq_true_iff, decide_eq_true_iff]
      exact ⟨horigin, hlevel⟩
    | some other =>
      have hwhich := List.find?_some hfound
      rw [Bool.and_eq_true_iff, decide_eq_true_iff] at hwhich
      rw [honly other (List.mem_of_find?_eq_some hfound) hwhich.1]
  let new : Row (.grant on) :=
    { row with settings := { row.settings with access := report.access }, updatedAt := now }
  have hmap : ((c.get (.grant on)).map fun other => if other.id = row.id then new else other) =
      (c.get (.grant on)).map fun row => row.reported object now report := by
    refine List.map_congr_left fun other hother => ?_
    by_cases hid : other.id = row.id
    · obtain rfl := hdistinct.eq hother hrow hid
      rw [if_pos rfl, Row.reported_of_differs horigin hlevel]
    · rw [if_neg hid, Row.reported_of_same]
      exact fun hsame => absurd (congrArg Row.id (honly other hother hsame)) hid
  refine ⟨new, ?_⟩
  rw [updateByReport, update_ok hunique hclosed hkeyed nofun hfind, ← hmap]
  rfl

end

/-! ## Levels in force -/

theorem levelOn?_of_mem (hunique : c.Unique) {on : Grantable} {object : Int} {identity : String}
    {row : Row (.grant on)} (hrow : row ∈ c.get (.grant on))
    (horigin : row.origin = ⟨object, identity⟩) :
    c.levelOn? on object identity = some row.settings.access := by
  rw [levelOn?]
  cases hfound : (c.get (.grant on)).find? fun row => row.origin = ⟨object, identity⟩ with
  | none => exact absurd (decide_eq_true horigin) (List.find?_eq_none.1 hfound row hrow)
  | some other =>
    have hother : other.origin = ⟨object, identity⟩ := by simpa using List.find?_some hfound
    rw [hunique.eq_of_origin (Relation.grant_isKeyed on) (List.mem_of_find?_eq_some hfound) hrow
      (hother.trans horigin.symm)]
    rfl

theorem levelOn?_of_notMem {on : Grantable} {object : Int} {identity : String}
    (hnew : ∀ row ∈ c.get (.grant on), row.origin ≠ ⟨object, identity⟩) :
    c.levelOn? on object identity = none := by
  rw [levelOn?, Option.map_eq_none_iff, List.find?_eq_none]
  intro row hrow hdecide
  exact hnew row hrow (of_decide_eq_true hdecide)

end Contents

/-! ## Runs of reports -/

namespace Grants

open Script

variable {on : Grantable} {object : Int} {env : Environment} {before : Progress}
  {report : GrantReport}

/-- The entry of the grant that a report adds. -/
def entryOf (on : Grantable) (object : Int) (report : GrantReport) : Entry (.grant on) :=
  ⟨⟨object, report.identity⟩, ⟨report.access, none⟩⟩

/-- What is left of a report once the identity that it names is there. -/
def regrant (on : Grantable) (object : Int) (report : GrantReport) : Script Merge :=
  insertOrChange (entryOf on object report) (object, report.identity, report.access)
    (fun p row => row.origin = ⟨p.1, p.2.1⟩ && row.settings.access ≠ p.2.2)
    (fun p settings => { settings with access := p.2.2 })

theorem stored?_entryOf (hnul : Text.IsNulFree report.identity) :
    stored? (entryOf on object report) = some (entryOf on object report) :=
  Storable.stored?_grant hnul report.access

theorem stored?_level {identity : String} (hnul : Text.IsNulFree identity) (object : Int)
    (access : Access) : stored? (object, identity, access) = some (object, identity, access) := by
  have hobject : stored? object = some object := rfl
  have haccess : stored? access = some access := rfl
  exact Storable.stored?_pair hobject (Storable.stored?_pair (Storable.stored?_text hnul) haccess)

/-- The grants after a report whose identity has one. -/
theorem regrant_of_mem (hcalm : env.disturbance = none) (hnul : Text.IsNulFree report.identity)
    {row : Row (.grant on)} (hrow : row ∈ before.database.contents.get (.grant on))
    (horigin : row.origin = ⟨object, report.identity⟩) {written : Option (Row (.grant on))}
    {contents : Contents}
    (hupdate : before.database.contents.updateByReport on object env.now report =
      .ok (written, contents)) :
    ∃ after, regrant on object report env before =
        .ok (if written = none then .unchanged else .updated) after ∧
      after.database.contents = contents := by
  obtain ⟨name, detail, hinsert⟩ := Database.insert_of_mem (e := entryOf on object report)
    (Relation.grant_isKeyed on) hrow horigin env.now
  have hrun : update (object, report.identity, report.access)
      (fun p (row : Row (.grant on)) => row.origin = ⟨p.1, p.2.1⟩ && row.settings.access ≠ p.2.2)
      (fun p settings => { settings with access := p.2.2 }) env
      ⟨(before.database.draw (.grant on)).2, true⟩ =
        .ok written ⟨{ (before.database.draw (.grant on)).2 with contents := contents }, true⟩ :=
    update_ok hcalm (stored?_level hnul object report.access) hupdate
  refine ⟨⟨{ (before.database.draw (.grant on)).2 with contents := contents }, true⟩, ?_, rfl⟩
  rw [regrant, insertOrChange, insertOr_of_duplicate hcalm (stored?_entryOf hnul) hinsert,
    bind_ok hrun]
  cases written <;> rfl

/-- The grants after a report whose identity has none. -/
theorem regrant_of_notMem (hcalm : env.disturbance = none) (hnul : Text.IsNulFree report.identity)
    (hnew : ∀ row ∈ before.database.contents.get (.grant on),
      row.origin ≠ ⟨object, report.identity⟩)
    (hrefs : ∀ ref ∈ references (.grant on),
      before.database.contents.resolves ref (entryOf on object report) = true) :
    ∃ after, regrant on object report env before = .ok .inserted after ∧
      after.database.contents = before.database.contents.set (.grant on)
        (before.database.contents.get (.grant on) ++
          [before.database.nextRow env.now (entryOf on object report)]) :=
  ⟨_, insertOr_of_ok hcalm (stored?_entryOf hnul)
    (Database.insert_of_notMem (Relation.grant_isKeyed on) hnew hrefs) _, rfl⟩

/-- A report changes the grant of its identity or adds one, and is counted for that. -/
theorem regrant_ok (hcalm : env.disturbance = none) (hsound : before.database.Sound)
    (hnul : Text.IsNulFree report.identity)
    (hrefs : ∀ ref ∈ references (.grant on),
      before.database.contents.resolves ref (entryOf on object report) = true) :
    ∃ outcome after, ∃ grants : List (Row (.grant on)),
      regrant on object report env before = .ok outcome after ∧
        after.database.contents = before.database.contents.set (.grant on)
          (((before.database.contents.get (.grant on)).map fun row =>
            row.reported object env.now report) ++ grants) ∧
        AddedBy object env.now report (before.database.contents.get (.grant on)) grants ∧
        Merge.AmountTo [outcome] 1 grants.length
          (differing (before.database.contents.levelOn? on object) [report]).length := by
  by_cases hstored : ∃ row ∈ before.database.contents.get (.grant on),
      row.origin = ⟨object, report.identity⟩
  · obtain ⟨row, hrow, horigin⟩ := hstored
    have hforce := Contents.levelOn?_of_mem hsound.unique hrow horigin
    by_cases hlevel : row.settings.access = report.access
    · have hupdate :=
        Contents.updateByReport_of_same hsound.unique hrow horigin hlevel env.now
      obtain ⟨after, hrun, hafter⟩ := regrant_of_mem hcalm hnul hrow horigin hupdate
      refine ⟨_, after, [], hrun, ?_, .inl ⟨rfl, row, hrow, horigin⟩, ⟨rfl, rfl, ?_⟩⟩
      · rw [hafter, List.append_nil]
      · rw [differing_cons_of_same (.inr (hlevel ▸ hforce))]
        rfl
    · obtain ⟨written, hupdate⟩ := Contents.updateByReport_of_differs hsound.unique hsound.closed
        hsound.distinct hrow horigin hlevel env.now
      obtain ⟨after, hrun, hafter⟩ := regrant_of_mem hcalm hnul hrow horigin hupdate
      refine ⟨_, after, [], hrun, ?_, .inl ⟨rfl, row, hrow, horigin⟩, ⟨rfl, rfl, ?_⟩⟩
      · rw [hafter, List.append_nil]
      · rw [differing_cons_of_differs hforce hlevel]
        rfl
  · have hnew : ∀ row ∈ before.database.contents.get (.grant on),
        row.origin ≠ ⟨object, report.identity⟩ := fun row hrow heq => hstored ⟨row, hrow, heq⟩
    have hmap : ((before.database.contents.get (.grant on)).map fun row =>
        row.reported object env.now report) = before.database.contents.get (.grant on) :=
      (List.map_congr_left fun old hold =>
        Row.reported_of_same fun heq => absurd heq (hnew old hold)).trans (List.map_id _)
    obtain ⟨after, hrun, hafter⟩ := regrant_of_notMem hcalm hnul hnew hrefs
    let row := before.database.nextRow env.now (entryOf on object report)
    have hgranted : row.IsGrantedBy object env.now [report] :=
      ⟨rfl, (lastReported?_singleton _ _).trans (if_pos rfl), rfl, rfl, rfl⟩
    refine ⟨_, after, [row], hrun, ?_, .inr ⟨row, rfl, rfl, hgranted, hnew⟩, ⟨rfl, rfl, ?_⟩⟩
    · rw [hafter, hmap]
    · rw [differing_cons_of_same (.inl (Contents.levelOn?_of_notMem hnew))]
      rfl

/-- The references of a new grant lead to its object and to its identity. -/
theorem resolves_entryOf {c : Contents} (hobject : ∃ row ∈ c.get on.relation, row.id = object)
    (hidentity : ∃ row ∈ c.get .identity, row.origin = report.identity) :
    ∀ ref ∈ references (.grant on), c.resolves ref (entryOf on object report) = true := by
  intro ref href
  simp only [references, List.mem_cons, List.not_mem_nil, or_false] at href
  rcases href with rfl | rfl
  · obtain ⟨row, hrow, hid⟩ := hobject
    exact Contents.resolves_iff.2 ⟨row, hrow, decide_eq_true hid.symm⟩
  · obtain ⟨row, hrow, horigin⟩ := hidentity
    exact Contents.resolves_iff.2 ⟨row, hrow, decide_eq_true horigin.symm⟩

/-- A report is merged whatever is stored, as long as its object is there. -/
theorem merge_ok (hcalm : env.disturbance = none) (hsound : before.database.Sound)
    (hnul : Text.IsNulFree report.identity)
    (hobject : ∃ row ∈ before.database.contents.get on.relation, row.id = object) :
    ∃ outcome after identities, ∃ grants : List (Row (.grant on)),
      merge on object report.identity report.access env before = .ok outcome after ∧
        after.database.Sound ∧
        Reported object env.now env.defaultAccess [report] before.database.contents
          after.database.contents identities grants ∧
        Merge.AmountTo [outcome] 1 grants.length
          (differing (before.database.contents.levelOn? on object) [report]).length := by
  obtain ⟨first, middle, identities, hensure, hmiddleSound, hmiddle, hnamed⟩ :=
    Identities.ensure_ok hcalm hsound hnul
  have hothers : ∀ r, r ≠ .identity →
      middle.database.contents.get r = before.database.contents.get r := by
    intro r hr
    rw [hmiddle, PerRelation.get_set_of_ne _ _ hr]
  have hlevels : before.database.contents.levelOn? on object =
      middle.database.contents.levelOn? on object := by
    funext identity
    rw [Contents.levelOn?, Contents.levelOn?, hothers _ (Relation.grant_ne_identity on)]
  have hobject' : ∃ row ∈ middle.database.contents.get on.relation, row.id = object := by
    rw [hothers _ on.relation_ne_identity]
    exact hobject
  have hidentity : ∃ row ∈ middle.database.contents.get .identity,
      row.origin = report.identity := by
    rw [hmiddle, PerRelation.get_set_self]
    exact hnamed.covers _ List.mem_cons_self
  obtain ⟨outcome, after, grants, hrun, hafter, hgrants, hamount⟩ :=
    regrant_ok hcalm hmiddleSound hnul (resolves_entryOf hobject' hidentity)
  have hmerge : merge on object report.identity report.access env before =
      .ok outcome after := (bind_ok hensure _).trans hrun
  refine ⟨outcome, after, identities, grants, hmerge, ?_,
    .of_report hmiddle hnamed hafter hgrants, hlevels ▸ hamount⟩
  have hwithin : Within env (fun _ => True) (merge on object report.identity report.access) :=
    merge_within (fun _ _ => trivial) (fun _ _ => trivial) fun _ _ => trivial
  exact (evolution_of_ok hwithin hmerge).sound hsound

/-- Reports are merged one after another, whatever is stored, as long as their object is there. -/
theorem mergeReports_ok (hcalm : env.disturbance = none) (hsound : before.database.Sound)
    {reports : List GrantReport} (hnul : ∀ report ∈ reports, Text.IsNulFree report.identity)
    (hobject : ∃ row ∈ before.database.contents.get on.relation, row.id = object) :
    ∃ outcomes after identities, ∃ grants : List (Row (.grant on)),
      mergeReports on object reports env before = .ok outcomes after ∧
        after.database.Sound ∧
        Reported object env.now env.defaultAccess reports before.database.contents
          after.database.contents identities grants ∧
        Merge.AmountTo outcomes reports.length grants.length
          (differing (before.database.contents.levelOn? on object) reports).length := by
  induction reports generalizing before with
  | nil => exact ⟨[], before, [], [], rfl, hsound, .nil _, ⟨rfl, rfl, rfl⟩⟩
  | cons report rest ih =>
    obtain ⟨outcome, middle, identities, grants, hrun, hmiddleSound, hreported, hamount⟩ :=
      merge_ok hcalm hsound (hnul report List.mem_cons_self) hobject
    have hobject' : ∃ row ∈ middle.database.contents.get on.relation, row.id = object := by
      rw [hreported.others _ on.relation_ne_identity (on.relation_ne_grant on)]
      exact hobject
    obtain ⟨outcomes, after, identities', grants', hruns, hafterSound, hreported', hamounts⟩ :=
      ih hmiddleSound (fun other hother => hnul other (List.mem_cons_of_mem _ hother)) hobject'
    refine ⟨outcome :: outcomes, after, _, _, each_cons_ok hrun hruns, hafterSound,
      hreported.cons hreported', ?_⟩
    rw [List.length_cons, List.length_append, List.length_map, length_differing_cons,
      ← hreported.levelsAfter_eq, Nat.add_comm rest.length]
    exact hamount.append hamounts

end Grants
end ControlPlane
