/-
What reports of grants come to.

Reports on an object are merged one after another.  Each creates the identity that it names if there
is none, and gives it the reported level: by a new grant, or in the grant that there is, which is
written only where its level differs.  `Reported` says what a list of reports makes of the rows,
old and new, and composes along the list; how often a grant was written is told by the reports that
differ from the level in force just before them (`differing`).
-/
import ControlPlane.Proofs.Admission
import ControlPlane.Proofs.Footprint
import ControlPlane.Proofs.Integrity
import ControlPlane.Proofs.Storable
import Mathlib.Data.List.Forall2

namespace ControlPlane

/-! ## Levels -/

/-- What is found last in a list is found in the rest of it, or it is the first. -/
theorem map_find?_reverse_cons {α β : Type} (p : α → Bool) (f : α → β) (a : α) (rest : List α) :
    ((a :: rest).reverse.find? p).map f =
      ((rest.reverse.find? p).map f).or (if p a = true then some (f a) else none) := by
  rw [List.reverse_cons, List.find?_append]
  cases rest.reverse.find? p with
  | some last => rfl
  | none =>
    by_cases h : p a = true
    · rw [if_pos h, List.find?_cons_of_pos h]
      rfl
    · rw [if_neg h, List.find?_cons_of_neg h]
      rfl

/-- The identity that a report is about, as it is stored. -/
def GrantReport.identity (report : GrantReport) : String :=
  IdentityName.sanitise report.identityName

/-- The level in the last report on an identity. -/
def lastReported? (reports : List GrantReport) (identity : String) : Option Access :=
  (reports.reverse.find? fun report => report.identity = identity).map fun report => report.access

/-- The levels in force after a report. -/
def levelsAfter (inForce : String → Option Access) (report : GrantReport) :
    String → Option Access :=
  Function.update inForce report.identity (some report.access)

/-- The reports that change the level of a grant, of those in force or of those that earlier reports
put in force. -/
def differing (inForce : String → Option Access) : List GrantReport → List GrantReport
  | [] => []
  | report :: rest =>
    let later := differing (levelsAfter inForce report) rest
    if inForce report.identity = none ∨ inForce report.identity = some report.access then later
    else report :: later

/-- The level that an identity is granted on an object. -/
def Contents.levelOn? (c : Contents) (on : Grantable) (object : Int) (identity : String) :
    Option Access :=
  ((c.get (.grant on)).find? fun row => row.origin = ⟨object, identity⟩).map
    fun row => row.settings.access

theorem lastReported?_nil (identity : String) : lastReported? [] identity = none := rfl

theorem lastReported?_cons (report : GrantReport) (rest : List GrantReport) (identity : String) :
    lastReported? (report :: rest) identity =
      (lastReported? rest identity).or
        (if report.identity = identity then some report.access else none) := by
  rw [lastReported?, map_find?_reverse_cons]
  simp only [decide_eq_true_eq]
  rfl

theorem lastReported?_eq_none {reports : List GrantReport} {identity : String} :
    lastReported? reports identity = none ↔ ∀ report ∈ reports, report.identity ≠ identity := by
  simp [lastReported?, List.find?_eq_none]

theorem differing_cons_of_same {inForce : String → Option Access} {report : GrantReport}
    (h : inForce report.identity = none ∨ inForce report.identity = some report.access)
    (rest : List GrantReport) :
    differing inForce (report :: rest) = differing (levelsAfter inForce report) rest :=
  if_pos h

theorem differing_cons_of_differs {inForce : String → Option Access} {report : GrantReport}
    {level : Access} (hlevel : inForce report.identity = some level) (hne : level ≠ report.access)
    (rest : List GrantReport) :
    differing inForce (report :: rest) = report :: differing (levelsAfter inForce report) rest := by
  refine if_neg ?_
  rw [hlevel, Option.some_inj]
  exact not_or.2 ⟨Option.some_ne_none level, hne⟩

theorem length_differing_cons (inForce : String → Option Access) (report : GrantReport)
    (rest : List GrantReport) :
    (differing inForce (report :: rest)).length =
      (differing inForce [report]).length +
        (differing (levelsAfter inForce report) rest).length := by
  by_cases h : inForce report.identity = none ∨ inForce report.identity = some report.access
  · rw [differing_cons_of_same h, differing_cons_of_same h, differing, List.length_nil,
      Nat.zero_add]
  · rw [differing, differing, if_neg h, if_neg h, differing, List.length_cons,
      List.length_singleton, Nat.add_comm]

/-- A report on one identity says nothing of the reports on another. -/
theorem mem_differing_cons_of_ne {inForce : String → Option Access} {report other : GrantReport}
    {rest : List GrantReport} (hne : report.identity ≠ other.identity) :
    other ∈ differing inForce (report :: rest) ↔
      other ∈ differing (levelsAfter inForce report) rest := by
  have hother : other ≠ report := fun heq => hne (congrArg GrantReport.identity heq.symm)
  rw [differing]
  split
  next => exact Iff.rfl
  next => exact List.mem_cons.trans (or_iff_right hother)

/-! ## What reports do to a grant -/

section

variable {on : Grantable} {object : Int} {now : Timestamp}

/-- A grant after a report on an object. -/
def Row.reported (object : Int) (now : Timestamp) (row : Row (.grant on)) (report : GrantReport) :
    Row (.grant on) :=
  if row.origin = ⟨object, report.identity⟩ ∧ row.settings.access ≠ report.access then
    { row with settings := { row.settings with access := report.access }, updatedAt := now }
  else row

/-- Whether a grant is what reports on an object make of another, where these levels are in force
before them. -/
structure Regranted (object : Int) (now : Timestamp) (inForce : String → Option Access)
    (reports : List GrantReport) (old new : Row (.grant on)) : Prop where
  id : new.id = old.id
  origin : new.origin = old.origin
  createdAt : new.createdAt = old.createdAt
  lastConnection : new.settings.lastConnection = old.settings.lastConnection
  elsewhere : old.origin.object ≠ object → new = old
  level : old.origin.object = object →
    new.settings.access = (lastReported? reports old.origin.identity).getD old.settings.access
  moved : old.origin.object = object →
    (∃ report ∈ differing inForce reports, report.identity = old.origin.identity) →
    new.updatedAt = now
  unmoved : (∀ report ∈ differing inForce reports, report.identity ≠ old.origin.identity) →
    new.updatedAt = old.updatedAt

theorem Row.reported_of_differs {row : Row (.grant on)} {report : GrantReport}
    (horigin : row.origin = ⟨object, report.identity⟩) (hne : row.settings.access ≠ report.access) :
    row.reported object now report =
      { row with settings := { row.settings with access := report.access }, updatedAt := now } :=
  if_pos ⟨horigin, hne⟩

theorem Row.reported_of_same {row : Row (.grant on)} {report : GrantReport}
    (h : row.origin = ⟨object, report.identity⟩ → row.settings.access = report.access) :
    row.reported object now report = row :=
  if_neg fun hdiffers => hdiffers.2 (h hdiffers.1)

/-- A report that leaves a grant alone leaves what further reports make of it. -/
theorem Regranted.cons_of_same {inForce : String → Option Access} {report : GrantReport}
    {rest : List GrantReport} {old new : Row (.grant on)}
    (h : Regranted object now (levelsAfter inForce report) rest old new)
    (hlevel : old.origin.object = object → inForce old.origin.identity = some old.settings.access)
    (hsame : old.origin = ⟨object, report.identity⟩ → old.settings.access = report.access) :
    Regranted object now inForce (report :: rest) old new := by
  -- The report is on another identity, or tells of the level in force.
  have hdiffering : old.origin.object = object → ∀ other : GrantReport,
      other.identity = old.origin.identity → (other ∈ differing inForce (report :: rest) ↔
        other ∈ differing (levelsAfter inForce report) rest) := by
    intro hobject other hother
    by_cases hreport : report.identity = old.origin.identity
    · have haccess := hsame (by rw [← hobject, hreport])
      rw [differing_cons_of_same (.inr _)]
      rw [hreport, hlevel hobject, haccess]
    · exact mem_differing_cons_of_ne fun heq => hreport (heq.trans hother)
  refine ⟨h.id, h.origin, h.createdAt, h.lastConnection, h.elsewhere, fun hobject => ?_,
    fun hobject hmoved => ?_, fun hunmoved => ?_⟩
  · rw [h.level hobject, lastReported?_cons]
    cases lastReported? rest old.origin.identity with
    | some level => rfl
    | none =>
      by_cases hreport : report.identity = old.origin.identity
      · rw [if_pos hreport, ← hsame (by rw [← hobject, hreport])]
        rfl
      · rw [if_neg hreport]
        rfl
  · obtain ⟨other, hmem, hother⟩ := hmoved
    exact h.moved hobject ⟨other, (hdiffering hobject other hother).1 hmem, hother⟩
  · by_cases hobject : old.origin.object = object
    · refine h.unmoved fun other hmem hother => ?_
      exact hunmoved other ((hdiffering hobject other hother).2 hmem) hother
    · rw [h.elsewhere hobject]

/-- A report that changes a grant is taken back only by further reports, and its time stays. -/
theorem Regranted.cons_of_differs {inForce : String → Option Access} {report : GrantReport}
    {rest : List GrantReport} {old new : Row (.grant on)}
    (horigin : old.origin = ⟨object, report.identity⟩) (hne : old.settings.access ≠ report.access)
    (hlevel : inForce report.identity = some old.settings.access)
    (h : Regranted object now (levelsAfter inForce report) rest
      (old.reported object now report) new) :
    Regranted object now inForce (report :: rest) old new := by
  rw [Row.reported_of_differs horigin hne] at h
  have hdiffering := differing_cons_of_differs hlevel hne rest
  have hidentity : report.identity = old.origin.identity := by rw [horigin]
  have hobject : old.origin.object = object := by rw [horigin]
  refine ⟨h.id, h.origin, h.createdAt, h.lastConnection, fun hother => absurd hobject hother,
    fun _ => ?_, fun _ _ => ?_, fun hunmoved => ?_⟩
  · rw [h.level hobject, lastReported?_cons, if_pos hidentity]
    cases lastReported? rest old.origin.identity <;> rfl
  · by_cases hlater : ∃ other ∈ differing (levelsAfter inForce report) rest,
        other.identity = old.origin.identity
    · exact h.moved hobject hlater
    · exact h.unmoved fun other hmem hother => hlater ⟨other, hmem, hother⟩
  · rw [hdiffering] at hunmoved
    exact absurd hidentity (hunmoved report List.mem_cons_self)

/-- Reports give a grant on their object the last level that they tell of it, and move the time of
its last change if one of them differs from the level in force. -/
theorem regranted_foldl (reports : List GrantReport) {inForce : String → Option Access}
    {row : Row (.grant on)}
    (hlevel : row.origin.object = object →
      inForce row.origin.identity = some row.settings.access) :
    Regranted object now inForce reports row (reports.foldl (Row.reported object now) row) := by
  induction reports generalizing inForce row with
  | nil => exact ⟨rfl, rfl, rfl, rfl, fun _ => rfl, fun _ => rfl, nofun, fun _ => rfl⟩
  | cons report rest ih =>
    rw [List.foldl_cons]
    by_cases hdiffers :
        row.origin = ⟨object, report.identity⟩ ∧ row.settings.access ≠ report.access
    · obtain ⟨horigin, hne⟩ := hdiffers
      have hinForce : inForce report.identity = some row.settings.access := by
        have := hlevel (by rw [horigin])
        rwa [horigin] at this
      refine .cons_of_differs horigin hne hinForce (ih fun _ => ?_)
      rw [Row.reported_of_differs horigin hne]
      simp only [horigin, levelsAfter, Function.update_self]
    · have hsame : row.origin = ⟨object, report.identity⟩ →
          row.settings.access = report.access := fun horigin => by
        by_contra hne
        exact hdiffers ⟨horigin, hne⟩
      rw [Row.reported_of_same hsame]
      refine .cons_of_same (ih fun hobject => ?_) hlevel hsame
      by_cases hreport : row.origin.identity = report.identity
      · rw [levelsAfter, hreport, Function.update_self, hsame (by rw [← hobject, ← hreport])]
      · rw [levelsAfter, Function.update_of_ne hreport]
        exact hlevel hobject

theorem forall₂_regranted {reports : List GrantReport} {inForce : String → Option Access}
    {rows : List (Row (.grant on))}
    (hlevel : ∀ row ∈ rows, row.origin.object = object →
      inForce row.origin.identity = some row.settings.access) :
    List.Forall₂ (Regranted object now inForce reports) rows
      (rows.map fun row => reports.foldl (Row.reported object now) row) := by
  rw [List.forall₂_map_right_iff, List.forall₂_same]
  exact fun row hrow => regranted_foldl reports (hlevel row hrow)

theorem Row.origin_foldl_reported (reports : List GrantReport) (row : Row (.grant on)) :
    (reports.foldl (Row.reported object now) row).origin = row.origin :=
  have h : Regranted object now (fun _ => some row.settings.access) reports row _ :=
    regranted_foldl reports fun _ => rfl
  h.origin

end

/-! ## What reports do to the rows -/

/-- Whether a grant is one that reports on an object add now. -/
structure Row.IsGrantedBy {on : Grantable} (object : Int) (now : Timestamp)
    (reports : List GrantReport) (row : Row (.grant on)) : Prop where
  object : row.origin.object = object
  level : lastReported? reports row.origin.identity = some row.settings.access
  lastConnection : row.settings.lastConnection = none
  createdAt : row.createdAt = now
  updatedAt : row.updatedAt = now

/-- What reports on an object make of the rows: the identities that they add, with this access to
all controllers, the grants that they change, and those that they add. -/
structure Reported {on : Grantable} (object : Int) (now : Timestamp) (access : Access)
    (reports : List GrantReport) (before after : Contents) (identities : List (Row .identity))
    (grants : List (Row (.grant on))) : Prop where
  others : ∀ r, r ≠ .identity → r ≠ .grant on → after.get r = before.get r
  identity : after.get .identity = before.get .identity ++ identities
  named : Admitted now (reports.map fun report => Identities.firstEntry report.identity access)
    (before.get .identity) identities
  grant : after.get (.grant on) =
    (before.get (.grant on)).map (fun row => reports.foldl (Row.reported object now) row) ++ grants
  granted : ∀ row ∈ grants, row.IsGrantedBy object now reports
  absent : ∀ row ∈ grants, ∀ old ∈ before.get (.grant on), old.origin ≠ row.origin
  distinct : grants.Pairwise fun a b => a.origin ≠ b.origin
  covers : ∀ report ∈ reports, ∃ row ∈ after.get (.grant on),
    row.origin = ⟨object, report.identity⟩

/-- Whether grants are what one report adds to others: nothing where its identity has a grant on the
object, and one grant where it has none. -/
def AddedBy {on : Grantable} (object : Int) (now : Timestamp) (report : GrantReport)
    (rows added : List (Row (.grant on))) : Prop :=
  (added = [] ∧ ∃ row ∈ rows, row.origin = ⟨object, report.identity⟩) ∨
    ∃ row, added = [row] ∧ row.origin = ⟨object, report.identity⟩ ∧
      row.IsGrantedBy object now [report] ∧ ∀ old ∈ rows, old.origin ≠ ⟨object, report.identity⟩

theorem lastReported?_singleton (report : GrantReport) (identity : String) :
    lastReported? [report] identity =
      if report.identity = identity then some report.access else none := by
  rw [lastReported?_cons, lastReported?_nil, Option.none_or]

theorem Row.IsGrantedBy.cons {on : Grantable} {object : Int} {now : Timestamp}
    {report : GrantReport} {rest : List GrantReport} {row : Row (.grant on)}
    (h : row.IsGrantedBy object now rest) : row.IsGrantedBy object now (report :: rest) where
  object := h.object
  level := by rw [lastReported?_cons, h.level, Option.some_or]
  lastConnection := h.lastConnection
  createdAt := h.createdAt
  updatedAt := h.updatedAt

namespace Reported

variable {on : Grantable} {object : Int} {now : Timestamp} {access : Access}
  {reports rest : List GrantReport} {report : GrantReport} {before middle after : Contents}
  {identities identities' : List (Row .identity)} {grants grants' : List (Row (.grant on))}

theorem nil (c : Contents) :
    Reported object now access [] c c [] ([] : List (Row (.grant on))) where
  others _ _ _ := rfl
  identity := (List.append_nil _).symm
  named := .nil _
  grant := by rw [List.append_nil]; exact (List.map_id _).symm
  granted := nofun
  absent := nofun
  distinct := .nil
  covers := nofun

/-- What one report makes of the rows, its identity first. -/
theorem of_report (hmiddle : middle = before.set .identity (before.get .identity ++ identities))
    (hnamed : Admitted now [Identities.firstEntry report.identity access] (before.get .identity)
      identities)
    (hafter : after = middle.set (.grant on)
      (((middle.get (.grant on)).map fun row => row.reported object now report) ++ grants))
    (hgrants : AddedBy object now report (middle.get (.grant on)) grants) :
    Reported object now access [report] before after identities grants := by
  have hne := Relation.grant_ne_identity on
  have hgrant : middle.get (.grant on) = before.get (.grant on) := by
    rw [hmiddle, PerRelation.get_set_of_ne _ _ hne]
  have hrows : after.get (.grant on) =
      ((before.get (.grant on)).map fun row => row.reported object now report) ++ grants := by
    rw [hafter, PerRelation.get_set_self, hgrant]
  rw [hgrant] at hgrants
  refine ⟨fun r hidentity hother => ?_, ?_, hnamed, hrows, ?_, ?_, ?_, fun other hother => ?_⟩
  · rw [hafter, PerRelation.get_set_of_ne _ _ hother, hmiddle,
      PerRelation.get_set_of_ne _ _ hidentity]
  · rw [hafter, PerRelation.get_set_of_ne _ _ hne.symm, hmiddle, PerRelation.get_set_self]
  · rcases hgrants with ⟨rfl, -⟩ | ⟨row, rfl, -, hgranted, -⟩
    · exact nofun
    · intro other hother
      rwa [List.mem_singleton.1 hother]
  · rcases hgrants with ⟨rfl, -⟩ | ⟨row, rfl, horigin, -, habsent⟩
    · exact nofun
    · intro other hother
      rwa [List.mem_singleton.1 hother, horigin]
  · rcases hgrants with ⟨rfl, -⟩ | ⟨row, rfl, -⟩
    · exact .nil
    · exact List.pairwise_singleton _ _
  · obtain rfl := List.mem_singleton.1 hother
    rw [hrows]
    rcases hgrants with ⟨-, row, hrow, horigin⟩ | ⟨row, rfl, horigin, -⟩
    · refine ⟨row.reported object now other, List.mem_append_left _ (List.mem_map_of_mem hrow), ?_⟩
      exact (Row.origin_foldl_reported [other] row).trans horigin
    · exact ⟨row, List.mem_append_right _ List.mem_cons_self, horigin⟩

/-- The level after reports is the last one reported, or the one before. -/
theorem levelOn?_eq (h : Reported object now access reports before after identities grants)
    (identity : String) : after.levelOn? on object identity =
      (lastReported? reports identity).or (before.levelOn? on object identity) := by
  have hcomp : ((fun row => decide (row.origin = (⟨object, identity⟩ : Grant.Origin))) ∘
      fun row : Row (.grant on) => reports.foldl (Row.reported object now) row) =
      fun row => decide (row.origin = (⟨object, identity⟩ : Grant.Origin)) := by
    funext row
    rw [Function.comp, Row.origin_foldl_reported]
  rw [Contents.levelOn?, Contents.levelOn?, h.grant, List.find?_append, List.find?_map, hcomp]
  cases hold : (before.get (.grant on)).find? fun row => row.origin = ⟨object, identity⟩ with
  | some row =>
    have horigin : row.origin = ⟨object, identity⟩ := by simpa using List.find?_some hold
    have hregranted : Regranted object now (fun _ => some row.settings.access) reports row _ :=
      regranted_foldl reports fun _ => rfl
    have hlevel := hregranted.level (by rw [horigin])
    rw [horigin] at hlevel
    rw [Option.map_some, Option.some_or, Option.map_some, Option.map_some, hlevel]
    cases lastReported? reports identity <;> rfl
  | none =>
    rw [Option.map_none, Option.none_or, Option.map_none, Option.or_none]
    cases hnew : grants.find? fun row => row.origin = ⟨object, identity⟩ with
    | some row =>
      have horigin : row.origin = ⟨object, identity⟩ := by simpa using List.find?_some hnew
      have hlevel := (h.granted row (List.mem_of_find?_eq_some hnew)).level
      rw [horigin] at hlevel
      exact hlevel.symm
    | none =>
      symm
      refine lastReported?_eq_none.2 fun report hreport heq => ?_
      -- A report would have left a grant, old or new.
      obtain ⟨row, hrow, horigin⟩ := h.covers report hreport
      rw [heq] at horigin
      rw [h.grant] at hrow
      rcases List.mem_append.1 hrow with hrow | hrow
      · obtain ⟨old, hmem, rfl⟩ := List.mem_map.1 hrow
        rw [Row.origin_foldl_reported] at horigin
        exact List.find?_eq_none.1 hold old hmem (decide_eq_true horigin)
      · exact List.find?_eq_none.1 hnew row hrow (decide_eq_true horigin)

theorem levelsAfter_eq (h : Reported object now access [report] before after identities grants) :
    after.levelOn? on object = levelsAfter (before.levelOn? on object) report := by
  funext identity
  rw [h.levelOn?_eq, lastReported?_singleton, levelsAfter]
  by_cases hidentity : report.identity = identity
  · rw [if_pos hidentity, hidentity, Function.update_self]
    rfl
  · rw [if_neg hidentity, Function.update_of_ne (Ne.symm hidentity)]
    rfl

/-- Further reports leave the grants that a report added, but for what they tell of them. -/
theorem isGrantedBy_foldl {row : Row (.grant on)} (h : row.IsGrantedBy object now [report]) :
    Row.IsGrantedBy object now (report :: rest) (rest.foldl (Row.reported object now) row) := by
  have hregranted : Regranted object now (fun _ => some row.settings.access) rest row _ :=
    regranted_foldl rest fun _ => rfl
  have hlevel := h.level
  rw [lastReported?_singleton] at hlevel
  refine ⟨?_, ?_, hregranted.lastConnection.trans h.lastConnection,
    hregranted.createdAt.trans h.createdAt, ?_⟩
  · rw [hregranted.origin]
    exact h.object
  · rw [hregranted.origin, hregranted.level h.object, lastReported?_cons, hlevel]
    cases lastReported? rest row.origin.identity <;> rfl
  · by_cases hmoved : ∃ other ∈ differing (fun _ => some row.settings.access) rest,
        other.identity = row.origin.identity
    · exact hregranted.moved h.object hmoved
    · rw [hregranted.unmoved fun other hmem heq => hmoved ⟨other, hmem, heq⟩]
      exact h.updatedAt

/-- What a report makes of the rows, and what further reports make of that. -/
theorem cons (h : Reported object now access [report] before middle identities grants)
    (h' : Reported object now access rest middle after identities' grants') :
    Reported object now access (report :: rest) before after (identities ++ identities')
      (grants.map (fun row => rest.foldl (Row.reported object now) row) ++ grants') where
  others r hidentity hgrant := (h'.others r hidentity hgrant).trans (h.others r hidentity hgrant)
  identity := by rw [h'.identity, h.identity, List.append_assoc]
  named := by
    have hlater := h'.named
    rw [h.identity] at hlater
    exact h.named.append hlater
  grant := by
    rw [h'.grant, h.grant, List.map_append, List.map_map, List.append_assoc]
    rfl
  granted row hrow := by
    rcases List.mem_append.1 hrow with hrow | hrow
    · obtain ⟨first, hfirst, rfl⟩ := List.mem_map.1 hrow
      exact isGrantedBy_foldl (h.granted first hfirst)
    · exact (h'.granted row hrow).cons
  absent row hrow old hold := by
    rcases List.mem_append.1 hrow with hrow | hrow
    · obtain ⟨first, hfirst, rfl⟩ := List.mem_map.1 hrow
      rw [Row.origin_foldl_reported]
      exact h.absent first hfirst old hold
    · have hmiddle := h'.absent row hrow ([report].foldl (Row.reported object now) old) (by
        rw [h.grant]
        exact List.mem_append_left _ (List.mem_map_of_mem hold))
      rwa [Row.origin_foldl_reported] at hmiddle
  distinct := by
    refine List.pairwise_append.2 ⟨List.pairwise_map.2 (h.distinct.imp ?_), h'.distinct, ?_⟩
    · intro a b hne
      rwa [Row.origin_foldl_reported, Row.origin_foldl_reported]
    · intro a ha b hb
      obtain ⟨first, hfirst, rfl⟩ := List.mem_map.1 ha
      rw [Row.origin_foldl_reported]
      refine h'.absent b hb first ?_
      rw [h.grant]
      exact List.mem_append_right _ hfirst
  covers other hother := by
    rcases List.mem_cons.1 hother with rfl | hother
    · obtain ⟨row, hrow, horigin⟩ := h.covers other List.mem_cons_self
      refine ⟨rest.foldl (Row.reported object now) row, ?_, ?_⟩
      · rw [h'.grant]
        exact List.mem_append_left _ (List.mem_map_of_mem hrow)
      · rw [Row.origin_foldl_reported, horigin]
    · exact h'.covers other hother

end Reported
end ControlPlane
