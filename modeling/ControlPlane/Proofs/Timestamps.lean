/-
When rows were inserted and last written.

The clock of a session only goes forward, from one turn to the next, and what happens in one turn
happens at one time.  A turn leaves a row as it is or writes it, and what it writes has the time of
the turn (`Database.WrittenSince`).  So the rows of a session have times of turns that are over
(`Turn.DatedBy`), a row that differs after a turn has the time of that turn, and one that has the
time that it had before does not differ (`Deployment.updatedAt_witnesses`).
-/
import ControlPlane.Proofs.Accounting
import ControlPlane.Proofs.Updating
import Mathlib.Data.List.Induction

namespace ControlPlane

open Script

/-! ## The order of times -/

namespace Timestamp

variable {a b : Timestamp}

/-- Whether `a` is earlier than `b`. -/
def IsBefore (a b : Timestamp) : Prop := b.isAtMost a = false

theorem isAtMost_refl (a : Timestamp) : a.isAtMost a = true := by simp [isAtMost]

theorem IsBefore.isAtMost (h : a.IsBefore b) : a.isAtMost b = true := by
  simp only [IsBefore, Timestamp.isAtMost, Bool.or_eq_false_iff, Bool.and_eq_false_iff,
    decide_eq_false_iff_not, Bool.or_eq_true, Bool.and_eq_true, decide_eq_true_eq] at h ⊢
  omega

theorem IsBefore.ne (h : a.IsBefore b) : a ≠ b := by
  rintro rfl
  exact Bool.false_ne_true (h.symm.trans (isAtMost_refl a))

end Timestamp

/-! ## What is written at a time -/

namespace Database

variable {now : Timestamp} {earlier middle later : Database}

/-- Whether every row is as it was or was written now: inserted, or overwritten without a change to
when it was inserted. -/
def WrittenSince (now : Timestamp) (earlier later : Database) : Prop :=
  ∀ r, ∀ row ∈ later.contents.get r, row ∈ earlier.contents.get r ∨
    row.updatedAt = now ∧ (row.createdAt = now ∨
      ∃ old ∈ earlier.contents.get r, old.createdAt = row.createdAt)

namespace WrittenSince

theorem of_subset (h : ∀ r, later.contents.get r ⊆ earlier.contents.get r) :
    WrittenSince now earlier later :=
  fun r _ hrow => .inl (h r hrow)

theorem refl (db : Database) : WrittenSince now db db := of_subset fun _ => List.Subset.refl _

theorem trans (h : WrittenSince now earlier middle) (h' : WrittenSince now middle later) :
    WrittenSince now earlier later := by
  intro r row hrow
  rcases h' r row hrow with hmiddle | ⟨hupdated, hcreated | ⟨between, hbetween, hcreated⟩⟩
  · exact h r row hmiddle
  · exact .inr ⟨hupdated, .inl hcreated⟩
  rcases h r between hbetween with hold | ⟨-, hnow | ⟨old, hold, hsame⟩⟩
  · exact .inr ⟨hupdated, .inr ⟨between, hold, hcreated⟩⟩
  · exact .inr ⟨hupdated, .inl (hcreated.symm.trans hnow)⟩
  · exact .inr ⟨hupdated, .inr ⟨old, hold, hsame.trans hcreated⟩⟩

/-- A row that was there is as it was, or has the time at which it was written. -/
theorem updatedAt_of_ne (h : WrittenSince now earlier later) (hsound : earlier.Sound)
    {r : Relation} {old new : Row r} (hold : old ∈ earlier.contents.get r)
    (hnew : new ∈ later.contents.get r) (hid : new.id = old.id) (hne : new ≠ old) :
    new.updatedAt = now := by
  rcases h r new hnew with hbefore | ⟨hupdated, -⟩
  · exact absurd (hsound.distinct.eq hbefore hold hid) hne
  · exact hupdated

end WrittenSince

/-! ### Statements -/

variable {r : Relation}

theorem writtenSince_insert (db : Database) (e : Entry r) :
    WrittenSince now db (db.insert now e).2 := by
  obtain ⟨-, ⟨failure, -, -, hcontents⟩ | ⟨row, -, rfl, -, hcontents⟩⟩ :=
    insert_cases (Prod.eta (db.insert now e)).symm
  · refine .of_subset fun r => ?_
    rw [hcontents]
    exact List.Subset.refl _
  unfold WrittenSince
  rw [hcontents]
  refine PerRelation.get_set_cases (P := fun q (rows : List (Row q)) => ∀ row ∈ rows,
    row ∈ db.contents.get q ∨ row.updatedAt = now ∧ (row.createdAt = now ∨
      ∃ old ∈ db.contents.get q, old.createdAt = row.createdAt))
    (fun row hrow => ?_) fun _ _ _ hrow => .inl hrow
  rcases List.mem_append.1 hrow with hrow | hrow
  · exact .inl hrow
  · obtain rfl := List.mem_singleton.1 hrow
    exact .inr ⟨rfl, .inl rfl⟩

theorem writtenSince_update {db : Database} {which : Row r → Bool}
    {change : Settings r → Settings r} {written : Option (Row r)} {contents : Contents}
    (h : db.contents.update now which change = .ok (written, contents)) :
    WrittenSince now db { db with contents := contents } := by
  rcases Contents.update_cases h with ⟨-, rfl⟩ | ⟨row, new, hfind, -, hnew, -, hcontents⟩
  · exact .refl db
  unfold WrittenSince
  rw [hcontents]
  refine PerRelation.get_set_cases (P := fun q (rows : List (Row q)) => ∀ row ∈ rows,
    row ∈ db.contents.get q ∨ row.updatedAt = now ∧ (row.createdAt = now ∨
      ∃ old ∈ db.contents.get q, old.createdAt = row.createdAt))
    (fun other hother => ?_) fun _ _ _ hrow => .inl hrow
  obtain ⟨old, hold, rfl⟩ := List.mem_map.1 hother
  split
  next =>
    exact .inr ⟨by rw [hnew], .inr ⟨row, List.mem_of_find?_eq_some hfind, by rw [hnew]⟩⟩
  next => exact .inl hold

theorem Write.writtenSince {statement : Statement} (h : Write now statement earlier later) :
    WrittenSince now earlier later := by
  cases h with
  | insert => exact writtenSince_insert earlier _
  | lose => exact .of_subset fun _ => List.Subset.refl _
  | update hupdate => exact writtenSince_update hupdate
  | delete hdelete =>
    rcases Contents.delete_cases hdelete with ⟨-, rfl⟩ | ⟨-, hsublist, -⟩
    · exact .refl earlier
    · exact .of_subset fun r => (hsublist r).subset

theorem Evolution.writtenSince {allowed : Statement → Prop}
    (h : Evolution now allowed earlier later) : WrittenSince now earlier later := by
  induction h with
  | refl db => exact .refl db
  | write _ hwrite => exact hwrite.writtenSince
  | trans _ _ ihfirst ihsecond => exact ihfirst.trans ihsecond
  | undo => exact .of_subset fun _ => List.Subset.refl _

end Database

/-- A row that stays without a reset keeps its origin and the time of its insert. -/
theorem Database.Follows.kept {earlier later : Database} (h : later.Follows earlier)
    (hsound : earlier.Sound) {r : Relation} {old new : Row r} (hold : old ∈ earlier.contents.get r)
    (hnew : new ∈ later.contents.get r) (hid : new.id = old.id) :
    new.origin = old.origin ∧ new.createdAt = old.createdAt := by
  have hdrawn := (hsound.numbered r old hold).2
  obtain ⟨same, hsame, hnumber, horigin, hcreated⟩ := h.same r new hnew (hid ▸ hdrawn)
  obtain rfl := hsound.distinct.eq hsame hold (hnumber.trans hid)
  exact ⟨horigin.symm, hcreated.symm⟩

namespace Deployment

/-! ## Turns -/

/-- Whether a step happens at a time, if it is a call. -/
def Step.IsAt (now : Timestamp) : Step → Prop
  | .perform time _ _ => time = now
  | _ => True

/-- What happens at one time, one step after another. -/
structure Turn where
  time : Timestamp
  steps : List Step
  timely : ∀ step ∈ steps, step.IsAt time

/-- Whether the clock goes forward from each turn to the next. -/
def Chronological (turns : List Turn) : Prop :=
  turns.Pairwise fun earlier later => earlier.time.IsBefore later.time

/-- The deployment after several turns. -/
def play (dep : Deployment) (turns : List Turn) : Deployment :=
  dep.run (turns.flatMap Turn.steps)

theorem play_append (dep : Deployment) (past : List Turn) (turn : Turn) :
    dep.play (past ++ [turn]) = (dep.play past).run turn.steps := by
  rw [play, List.flatMap_append, run_append, List.flatMap_singleton]
  rfl

theorem writtenSince_after (dep : Deployment) {now : Timestamp} {step : Step} (h : step.IsAt now) :
    dep.server.database.WrittenSince now (dep.after step).server.database := by
  rcases database_after dep step with heq | ⟨-, heq⟩ | ⟨time, course, op, rfl, heq⟩
  · rw [heq]
    exact .refl _
  · rw [heq]
    exact .of_subset fun r => by simp [Database.empty]
  · obtain rfl : time = now := h
    rw [heq]
    exact (dep.store.perform_evolution time course op _).writtenSince

theorem writtenSince_run (dep : Deployment) {now : Timestamp} {steps : List Step}
    (h : ∀ step ∈ steps, step.IsAt now) :
    dep.server.database.WrittenSince now (dep.run steps).server.database := by
  induction steps generalizing dep with
  | nil => exact .refl _
  | cons step steps ih =>
    exact (dep.writtenSince_after (h step List.mem_cons_self)).trans
      (ih (dep.after step) fun step hstep => h step (List.mem_cons_of_mem _ hstep))

/-- Whether the times of all rows are those of turns, and no row was written before it was
inserted. -/
def DatedBy (turns : List Turn) (c : Contents) : Prop :=
  ∀ r, ∀ row ∈ c.get r, (∃ turn ∈ turns, turn.time = row.updatedAt) ∧
    (∃ turn ∈ turns, turn.time = row.createdAt) ∧ row.createdAt.isAtMost row.updatedAt = true

/-- One more turn, later than all that are over. -/
theorem DatedBy.append {past : List Turn} {turn : Turn} {before after : Database}
    (h : DatedBy past before.contents) (hwritten : before.WrittenSince turn.time after)
    (hlater : ∀ old ∈ past, old.time.IsBefore turn.time) :
    DatedBy (past ++ [turn]) after.contents := by
  have hthis : turn ∈ past ++ [turn] := List.mem_append_right _ List.mem_cons_self
  intro r row hrow
  rcases hwritten r row hrow with hold | ⟨hupdated, hcreated | ⟨old, hold, hcreated⟩⟩
  · obtain ⟨⟨one, hone, hupdated⟩, ⟨other, hother, hcreated⟩, horder⟩ := h r row hold
    exact ⟨⟨one, List.mem_append_left _ hone, hupdated⟩,
      ⟨other, List.mem_append_left _ hother, hcreated⟩, horder⟩
  · refine ⟨⟨turn, hthis, hupdated.symm⟩, ⟨turn, hthis, hcreated.symm⟩, ?_⟩
    rw [hupdated, hcreated]
    exact Timestamp.isAtMost_refl _
  · obtain ⟨-, ⟨other, hother, hsame⟩, -⟩ := h r old hold
    have htime : other.time = row.createdAt := hsame.trans hcreated
    refine ⟨⟨turn, hthis, hupdated.symm⟩, ⟨other, List.mem_append_left _ hother, htime⟩, ?_⟩
    rw [hupdated, ← htime]
    exact (hlater other hother).isAtMost

/-- The rows of a session have times of its turns. -/
theorem datedBy_play (settings : StoreSettings) {turns : List Turn} (h : Chronological turns) :
    DatedBy turns ((initial settings).play turns).server.database.contents := by
  induction turns using List.reverseRecOn with
  | nil =>
    intro r row hrow
    simp [play, run, initial, Server.empty, Database.empty] at hrow
  | append_singleton past turn ih =>
    obtain ⟨hpast, -, hlater⟩ := List.pairwise_append.1 h
    rw [play_append]
    exact (ih hpast).append (writtenSince_run _ turn.timely)
      fun old hold => hlater old hold turn List.mem_cons_self

theorem reachable_play (settings : StoreSettings) (turns : List Turn) :
    ((initial settings).play turns).Reachable := ⟨settings, _, rfl⟩

/-! ## Calls -/

/-- The rows that are stored of a relation. -/
def rows (dep : Deployment) (r : Relation) : List (Row r) := dep.server.database.contents.get r

namespace Reachable

variable {dep : Deployment} (hreachable : dep.Reachable)
include hreachable

/-- A call that reports what became of rows changes only those that it reports as updated. -/
theorem reported_of_perform {now : Timestamp} {course : Course} {op : Operation} {reply : Reply}
    {tally : Tally} (h : (dep.perform now course op).1 = .ok reply)
    (hreport : reply.report? = some tally) :
    let after := (dep.perform now course op).2
    ∃ report : List Verdict,
      op.merged? after.server.database.contents = some (report.map Verdict.row) ∧
      Tally.ofList (report.map Verdict.outcome) = tally ∧
      ∀ r, ∀ old ∈ dep.rows r, ∀ new ∈ after.rows r, new.id = old.id →
        ⟨⟨r, old.origin⟩, .updated⟩ ∉ report → new = old := by
  intro after
  obtain ⟨-, -, progress, hrun, hdatabase⟩ := Store.of_perform_eq_ok h
  obtain ⟨report, hrows, htally, haccounted⟩ := Operation.accounted_of_report hrun hreport
  have hfollows := (evolution_of_ok (op.within _) hrun).follows
  have hafter : after.server.database = progress.database :=
    (database_perform ..).trans hdatabase
  unfold rows
  rw [hafter]
  refine ⟨report, hrows, htally, fun r old hold new hnew hid hspared => ?_⟩
  have hkept := hfollows.kept hreachable.sound hold hnew hid
  exact haccounted.eq hreachable.sound hold hnew hid hkept.1 hspared

/-- An update leaves the rows of all other relations as they are, whether it succeeds or not. -/
theorem rows_of_revision {key : Key} {settings : Settings key.relation} (now : Timestamp)
    (course : Course) {r : Relation} (hr : r ≠ key.relation) :
    (dep.perform now course (key.revision settings)).2.rows r = dep.rows r := by
  cases hanswer : (dep.perform now course (key.revision settings)).1 with
  | error e =>
    rw [rows, database_perform, Store.contents_of_perform_error hanswer]
    rfl
  | ok reply =>
    obtain ⟨-, -, row, kept, entity, -, hoverwrites⟩ := hreachable.of_perform_revision hanswer
    exact hoverwrites.revised.others r hr

/-- A row that stays over a turn without a reset keeps what it is known by and when it was inserted,
and it has the time of the turn if anything else of it differs. -/
theorem kept_of_turn {turn : Turn} (hstays : dep.NeverResets turn.steps) {r : Relation}
    {old new : Row r} (hold : old ∈ dep.rows r) (hnew : new ∈ (dep.run turn.steps).rows r)
    (hid : new.id = old.id) :
    new.origin = old.origin ∧ new.createdAt = old.createdAt ∧
      (new ≠ old → new.updatedAt = turn.time) := by
  have hkept := (follows_run hstays).kept hreachable.sound hold hnew hid
  exact ⟨hkept.1, hkept.2,
    (dep.writtenSince_run turn.timely).updatedAt_of_ne hreachable.sound hold hnew hid⟩

end Reachable

/-! ## Times as witnesses -/

/-- Times witness every change.  Whatever a session has come to, a row that stays over a turn
without a reset keeps its origin and the time of its insert, and where it differs it has the time of
the turn; a call that merges rows leaves those alone that it does not report as updated, and an
update leaves the rows of other relations alone.  Where each turn is later than those before it, no
row was written before it was inserted, and a row that has the time that it had before a turn does
not differ after it. -/
theorem updatedAt_witnesses :
    (∀ dep : Deployment, dep.Reachable →
      (∀ turn : Turn, dep.NeverResets turn.steps →
        ∀ r, ∀ old ∈ dep.rows r, ∀ new ∈ (dep.run turn.steps).rows r, new.id = old.id →
          new.origin = old.origin ∧ new.createdAt = old.createdAt ∧
          (new ≠ old → new.updatedAt = turn.time)) ∧
      (∀ now course op reply tally,
        let call := dep.perform now course op
        call.1 = .ok reply → reply.report? = some tally →
        ∃ report : List Verdict,
          op.merged? call.2.server.database.contents = some (report.map Verdict.row) ∧
          Tally.ofList (report.map Verdict.outcome) = tally ∧
          ∀ r, ∀ old ∈ dep.rows r, ∀ new ∈ call.2.rows r, new.id = old.id →
            ⟨⟨r, old.origin⟩, .updated⟩ ∉ report → new = old) ∧
      ∀ now course (key : Key) (settings : Settings key.relation) r, r ≠ key.relation →
        (dep.perform now course (key.revision settings)).2.rows r = dep.rows r) ∧
    ∀ settings past turn, Chronological (past ++ [turn]) →
      let before := (initial settings).play past
      let after := before.run turn.steps
      (∀ r, ∀ row ∈ after.rows r, row.createdAt.isAtMost row.updatedAt = true) ∧
      (before.NeverResets turn.steps →
        ∀ r, ∀ old ∈ before.rows r, ∀ new ∈ after.rows r, new.id = old.id →
          new.updatedAt = old.updatedAt → new = old) := by
  refine ⟨fun dep hreachable => ⟨fun turn hstays r old hold new hnew => ?_,
    fun _ _ _ _ _ => hreachable.reported_of_perform,
    fun now course _ _ _ => hreachable.rows_of_revision now course⟩, ?_⟩
  · exact hreachable.kept_of_turn hstays hold hnew
  intro settings past turn h before after
  obtain ⟨hpast, -, hlater⟩ := List.pairwise_append.1 h
  refine ⟨fun r row hrow => ?_, fun hstays r old hold new hnew hid hsame => ?_⟩
  · have hall := datedBy_play settings h
    rw [play_append] at hall
    exact (hall r row hrow).2.2
  · obtain ⟨-, -, hchanged⟩ := (reachable_play settings past).kept_of_turn hstays hold hnew hid
    by_contra hne
    -- The old row has the time of an earlier turn.
    obtain ⟨⟨one, hone, htime⟩, -⟩ := datedBy_play settings hpast r old hold
    refine (hlater one hone turn List.mem_cons_self).ne ?_
    rw [htime, ← hsame, hchanged hne]

/-- A cloud is added, and a minute later it gets another provider.  It has the time of the update
then, which it had not before, and otherwise that of the insert; its region has not changed. -/
theorem updatedAt_witnesses_provider :
    let draft : Cloud.Draft :=
      ⟨"aws", ⟨"ec2", "", [], .none, [], .empty⟩, [⟨"west", .none, .empty⟩]⟩
    let adding : Turn := ⟨⟨0, 0⟩, [.migrate .undisturbed false,
      .perform ⟨0, 0⟩ .undisturbed (.addCloud draft)], by simp [Step.IsAt]⟩
    let updating : Turn := ⟨⟨60, 0⟩, [.perform ⟨60, 0⟩ .undisturbed
      (.updateCloud "aws" ⟨"gce", "", [], .none, [], .empty⟩)], by simp [Step.IsAt]⟩
    let before := (initial .default).play [adding]
    let after := before.run updating.steps
    (∃ old ∈ before.rows .cloud, ∃ new ∈ after.rows .cloud, new.settings.provider = "gce" ∧
      new.createdAt = old.createdAt ∧ new.updatedAt = ⟨60, 0⟩ ∧ new.updatedAt ≠ old.updatedAt) ∧
    after.rows .region = before.rows .region := by
  intro draft adding updating before after
  have hchronological : Chronological ([adding] ++ [updating]) :=
    List.pairwise_pair.2 rfl
  have hreachable : before.Reachable := reachable_play .default [adding]
  obtain ⟨hturn, -, hrevision⟩ := updatedAt_witnesses.1 before hreachable
  obtain ⟨-, hunchanged⟩ := updatedAt_witnesses.2 .default [adding] updating hchronological
  have hstays : before.NeverResets updating.steps := ⟨id, trivial⟩
  obtain ⟨old, hold, new, hnew, hid, hec2, hgce⟩ : ∃ old ∈ before.rows .cloud,
      ∃ new ∈ after.rows .cloud, new.id = old.id ∧ old.settings.provider = "ec2" ∧
        new.settings.provider = "gce" := by decide +kernel
  obtain ⟨-, hcreated, hupdated⟩ := hturn updating hstays .cloud old hold new hnew hid
  have hne : new ≠ old := fun heq => by simp [heq, hec2] at hgce
  have hlater : new.updatedAt ≠ old.updatedAt :=
    fun hsame => hne (hunchanged hstays .cloud old hold new hnew hid hsame)
  exact ⟨⟨old, hold, new, hnew, hgce, hcreated, hupdated hne, hlater⟩,
    hrevision ⟨60, 0⟩ .undisturbed (.cloud "aws") _ .region nofun⟩

end Deployment
end ControlPlane
