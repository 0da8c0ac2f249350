/-
The integrity of the database.

`Database.Sound` is what the constraints and the sequences keep: rows of a relation do not conflict
and have numbers of their own, references lead to rows, and numbers stay below the sequence.  Each
statement that writes keeps it, and so does a transaction whose rows are put back, because sequences
do not go back.  `Database.Follows` says what becomes of rows over time: a number that was drawn
once belongs to one row for good.
-/
import ControlPlane.Proofs.Atomicity
import Mathlib.Data.List.Nodup

namespace ControlPlane

namespace Contents

variable {r : Relation} {c : Contents}

/-- Whether no two rows have the same values in unique columns. -/
def Unique (c : Contents) : Prop :=
  ∀ r, ∀ u ∈ uniquenesses r,
    (c.get r).Pairwise fun a b => u.conflicts a.toEntry b.toEntry = false

/-- Whether every reference leads to a row. -/
def Closed (c : Contents) : Prop :=
  ∀ r, ∀ row ∈ c.get r, ∀ ref ∈ references r, c.resolves ref row.toEntry = true

/-- Whether the rows of each relation have numbers of their own. -/
def Distinct (c : Contents) : Prop := ∀ r, (c.get r).Pairwise fun a b => a.id ≠ b.id

theorem Distinct.eq (h : c.Distinct) {a b : Row r} (ha : a ∈ c.get r) (hb : b ∈ c.get r)
    (hid : a.id = b.id) : a = b :=
  List.inj_on_of_nodup_map (List.pairwise_map.2 (h r)) ha hb hid

end Contents

namespace Database

variable {r : Relation} {db after : Database} {now : Timestamp}

/-- What every state of the database satisfies. -/
structure Sound (db : Database) : Prop where
  unique : db.contents.Unique
  closed : db.contents.Closed
  distinct : db.contents.Distinct
  /-- Numbers start at 1, and no row has one that is still to be drawn. -/
  numbered : ∀ r, ∀ row ∈ db.contents.get r, 1 ≤ row.id ∧ row.id < db.sequences.get r
  started : ∀ r, 1 ≤ db.sequences.get r

theorem empty_sound : empty.Sound where
  unique r u _ := by simp [empty]
  closed r row hrow := by simp [empty] at hrow
  distinct r := by simp [empty]
  numbered r row hrow := by simp [empty] at hrow
  started r := by simp [empty]

/-- Drawing numbers keeps a database sound. -/
theorem Sound.of_contents_eq (h : db.Sound) (hcontents : after.contents = db.contents)
    (hsequences : ∀ r, db.sequences.get r ≤ after.sequences.get r) : after.Sound where
  unique := by rw [hcontents]; exact h.unique
  closed := by rw [hcontents]; exact h.closed
  distinct := by rw [hcontents]; exact h.distinct
  numbered r row hrow := by
    rw [hcontents] at hrow
    obtain ⟨hpos, hlt⟩ := h.numbered r row hrow
    exact ⟨hpos, Int.lt_of_lt_of_le hlt (hsequences r)⟩
  started r := Int.le_trans (h.started r) (hsequences r)

/-! ## Inserts and updates -/

/-- A relation may get other rows as long as none of its old rows is lost to those that refer to
it. -/
theorem Sound.set {rows : List (Row r)} (h : db.Sound)
    (hcontents : after.contents = db.contents.set r rows)
    (hsequences : ∀ q, db.sequences.get q ≤ after.sequences.get q)
    (hdoubles : ∀ old ∈ db.contents.get r, ∃ double ∈ rows,
      double.id = old.id ∧ double.origin = old.origin)
    (hunique : ∀ u ∈ uniquenesses r,
      rows.Pairwise fun a b => u.conflicts a.toEntry b.toEntry = false)
    (hresolves : ∀ row ∈ rows, ∀ ref ∈ references r,
      db.contents.resolves ref row.toEntry = true)
    (hdistinct : rows.Pairwise fun a b => a.id ≠ b.id)
    (hnumbered : ∀ row ∈ rows, 1 ≤ row.id ∧ row.id < after.sequences.get r) : after.Sound := by
  -- References that led somewhere still do.
  have hkeeps : ∀ {q} {ref : Reference q}, ref ∈ references q → ∀ {e : Entry q},
      db.contents.resolves ref e = true → after.contents.resolves ref e = true := by
    intro q ref href e
    refine Contents.resolves_of_doubles href ?_
    rw [hcontents]
    exact PerRelation.get_set_cases
      (P := fun q (rows : List (Row q)) => ∀ old ∈ db.contents.get q, ∃ double ∈ rows,
        double.id = old.id ∧ double.origin = old.origin)
      hdoubles (fun q _ old hold => ⟨old, hold, rfl, rfl⟩) ref.target
  refine ⟨fun q => ?_, fun q row hrow ref href => hkeeps href ?_, fun q => ?_, fun q => ?_,
    fun q => Int.le_trans (h.started q) (hsequences q)⟩
  · rw [hcontents]
    exact PerRelation.get_set_cases
      (P := fun q (rows : List (Row q)) => ∀ u ∈ uniquenesses q,
        rows.Pairwise fun a b => u.conflicts a.toEntry b.toEntry = false)
      hunique (fun q _ => h.unique q) q
  · rw [hcontents] at hrow
    exact PerRelation.get_set_cases
      (P := fun q (rows : List (Row q)) => ∀ row ∈ rows, ∀ ref ∈ references q,
        db.contents.resolves ref row.toEntry = true)
      hresolves (fun q _ => h.closed q) q row hrow ref href
  · rw [hcontents]
    exact PerRelation.get_set_cases
      (P := fun q (rows : List (Row q)) => rows.Pairwise fun a b => a.id ≠ b.id)
      hdistinct (fun q _ => h.distinct q) q
  · rw [hcontents]
    refine PerRelation.get_set_cases
      (P := fun q (rows : List (Row q)) => ∀ row ∈ rows,
        1 ≤ row.id ∧ row.id < after.sequences.get q)
      hnumbered (fun q _ old hold => ?_) q
    obtain ⟨hpos, hlt⟩ := h.numbered q old hold
    exact ⟨hpos, Int.lt_of_lt_of_le hlt (hsequences q)⟩

theorem Sound.insert (h : db.Sound) (now : Timestamp) (e : Entry r) :
    (db.insert now e).2.Sound := by
  have hdrawn := sequence_le_insert db now e
  obtain ⟨hsequences, hcases⟩ := insert_cases (Prod.eta (db.insert now e)).symm
  rcases hcases with ⟨failure, -, -, hcontents⟩ | ⟨row, -, hrow, hrefusal, hcontents⟩
  · exact h.of_contents_eq hcontents hdrawn
  obtain ⟨hunique, hresolves⟩ := Contents.refusal?_eq_none.1 hrefusal
  have hid : row.id = db.sequences.get r := by rw [hrow]
  have hentry : row.toEntry = e := by rw [hrow]
  refine h.set hcontents hdrawn (fun old hold => ⟨old, List.mem_append_left _ hold, rfl, rfl⟩)
    (fun u hu => ?_) (fun new hnew => ?_) ?_ fun new hnew => ?_
  · refine List.pairwise_append.2 ⟨h.unique r u hu, List.pairwise_singleton _ _, ?_⟩
    intro old hold new hnew
    obtain rfl := List.mem_singleton.1 hnew
    rw [u.conflicts_comm, hentry]
    exact hunique u hu old hold
  · rcases List.mem_append.1 hnew with hold | hnew
    · exact h.closed r new hold
    · obtain rfl := List.mem_singleton.1 hnew
      rw [hentry]
      exact hresolves
  · refine List.pairwise_append.2 ⟨h.distinct r, List.pairwise_singleton _ _, ?_⟩
    intro old hold new hnew
    obtain rfl := List.mem_singleton.1 hnew
    have := (h.numbered r old hold).2
    omega
  · rcases List.mem_append.1 hnew with hold | hnew
    · obtain ⟨hpos, hlt⟩ := h.numbered r new hold
      exact ⟨hpos, Int.lt_of_lt_of_le hlt (hdrawn r)⟩
    · obtain rfl := List.mem_singleton.1 hnew
      have hpos := h.started r
      rw [hsequences, PerRelation.get_set_self]
      omega

theorem Sound.update {which : Row r → Bool} {change : Settings r → Settings r}
    {written : Option (Row r)} {contents : Contents} (h : db.Sound)
    (hupdate : db.contents.update now which change = .ok (written, contents)) :
    Sound { db with contents := contents } := by
  rcases Contents.update_cases hupdate with
    ⟨-, rfl⟩ | ⟨row, new, hfind, -, hnew, hrefusal, hcontents⟩
  · exact h
  have hrow := List.mem_of_find?_eq_some hfind
  have hid : new.id = row.id := by rw [hnew]
  have horigin : new.origin = row.origin := by rw [hnew]
  obtain ⟨hunique, hresolves⟩ := Contents.refusal?_eq_none.1 hrefusal
  -- What stands in the place of a row, and where it comes from.
  let place (other : Row r) : Row r := if other.id = new.id then new else other
  have hplace : ∀ other, (place other).id = other.id := by
    intro other
    simp only [place]
    split
    next heq => exact heq.symm
    next => rfl
  have hconflict : ∀ u ∈ uniquenesses r, ∀ other ∈ db.contents.get r, other.id ≠ row.id →
      u.conflicts new.toEntry other.toEntry = false := fun u hu other hother hne =>
    hunique u hu other (List.mem_filter.2 ⟨hother, bne_iff_ne.2 hne⟩)
  refine h.set hcontents (fun _ => Int.le_refl _) (fun old hold => ?_) (fun u hu => ?_)
    (fun other hother => ?_) ?_ fun other hother => ?_
  · refine ⟨place old, List.mem_map_of_mem hold, hplace old, ?_⟩
    by_cases heq : old.id = new.id
    · -- Numbers tell rows apart, so the row in this place is the one that was found.
      have hold' : old = row := h.distinct.eq hold hrow (heq.trans hid)
      simp only [place, if_pos heq]
      rw [horigin, hold']
    · simp only [place, if_neg heq]
  · refine List.pairwise_map.2 (((h.unique r u hu).and (h.distinct r)).imp_of_mem ?_)
    intro a b ha hb hab
    by_cases heqa : a.id = new.id
    · have hb' : b.id ≠ new.id := fun heqb => hab.2 (heqa.trans heqb.symm)
      simp only [if_pos heqa, if_neg hb']
      exact hconflict u hu b hb (hid ▸ hb')
    · by_cases heqb : b.id = new.id
      · simp only [if_neg heqa, if_pos heqb]
        rw [u.conflicts_comm]
        exact hconflict u hu a ha (hid ▸ heqa)
      · simp only [if_neg heqa, if_neg heqb]
        exact hab.1
  · obtain ⟨old, hold, rfl⟩ := List.mem_map.1 hother
    split
    next => exact hresolves
    next => exact h.closed r old hold
  · refine List.pairwise_map.2 ((h.distinct r).imp ?_)
    intro a b hab heq
    exact hab ((hplace a).symm.trans (heq.trans (hplace b)))
  · obtain ⟨old, hold, rfl⟩ := List.mem_map.1 hother
    have hnumber := h.numbered r old hold
    rw [← hplace old] at hnumber
    exact hnumber

/-! ## Deletes -/

theorem Sound.delete {which : Row r → Bool} {found : Bool} {contents : Contents} (h : db.Sound)
    (hdelete : db.contents.delete which = .ok (found, contents)) :
    Sound { db with contents := contents } := by
  rcases Contents.delete_cases hdelete with ⟨-, rfl⟩ | ⟨-, hsublist, hclosed⟩
  · exact h
  · exact {
      unique := fun q u hu => (h.unique q u hu).sublist (hsublist q)
      closed := hclosed
      distinct := fun q => (h.distinct q).sublist (hsublist q)
      numbered := fun q row hrow => h.numbered q row ((hsublist q).subset hrow)
      started := h.started }

/-! ## Runs -/

theorem Write.sound {statement : Statement} (hwrite : Write now statement db after)
    (h : db.Sound) : after.Sound := by
  cases hwrite with
  | insert => exact h.insert now _
  | lose => exact h.of_contents_eq rfl fun q => sequence_le_insert db now _ q
  | update hupdate => exact h.update hupdate
  | delete hdelete => exact h.delete hdelete

theorem Evolution.sound {allowed : Statement → Prop} (hevolution : Evolution now allowed db after)
    (h : db.Sound) : after.Sound := by
  induction hevolution with
  | refl => exact h
  | write _ hwrite => exact hwrite.sound h
  | trans _ _ ihfirst ihsecond => exact ihsecond (ihfirst h)
  | undo body _ => exact h.of_contents_eq rfl body.sequence_le

/-! ## Numbers over time -/

/-- Whether the rows among these whose number was drawn by now are rows of now, inserted at the same
time with the same origin. -/
def Remembers (db : Database) (r : Relation) (rows : List (Row r)) : Prop :=
  ∀ row ∈ rows, row.id < db.sequences.get r → ∃ old ∈ db.contents.get r,
    old.id = row.id ∧ old.origin = row.origin ∧ old.createdAt = row.createdAt

/-- Whether one state comes after another without a reset between them: no sequence went back, and
a number that had been drawn belongs to the row that had it before, or to none. -/
structure Follows (later earlier : Database) : Prop where
  drawn : ∀ r, earlier.sequences.get r ≤ later.sequences.get r
  same : ∀ r, earlier.Remembers r (later.contents.get r)

theorem remembers_of_subset {rows : List (Row r)} (h : rows ⊆ db.contents.get r) :
    db.Remembers r rows :=
  fun row hrow _ => ⟨row, h hrow, rfl, rfl, rfl⟩

theorem follows_refl (db : Database) : db.Follows db :=
  ⟨fun _ => Int.le_refl _, fun _ => remembers_of_subset (List.Subset.refl _)⟩

theorem Follows.trans {later middle earlier : Database} (h : later.Follows middle)
    (h' : middle.Follows earlier) : later.Follows earlier := by
  refine ⟨fun r => Int.le_trans (h'.drawn r) (h.drawn r), fun r row hrow hlt => ?_⟩
  obtain ⟨between, hbetween, hid, horigin, hcreated⟩ :=
    h.same r row hrow (Int.lt_of_lt_of_le hlt (h'.drawn r))
  obtain ⟨old, hold, hid', horigin', hcreated'⟩ := h'.same r between hbetween (hid ▸ hlt)
  exact ⟨old, hold, hid'.trans hid, horigin'.trans horigin, hcreated'.trans hcreated⟩

theorem remembers_insert (db : Database) (now : Timestamp) (e : Entry r) (q : Relation) :
    db.Remembers q ((db.insert now e).2.contents.get q) := by
  obtain ⟨-, hcases⟩ := insert_cases (Prod.eta (db.insert now e)).symm
  rcases hcases with ⟨failure, -, -, hcontents⟩ | ⟨new, -, hnew, -, hcontents⟩
  · rw [hcontents]
    exact remembers_of_subset (List.Subset.refl _)
  rw [hcontents]
  refine PerRelation.get_set_cases (P := db.Remembers) (fun row hrow hlt => ?_)
    (fun q _ => remembers_of_subset (List.Subset.refl _)) q
  rcases List.mem_append.1 hrow with hrow | hrow
  · exact ⟨row, hrow, rfl, rfl, rfl⟩
  · -- The new row has the next number, which had not been drawn.
    obtain rfl := List.mem_singleton.1 hrow
    have hid : row.id = db.sequences.get r := by rw [hnew]
    omega

theorem remembers_update {which : Row r → Bool} {change : Settings r → Settings r}
    {written : Option (Row r)} {contents : Contents}
    (h : db.contents.update now which change = .ok (written, contents)) (q : Relation) :
    db.Remembers q (contents.get q) := by
  rcases Contents.update_cases h with ⟨-, rfl⟩ | ⟨found, new, hfind, -, hnew, -, hcontents⟩
  · exact remembers_of_subset (List.Subset.refl _)
  rw [hcontents]
  refine PerRelation.get_set_cases (P := db.Remembers) (fun row hrow _ => ?_)
    (fun q _ => remembers_of_subset (List.Subset.refl _)) q
  obtain ⟨old, hold, rfl⟩ := List.mem_map.1 hrow
  split
  next => exact ⟨found, List.mem_of_find?_eq_some hfind, by rw [hnew], by rw [hnew], by rw [hnew]⟩
  next => exact ⟨old, hold, rfl, rfl, rfl⟩

theorem Write.follows {statement : Statement} (hwrite : Write now statement db after) :
    after.Follows db := by
  refine ⟨hwrite.sequence_le, ?_⟩
  cases hwrite with
  | insert => exact remembers_insert db now _
  | lose => exact fun _ => remembers_of_subset (List.Subset.refl _)
  | update hupdate => exact remembers_update hupdate
  | delete hdelete =>
    rcases Contents.delete_cases hdelete with ⟨-, rfl⟩ | ⟨-, hsublist, -⟩
    · exact fun _ => remembers_of_subset (List.Subset.refl _)
    · exact fun q => remembers_of_subset (hsublist q).subset

theorem Evolution.follows {allowed : Statement → Prop}
    (hevolution : Evolution now allowed db after) : after.Follows db := by
  induction hevolution with
  | refl db => exact follows_refl db
  | write _ hwrite => exact hwrite.follows
  | trans _ _ ihfirst ihsecond => exact ihsecond.trans ihfirst
  | undo body _ => exact ⟨body.sequence_le, fun _ => remembers_of_subset (List.Subset.refl _)⟩

end Database

/-- A run sees to it that nothing is lost of the soundness of the database. -/
theorem Script.sound_of_ok {α : Type} {env : Environment} {body : Script α}
    {before after : Progress} {a : α} (hwithin : Within env (fun _ => True) body)
    (h : body env before = .ok a after) (hsound : before.database.Sound) : after.database.Sound :=
  (evolution_of_ok hwithin h).sound hsound

/-! ## Sessions -/

namespace Deployment

theorem Reachable.sound {dep : Deployment} (h : dep.Reachable) : dep.server.database.Sound :=
  h.database_induction Database.empty_sound fun store now course op db hsound =>
    (store.perform_evolution now course op db).sound hsound

theorem follows_after {dep : Deployment} {step : Step} (h : ¬dep.IsReset step) :
    (dep.after step).server.database.Follows dep.server.database := by
  rcases database_after dep step with heq | ⟨hreset, -⟩ | ⟨now, course, op, -, heq⟩
  · rw [heq]
    exact Database.follows_refl _
  · exact absurd hreset h
  · rw [heq]
    exact (dep.store.perform_evolution now course op _).follows

theorem follows_run {dep : Deployment} {steps : List Step} (h : dep.NeverResets steps) :
    (dep.run steps).server.database.Follows dep.server.database := by
  induction steps generalizing dep with
  | nil => exact Database.follows_refl _
  | cons step steps ih => exact (ih h.2).trans (follows_after h.1)

end Deployment
end ControlPlane
