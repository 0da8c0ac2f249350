/-
What the database does at an insert, an update and a delete.

One law for each says all that the statement may come to: what it is refused for, the rows that it
leaves, and the numbers that it draws.  What follows elsewhere from a statement follows from its
law.
-/
import ControlPlane.Storage.Database

namespace ControlPlane

/-- What holds of a new value and of the values at other relations holds after a value is set. -/
theorem PerRelation.get_set_cases {α : Relation → Type} {P : (q : Relation) → α q → Prop}
    {t : PerRelation α} {r : Relation} {a : α r} (hself : P r a)
    (hother : ∀ q, q ≠ r → P q (t.get q)) (q : Relation) : P q ((t.set r a).get q) := by
  by_cases hq : q = r
  · subst hq
    rwa [get_set_self]
  · rw [get_set_of_ne _ _ hq]
    exact hother q hq

theorem PerRelation.set_get_self {α : Relation → Type} (t : PerRelation α) (r : Relation) :
    t.set r (t.get r) = t :=
  PerRelation.ext_get (get_set_cases (P := fun q a => a = t.get q) rfl fun _ _ => rfl)

theorem PerRelation.set_set {α : Relation → Type} (t : PerRelation α) (r : Relation) (a b : α r) :
    (t.set r a).set r b = t.set r b := by
  refine PerRelation.ext_get fun q => ?_
  by_cases hq : q = r
  · subst hq
    rw [get_set_self, get_set_self]
  · rw [get_set_of_ne _ _ hq, get_set_of_ne _ _ hq, get_set_of_ne _ _ hq]

theorem Uniqueness.conflicts_comm {r : Relation} (u : Uniqueness r) (a b : Entry r) :
    u.conflicts a b = u.conflicts b a := by
  unfold conflicts
  by_cases h : u.values a = u.values b
  · simp only [h]
  · simp only [h, Ne.symm h, decide_false, Bool.and_false]

/-- A reference cannot tell apart two rows with the same number and the same origin. -/
theorem refersTo_congr {r : Relation} {ref : Reference r} (href : ref ∈ references r)
    (e : Entry r) {a b : Row ref.target} (hid : a.id = b.id) (horigin : a.origin = b.origin) :
    ref.refersTo e a = ref.refersTo e b := by
  cases r <;> simp only [references, List.mem_cons, List.not_mem_nil, or_false] at href
  case region => subst href; simp only [horigin]
  case controller => subst href; simp only [horigin]
  case link => rcases href with rfl | rfl <;> simp only [hid]
  case credential => rcases href with rfl | rfl <;> simp only [horigin]
  case model => rcases href with rfl | rfl | rfl | rfl <;> simp only [hid, horigin]
  case grant on => rcases href with rfl | rfl <;> simp only [hid, horigin]

namespace Contents

variable {r : Relation} {c other : Contents}

theorem mem_allRelations (r : Relation) : r ∈ allRelations := by
  cases r with
  | grant on => cases on <;> decide
  | _ => decide

theorem resolves_iff {ref : Reference r} {e : Entry r} :
    c.resolves ref e = true ↔ ∃ row ∈ c.get ref.target, ref.refersTo e row = true := by
  rw [resolves, List.any_eq_true]

/-- A reference that leads to a row still does where the row has a double with the same number and
the same origin. -/
theorem resolves_of_doubles {ref : Reference r} (href : ref ∈ references r) {e : Entry r}
    (hdoubles : ∀ row ∈ c.get ref.target, ∃ double ∈ other.get ref.target,
      double.id = row.id ∧ double.origin = row.origin)
    (h : c.resolves ref e = true) : other.resolves ref e = true := by
  obtain ⟨row, hrow, hrefers⟩ := resolves_iff.1 h
  obtain ⟨double, hdouble, hid, horigin⟩ := hdoubles row hrow
  refine resolves_iff.2 ⟨double, hdouble, ?_⟩
  rw [refersTo_congr href e hid horigin]
  exact hrefers

/-- Apart from models, which refer to rows by their settings too, the origin of an entry says to
which rows it refers. -/
theorem resolves_congr {ref : Reference r} (href : ref ∈ references r) (hr : r ≠ .model)
    {a b : Entry r} (horigin : a.origin = b.origin) : c.resolves ref a = c.resolves ref b := by
  cases r <;> simp only [references, List.mem_cons, List.not_mem_nil, or_false] at href
  case model => exact absurd rfl hr
  case region => subst href; simp only [resolves, horigin]
  case controller => subst href; simp only [resolves, horigin]
  case link => rcases href with rfl | rfl <;> simp only [resolves, horigin]
  case credential => rcases href with rfl | rfl <;> simp only [resolves, horigin]
  case grant on => rcases href with rfl | rfl <;> simp only [resolves, horigin]

/-! ## What refusals rule out -/

theorem duplicate?_eq_none {others : List (Row r)} {e : Entry r} :
    duplicate? others e = none ↔
      ∀ u ∈ uniquenesses r, ∀ row ∈ others, u.conflicts e row.toEntry = false := by
  simp only [duplicate?, List.find?_eq_none, List.any_eq_true, not_exists, not_and,
    Bool.not_eq_true]

theorem refusal?_eq_none {others : List (Row r)} {e : Entry r} :
    c.refusal? others e = none ↔
      (∀ u ∈ uniquenesses r, ∀ row ∈ others, u.conflicts e row.toEntry = false) ∧
        ∀ ref ∈ references r, c.resolves ref e = true := by
  rw [← duplicate?_eq_none, ← List.all_eq_true, refusal?]
  cases duplicate? others e with
  | some u => simp
  | none => simp

/-! ## What an update leaves -/

/-- The rows of a relation after the settings of one of them were overwritten. -/
def rewritten (rows : List (Row r)) (written : Row r) : List (Row r) :=
  rows.map fun other => if other.id = written.id then written else other

/-- An update that means no row changes nothing. -/
theorem update_of_none {which : Row r → Bool} (h : (c.get r).find? which = none) (now : Timestamp)
    (change : Settings r → Settings r) : c.update now which change = .ok (none, c) := by
  rw [update, h]

theorem update_cases {now : Timestamp} {which : Row r → Bool}
    {change : Settings r → Settings r} {written : Option (Row r)} {after : Contents}
    (h : c.update now which change = .ok (written, after)) :
    (written = none ∧ after = c) ∨
      ∃ row new, (c.get r).find? which = some row ∧ written = some new ∧
        new = { row with settings := change row.settings, updatedAt := now } ∧
        c.refusal? ((c.get r).filter fun other => other.id != row.id) new.toEntry = none ∧
        after = c.set r (rewritten (c.get r) new) := by
  unfold update at h
  cases hfind : (c.get r).find? which with
  | none =>
    rw [hfind] at h
    cases h
    exact .inl ⟨rfl, rfl⟩
  | some row =>
    rw [hfind] at h
    dsimp only at h
    split at h
    next => cases h
    next hrefusal =>
      cases h
      exact .inr ⟨row, _, rfl, rfl, rfl, hrefusal, rfl⟩

/-! ## What a delete leaves -/

theorem sublist_sweep (c : Contents) (swept r : Relation) :
    ((c.sweep swept).get r).Sublist (c.get r) := by
  rw [sweep]
  exact PerRelation.get_set_cases (P := fun q (rows : List (Row q)) => rows.Sublist (c.get q))
    List.filter_sublist (fun q _ => .refl _) r

theorem sublist_foldl_sweep (order : List Relation) (c : Contents) (r : Relation) :
    ((order.foldl sweep c).get r).Sublist (c.get r) := by
  induction order generalizing c with
  | nil => exact .refl _
  | cons first rest ih => exact (ih (c.sweep first)).trans (sublist_sweep c first r)

/-- A delete that finds rows finds a first one. -/
theorem exists_find?_of_delete {which : Row r → Bool} {after : Contents}
    (h : c.delete which = .ok (true, after)) : ∃ root, (c.get r).find? which = some root := by
  unfold delete at h
  by_cases hany : (c.get r).any which = true
  · obtain ⟨row, hrow, hwhich⟩ := List.any_eq_true.1 hany
    exact Option.isSome_iff_exists.1 (List.find?_isSome.2 ⟨row, hrow, hwhich⟩)
  · rw [if_neg hany] at h
    cases h

/-- A delete only takes rows away, and leaves no reference that leads nowhere. -/
theorem delete_cases {which : Row r → Bool} {found : Bool} {after : Contents}
    (h : c.delete which = .ok (found, after)) :
    (found = false ∧ after = c) ∨
      found = true ∧ (∀ q, (after.get q).Sublist (c.get q)) ∧
        ∀ q, ∀ row ∈ after.get q, ∀ ref ∈ references q, after.resolves ref row.toEntry = true := by
  unfold delete at h
  by_cases hany : (c.get r).any which = true
  · rw [if_pos hany] at h
    dsimp only at h
    split at h
    next hclosed =>
      cases h
      refine .inr ⟨rfl, fun q => (sublist_foldl_sweep _ _ q).trans ?_,
        fun q row hrow ref href => ?_⟩
      · exact PerRelation.get_set_cases
          (P := fun q (rows : List (Row q)) => rows.Sublist (c.get q))
          List.filter_sublist (fun q _ => .refl _) q
      · have hq := List.all_eq_true.1 hclosed q (mem_allRelations q)
        exact List.all_eq_true.1 (List.all_eq_true.1 hq row hrow) ref href
    next => cases h
  · rw [if_neg hany] at h
    cases h
    exact .inl ⟨rfl, rfl⟩

end Contents

namespace Database

variable {r : Relation}

/-- An insert draws a number of its relation, whatever becomes of the row. -/
theorem insert_cases {db after : Database} {now : Timestamp} {e : Entry r}
    {outcome : Except Failure (Row r)} (h : db.insert now e = (outcome, after)) :
    after.sequences = db.sequences.set r (db.sequences.get r + 1) ∧
      ((∃ failure, outcome = .error failure ∧
          db.contents.refusal? (db.contents.get r) e = some failure ∧
          after.contents = db.contents) ∨
        ∃ row : Row r, outcome = .ok row ∧
          row = { e with id := db.sequences.get r, createdAt := now, updatedAt := now } ∧
          db.contents.refusal? (db.contents.get r) e = none ∧
          after.contents = db.contents.set r (db.contents.get r ++ [row])) := by
  unfold insert at h
  dsimp only [draw] at h
  cases hrefusal : db.contents.refusal? (db.contents.get r) e with
  | some failure =>
    rw [hrefusal] at h
    cases h
    exact ⟨rfl, .inl ⟨failure, rfl, rfl, rfl⟩⟩
  | none =>
    rw [hrefusal] at h
    cases h
    exact ⟨rfl, .inr ⟨_, rfl, rfl, rfl, rfl⟩⟩

end Database
end ControlPlane
