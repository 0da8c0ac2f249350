/-
What is stored under an origin.

Where origins are what is unique, the rows of a relation stand for a map from origins to settings
(`Contents.settings?`).  A new row and a row that is overwritten are updates of this map at one
origin.
-/
import ControlPlane.Proofs.Absorption
import Mathlib.Data.List.Find
import Mathlib.Logic.Function.Basic

namespace ControlPlane
namespace Contents

variable {r : Relation} [DecidableEq (Origin r)] {c after : Contents}

/-- The settings of the row of an origin. -/
def settings? (c : Contents) (r : Relation) [DecidableEq (Origin r)] (origin : Origin r) :
    Option (Settings r) :=
  ((c.get r).find? fun row => row.origin = origin).map fun row => row.settings

theorem settings?_eq_none {origin : Origin r} :
    c.settings? r origin = none ↔ ∀ row ∈ c.get r, row.origin ≠ origin := by
  simp [settings?]

/-- A row that is new. -/
theorem settings?_append {row : Row r} (hnew : ∀ old ∈ c.get r, old.origin ≠ row.origin) :
    settings? (c.set r (c.get r ++ [row])) r =
      Function.update (c.settings? r) row.origin (some row.settings) := by
  funext origin
  rw [settings?, PerRelation.get_set_self, List.find?_append]
  by_cases horigin : origin = row.origin
  · subst horigin
    have hnone : (c.get r).find? (fun old => old.origin = row.origin) = none :=
      List.find?_eq_none.2 fun old hold h => hnew old hold (of_decide_eq_true h)
    rw [Function.update_self, hnone]
    simp
  · rw [Function.update_of_ne horigin, List.find?_cons_of_neg (by simp [Ne.symm horigin]),
      List.find?_nil, Option.or_none]
    rfl

section

variable (hunique : c.Unique) (hkeyed : r.IsKeyed)

include hunique hkeyed

theorem settings?_of_mem {row : Row r} (hrow : row ∈ c.get r) :
    c.settings? r row.origin = some row.settings := by
  obtain ⟨found, hfind, hfound, horigin⟩ := find?_origin_eq_some ⟨row, hrow, rfl⟩
  rw [settings?, hfind, hunique.eq_of_origin hkeyed hfound hrow horigin]
  rfl

theorem settings?_eq_some {origin : Origin r} {settings : Settings r} :
    c.settings? r origin = some settings ↔
      ∃ row ∈ c.get r, row.origin = origin ∧ row.settings = settings := by
  constructor
  · intro h
    obtain ⟨row, hfind, hsettings⟩ := Option.map_eq_some_iff.1 h
    exact ⟨row, List.mem_of_find?_eq_some hfind, by simpa using List.find?_some hfind, hsettings⟩
  · rintro ⟨row, hrow, rfl, rfl⟩
    exact settings?_of_mem hunique hkeyed hrow

/-- A row whose settings are overwritten. -/
theorem settings?_rewritten (hdistinct : c.Distinct) {row new : Row r} (hrow : row ∈ c.get r)
    (hid : new.id = row.id) (horigin : new.origin = row.origin) :
    settings? (c.set r (rewritten (c.get r) new)) r =
      Function.update (c.settings? r) row.origin (some new.settings) := by
  have honly : ∀ old ∈ c.get r, old.id = new.id → old = row := fun old hold heq =>
    hdistinct.eq hold hrow (heq.trans hid)
  funext origin
  -- Overwriting keeps origins, so what is found is the new form of what was found before.
  have hfind : (rewritten (c.get r) new).find? (fun old => old.origin = origin) =
      ((c.get r).find? fun old => old.origin = origin).map fun old =>
        if old.id = new.id then new else old := by
    rw [rewritten, List.find?_map]
    refine congrArg (Option.map _) (List.find?_congr fun old hold => ?_)
    by_cases heq : old.id = new.id
    · rw [Function.comp, if_pos heq, horigin, honly old hold heq]
    · simp only [Function.comp, if_neg heq]
  rw [settings?, PerRelation.get_set_self, hfind]
  by_cases hsame : origin = row.origin
  · subst hsame
    obtain ⟨found, hfound, hmem, heq⟩ := find?_origin_eq_some ⟨row, hrow, rfl⟩
    rw [hfound, hunique.eq_of_origin hkeyed hmem hrow heq, Function.update_self]
    simp [hid]
  · rw [Function.update_of_ne hsame, settings?]
    cases hfound : (c.get r).find? fun old => old.origin = origin with
    | none => rfl
    | some old =>
      have hold : old.origin = origin := by simpa using List.find?_some hfound
      have hne : old.id ≠ new.id := fun heq =>
        hsame (hold.symm.trans (congrArg (fun row => row.origin)
          (honly old (List.mem_of_find?_eq_some hfound) heq)))
      simp [hne]

/-- An update changes what is stored under one origin, or nothing where it means no row. -/
theorem settings?_of_update (hclosed : c.Closed) (hdistinct : c.Distinct) (hr : r ≠ .model)
    {now : Timestamp} {which : Row r → Bool} {change : Settings r → Settings r}
    {written : Option (Row r)} (h : c.update now which change = .ok (written, after)) :
    (written = none ∧ after = c ∧ ∀ row ∈ c.get r, which row = false) ∨
      ∃ row ∈ c.get r, which row = true ∧ written ≠ none ∧
        (∃ rows, after = c.set r rows) ∧
        after.settings? r =
          Function.update (c.settings? r) row.origin (some (change row.settings)) := by
  cases hfind : (c.get r).find? which with
  | none =>
    rw [update_of_none hfind, Except.ok.injEq, Prod.mk.injEq] at h
    obtain ⟨rfl, rfl⟩ := h
    exact .inl ⟨rfl, rfl, by simpa using hfind⟩
  | some row =>
    have hrow := List.mem_of_find?_eq_some hfind
    rw [update_ok hunique hclosed hkeyed hr hfind, Except.ok.injEq, Prod.mk.injEq] at h
    obtain ⟨rfl, rfl⟩ := h
    exact .inr ⟨row, hrow, List.find?_some hfind, nofun, ⟨_, rfl⟩,
      settings?_rewritten hunique hkeyed hdistinct hrow rfl rfl⟩

end

end Contents
end ControlPlane
