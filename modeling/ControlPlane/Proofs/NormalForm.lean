/-
The normal form of a name.

A name is safe if it has no unsafe character.  The safe form of a name is safe, and a safe name is
its own safe form, so the safe form is a normal form (`IdentityName.sanitise_normalises`).  The `@`
is no unsafe character, and a hash has none, so the safe form has its first `@` where the name has
it: what stands from there on comes from the name alone.
-/
import ControlPlane.Proofs.DistinctNames
import ControlPlane.Proofs.Naming
import ControlPlane.Proofs.SafeNames

namespace ControlPlane
namespace IdentityName

/-! ## Safe names -/

/-- Whether a name has no unsafe character. -/
def IsSafe (name : String) : Prop := ∀ c ∈ forbidden, c ∉ name.toList

theorem isSafe_iff {name : String} :
    IsSafe name ↔ ∀ c ∈ name.toList, isForbidden c = false := by
  constructor
  · intro h c hc
    exact eq_false_of_ne_true fun hforbidden => h c (List.contains_iff_mem.1 hforbidden) hc
  · intro h c hforbidden hc
    have hsafe := h c hc
    rw [isForbidden, List.contains_iff_mem.2 hforbidden] at hsafe
    cases hsafe

instance (name : String) : Decidable (IsSafe name) :=
  decidable_of_iff (name.toList.any isForbidden = false)
    (by rw [isSafe_iff, List.any_eq_false]; simp only [Bool.not_eq_true])

theorem isSafe_sanitise (name : String) : IsSafe (sanitise name) := by
  refine isSafe_iff.2 fun c hc => ?_
  rw [sanitise, String.toList_ofList] at hc
  exact isForbidden_of_mem_sanitiseWith hc

theorem sanitise_eq_self_iff {name : String} : sanitise name = name ↔ IsSafe name := by
  constructor
  · intro h
    rw [← h]
    exact isSafe_sanitise name
  · intro h
    rw [sanitise, sanitiseWith_of_safe (isSafe_iff.1 h), String.ofList_toList]

theorem sanitise_eq_empty_iff {name : String} : sanitise name = "" ↔ name = "" := by
  refine ⟨eq_empty_of_sanitise, ?_⟩
  rintro rfl
  exact sanitise_eq_self_iff.2 fun c _ => by simp

/-! ## The first `@` -/

/-- The part of a name that `displayName` leaves off: from its first `@` on. -/
def domain (name : String) : String :=
  String.ofList (name.toList.dropWhile fun c => c ≠ '@')

/-- What a name gets before its first `@`: a hash, unless it is safe. -/
def markOf (name : List Char) : List Char :=
  if name.any isForbidden then shortHash name else []

theorem at_notMem_markOf (name : List Char) : '@' ∉ markOf name := by
  rw [markOf]
  split
  next => exact (isSixDigits_shortHash name).at_notMem
  next => exact List.not_mem_nil

theorem markDomain_nil (name : List Char) : markDomain [] name = name := by
  induction name with
  | nil => rfl
  | cons c rest ih =>
    rw [markDomain, ih, List.nil_append]
    exact ite_self _

theorem map_safeChar_of_safe {name : List Char} (h : ∀ c ∈ name, isForbidden c = false) :
    name.map safeChar = name := by
  have hstays : ∀ c ∈ name, safeChar c = id c := fun c hc => by
    rw [safeChar, h c hc, if_neg Bool.false_ne_true, id]
  rw [List.map_congr_left hstays, List.map_id]

/-- Safe or not, a name has its unsafe characters replaced and then its mark put in. -/
theorem toList_sanitise (name : String) :
    (sanitise name).toList = markDomain (markOf name.toList) (name.toList.map safeChar) := by
  rw [sanitise, String.toList_ofList, markOf]
  split
  next hraw => exact sanitiseWith_of_raw hraw
  next hsafe =>
    have hsafe : ∀ c ∈ name.toList, isForbidden c = false := by simpa using hsafe
    rw [sanitiseWith_of_safe hsafe, markDomain_nil, map_safeChar_of_safe hsafe]

/-- A mark goes before the first `@`, and so what stands from there on stays as it is. -/
theorem dropWhile_markDomain {mark : List Char} (h : '@' ∉ mark) (name : List Char) :
    (markDomain mark name).dropWhile (fun c => c ≠ '@') = name.dropWhile fun c => c ≠ '@' := by
  by_cases hname : '@' ∈ name
  · obtain ⟨front, rest, rfl, hfront⟩ := List.eq_append_cons_of_mem hname
    have hdropped : ∀ {front : List Char}, '@' ∉ front →
        (front ++ '@' :: rest).dropWhile (fun c => c ≠ '@') = '@' :: rest := by
      intro front hfront
      rw [List.dropWhile_append_of_pos, List.dropWhile_cons_of_neg (by decide)]
      exact fun c hc => decide_eq_true fun hat => hfront (hat ▸ hc)
    have hmarked : '@' ∉ front ++ mark := by simp [hfront, h]
    rw [markDomain_append hfront, hdropped hmarked, hdropped hfront]
  · rw [markDomain_of_notMem hname]

/-- The domain of the safe form is the domain of the name, character by character. -/
theorem domain_sanitise (name : String) : domain (sanitise name) = (domain name).map safeChar := by
  apply String.toList_injective
  rw [String.toList_map, domain, domain, String.toList_ofList, String.toList_ofList,
    toList_sanitise, dropWhile_markDomain (at_notMem_markOf _), List.dropWhile_map]
  simp only [Function.comp_def, ne_eq, safeChar_eq_at]

theorem sanitise_of_notMem {name : String} (h : '@' ∉ name.toList) :
    sanitise name = name.map safeChar := by
  apply String.toList_injective
  rw [toList_sanitise, String.toList_map,
    markDomain_of_notMem fun hat => h ((at_mem_map_safeChar _).1 hat)]

/-! ## The normal form -/

/-- The safe form of a name is safe.  It is the name itself exactly if the name is safe, so a second
pass changes nothing, and it is empty exactly if the name is.  From the first `@` on it is the name
with its unsafe characters replaced: the hash is not there, and where there is no `@` it is
nowhere. -/
theorem sanitise_normalises (name : String) :
    IsSafe (sanitise name) ∧
    (sanitise name = name ↔ IsSafe name) ∧
    sanitise (sanitise name) = sanitise name ∧
    (sanitise name = "" ↔ name = "") ∧
    domain (sanitise name) = (domain name).map safeChar ∧
    ('@' ∉ name.toList → (sanitise name).length = name.length) := by
  refine ⟨isSafe_sanitise name, sanitise_eq_self_iff, sanitise_sanitise name,
    sanitise_eq_empty_iff, domain_sanitise name, fun hbare => ?_⟩
  rw [sanitise_of_notMem hbare, ← String.length_toList, String.toList_map, List.length_map,
    String.length_toList]

/-- A name that is unsafe on both sides of its first `@`, and one without an `@`. -/
theorem sanitise_normalises_eve :
    sanitise "eve_x@cor=p@x" = "eve-x22dd38@cor-p@x" ∧
    ¬IsSafe "eve_x@cor=p@x" ∧ IsSafe "eve-x22dd38@cor-p@x" ∧
    sanitise "eve-x22dd38@cor-p@x" = "eve-x22dd38@cor-p@x" ∧
    domain "eve-x22dd38@cor-p@x" = "@cor-p@x" ∧
    '@' ∉ "eve_x".toList ∧ (sanitise "eve_x").length = 5 := by
  have hsafe : sanitise "eve_x@cor=p@x" = "eve-x22dd38@cor-p@x" := by decide +kernel
  have hunsafe : ¬IsSafe "eve_x@cor=p@x" := by decide +kernel
  have hbare : '@' ∉ "eve_x".toList := by decide +kernel
  obtain ⟨hresult, -, htwice, -, hdomain, -⟩ := sanitise_normalises "eve_x@cor=p@x"
  obtain ⟨-, -, -, -, -, hlength⟩ := sanitise_normalises "eve_x"
  rw [hsafe] at hresult htwice hdomain
  exact ⟨hsafe, hunsafe, hresult, htwice, hdomain.trans (by decide +kernel), hbare,
    (hlength hbare).trans (by decide +kernel)⟩

end IdentityName
end ControlPlane
