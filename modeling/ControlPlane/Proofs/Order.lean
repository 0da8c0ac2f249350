/-
The orders of texts and of sorted rows.

The database compares texts by their bytes in UTF-8, and `<` on texts goes by their characters.
Both are one order: a smaller character has smaller bytes, whatever follows, so the first character
in which two texts differ decides on both sides.  Of sorted rows it matters that sorting and picking
rows commute, ties included, and that rows without ties ascend strictly.
-/
import ControlPlane.Storage.Order

namespace ControlPlane
namespace Text

/-- The bytes of a text in UTF-8. -/
def utf8 (s : String) : List UInt8 := s.toUTF8.data.toList

/-- Whether one text comes before another by their bytes. -/
def IsBefore (a b : String) : Prop := utf8 a < utf8 b

theorem utf8_eq_flatMap (s : String) : utf8 s = s.toList.flatMap String.utf8EncodeChar := by
  rw [utf8, String.toUTF8_eq_toByteArray, ← String.utf8Encode_toList, List.utf8Encode,
    List.toList_data_toByteArray]

theorem ofNat_lt_ofNat {m n : Nat} (hm : m < 256) (hn : n < 256) :
    UInt8.ofNat m < UInt8.ofNat n ↔ m < n := by
  rw [UInt8.lt_iff_toNat_lt, UInt8.toNat_ofNat_of_lt' hm, UInt8.toNat_ofNat_of_lt' hn]

theorem ofNat_eq_ofNat {m n : Nat} (hm : m < 256) (hn : n < 256) :
    UInt8.ofNat m = UInt8.ofNat n ↔ m = n := by
  rw [← UInt8.toNat_inj, UInt8.toNat_ofNat_of_lt' hm, UInt8.toNat_ofNat_of_lt' hn]

/-- Two lists of bytes are compared as the numbers at the first place in which they differ. -/
theorem ofNat_cons_lt_cons {m n : Nat} (hm : m < 256) (hn : n < 256) (s t : List UInt8) :
    UInt8.ofNat m :: s < UInt8.ofNat n :: t ↔ m < n ∨ m = n ∧ s < t := by
  rw [List.cons_lt_cons_iff, ofNat_lt_ofNat hm hn, ofNat_eq_ofNat hm hn]

theorem encodeChar_append_lt {c d : Char} (h : c < d) (s t : List UInt8) :
    String.utf8EncodeChar c ++ s < String.utf8EncodeChar d ++ t := by
  have hlt : c.val.toNat < d.val.toNat := h
  have hbound : d.val.toNat < 1114112 := by
    rcases d.valid with hlow | hhigh <;> omega
  -- A longer code has a greater first byte; codes of one length are compared digit by digit.
  unfold String.utf8EncodeChar
  generalize c.val.toNat = m at hlt
  generalize d.val.toNat = n at hlt hbound
  have htwo : ∀ k, k / 4096 = k / 64 / 64 := fun k => (Nat.div_div_eq_div_mul k 64 64).symm
  have hthree : ∀ k, k / 262144 = k / 64 / 64 / 64 := fun k => by
    simp only [Nat.div_div_eq_div_mul]
  dsimp only
  simp only [htwo, hthree]
  repeat' split
  all_goals
    first
    | omega
    | simp (disch := omega) only [List.cons_append, List.nil_append, ofNat_cons_lt_cons]
      omega

theorem flatMap_encodeChar_lt {a b : List Char} (h : a < b) :
    a.flatMap String.utf8EncodeChar < b.flatMap String.utf8EncodeChar := by
  induction h with
  | @nil c cs =>
    rw [List.flatMap_cons]
    cases hcode : String.utf8EncodeChar c with
    | nil => exact absurd hcode String.utf8EncodeChar_ne_nil
    | cons byte bytes => exact List.nil_lt_cons _ _
  | rel hlt =>
    rw [List.flatMap_cons, List.flatMap_cons]
    exact encodeChar_append_lt hlt _ _
  | cons _ ih =>
    rw [List.flatMap_cons, List.flatMap_cons]
    exact List.append_left_lt ih

/-- Texts are ordered as their bytes are. -/
theorem isBefore_iff {a b : String} : IsBefore a b ↔ a < b := by
  constructor
  · intro h
    by_cases hlt : a < b
    · exact hlt
    by_cases hgt : b < a
    · rw [IsBefore, utf8_eq_flatMap, utf8_eq_flatMap] at h
      exact absurd h (List.lt_asymm (flatMap_encodeChar_lt (String.lt_iff.1 hgt)))
    · rw [String.le_antisymm (String.not_lt.1 hgt) (String.not_lt.1 hlt)] at h
      exact absurd h (List.lt_irrefl (utf8 b))
  · intro h
    rw [IsBefore, utf8_eq_flatMap, utf8_eq_flatMap]
    exact flatMap_encodeChar_lt (String.lt_iff.1 h)

end Text

/-! ## Sorted rows -/

section Sorted

variable {α : Type} {cmp : α → α → Ordering}

/-- What comes before a given item in a sorted list is what the item is not below. -/
theorem takeWhile_of_split {a : α} {before after : List α}
    (hbefore : ∀ b ∈ before, (cmp a b).isLE = false) (hafter : ∀ b ∈ after, (cmp a b).isLE = true) :
    (before ++ after).takeWhile (fun b => !(cmp a b).isLE) = before := by
  rw [List.takeWhile_append_of_pos fun b hb => by rw [hbefore b hb]; rfl]
  cases after with
  | nil => simp
  | cons b rest =>
    rw [List.takeWhile_cons_of_neg (by simp [hafter b List.mem_cons_self]), List.append_nil]

variable (cmp) [Std.TransCmp cmp]

theorem isLE_trans (a b c : α) (hab : (cmp a b).isLE = true) (hbc : (cmp b c).isLE = true) :
    (cmp a c).isLE = true :=
  Std.TransCmp.isLE_trans hab hbc

theorem isLE_of_not_isLE {a b : α} (h : ¬(cmp a b).isLE = true) : (cmp b a).isLE = true := by
  cases hcmp : cmp a b with
  | lt | eq => simp [hcmp] at h
  | gt => simp [Std.OrientedCmp.lt_of_gt hcmp]

/-- Where an item goes among sorted ones: behind what it is not below, and before the rest. -/
theorem exists_insertBy (a : α) {items : List α}
    (h : items.Pairwise fun a b => (cmp a b).isLE = true) :
    ∃ before after, insertBy cmp a items = before ++ a :: after ∧ items = before ++ after ∧
      (∀ b ∈ before, (cmp a b).isLE = false) ∧ ∀ b ∈ after, (cmp a b).isLE = true := by
  induction items with
  | nil => exact ⟨[], [], rfl, rfl, nofun, nofun⟩
  | cons b rest ih =>
    obtain ⟨hb, hrest⟩ := List.pairwise_cons.1 h
    rw [insertBy]
    split
    next hle =>
      refine ⟨[], b :: rest, rfl, rfl, nofun, List.forall_mem_cons.2 ⟨hle, fun c hc => ?_⟩⟩
      exact isLE_trans cmp a b c hle (hb c hc)
    next hnot =>
      obtain ⟨before, after, hinserted, hsplit, hbefore, hafter⟩ := ih hrest
      refine ⟨b :: before, after, congrArg (b :: ·) hinserted, congrArg (b :: ·) hsplit, ?_, hafter⟩
      exact List.forall_mem_cons.2 ⟨Bool.eq_false_iff.2 hnot, hbefore⟩

theorem sortBy_pairwise (items : List α) :
    (sortBy cmp items).Pairwise fun a b => (cmp a b).isLE = true := by
  induction items with
  | nil => exact .nil
  | cons a rest ih =>
    obtain ⟨before, after, hinserted, hsplit, hbefore, hafter⟩ := exists_insertBy cmp a ih
    show (insertBy cmp a (sortBy cmp rest)).Pairwise _
    rw [hsplit] at ih
    obtain ⟨hfirst, hsecond, hacross⟩ := List.pairwise_append.1 ih
    rw [hinserted]
    refine List.pairwise_append.2 ⟨hfirst, List.pairwise_cons.2 ⟨hafter, hsecond⟩, ?_⟩
    intro b hb
    refine List.forall_mem_cons.2 ⟨isLE_of_not_isLE cmp ?_, hacross b hb⟩
    simp [hbefore b hb]

/-- Rows of which no two tie ascend strictly once they are sorted. -/
theorem sortBy_ascending {items : List α} (h : items.Pairwise fun a b => cmp a b ≠ .eq) :
    (sortBy cmp items).Pairwise fun a b => cmp a b = .lt := by
  have hne : (sortBy cmp items).Pairwise fun a b => cmp a b ≠ .eq := by
    refine (sortBy_perm cmp items).symm.pairwise h ?_
    intro a b hab hba
    exact hab (Std.OrientedCmp.eq_symm hba)
  refine ((sortBy_pairwise cmp items).and hne).imp ?_
  intro a b hab
  cases hcmp : cmp a b with
  | lt => rfl
  | eq => exact absurd hcmp hab.2
  | gt =>
    rw [hcmp] at hab
    cases hab.1

/-- Sorting and picking commute. -/
theorem sortBy_filter (p : α → Bool) (items : List α) :
    (sortBy cmp items).filter p = sortBy cmp (items.filter p) := by
  induction items with
  | nil => simp [sortBy]
  | cons a rest ih =>
    obtain ⟨before, after, hall, hrest, hbefore, hafter⟩ :=
      exists_insertBy cmp a (sortBy_pairwise cmp rest)
    have hall : sortBy cmp (a :: rest) = before ++ a :: after := hall
    rw [hrest, List.filter_append] at ih
    rw [hall, List.filter_append]
    by_cases ha : p a = true
    · obtain ⟨before', after', hall', hrest', hbefore', hafter'⟩ :=
        exists_insertBy cmp a (sortBy_pairwise cmp (rest.filter p))
      have hall' : sortBy cmp (a :: rest.filter p) = before' ++ a :: after' := hall'
      have hsplit : before' ++ after' = before.filter p ++ after.filter p := by rw [← hrest', ih]
      -- Both lists are cut where the item goes, so they are cut at the same place.
      have hcut : before' = before.filter p := by
        rw [← takeWhile_of_split hbefore' hafter', hsplit]
        exact takeWhile_of_split (fun b hb => hbefore b (List.mem_filter.1 hb).1)
          fun b hb => hafter b (List.mem_filter.1 hb).1
      rw [hcut] at hsplit hall'
      rw [List.filter_cons_of_pos ha, List.filter_cons_of_pos ha, hall',
        List.append_cancel_left hsplit]
    · rw [List.filter_cons_of_neg ha, List.filter_cons_of_neg ha, ih]

end Sorted
end ControlPlane
