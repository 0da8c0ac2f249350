/-
Searching in a text, on its list of characters.

`cutFirst?` splits at the first occurrence of a mark, `beforeLast?` at the last occurrence of one
character, and `between?` takes what stands between the two.
-/

namespace ControlPlane
namespace Text

/-- What follows `lead`, if the text starts with it. -/
def dropLead? : List Char → List Char → Option (List Char)
  | [], cs => some cs
  | _ :: _, [] => none
  | l :: lead, c :: cs => if l = c then dropLead? lead cs else none

/-- The parts before and after the first occurrence of `mark`. -/
def cutFirst? (mark : List Char) : List Char → Option (List Char × List Char)
  | [] => if mark = [] then some ([], []) else none
  | c :: cs =>
    match dropLead? mark (c :: cs) with
    | some after => some ([], after)
    | none => (cutFirst? mark cs).map fun (before, after) => (c :: before, after)

/-- The part before the last occurrence of `mark`. -/
def beforeLast? (mark : Char) : List Char → Option (List Char)
  | [] => none
  | c :: cs =>
    match beforeLast? mark cs with
    | some before => some (c :: before)
    | none => if c = mark then some [] else none

/-- The part between the first occurrence of `start` and the last `stop` after it. -/
def between? (start : List Char) (stop : Char) (cs : List Char) : Option (List Char) :=
  (cutFirst? start cs).bind fun (_, after) => beforeLast? stop after

/-- The pieces between the occurrences of a mark, which are dropped. -/
def splitAt (mark : Char) : List Char → List (List Char)
  | [] => [[]]
  | c :: cs =>
    if c = mark then [] :: splitAt mark cs
    else
      match splitAt mark cs with
      | [] => [[c]]
      | piece :: pieces => (c :: piece) :: pieces

/-- The text with every occurrence of `old` replaced, from left to right. An empty `old` occurs
nowhere. -/
def replaceAll (old new : List Char) (cs : List Char) : List Char :=
  match old with
  | [] => cs
  | o :: rest => go o rest cs cs.length
where
  go (o : Char) (rest cs : List Char) : Nat → List Char
    | 0 => cs
    | fuel + 1 =>
      match cs with
      | [] => []
      | c :: tail =>
        match dropLead? (o :: rest) (c :: tail) with
        | some after => new ++ go o rest after fuel
        | none => c :: go o rest tail fuel

/-! ## Laws -/

theorem dropLead?_append (lead cs : List Char) : dropLead? lead (lead ++ cs) = some cs := by
  induction lead with
  | nil => rfl
  | cons l lead ih => simp [dropLead?, ih]

theorem dropLead?_eq_some {lead cs rest : List Char} (h : dropLead? lead cs = some rest) :
    cs = lead ++ rest := by
  induction lead generalizing cs with
  | nil => simp [dropLead?] at h; simp [h]
  | cons l lead ih =>
    cases cs with
    | nil => simp [dropLead?] at h
    | cons c cs =>
      by_cases hc : l = c
      · simp [dropLead?, hc] at h; simp [hc, ih h]
      · simp [dropLead?, hc] at h

theorem dropLead?_eq_none_iff {lead cs : List Char} : dropLead? lead cs = none ↔ ¬lead <+: cs := by
  constructor
  · rintro h ⟨rest, rfl⟩
    rw [dropLead?_append] at h
    cases h
  · intro h
    refine Option.eq_none_iff_forall_ne_some.2 fun rest hrest => h ⟨rest, ?_⟩
    exact (dropLead?_eq_some hrest).symm

/-- Nothing is lost at a cut. -/
theorem cutFirst?_eq_some {mark cs before after : List Char}
    (h : cutFirst? mark cs = some (before, after)) : cs = before ++ mark ++ after := by
  induction cs generalizing before after with
  | nil =>
    by_cases hm : mark = []
    · simp [cutFirst?, hm] at h; simp [h, hm]
    · simp [cutFirst?, hm] at h
  | cons c cs ih =>
    rw [cutFirst?] at h
    split at h
    next rest hrest =>
      simp at h
      simp [← h.1, ← h.2, dropLead?_eq_some hrest]
    next =>
      obtain ⟨⟨b, a⟩, hcut, heq⟩ := Option.map_eq_some_iff.1 h
      simp only [Prod.mk.injEq] at heq
      simp [← heq.1, ← heq.2, ih hcut]

theorem cutFirst?_eq_none_iff {mark cs : List Char} : cutFirst? mark cs = none ↔ ¬mark <:+: cs := by
  induction cs with
  | nil => simp [cutFirst?]
  | cons c cs ih =>
    rw [cutFirst?, List.infix_cons_iff, not_or, ← ih, ← dropLead?_eq_none_iff]
    split
    next rest hrest => simp [hrest]
    next hnone => simp [hnone]

theorem isPrefix_append_dropLast (before mark after : List Char) :
    before ++ mark.dropLast <+: before ++ mark ++ after := by
  rw [List.append_assoc, List.prefix_append_right_inj]
  exact (List.dropLast_prefix mark).trans (List.prefix_append mark after)

/-- The mark does not occur before the cut, and does not begin there either. -/
theorem not_infix_of_cutFirst? {mark cs before after : List Char} (hmark : mark ≠ [])
    (h : cutFirst? mark cs = some (before, after)) : ¬mark <:+: before ++ mark.dropLast := by
  induction cs generalizing before after with
  | nil => simp [cutFirst?, hmark] at h
  | cons c cs ih =>
    have hcs := cutFirst?_eq_some h
    rw [cutFirst?] at h
    split at h
    next =>
      simp only [Option.some.injEq, Prod.mk.injEq] at h
      rw [← h.1, List.nil_append]
      intro hwithin
      have hlength := hwithin.length_le
      have hpos := List.length_pos_iff.2 hmark
      rw [List.length_dropLast] at hlength
      omega
    next hnone =>
      obtain ⟨⟨before', after'⟩, hcut, heq⟩ := Option.map_eq_some_iff.1 h
      obtain ⟨rfl, rfl⟩ := Prod.mk.inj heq
      rw [List.cons_append, List.infix_cons_iff, not_or]
      refine ⟨fun hlead => dropLead?_eq_none_iff.1 hnone (hlead.trans ?_), ih hcut⟩
      rw [hcs]
      exact isPrefix_append_dropLast (c :: before') mark after'

/-- A mark that neither occurs nor begins before occurs there first. -/
theorem prefix_of_not_infix {mark before after b a : List Char} (hmark : mark ≠ [])
    (h : ¬mark <:+: before ++ mark.dropLast) (heq : before ++ mark ++ after = b ++ mark ++ a) :
    before <+: b := by
  have hbefore : before <+: before ++ mark ++ after := ⟨mark ++ after, by simp⟩
  have hb : b <+: before ++ mark ++ after := ⟨mark ++ a, by simp [heq]⟩
  refine List.prefix_of_prefix_length_le hbefore hb (Nat.le_of_not_lt fun hlt => h ?_)
  -- An earlier occurrence ends before the mark does.
  have hoccurs : b ++ mark <+: before ++ mark ++ after := ⟨a, heq.symm⟩
  have hlength : (b ++ mark).length ≤ (before ++ mark.dropLast).length := by
    have hpos := List.length_pos_iff.2 hmark
    simp only [List.length_append, List.length_dropLast]
    omega
  have hearlier : b ++ mark <+: before ++ mark.dropLast :=
    List.prefix_of_prefix_length_le hoccurs (isPrefix_append_dropLast before mark after) hlength
  exact (List.suffix_append b mark).isInfix.trans hearlier.isInfix

theorem cutFirst?_append {mark cs : List Char} (hmark : mark ≠ [])
    (h : ¬mark <:+: cs ++ mark.dropLast) (rest : List Char) :
    cutFirst? mark (cs ++ mark ++ rest) = some (cs, rest) := by
  cases hcut : cutFirst? mark (cs ++ mark ++ rest) with
  | none => exact absurd ⟨cs, rest, rfl⟩ (cutFirst?_eq_none_iff.1 hcut)
  | some parts =>
    obtain ⟨before, after⟩ := parts
    have heq := cutFirst?_eq_some hcut
    have hfirst := prefix_of_not_infix hmark h heq
    have hlast := prefix_of_not_infix hmark (not_infix_of_cutFirst? hmark hcut) heq.symm
    obtain rfl := hfirst.eq_of_length (Nat.le_antisymm hfirst.length_le hlast.length_le)
    rw [List.append_cancel_left heq]

theorem beforeLast?_eq_none_iff {mark : Char} {cs : List Char} :
    beforeLast? mark cs = none ↔ mark ∉ cs := by
  induction cs with
  | nil => simp [beforeLast?]
  | cons c cs ih =>
    rw [beforeLast?, List.mem_cons, not_or, ← ih]
    split
    next before hbefore => simp [hbefore]
    next hnone => simp [hnone, eq_comm]

theorem beforeLast?_append_mark (mark : Char) (cs rest : List Char) (h : mark ∉ rest) :
    beforeLast? mark (cs ++ mark :: rest) = some cs := by
  induction cs with
  | nil => simp [beforeLast?, beforeLast?_eq_none_iff.2 h]
  | cons c cs ih => simp [beforeLast?, ih]

theorem exists_of_beforeLast? {mark : Char} {cs before : List Char}
    (h : beforeLast? mark cs = some before) :
    ∃ after, cs = before ++ mark :: after ∧ mark ∉ after := by
  induction cs generalizing before with
  | nil => cases h
  | cons c cs ih =>
    rw [beforeLast?] at h
    split at h
    next rest hrest =>
      obtain ⟨after, rfl, hafter⟩ := ih hrest
      obtain rfl := Option.some.inj h
      exact ⟨after, rfl, hafter⟩
    next hnone =>
      obtain ⟨rfl, hnil⟩ := Option.ite_none_right_eq_some.1 h
      obtain rfl := Option.some.inj hnil
      exact ⟨cs, rfl, beforeLast?_eq_none_iff.1 hnone⟩

theorem between?_eq_some_iff {start : List Char} {stop : Char} {cs value : List Char}
    (hstart : start ≠ []) :
    between? start stop cs = some value ↔
      ∃ before after, cs = before ++ start ++ (value ++ stop :: after) ∧
        ¬start <:+: before ++ start.dropLast ∧ stop ∉ after := by
  rw [between?, Option.bind_eq_some_iff]
  constructor
  · rintro ⟨⟨before, rest⟩, hcut, hlast⟩
    obtain ⟨after, rfl, hafter⟩ := exists_of_beforeLast? hlast
    exact ⟨before, after, cutFirst?_eq_some hcut, not_infix_of_cutFirst? hstart hcut, hafter⟩
  · rintro ⟨before, after, rfl, hbefore, hafter⟩
    exact ⟨(before, value ++ stop :: after), cutFirst?_append hstart hbefore _,
      beforeLast?_append_mark stop value after hafter⟩

/-- Nothing is found only where no `stop` comes after a `start`. -/
theorem ne_of_between?_eq_none {start : List Char} {stop : Char} {cs : List Char}
    (hstart : start ≠ []) (h : between? start stop cs = none) (before value after : List Char) :
    cs ≠ before ++ start ++ (value ++ stop :: after) := by
  rintro rfl
  rw [between?, Option.bind_eq_none_iff] at h
  cases hcut : cutFirst? start (before ++ start ++ (value ++ stop :: after)) with
  | none => exact cutFirst?_eq_none_iff.1 hcut ⟨before, _, rfl⟩
  | some parts =>
    obtain ⟨first, rest⟩ := parts
    have heq := cutFirst?_eq_some hcut
    obtain ⟨more, rfl⟩ := prefix_of_not_infix hstart (not_infix_of_cutFirst? hstart hcut) heq.symm
    have hrest : rest <:+ first ++ start ++ rest := List.suffix_append _ rest
    have htail : value ++ stop :: after <:+ first ++ start ++ rest :=
      ⟨first ++ more ++ start, heq⟩
    have hlength : (value ++ stop :: after).length ≤ rest.length := by
      have hwhole := congrArg List.length heq
      simp only [List.length_append] at hwhole ⊢
      omega
    have hsuffix := List.suffix_of_suffix_length_le htail hrest hlength
    exact beforeLast?_eq_none_iff.1 (h _ hcut) (hsuffix.mem (by simp))

end Text
end ControlPlane
