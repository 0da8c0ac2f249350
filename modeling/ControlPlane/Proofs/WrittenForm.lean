/-
Identifiers and instants in writing.

A reader takes what was written off the start of a text and leaves the rest, so the parts of a text
are read one after the other.  An identifier is read from its text (`Uuid.read?_render`), and so is
an instant in a year that has a text, where a leap second stands at the end of its minute
(`Timestamp.read?_render`).
-/
import ControlPlane.Proofs.Calendar
import ControlPlane.Time.Reader
import ControlPlane.Uuid
import Mathlib.Data.List.Induction
import Mathlib.Data.List.TakeWhile

namespace ControlPlane

theorem mapM_eq_some {α β : Type} {f : α → Option β} {g : α → β} {items : List α}
    (h : ∀ a ∈ items, f a = some (g a)) : items.mapM f = some (items.map g) := by
  induction items with
  | nil => rfl
  | cons a items ih =>
    rw [List.mapM_cons, h a List.mem_cons_self, ih fun b hb => h b (List.mem_cons_of_mem a hb)]
    rfl

/-! ## Digits -/

namespace Text

variable {c : Char} {cs run rest : List Char} {limit : Nat}

theorem isDigit_iff : c.isDigit = true ↔ 48 ≤ c.toNat ∧ c.toNat ≤ 57 := by
  simp [Char.isDigit, UInt32.le_iff_toNat_le]

theorem isBlank_of_isDigit (h : c.isDigit = true) : isBlank c = false := by
  rw [isDigit_iff] at h
  simp only [isBlank, Bool.or_eq_false_iff, Bool.and_eq_false_iff, decide_eq_false_iff_not,
    beq_eq_false_iff_ne]
  omega

theorem dropBlanks_cons (h : isBlank c = false) : dropBlanks (c :: cs) = c :: cs := by
  simp [dropBlanks, h]

/-- Whether a text does not start with a digit. -/
def EndsNumber (rest : List Char) : Prop := ∀ c ∈ rest.head?, c.isDigit = false

/-- Digits are taken off a text up to the limit, or up to what is no digit. -/
theorem digits?_append (hrun : ∀ c ∈ run, c.isDigit = true) (hne : run ≠ [])
    (hlimit : run.length ≤ limit) (hend : run.length = limit ∨ EndsNumber rest) :
    digits? limit (run ++ rest) = some (run, rest) := by
  have htake : (run ++ rest).take limit = run ++ rest.take (limit - run.length) := by
    rw [List.take_append, List.take_of_length_le hlimit]
  have hstops : (rest.take (limit - run.length)).takeWhile Char.isDigit = [] := by
    rcases hend with rfl | hend
    · simp
    · cases rest with
      | nil => simp
      | cons c rest =>
        cases limit - run.length with
        | zero => rfl
        | succ n => simp [hend c rfl]
  rw [digits?, htake, List.takeWhile_append_of_pos hrun, hstops, List.append_nil]
  cases run with
  | nil => exact absurd rfl hne
  | cons c run => simp

end Text

namespace Timestamp

open Text

variable {width n : Nat}

theorem isDigit_of_mem_padded {c : Char} (h : c ∈ padded width n) : c.isDigit = true := by
  rcases List.mem_append.1 h with h | h
  · rw [List.eq_of_mem_replicate h]
    rfl
  · rw [Nat.toList_repr] at h
    exact Nat.isDigit_of_mem_toDigits (by decide) (by decide) h

theorem padded_ne_nil : padded width n ≠ [] := by
  simp [padded, Nat.toDigits_ne_nil]

theorem length_padded (hwidth : 0 < width) (h : n < 10 ^ width) :
    (padded width n).length = width := by
  have hlength := (Nat.length_toDigits_le_iff (b := 10) (by decide) hwidth).2 h
  simp only [padded, Nat.toList_repr, List.length_append, List.length_replicate]
  omega

theorem wholeOf_padded : wholeOf (padded width n) = n := by
  have hwhole (cs : List Char) : wholeOf cs = Nat.ofDigitChars 10 cs 0 := rfl
  rw [hwhole, padded, Nat.ofDigitChars_append, Nat.ofDigitChars_replicate_zero]
  simp

end Timestamp

/-! ## Parts of instants -/

namespace Time
namespace Reader

open Text Timestamp

variable {n width : Nat} {year : Int} {rest : List Char}

theorem dropBlanks_padded : dropBlanks (padded width n ++ rest) = padded width n ++ rest := by
  cases h : padded width n with
  | nil => exact absurd h padded_ne_nil
  | cons c cs =>
    have hdigit : c.isDigit = true := isDigit_of_mem_padded (h ▸ List.mem_cons_self)
    exact dropBlanks_cons (isBlank_of_isDigit hdigit)

theorem digits?_padded (hwidth : 0 < width) (h : n < 10 ^ width) :
    digits? width (padded width n ++ rest) = some (padded width n, rest) :=
  digits?_append (fun _ => isDigit_of_mem_padded) padded_ne_nil (length_padded hwidth h).le
    (.inl (length_padded hwidth h))

/-- Two digits are read back, whatever follows. -/
theorem twoDigits?_padded (h : n < 100) :
    twoDigits? (padded 2 n ++ rest) = some (n, rest) := by
  rw [twoDigits?, dropBlanks_padded, digits?_padded (by decide) h]
  exact congrArg (fun whole => some (whole, rest)) wholeOf_padded

/-- A mark is read back, if it is no blank. -/
theorem mark?_cons {mark : Char} (h : isBlank mark = false) :
    mark? mark (mark :: rest) = some rest := by
  rw [mark?, dropBlanks_cons h]
  exact if_pos rfl

theorem year?_minus (cs : List Char) : year? ('-' :: cs) =
    (digits? cs.length cs).map fun (run, rest) => (-(wholeOf run : Int), rest) := rfl

theorem year?_plus (cs : List Char) : year? ('+' :: cs) =
    (digits? cs.length cs).map fun (run, rest) => ((wholeOf run : Int), rest) := rfl

theorem year?_padded (h : n < 10000) : year? (padded 4 n ++ rest) = some ((n : Int), rest) := by
  have hread : digits? 4 (padded 4 n ++ rest) = some (padded 4 n, rest) :=
    digits?_padded (by decide) h
  rw [year?, dropBlanks_padded]
  cases hcs : padded 4 n with
  | nil => exact absurd hcs padded_ne_nil
  | cons c cs =>
    have hdigit : c.isDigit = true := isDigit_of_mem_padded (hcs ▸ List.mem_cons_self)
    rw [hcs, List.cons_append] at hread
    rw [List.cons_append]
    split
    next heq => cases heq; cases hdigit
    next heq => cases heq; cases hdigit
    next =>
      simp only [hread, ← hcs, Option.map_some, wholeOf_padded]

/-- A year is read back, where no digit follows. -/
theorem year?_yearText (hend : EndsNumber rest) :
    year? (yearText year ++ rest) = some (year, rest) := by
  have hsigned (n : Nat) : digits? (padded 4 n ++ rest).length (padded 4 n ++ rest) =
      some (padded 4 n, rest) :=
    digits?_append (fun _ => isDigit_of_mem_padded) padded_ne_nil (by simp) (.inr hend)
  unfold yearText
  split
  next hyear =>
    have hvalue : (year.toNat : Int) = year := by omega
    rw [year?_padded (show year.toNat < 10000 by omega), hvalue]
  next hyear =>
    split
    next hnegative =>
      have hvalue : -(year.natAbs : Int) = year := by omega
      simp only [List.cons_append, year?_minus, hsigned, Option.map_some, wholeOf_padded, hvalue]
    next hpositive =>
      have hvalue : (year.natAbs : Int) = year := by omega
      simp only [List.cons_append, year?_plus, hsigned, Option.map_some, wholeOf_padded, hvalue]

theorem fraction?_padded (hwidth : 0 < width) (hmax : width ≤ 9) (h : n < 10 ^ width) :
    fraction? ('.' :: (padded width n ++ ['Z'])) = some (n * Nat.pow 10 (9 - width), ['Z']) := by
  have hlength := length_padded hwidth h
  have hread : digits? 9 (padded width n ++ ['Z']) = some (padded width n, ['Z']) :=
    digits?_append (fun _ => isDigit_of_mem_padded) padded_ne_nil (by omega)
      (.inr fun c hc => by cases hc; rfl)
  simp only [fraction?, hread, Option.map_some, wholeOf_padded, hlength]
  rfl

/-- A fraction is read back, in whichever number of digits it is written. -/
theorem fraction?_fractionText {nanos : Nat} (h : nanos < 1000000000) :
    fraction? (fractionText nanos ++ ['Z']) = some (nanos, ['Z']) := by
  unfold fractionText
  split
  next hnone =>
    rw [hnone]
    rfl
  split
  next hmillis =>
    have hvalue : nanos / 1000000 * Nat.pow 10 (9 - 3) = nanos := by
      show nanos / 1000000 * 1000000 = nanos
      omega
    rw [List.cons_append, fraction?_padded (by decide) (by decide) (by omega), hvalue]
  split
  next hmicros =>
    have hvalue : nanos / 1000 * Nat.pow 10 (9 - 6) = nanos := by
      show nanos / 1000 * 1000 = nanos
      omega
    rw [List.cons_append, fraction?_padded (by decide) (by decide) (by omega), hvalue]
  next =>
    have hvalue : nanos * Nat.pow 10 (9 - 9) = nanos := Nat.mul_one nanos
    rw [List.cons_append, fraction?_padded (by decide) (by decide) (by omega), hvalue]

theorem some_bind {α β : Type} (a : α) (f : α → Option β) : (some a >>= f) = f a := rfl

/-- A date, a time of day and a fraction are read back, and come to an instant or to none. -/
theorem timestamp?_written {month day hour minute second nanos : Nat} (hmonth : month < 100)
    (hday : day < 100) (hhour : hour < 100) (hminute : minute < 100) (hsecond : second < 100)
    (hnanos : nanos < 1000000000) :
    timestamp?
        (yearText year ++ '-' :: padded 2 month ++ '-' :: padded 2 day ++ 'T' :: padded 2 hour ++
          ':' :: padded 2 minute ++ ':' :: padded 2 second ++ fractionText nanos ++ ['Z']) =
      (instant? ⟨year, month, day⟩ hour minute second nanos 0).map fun t => (t, []) := by
  have hyear (rest : List Char) : year? (yearText year ++ '-' :: rest) = some (year, '-' :: rest) :=
    year?_yearText fun c hc => by cases hc; rfl
  have hdash (rest : List Char) : mark? '-' ('-' :: rest) = some rest := mark?_cons (by decide)
  have hcolon (rest : List Char) : mark? ':' (':' :: rest) = some rest := mark?_cons (by decide)
  have hseparator : isSeparator 'T' = true := by decide
  have hoffset : offset? (dropBlanks ['Z']) = some (0, []) := by decide
  simp only [List.append_assoc, List.cons_append]
  unfold timestamp?
  dsimp only
  rw [hyear, some_bind, hdash, some_bind, twoDigits?_padded hmonth, some_bind, hdash, some_bind,
    twoDigits?_padded hday, some_bind]
  simp only [hseparator, if_true]
  rw [some_bind, twoDigits?_padded hhour, some_bind, hcolon, some_bind,
    twoDigits?_padded hminute, some_bind, hcolon, some_bind, twoDigits?_padded hsecond, some_bind,
    fraction?_fractionText hnanos, some_bind, hoffset, some_bind]
  exact Option.map_eq_bind.symm

end Reader
end Time

/-! ## Instants -/

namespace Timestamp

open Text Time

variable {t : Timestamp}

/-- Whether an instant has a text from which it is read: its year has one, and a leap second is at
the end of its minute. -/
structure IsLegible (t : Timestamp) : Prop where
  year : Reader.hasYear (Date.ofDayNumber (t.seconds / 86400)).year = true
  nanos : t.nanos < 1000000000 ∨ t.nanos < 2000000000 ∧ t.seconds % 60 = 59

/-- A date and a time of day in writing come to the instant that was written. -/
theorem instant?_of_isLegible (h : t.IsLegible) :
    let ofDay := (t.seconds % 86400).toNat
    Reader.instant? (Date.ofDayNumber (t.seconds / 86400)) (ofDay / 3600) (ofDay / 60 % 60)
      (ofDay % 60 + t.nanos / 1000000000) (t.nanos % 1000000000) 0 = some t := by
  intro ofDay
  obtain ⟨hyear, hnanos⟩ := h
  have hofDay : (ofDay : Int) = t.seconds % 86400 := by omega
  have hvalid := Date.isValid_ofDayNumber (t.seconds / 86400)
  obtain ⟨second, hsecond⟩ : ∃ second, second = ofDay % 60 + t.nanos / 1000000000 := ⟨_, rfl⟩
  have hordinary : (if second = 60 then 59 else second) = ofDay % 60 := by
    split <;> omega
  have hfraction : (if second = 60 then t.nanos % 1000000000 + 1000000000
      else t.nanos % 1000000000) = t.nanos := by
    split <;> omega
  have htime : t.seconds / 86400 * 86400 +
      ((ofDay / 3600 : Nat) * 3600 + (ofDay / 60 % 60 : Nat) * 60 + (ofDay % 60 : Nat)) - 0 =
        t.seconds := by omega
  rw [← hsecond, Reader.instant?, if_pos]
  · simp only [Date.dayNumber_ofDayNumber, hordinary, hfraction, htime, hyear, if_true]
  · simp only [hvalid, hyear, Bool.true_and, Bool.and_eq_true, decide_eq_true_eq]
    omega

/-- An instant is read from its text. -/
theorem read?_render (h : t.IsLegible) : read? t.render = some t := by
  have hinstant := instant?_of_isLegible h
  obtain ⟨-, hnanos⟩ := h
  obtain ⟨-, hmonth, -, hday⟩ := Date.isValid_iff.1 (Date.isValid_ofDayNumber (t.seconds / 86400))
  have hdays := Date.daysInMonth_le (Date.ofDayNumber (t.seconds / 86400)).year
    (Date.ofDayNumber (t.seconds / 86400)).month
  rw [read?, render, String.toList_ofList,
    Reader.timestamp?_written (by omega) (by omega) (by omega) (by omega) (by omega) (by omega),
    hinstant]
  rfl

end Timestamp

/-! ## What is read -/

theorem Text.wholeOf_lt {run : List Char} (h : ∀ c ∈ run, c.isDigit = true) :
    wholeOf run < 10 ^ run.length := by
  induction run using List.reverseRecOn with
  | nil => decide
  | append_singleton run c ih =>
    have hrun := ih fun c hc => h c (List.mem_append_left _ hc)
    have hdigit := isDigit_iff.1 (h c (List.mem_append_right _ List.mem_cons_self))
    have hwhole : wholeOf (run ++ [c]) = 10 * wholeOf run + digitValue c := List.foldl_append
    rw [hwhole, List.length_append, List.length_singleton, Nat.pow_succ, digitValue]
    omega

/-- What is taken off a text as digits. -/
theorem Text.of_digits?_eq_some {limit : Nat} {cs run rest : List Char}
    (h : digits? limit cs = some (run, rest)) :
    (∀ c ∈ run, c.isDigit = true) ∧ run.length ≤ limit := by
  unfold digits? at h
  split at h
  next => cases h
  next =>
    cases h
    refine ⟨fun c hc => List.mem_takeWhile_imp hc, ?_⟩
    calc _ ≤ (cs.take limit).length := (List.takeWhile_sublist _).length_le
      _ ≤ limit := List.length_take_le ..

namespace Time
namespace Reader

open Text

theorem lt_of_fraction? {cs rest : List Char} {nanos : Nat}
    (h : fraction? cs = some (nanos, rest)) : nanos < 1000000000 := by
  unfold fraction? at h
  split at h
  next =>
    obtain ⟨⟨run, after⟩, hrun, heq⟩ := Option.map_eq_some_iff.1 h
    cases heq
    obtain ⟨hdigits, hlength⟩ := of_digits?_eq_some hrun
    calc wholeOf run * Nat.pow 10 (9 - run.length)
        < 10 ^ run.length * 10 ^ (9 - run.length) :=
          Nat.mul_lt_mul_of_pos_right (wholeOf_lt hdigits) (Nat.pow_pos (by decide))
      _ = 10 ^ 9 := by rw [← Nat.pow_add, Nat.add_sub_cancel' hlength]
  next =>
    cases h
    decide

/-- Offsets are whole minutes. -/
theorem emod_of_signedOffset? {negative : Bool} {cs rest : List Char} {offset : Int}
    (h : signedOffset? negative cs = some (offset, rest)) : offset % 60 = 0 := by
  obtain ⟨⟨hours, after⟩, -, h⟩ := Option.bind_eq_some_iff.1 h
  obtain ⟨⟨minutes, last⟩, -, h⟩ := Option.bind_eq_some_iff.1 h
  dsimp only at h
  split at h
  next =>
    cases h
    split <;> omega
  next => cases h

theorem emod_of_offset? {cs rest : List Char} {offset : Int}
    (h : offset? cs = some (offset, rest)) : offset % 60 = 0 := by
  unfold offset? at h
  split at h
  next => cases h; rfl
  next =>
    split at h
    next =>
      split at h
      next => cases h; rfl
      next =>
        split at h
        next => exact emod_of_signedOffset? h
        next =>
          split at h
          next => exact emod_of_signedOffset? h
          next => cases h
    next => cases h

theorem isLegible_of_instant? {date : Date} {hour minute second nanos : Nat} {offset : Int}
    {t : Timestamp} (h : instant? date hour minute second nanos offset = some t)
    (hnanos : nanos < 1000000000) (hoffset : offset % 60 = 0) : t.IsLegible := by
  unfold instant? at h
  split at h
  next =>
    obtain ⟨hyear, heq⟩ := Option.ite_none_right_eq_some.1 h
    cases heq
    refine ⟨hyear, ?_⟩
    by_cases hleap : second = 60
    · simp only [hleap, if_true]
      omega
    · simp only [hleap, if_false]
      exact .inl hnanos
  next => cases h

theorem isLegible_of_timestamp? {cs rest : List Char} {t : Timestamp}
    (h : timestamp? cs = some (t, rest)) : t.IsLegible := by
  unfold timestamp? at h
  obtain ⟨⟨year, afterYear⟩, -, h⟩ := Option.bind_eq_some_iff.1 h
  obtain ⟨afterDash, -, h⟩ := Option.bind_eq_some_iff.1 h
  obtain ⟨⟨month, afterMonth⟩, -, h⟩ := Option.bind_eq_some_iff.1 h
  obtain ⟨afterDash', -, h⟩ := Option.bind_eq_some_iff.1 h
  obtain ⟨⟨day, afterDay⟩, -, h⟩ := Option.bind_eq_some_iff.1 h
  cases afterDay with
  | nil => cases h
  | cons separator afterDay =>
    dsimp only at h
    split at h
    case isFalse => cases h
    obtain ⟨afterSeparator, -, h⟩ := Option.bind_eq_some_iff.1 h
    obtain ⟨⟨hour, afterHour⟩, -, h⟩ := Option.bind_eq_some_iff.1 h
    obtain ⟨afterColon, -, h⟩ := Option.bind_eq_some_iff.1 h
    obtain ⟨⟨minute, afterMinute⟩, -, h⟩ := Option.bind_eq_some_iff.1 h
    obtain ⟨afterColon', -, h⟩ := Option.bind_eq_some_iff.1 h
    obtain ⟨⟨second, afterSecond⟩, -, h⟩ := Option.bind_eq_some_iff.1 h
    obtain ⟨⟨nanos, afterFraction⟩, hfraction, h⟩ := Option.bind_eq_some_iff.1 h
    obtain ⟨⟨offset, afterOffset⟩, hoffset, h⟩ := Option.bind_eq_some_iff.1 h
    obtain ⟨instant, hinstant, heq⟩ := Option.bind_eq_some_iff.1 h
    cases heq
    exact isLegible_of_instant? hinstant (lt_of_fraction? hfraction) (emod_of_offset? hoffset)

end Reader
end Time

/-- The instants that are read from texts are those in years that have one, with leap seconds at the
ends of minutes. -/
theorem Timestamp.isLegible_iff {t : Timestamp} :
    t.IsLegible ↔ ∃ text, read? text = some t := by
  refine ⟨fun h => ⟨_, t.read?_render h⟩, fun ⟨text, h⟩ => ?_⟩
  unfold read? at h
  split at h
  next hread =>
    split at h
    next =>
      cases h
      exact Time.Reader.isLegible_of_timestamp? hread
    next => cases h
  next => cases h

/-! ## Identifiers -/

namespace Uuid

open Text

/-- The lowest digits of a number in base sixteen, from the highest down, come to the number. -/
theorem foldl_digits (width value : Nat) :
    ((List.range width).map fun i => value / Nat.pow 16 (width - 1 - i) % 16).foldl
      (fun n v => 16 * n + v) 0 = value % 16 ^ width := by
  induction width generalizing value with
  | zero => simp [Nat.mod_one]
  | succ width ih =>
    -- All digits but the last one are those of the number without its last digit.
    have hhigher : ∀ i ∈ List.range width, value / Nat.pow 16 (width + 1 - 1 - i) % 16 =
        value / 16 / Nat.pow 16 (width - 1 - i) % 16 := by
      intro i hi
      have hi := List.mem_range.1 hi
      have hpower : Nat.pow 16 (width + 1 - 1 - i) = 16 * Nat.pow 16 (width - 1 - i) := by
        rw [show width + 1 - 1 - i = width - 1 - i + 1 by omega]
        exact Nat.pow_succ'
      rw [hpower, Nat.div_div_eq_div_mul]
    have hlast : value / Nat.pow 16 (width + 1 - 1 - width) % 16 = value % 16 := by
      rw [Nat.add_sub_cancel, Nat.sub_self]
      exact congrArg (· % 16) (Nat.div_one value)
    rw [List.range_succ, List.map_append, List.foldl_append, List.map_congr_left hhigher, ih,
      List.map_singleton, List.foldl_cons, List.foldl_nil, hlast, Nat.pow_succ', Nat.mod_mul]
    omega

theorem hexValue?_digitChar : ∀ n < 16, hexValue? (digitChar n) = some n := by
  decide

theorem digits_length (u : Uuid) : u.digits.length = 32 := by simp [digits]

theorem ofDigits?_digits (u : Uuid) : ofDigits? u.digits = some u := by
  have hvalues : u.digits.mapM hexValue? =
      some ((List.range 32).map fun i => u.value.toNat / Nat.pow 16 (31 - i) % 16) := by
    rw [digits, List.mapM_map]
    refine mapM_eq_some fun i _ => ?_
    exact hexValue?_digitChar _ (Nat.mod_lt _ (by decide))
  have hvalue := foldl_digits 32 u.value.toNat
  rw [Nat.mod_eq_of_lt (show u.value.toNat < 16 ^ 32 from u.value.isLt)] at hvalue
  rw [ofDigits?, if_pos u.digits_length, hvalues, Option.map_some]
  exact congrArg some (congrArg Uuid.mk ((congrArg (BitVec.ofNat 128) hvalue).trans
    (BitVec.ofNat_toNat ..)))

/-- What stands at the place of a hyphen, and behind it. -/
theorem at_hyphen {front rest : List Char} {n : Nat} (h : front.length = n) :
    (front ++ '-' :: rest)[n]? = some '-' ∧ (front ++ '-' :: rest).drop (n + 1) = rest := by
  subst h
  simp

/-- Groups of digits are read as the digits without hyphens. -/
theorem ofGroups?_of_length {a b c d e : List Char} (ha : a.length = 8) (hb : b.length = 4)
    (hc : c.length = 4) (hd : d.length = 4) (he : e.length = 12) :
    ofGroups? (a ++ '-' :: b ++ '-' :: c ++ '-' :: d ++ '-' :: e) =
      ofDigits? (a ++ b ++ c ++ d ++ e) := by
  obtain ⟨cs, hcs⟩ : ∃ cs, cs = a ++ '-' :: b ++ '-' :: c ++ '-' :: d ++ '-' :: e := ⟨_, rfl⟩
  have hlength : cs.length = 36 := by simp only [hcs, List.length_append, List.length_cons]; omega
  have hsplit (front rest : List Char) {n : Nat} (hcs' : cs = front ++ '-' :: rest)
      (hn : front.length = n) : cs[n]? = some '-' ∧ cs.drop (n + 1) = rest := by
    rw [hcs']
    exact at_hyphen hn
  obtain ⟨h8, h9⟩ := hsplit a (b ++ '-' :: (c ++ '-' :: (d ++ '-' :: e))) (by simp [hcs]) ha
  obtain ⟨h13, h14⟩ := hsplit (n := 13) (a ++ '-' :: b) (c ++ '-' :: (d ++ '-' :: e))
    (by simp [hcs]) (by simp [ha, hb])
  obtain ⟨h18, h19⟩ := hsplit (n := 18) (a ++ '-' :: b ++ '-' :: c) (d ++ '-' :: e) (by simp [hcs])
    (by simp [ha, hb, hc])
  obtain ⟨h23, h24⟩ := hsplit (n := 23) (a ++ '-' :: b ++ '-' :: c ++ '-' :: d) e (by simp [hcs])
    (by simp [ha, hb, hc, hd])
  have h0 : cs.take 8 = a := by
    rw [hcs]
    simp only [List.append_assoc, List.cons_append]
    exact List.take_left' ha
  rw [← hcs, ofGroups?, if_pos, h0, h9, h14, h19, h24, List.take_left' hb, List.take_left' hc,
    List.take_left' hd]
  rw [hlength, h8, h13, h18, h23]
  exact ⟨rfl, rfl⟩

theorem take_drop_append {α : Type} (items : List α) (start count : Nat) :
    (items.drop start).take count ++ items.drop (start + count) = items.drop start := by
  rw [← List.drop_drop]
  exact List.take_append_drop ..

theorem ofGroups?_render (u : Uuid) : ofGroups? u.render.toList = some u := by
  have hlength := u.digits_length
  rw [render, String.toList_ofList, ofGroups?_of_length (by simp [hlength]) (by simp [hlength])
    (by simp [hlength]) (by simp [hlength]) (by simp [hlength])]
  have hparts : u.digits.take 8 ++ (u.digits.drop 8).take 4 ++ (u.digits.drop 12).take 4 ++
      (u.digits.drop 16).take 4 ++ u.digits.drop 20 = u.digits := by
    simp only [List.append_assoc, take_drop_append _ 16 4, take_drop_append _ 12 4,
      take_drop_append _ 8 4, List.take_append_drop]
  rw [hparts, ofDigits?_digits]

/-- No digit is the first letter of a name or an opening brace. -/
theorem digitChar_plain : ∀ n < 16, (digitChar n).toLower ≠ 'u' ∧ digitChar n ≠ '\x7b' := by
  decide

theorem read?_render (u : Uuid) : read? u.render = some u := by
  have hgroups := u.ofGroups?_render
  have hlength : u.render.toList.length ≠ 32 := by
    rw [render, String.toList_ofList]
    simp [u.digits_length]
  obtain ⟨n, hn, rest, hrest⟩ : ∃ n < 16, ∃ rest, u.render.toList = digitChar n :: rest :=
    ⟨_, Nat.mod_lt _ (by decide), _, by rw [render, String.toList_ofList, digits]; rfl⟩
  obtain ⟨hletter, hbrace⟩ := digitChar_plain n hn
  rw [hrest] at hgroups hlength
  have hname : (List.take 9 (digitChar n :: rest)).map Char.toLower ≠ "urn:uuid:".toList := by
    intro heq
    exact hletter (List.cons.inj heq).1
  simp only [read?, hrest, if_neg hname]
  split
  next heq => exact absurd (List.cons.inj heq).1 hbrace
  next => rw [if_neg hlength, hgroups]

end Uuid
end ControlPlane
