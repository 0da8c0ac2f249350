/-
What stands between delimiters.

The values of a duplicate are read back from the first opening to the last closing, whatever marks
stand among them (`Failure.conflictingValue?_eq_some_iff`).  A text may also be looked at byte by
byte, where a mark is sought at each offset and what is between two offsets is copied.  A mark that
stands somewhere among the bytes is a part of the text (`Text.standsAt_iff`), so the offsets found
in this way lie between characters, and what they enclose is the value that is read back
(`Failure.conflictingValue?_delimits`).
-/
import ControlPlane.Storage.Failure
import Mathlib.Order.Bounds.Defs

namespace ControlPlane
namespace Text

/-! ## Byte offsets -/

/-- Whether the bytes of a mark stand in a text at an offset. -/
def StandsAt (text mark : String) (offset : Nat) : Prop :=
  text.toByteArray.extract offset (offset + mark.utf8ByteSize) = mark.toByteArray

theorem standsAt_append (before mark after : String) :
    StandsAt (before ++ mark ++ after) mark before.utf8ByteSize := by
  have hrest : (before.toByteArray ++ (mark.toByteArray ++ after.toByteArray)).extract
      (before.utf8ByteSize + 0) (before.utf8ByteSize + mark.utf8ByteSize) =
        (mark.toByteArray ++ after.toByteArray).extract 0 mark.utf8ByteSize :=
    ByteArray.extract_append_size_add
  rw [StandsAt, String.append_assoc, String.toByteArray_append, String.toByteArray_append]
  exact hrest.trans (ByteArray.extract_append_eq_left rfl)

/-- Of two first parts of a text, the longer one goes on from the other. -/
theorem exists_append_of_le {p q x y : String} (h : p ++ x = q ++ y)
    (hle : p.utf8ByteSize ≤ q.utf8ByteSize) : ∃ r, q = p ++ r ∧ x = r ++ y := by
  have hlists : p.toList ++ x.toList = q.toList ++ y.toList := by
    rw [← String.toList_append, h, String.toList_append]
  rcases List.append_eq_append_iff.1 hlists with ⟨r, hq, hx⟩ | ⟨r, hp, hy⟩
  · refine ⟨String.ofList r, String.toList_injective ?_, String.toList_injective ?_⟩
    · rw [String.toList_append, String.toList_ofList, hq]
    · rw [String.toList_append, String.toList_ofList, hx]
  · obtain rfl : p = q ++ String.ofList r := String.toList_injective (by simpa using hp)
    have hempty : (String.ofList r).utf8ByteSize = 0 := by
      rw [String.utf8ByteSize_append] at hle
      omega
    rw [String.utf8ByteSize_eq_zero_iff] at hempty
    rw [hempty, String.append_empty] at h ⊢
    exact ⟨"", by simp, by simpa using h⟩

theorem isValid_iff {text : String} {offset : Nat} :
    (⟨offset⟩ : String.Pos.Raw).IsValid text ↔
      ∃ before after, text = before ++ after ∧ before.utf8ByteSize = offset := by
  rw [String.Pos.Raw.isValid_iff_exists_append]
  simp only [String.Pos.Raw.ext_iff, String.byteIdx_rawEndPos, eq_comm (a := offset)]

variable {text mark : String} {offset : Nat}

/-- The bytes of a mark are a text, so they begin and end between two characters. -/
theorem StandsAt.isValid (h : StandsAt text mark offset) (hmark : mark ≠ "") :
    (⟨offset⟩ : String.Pos.Raw).IsValid text ∧
      (⟨offset + mark.utf8ByteSize⟩ : String.Pos.Raw).IsValid text := by
  have hpos : mark.utf8ByteSize ≠ 0 := mt String.utf8ByteSize_eq_zero_iff.1 hmark
  have hend : offset + mark.utf8ByteSize ≤ text.utf8ByteSize := by
    have hsize := congrArg ByteArray.size h
    simp only [ByteArray.size_extract, String.size_toByteArray] at hsize
    omega
  have hvalid := mark.isValidUTF8
  rw [← h, String.Pos.Raw.isValidUTF8_extract_iff ⟨offset⟩ ⟨offset + mark.utf8ByteSize⟩
    (by simp [String.Pos.Raw.le_iff]) (by simpa [String.Pos.Raw.le_iff] using hend)] at hvalid
  refine hvalid.resolve_left fun heq => hpos ?_
  have hbytes : offset = offset + mark.utf8ByteSize := congrArg String.Pos.Raw.byteIdx heq
  omega

/-- The bytes of a mark stand only where the mark itself does. -/
theorem standsAt_iff (hmark : mark ≠ "") :
    StandsAt text mark offset ↔
      ∃ before after, text = before ++ mark ++ after ∧ before.utf8ByteSize = offset := by
  constructor
  · intro h
    obtain ⟨hstart, hstop⟩ := h.isValid hmark
    obtain ⟨before, rest, htext, hbefore⟩ := isValid_iff.1 hstart
    obtain ⟨upto, after, rfl, hupto⟩ := isValid_iff.1 hstop
    obtain ⟨middle, rfl, -⟩ := exists_append_of_le htext.symm (by omega)
    have hsize : middle.utf8ByteSize = mark.utf8ByteSize := by
      rw [String.utf8ByteSize_append] at hupto
      omega
    have hmiddle := standsAt_append before middle after
    rw [StandsAt, hbefore, hsize, h] at hmiddle
    exact ⟨before, after, by rw [String.toByteArray_inj.1 hmiddle], hbefore⟩
  · rintro ⟨before, after, rfl, rfl⟩
    exact standsAt_append before mark after

/-- Where a mark occurs first, there its bytes stand first. -/
theorem isLeast_standsAt {before after : String} (hmark : mark ≠ "")
    (h : ¬mark.toList <:+: before.toList ++ mark.toList.dropLast) :
    IsLeast {k | StandsAt (before ++ mark ++ after) mark k} before.utf8ByteSize := by
  refine ⟨standsAt_append before mark after, fun k hk => ?_⟩
  obtain ⟨b, a, heq, rfl⟩ := (standsAt_iff hmark).1 hk
  have hlists : before.toList ++ mark.toList ++ after.toList =
      b.toList ++ mark.toList ++ a.toList := by
    simpa using congrArg String.toList heq
  have hnonempty : mark.toList ≠ [] := by simpa using hmark
  obtain ⟨more, hmore⟩ := prefix_of_not_infix hnonempty h hlists
  obtain rfl : b = before ++ String.ofList more := String.toList_injective (by simp [hmore])
  rw [String.utf8ByteSize_append]
  exact Nat.le_add_right _ _

/-- Where a character occurs last, there its byte stands last. -/
theorem le_of_standsAt_singleton {before after : String} {c : Char} {k : Nat}
    (h : c ∉ after.toList)
    (hk : StandsAt (before ++ String.singleton c ++ after) (String.singleton c) k) :
    k ≤ before.utf8ByteSize := by
  have hsingle : String.singleton c ≠ "" := fun heq => by simpa using congrArg String.toList heq
  obtain ⟨b, a, heq, rfl⟩ := (standsAt_iff hsingle).1 hk
  rw [String.append_assoc, String.append_assoc] at heq
  -- A later offset lies behind the character, where it does not occur again.
  refine Nat.le_of_not_lt fun hlt => h ?_
  obtain ⟨more, rfl, htail⟩ := exists_append_of_le heq (Nat.le_of_lt hlt)
  have hlists : c :: after.toList = more.toList ++ c :: a.toList := by
    simpa using congrArg String.toList htail
  cases hmore : more.toList with
  | nil =>
    obtain rfl : more = "" := String.toList_injective (by simp [hmore])
    simp at hlt
  | cons d rest =>
    rw [hmore, List.cons_append, List.cons.injEq] at hlists
    rw [hlists.2]
    simp

/-! ## Marks of two characters -/

theorem infix_cons_iff_of_ne {m c d : Char} (h : d ≠ m) {cs : List Char} :
    [m, c] <:+: d :: cs ↔ [m, c] <:+: cs := by
  rw [List.infix_cons_iff, List.cons_prefix_cons]
  simp [h.symm]

theorem infix_concat_iff_of_ne {m c d : Char} (h : d ≠ c) {cs : List Char} :
    [m, c] <:+: cs ++ [d] ↔ [m, c] <:+: cs := by
  refine List.infix_concat_iff.trans (or_iff_right ?_)
  rintro ⟨lead, heq⟩
  have hlast : c = d := by simpa using congrArg List.getLast? heq
  exact h hlast.symm

end Text

namespace Failure

open Text

theorem conflictingValue?_eq_some_iff {detail value : String} :
    conflictingValue? detail = some value ↔
      ∃ before after, detail = before ++ "=(" ++ value ++ ")" ++ after ∧
        ¬"=(".toList <:+: before.toList ∧ ')' ∉ after.toList := by
  rw [conflictingValue?, Option.map_eq_some_iff]
  have hbegins : ∀ {before : List Char}, "=(".toList <:+: before ++ "=(".toList.dropLast ↔
      "=(".toList <:+: before := infix_concat_iff_of_ne (by decide)
  constructor
  · rintro ⟨cs, hcs, rfl⟩
    obtain ⟨before, after, hdetail, hbefore, hafter⟩ := (between?_eq_some_iff (by decide)).1 hcs
    refine ⟨String.ofList before, String.ofList after, String.toList_injective ?_, ?_, ?_⟩
    · simp [hdetail]
    · rw [String.toList_ofList (l := before)]
      exact fun h => hbefore (hbegins.2 h)
    · rwa [String.toList_ofList]
  · rintro ⟨before, after, rfl, hbefore, hafter⟩
    refine ⟨value.toList, (between?_eq_some_iff (by decide)).2 ?_, String.ofList_toList⟩
    refine ⟨before.toList, after.toList, ?_, fun h => hbefore (hbegins.1 h), hafter⟩
    simp

theorem ne_of_conflictingValue?_eq_none {detail : String} (h : conflictingValue? detail = none)
    (before value after : String) : detail ≠ before ++ "=(" ++ value ++ ")" ++ after := by
  rintro rfl
  rw [conflictingValue?, Option.map_eq_none_iff] at h
  refine ne_of_between?_eq_none (by decide) h before.toList value.toList after.toList ?_
  simp

/-- Whatever the values are, they are read back from the sentence that tells them. -/
theorem conflictingValue?_sentence {columns : String} (h : ¬"=(".toList <:+: columns.toList)
    (value : String) :
    conflictingValue? ("Key (" ++ columns ++ ")=(" ++ value ++ ") already exists.") =
      some value := by
  refine conflictingValue?_eq_some_iff.2 ⟨"Key (" ++ columns ++ ")", " already exists.", ?_, ?_, ?_⟩
  · simp only [String.append_assoc]
    rfl
  · rw [String.toList_append, String.toList_append]
    intro hwithin
    -- Neither the bracket behind the columns nor the five characters before them add an opening.
    have hcolumns := (infix_concat_iff_of_ne (by decide)).1 hwithin
    iterate 5 replace hcolumns := (infix_cons_iff_of_ne (by decide)).1 hcolumns
    exact h hcolumns
  · decide

/-- Whether a value is what a text has between two byte offsets, behind the first opening and before
the last closing after it. -/
structure Delimits (detail : String) (opening closing : Nat) (value : String) : Prop where
  opening_first : IsLeast {k | StandsAt detail "=(" k} opening
  closing_last : IsGreatest {k | opening + 2 ≤ k ∧ StandsAt detail ")" k} closing
  /-- The offsets of the value are in order, and each is between two characters. -/
  start_isValid : (⟨opening + 2⟩ : String.Pos.Raw).IsValid detail
  stop_isValid : (⟨closing⟩ : String.Pos.Raw).IsValid detail
  start_le_stop : opening + 2 ≤ closing
  bytes_eq : value.toByteArray = detail.toByteArray.extract (opening + 2) closing

theorem delimits_of_conflictingValue? {detail value : String}
    (h : conflictingValue? detail = some value) :
    ∃ opening closing, Delimits detail opening closing value := by
  obtain ⟨before, after, hdetail, hbefore, hafter⟩ := conflictingValue?_eq_some_iff.1 h
  have hopening : detail = before ++ "=(" ++ (value ++ ")" ++ after) := by
    simp only [hdetail, String.append_assoc]
  have hvalue : detail = before ++ "=(" ++ value ++ (")" ++ after) := by
    simp only [hdetail, String.append_assoc]
  have hstart : (before ++ "=(").utf8ByteSize = before.utf8ByteSize + 2 :=
    String.utf8ByteSize_append
  have hstop : (before ++ "=(" ++ value).utf8ByteSize =
      before.utf8ByteSize + 2 + value.utf8ByteSize := by
    rw [String.utf8ByteSize_append, hstart]
  refine ⟨before.utf8ByteSize, (before ++ "=(" ++ value).utf8ByteSize, ?_⟩
  constructor
  case opening_first =>
    rw [hopening]
    refine isLeast_standsAt (by decide) fun hwithin => hbefore ?_
    exact (infix_concat_iff_of_ne (by decide)).1 hwithin
  case closing_last =>
    refine ⟨⟨by omega, ?_⟩, fun k hk => ?_⟩
    · rw [hdetail]
      exact standsAt_append _ _ _
    · rw [hdetail] at hk
      exact le_of_standsAt_singleton hafter hk.2
  case start_isValid => exact isValid_iff.2 ⟨_, _, hopening, hstart⟩
  case stop_isValid => exact isValid_iff.2 ⟨_, _, hvalue, rfl⟩
  case start_le_stop => omega
  case bytes_eq =>
    have hbytes := standsAt_append (before ++ "=(") value (")" ++ after)
    rw [StandsAt, ← hvalue, ← String.utf8ByteSize_append, hstart] at hbytes
    exact hbytes.symm

/-- Where nothing is read back, there is no closing after an opening. -/
theorem not_standsAt_of_conflictingValue?_eq_none {detail : String}
    (h : conflictingValue? detail = none) :
    ¬∃ opening closing, StandsAt detail "=(" opening ∧ opening + 2 ≤ closing ∧
      StandsAt detail ")" closing := by
  rintro ⟨opening, closing, hopening, hle, hclosing⟩
  obtain ⟨before, rest, hdetail, rfl⟩ := (standsAt_iff (by decide)).1 hopening
  obtain ⟨upto, after, hdetail', rfl⟩ := (standsAt_iff (by decide)).1 hclosing
  have hstart : (before ++ "=(").utf8ByteSize = before.utf8ByteSize + 2 :=
    String.utf8ByteSize_append
  have hparts : before ++ "=(" ++ rest = upto ++ (")" ++ after) := by
    rw [← hdetail, hdetail', String.append_assoc]
  obtain ⟨value, rfl, -⟩ := exists_append_of_le hparts (hstart ▸ hle)
  exact ne_of_conflictingValue?_eq_none h before value after hdetail'

/-- A value is read back from the sentence of the database as it is, whatever it contains, if the
columns before it do not contain the opening.  From any text, nothing is read back if no closing
comes after an opening; otherwise it is what the text has between the first opening and the last
closing after it, and this can be copied byte by byte. -/
theorem conflictingValue?_delimits :
    (∀ columns value : String, ¬"=(".toList <:+: columns.toList →
      conflictingValue? ("Key (" ++ columns ++ ")=(" ++ value ++ ") already exists.") =
        some value) ∧
    ∀ detail : String,
      (conflictingValue? detail = none ∧
        ¬∃ opening closing, StandsAt detail "=(" opening ∧ opening + 2 ≤ closing ∧
          StandsAt detail ")" closing) ∨
      ∃ opening closing value, conflictingValue? detail = some value ∧
        Delimits detail opening closing value := by
  refine ⟨fun columns value h => conflictingValue?_sentence h value, fun detail => ?_⟩
  cases hvalue : conflictingValue? detail with
  | none => exact .inl ⟨rfl, not_standsAt_of_conflictingValue?_eq_none hvalue⟩
  | some value =>
    obtain ⟨opening, closing, hdelimits⟩ := delimits_of_conflictingValue? hvalue
    exact .inr ⟨opening, closing, value, rfl, hdelimits⟩

/-- A value that imitates the delimiters, behind columns that have the characters of the opening
apart. -/
theorem conflictingValue?_delimits_imitation :
    ¬"=(".toList <:+: "(a)=, b=".toList ∧
    conflictingValue? "Key ((a)=, b=)=(é)=(ü, (y)) already exists." = some "é)=(ü, (y)" ∧
    ∃ opening closing,
      Delimits "Key ((a)=, b=)=(é)=(ü, (y)) already exists." opening closing "é)=(ü, (y)" := by
  have hcolumns : ¬"=(".toList <:+: "(a)=, b=".toList := by decide +kernel
  have hvalue := conflictingValue?_delimits.1 "(a)=, b=" "é)=(ü, (y)" hcolumns
  have hsentence : "Key (" ++ "(a)=, b=" ++ ")=(" ++ "é)=(ü, (y)" ++ ") already exists." =
      "Key ((a)=, b=)=(é)=(ü, (y)) already exists." := by decide +kernel
  rw [hsentence] at hvalue
  refine ⟨hcolumns, hvalue, ?_⟩
  rcases conflictingValue?_delimits.2 "Key ((a)=, b=)=(é)=(ü, (y)) already exists." with
    ⟨hnone, -⟩ | ⟨opening, closing, value, hsome, hdelimits⟩
  · cases hvalue.symm.trans hnone
  · obtain rfl := Option.some.inj (hvalue.symm.trans hsome)
    exact ⟨opening, closing, hdelimits⟩

end Failure
end ControlPlane
