/-
Numbers of free-form documents.

A number is an integer that fits 64 bits, signed or unsigned, or a binary64 value. A binary64 value
is held as the shortest decimal that reads back, so equal values have one form. `Number.stored` is
what the database gives back: it keeps plain decimal notation, in which a large whole float is an
integer. The reader of that notation rounds on its way, so it has no value for the largest float
(`Number.isReadable`).
-/
import ControlPlane.Number.Binary64
import ControlPlane.Number.Word

namespace ControlPlane

/-- An integer of 64 bits or a binary64 value in its shortest decimal form. -/
inductive Number
  | integer (value : Int)
  | float (negative : Bool) (magnitude : Number.Decimal)
  deriving DecidableEq, Repr, Inhabited

namespace Number

/-- The binary64 value nearest to a decimal; `none` beyond the largest. -/
def ofDecimal? (negative : Bool) (d : Decimal) : Option Number :=
  d.nearest?.map fun b => .float negative b.shortest

/-- A whole number as written. One that no word holds, and a negative zero, become floats. -/
def ofWhole? (negative : Bool) (n : Nat) : Option Number :=
  let value : Int := if negative then -n else n
  if Word.holds value && !(negative && n = 0) then some (.integer value)
  else ofDecimal? negative ⟨n, 0⟩

def zeros (n : Nat) : String := String.ofList (List.replicate n '0')

/-- A float in text: positional up to sixteen digits before the point and five zeros after it,
with an exponent outside; a whole float keeps one decimal place. -/
def Decimal.render (d : Decimal) : String :=
  let digits := Nat.repr d.digits
  let scale := d.scale
  if d.digits = 0 then "0.0"
  else if 0 ≤ d.exponent ∧ scale ≤ 16 then digits ++ zeros d.exponent.toNat ++ ".0"
  else if 0 < scale ∧ scale ≤ 16 then
    String.ofList (digits.toList.take scale.toNat) ++ "." ++
      String.ofList (digits.toList.drop scale.toNat)
  else if -5 < scale ∧ scale ≤ 0 then "0." ++ zeros scale.natAbs ++ digits
  else
    let fraction := String.ofList (digits.toList.drop 1)
    String.ofList (digits.toList.take 1) ++ (if fraction.isEmpty then "" else "." ++ fraction) ++
      "e" ++ toString (scale - 1)

def render : Number → String
  | .integer n => toString n
  | .float negative d => (if negative then "-" else "") ++ d.render

/-- The integer that a whole decimal is. -/
def Decimal.whole (d : Decimal) (negative : Bool) : Int :=
  let magnitude : Int := (d.digits * Nat.pow 10 d.exponent.toNat : Nat)
  if negative then -magnitude else magnitude

/-- What the database gives back. Plain decimal notation has no negative zero, and a float that is
written with a positive exponent loses its decimal point, so it is an integer if a word holds it. -/
def stored : Number → Number
  | .integer n => .integer n
  | .float negative d =>
    if d.digits = 0 then .float false d
    else if 0 ≤ d.exponent ∧ 16 < d.scale then
      if Word.holds (d.whole negative) then .integer (d.whole negative) else .float negative d
    else .float negative d

/-- A second trip through the database changes nothing. -/
theorem stored_stored (n : Number) : n.stored.stored = n.stored := by
  cases n with
  | integer n => rfl
  | float negative d =>
    by_cases hzero : d.digits = 0
    · simp [stored, hzero]
    · by_cases hlarge : 0 ≤ d.exponent ∧ 16 < d.scale
      · by_cases hfits : Word.holds (d.whole negative) = true
        · simp [stored, hzero, hlarge, hfits]
        · simp [stored, hzero, hlarge, hfits]
      · simp [stored, hzero, hlarge]

/-! ## Reading back -/

/-- How many digits a whole number has to lose at its end for a word to hold the others. -/
def excessDigits (n : Nat) : Nat :=
  if n < Word.size 64 then 0 else excessDigits (n / 10) + 1
termination_by n
decreasing_by
  have : 0 < Word.size 64 := by decide
  omega

/-- Whether a whole number is read from its digits as a float. What a word holds of its leading
digits is multiplied by the power of ten of the others; both are rounded, and so is their product,
which may leave the range although the number itself does not. -/
def isReadableWhole (n : Nat) : Bool :=
  let excess := excessDigits n
  match Decimal.nearest? ⟨n / Nat.pow 10 excess, 0⟩, Decimal.nearest? ⟨1, excess⟩ with
  | some leading, some power => (leading.times? power).isSome
  | _, _ => false

/-- Whether a number is read from the text that the database keeps of it. -/
def isReadable (n : Number) : Bool :=
  match n.stored with
  | .integer _ => true
  | .float _ d => d.exponent < 0 || isReadableWhole (d.digits * Nat.pow 10 d.exponent.toNat)

theorem isReadable_stored (n : Number) : n.stored.isReadable = n.isReadable := by
  rw [isReadable, isReadable, stored_stored]

/-- The largest float is not, and the next but one below it is. -/
example : isReadable (.float false ⟨17976931348623157, 292⟩) = false ∧
    isReadable (.float false ⟨17976931348623153, 292⟩) = true := by decide +kernel

end Number
end ControlPlane
