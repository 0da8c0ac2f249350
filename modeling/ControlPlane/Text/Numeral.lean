/-
Numbers written in texts: which texts are integers, and which are floats.
-/
import ControlPlane.Text.Digits

namespace ControlPlane
namespace Text

def isSign (c : Char) : Bool := c = '+' || c = '-'

/-- A whole number in decimal digits, perhaps after a plus sign. -/
def unsigned? : List Char → Option Nat
  | '+' :: digits => wholeInBase? 10 digits
  | digits => wholeInBase? 10 digits

/-- An integer in decimal digits, perhaps after a sign. -/
def signed? : List Char → Option Int
  | '-' :: digits => (wholeInBase? 10 digits).map fun n => -(n : Int)
  | cs => (unsigned? cs).map fun n => (n : Int)

/-- Digits with at most one point among them, at least one digit, and what follows. -/
def pointed? (cs : List Char) : Option (List Char) :=
  let whole := cs.takeWhile Char.isDigit
  match cs.dropWhile Char.isDigit with
  | '.' :: rest =>
    if whole.isEmpty && (rest.takeWhile Char.isDigit).isEmpty then none
    else some (rest.dropWhile Char.isDigit)
  | rest => if whole.isEmpty then none else some rest

/-- A power of ten: an `e` in either case and an integer. -/
def isExponent : List Char → Bool
  | c :: rest => c.toLower = 'e' && (signed? rest).isSome
  | [] => false

/-- A decimal number without a sign, perhaps with a power of ten. -/
def isUnsignedFloat (cs : List Char) : Bool :=
  match pointed? cs with
  | some rest => rest.isEmpty || isExponent rest
  | none => false

/-- A decimal number, perhaps with a sign and a power of ten. -/
def isFloat : List Char → Bool
  | c :: rest => if isSign c then isUnsignedFloat rest else isUnsignedFloat (c :: rest)
  | [] => false

end Text
end ControlPlane
