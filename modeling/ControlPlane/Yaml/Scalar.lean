/-
What plain scalars of YAML stand for.

A scalar without quotes is an empty value, a flag or a number if it is written like one, and a text
otherwise. Digits after a leading zero are no number.
-/
import ControlPlane.Text.Numeral
import ControlPlane.Text.Search
import ControlPlane.Tree

namespace ControlPlane
namespace Yaml

def emptyNames : List String := ["", "~", "null", "Null", "NULL"]

def trueNames : List String := ["true", "True", "TRUE"]

def falseNames : List String := ["false", "False", "FALSE"]

/-- The names of infinity and of what is no number, after a sign. -/
def boundlessNames : List String := [".inf", ".Inf", ".INF", ".nan", ".NaN", ".NAN"]

/-- Several digits of which the first is a zero. -/
def hasLeadingZero : List Char → Bool
  | '0' :: c :: rest => (c :: rest).all Char.isDigit
  | _ => false

/-- An integer without a sign, in base ten or in one that the text names. -/
def whole? (cs : List Char) : Option Nat :=
  match cs with
  | '0' :: 'x' :: digits => Text.wholeInBase? 16 digits
  | '0' :: 'o' :: digits => Text.wholeInBase? 8 digits
  | '0' :: 'b' :: digits => Text.wholeInBase? 2 digits
  | digits => if hasLeadingZero digits then none else Text.wholeInBase? 10 digits

def integer? : List Char → Option Int
  | '+' :: rest => (whole? rest).map fun n => (n : Int)
  | '-' :: rest => (whole? rest).map fun n => -(n : Int)
  | cs => (whole? cs).map fun n => (n : Int)

def isFloat (cs : List Char) : Bool :=
  let unsigned := if cs.head?.any Text.isSign then cs.drop 1 else cs
  boundlessNames.contains (String.ofList unsigned) ||
    (!hasLeadingZero unsigned && Text.isUnsignedFloat unsigned)

/-- The value of a plain scalar. -/
def scalar (cs : List Char) : Tree :=
  let text := String.ofList cs
  if emptyNames.contains text then .empty
  else if trueNames.contains text then .flag true
  else if falseNames.contains text then .flag false
  else
    match integer? cs with
    | some n => .integer n
    | none => if isFloat cs then .float else .text text

end Yaml
end ControlPlane
