/-
Digits of numbers in texts.
-/

namespace ControlPlane
namespace Text

def digitValue (c : Char) : Nat := c.toNat - 48

/-- The number that a run of decimal digits writes. -/
def wholeOf (digits : List Char) : Nat := digits.foldl (fun n c => 10 * n + digitValue c) 0

/-- The value of a digit of base sixteen, in either case. -/
def hexValue? (c : Char) : Option Nat :=
  if c.isDigit then some (digitValue c)
  else if 97 ≤ c.toNat ∧ c.toNat ≤ 102 then some (c.toNat - 87)
  else if 65 ≤ c.toNat ∧ c.toNat ≤ 70 then some (c.toNat - 55)
  else none

/-- At least one decimal digit and at most `limit`, and the rest. -/
def digits? (limit : Nat) (cs : List Char) : Option (List Char × List Char) :=
  match (cs.take limit).takeWhile Char.isDigit with
  | [] => none
  | run => some (run, cs.drop run.length)

/-- A number in base `base`, at most sixteen, of at least one digit and nothing else. -/
def wholeInBase? (base : Nat) (digits : List Char) : Option Nat :=
  if digits = [] then none
  else
    digits.foldlM
      (fun n c => (hexValue? c).bind fun v => if v < base then some (base * n + v) else none) 0

end Text
end ControlPlane
