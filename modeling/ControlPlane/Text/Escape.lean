/-
Escapes in quoted texts: what stands after a backslash.

A letter stands for one character, or says how many digits of base sixteen write the code of one.
-/
import ControlPlane.Text.Digits

namespace ControlPlane
namespace Text

structure Escapes where
  /-- The letters that stand for a character. -/
  letters : List (Char × Char)
  /-- The letters before a code, and how many digits it has. -/
  codes : List (Char × Nat)

/-- The character that an escape stands for after its backslash, and what follows. -/
def Escapes.read? (e : Escapes) : List Char → Option (Char × List Char)
  | [] => none
  | c :: rest =>
    match e.letters.lookup c, e.codes.lookup c with
    | some d, _ => some (d, rest)
    | none, some width => do
      let code ← wholeInBase? 16 (rest.take width)
      if width ≤ rest.length ∧ code.isValidChar then return (Char.ofNat code, rest.drop width)
      else none
    | none, none => none

end Text
end ControlPlane
