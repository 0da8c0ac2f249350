/-
Universally unique identifiers: 128 bits, written as 32 hexadecimal digits in five groups.
-/
import ControlPlane.Text.Digits

namespace ControlPlane

structure Uuid where
  value : BitVec 128
  deriving DecidableEq, Repr, Inhabited

namespace Uuid

/-- The identifier whose bits are all zero. -/
def nil : Uuid := ⟨0⟩

def digitChar (n : Nat) : Char := Nat.digitChar n

/-- The 32 digits, in lower case. -/
def digits (u : Uuid) : List Char :=
  (List.range 32).map fun i => digitChar (u.value.toNat / Nat.pow 16 (31 - i) % 16)

/-- Lower case, in groups of 8, 4, 4, 4 and 12 digits with hyphens between them. -/
def render (u : Uuid) : String :=
  let ds := u.digits
  String.ofList <|
    ds.take 8 ++ '-' :: (ds.drop 8).take 4 ++ '-' :: (ds.drop 12).take 4 ++
      '-' :: (ds.drop 16).take 4 ++ '-' :: ds.drop 20

/-- The first group, which is enough to tell identifiers apart by eye. -/
def abbreviation (u : Uuid) : String := String.ofList (u.digits.take 8)

/-- The identifier of exactly 32 digits in either case. -/
def ofDigits? (ds : List Char) : Option Uuid :=
  if ds.length = 32 then
    (ds.mapM Text.hexValue?).map fun values =>
      ⟨BitVec.ofNat 128 (values.foldl (fun n v => 16 * n + v) 0)⟩
  else none

/-- The identifier of five groups with hyphens between them. -/
def ofGroups? (cs : List Char) : Option Uuid :=
  let hyphens := [cs[8]?, cs[13]?, cs[18]?, cs[23]?]
  if cs.length = 36 ∧ hyphens = List.replicate 4 (some '-') then
    ofDigits? (cs.take 8 ++ (cs.drop 9).take 4 ++ (cs.drop 14).take 4 ++ (cs.drop 19).take 4 ++
      cs.drop 24)
  else none

/-- The accepted forms: plain digits, or groups alone, in braces or after `urn:uuid:` in either
case. -/
def read? (text : String) : Option Uuid :=
  let cs := text.toList
  if (cs.take 9).map Char.toLower = "urn:uuid:".toList then ofGroups? (cs.drop 9)
  else
    match cs with
    | '\x7b' :: rest => if rest.getLast? = some '\x7d' then ofGroups? rest.dropLast else none
    | _ => if cs.length = 32 then ofDigits? cs else ofGroups? cs

end Uuid
end ControlPlane
