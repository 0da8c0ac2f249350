/-
Writing a document as text, without blanks between its parts.
-/
import ControlPlane.Json

namespace ControlPlane
namespace Json
namespace Printer

/-- The four digits of a code below a hundred, as they follow `u` in an escape. -/
def codeDigits (n : Nat) : List Char :=
  '0' :: '0' :: (Nat.toDigits 16 (n / 16) ++ Nat.toDigits 16 (n % 16))

/-- How a character is written inside a string. -/
def charText (c : Char) : List Char :=
  if c = '"' then ['\\', '"']
  else if c = '\\' then ['\\', '\\']
  else if c.toNat < 0x20 then '\\' :: 'u' :: codeDigits c.toNat
  else [c]

/-- `acc` followed by the string in quotes. -/
def writeString (acc : String) (s : String) : String :=
  (s.toList.foldl (fun acc c => (charText c).foldl String.push acc) (acc.push '"')).push '"'

mutual

/-- `acc` followed by the document. -/
def write (acc : String) : Json → String
  | .null => acc ++ "null"
  | .bool b => acc ++ (if b then "true" else "false")
  | .number n => acc ++ n.render
  | .string s => writeString acc s
  | .array items => (writeItems (acc.push '[') true items).push ']'
  | .record members => (writeMembers (acc.push '\x7b') true members).push '\x7d'

def writeItems (acc : String) (first : Bool) : List Json → String
  | [] => acc
  | item :: rest => writeItems (write (if first then acc else acc.push ',') item) false rest

def writeMembers (acc : String) (first : Bool) : List (String × Json) → String
  | [] => acc
  | (name, value) :: rest =>
    let acc := writeString (if first then acc else acc.push ',') name
    writeMembers (write (acc.push ':') value) false rest

end
end Printer

/-- The text of a document. -/
def render (doc : Json) : String := Printer.write "" doc

end Json
end ControlPlane
