/-
Names of identities.

A name is stored in a safe form: every unsafe character becomes a hyphen. Names that differ only in
unsafe characters would then be one, so a hash of the given name goes before its first `@`. A name
without unsafe characters is its own safe form and gets no hash, and so a second pass changes
nothing.
-/
import ControlPlane.Digest.Sha256

namespace ControlPlane
namespace IdentityName

/-- The characters that no stored name contains. -/
def forbidden : List Char :=
  ['~', '!', '$', '%', '^', '&', '*', '_', '=', '\x7b', '\x7d', '\x27', '?']

def isForbidden (c : Char) : Bool := forbidden.contains c

def safeChar (c : Char) : Char := if isForbidden c then '-' else c

/-- Insert a mark before the first `@`; a text without one stays as it is. -/
def markDomain (mark : List Char) : List Char → List Char
  | [] => []
  | c :: cs => if c = '@' then mark ++ c :: cs else c :: markDomain mark cs

/-- The safe form of a name, with a hash of the name as a parameter. -/
def sanitiseWith (hash : List Char → List Char) (name : List Char) : List Char :=
  if name.any isForbidden then markDomain (hash name) (name.map safeChar) else name

/-- A byte as two hexadecimal digits. -/
def byteDigits (b : UInt8) : List Char :=
  [Nat.digitChar (b.toNat / 16), Nat.digitChar (b.toNat % 16)]

/-- The first three bytes of the SHA-256 of the name in UTF-8, as six digits. -/
def shortHash (name : List Char) : List Char :=
  let digest := Sha256.digest (String.ofList name).toUTF8.toList
  (digest.take 3).flatMap byteDigits

/-- The form under which an identity is stored and looked up. -/
def sanitise (name : String) : String := String.ofList (sanitiseWith shortHash name.toList)

/-- The display name of an identity that was given none: its name before the first `@`. -/
def displayName (name : String) : String :=
  String.ofList (name.toList.takeWhile fun c => c ≠ '@')

end IdentityName
end ControlPlane
