/-
Scalars of YAML in quotes.

Between single quotes a quote is written twice and all else stands for itself; between double quotes
a backslash starts an escape. Line breaks are folded in both.
-/
import ControlPlane.Text.Escape
import ControlPlane.Yaml.Line

namespace ControlPlane
namespace Yaml

/-- The text up to the closing single quote, and what follows. -/
def singleQuoted : Nat → List Char → Option (List Char × List Char)
  | 0, _ => none
  | fuel + 1, cs =>
    match cs with
    | [] => none
    | '\x27' :: '\x27' :: rest =>
      (singleQuoted fuel rest).map fun (text, rest) => ('\x27' :: text, rest)
    | c :: rest =>
      if c = '\x27' then some ([], rest)
      else if isSpace c || c = '\n' then
        let (between, rest) := gap (c :: rest)
        (singleQuoted fuel rest).map fun (text, rest) => (between ++ text, rest)
      else (singleQuoted fuel rest).map fun (text, rest) => (c :: text, rest)

/-- The escapes between double quotes. -/
def escapes : Text.Escapes where
  letters :=
    [('0', '\x00'), ('a', '\x07'), ('b', '\x08'), ('t', '\t'), ('\t', '\t'), ('n', '\n'),
      ('v', '\x0b'), ('f', '\x0c'), ('r', '\r'), ('e', '\x1b'), (' ', ' '), ('"', '"'),
      ('/', '/'), ('\\', '\\'), ('N', Char.ofNat 0x85), ('_', Char.ofNat 0xa0),
      ('L', Char.ofNat 0x2028), ('P', Char.ofNat 0x2029)]
  codes := [('x', 2), ('u', 4), ('U', 8)]

/-- The text up to the closing double quote, and what follows. -/
def doubleQuoted : Nat → List Char → Option (List Char × List Char)
  | 0, _ => none
  | fuel + 1, cs =>
    match cs with
    | [] => none
    | '\\' :: '\n' :: rest => doubleQuoted fuel (skipSpaces rest)
    | c :: rest =>
      if c = '"' then some ([], rest)
      else if c = '\\' then do
        let (d, rest) ← escapes.read? rest
        let (text, rest) ← doubleQuoted fuel rest
        return (d :: text, rest)
      else if isSpace c || c = '\n' then
        let (between, rest) := gap (c :: rest)
        (doubleQuoted fuel rest).map fun (text, rest) => (between ++ text, rest)
      else (doubleQuoted fuel rest).map fun (text, rest) => (c :: text, rest)

/-- The text of a scalar in quotes of either kind, and what follows it. -/
def quoted? : List Char → Option (List Char × List Char)
  | '\x27' :: rest => singleQuoted (rest.length + 1) rest
  | '"' :: rest => doubleQuoted (rest.length + 1) rest
  | _ => none

end Yaml
end ControlPlane
