/-
Environment variables as sources of the configuration.

The name of a variable leads to a setting: after the name of the program, two underscores step into
a table. Its text is a flag, a number, a text in quotes, a list or a table in brackets, or else
stands for itself.
-/
import ControlPlane.Number.Word
import ControlPlane.Text.Blank
import ControlPlane.Text.Escape
import ControlPlane.Text.Numeral
import ControlPlane.Text.Search
import ControlPlane.Tree

namespace ControlPlane
namespace Variable

/-! ## The text of a variable -/

def skipSpaces (cs : List Char) : List Char := cs.dropWhile fun c => c.isWhitespace || c = '\x0c'

/-- The characters that divide and close lists and tables. -/
def isMark (c : Char) : Bool := [',', '\x7b', '\x7d', '[', ']'].contains c

/-- The escapes between quotes. -/
def escapes : Text.Escapes where
  letters :=
    [('"', '"'), ('\\', '\\'), ('b', '\x08'), ('f', '\x0c'), ('n', '\n'), ('r', '\r'), ('t', '\t')]
  codes := [('u', 4), ('U', 8)]

/-- The text up to the closing quote, and what follows. -/
def quoted : Nat → List Char → Option (List Char × List Char)
  | 0, _ => none
  | fuel + 1, cs =>
    match cs with
    | [] => none
    | '"' :: rest => some ([], rest)
    | '\\' :: rest => do
      let (d, rest) ← escapes.read? rest
      let (text, rest) ← quoted fuel rest
      return (d :: text, rest)
    | c :: rest =>
      if c.toNat < 0x20 && c ≠ '\t' || c.toNat = 0x7f then none
      else (quoted fuel rest).map fun (text, rest) => (c :: text, rest)

def quoted? (cs : List Char) : Option (List Char × List Char) := quoted (cs.length + 1) cs

/-- A text without quotes: a number if it is written like one. -/
def bare (cs : List Char) : Tree :=
  let cs := Text.trimBlanks cs
  if cs.contains '.' && Text.isFloat cs then .float
  else
    match Text.signed? cs with
    | some n => if Word.holds n then .integer n else .text (String.ofList cs)
    | none => .text (String.ofList cs)

/-- The name of a member, with or without quotes. -/
def memberName? (cs : List Char) : Option (String × List Char) :=
  match skipSpaces cs with
  | '"' :: rest => (quoted? rest).map fun (name, rest) => (String.ofList name, rest)
  | cs =>
    let isNameChar (c : Char) : Bool := c.isAlphanum || c = '_' || c = '-'
    match cs.takeWhile isNameChar with
    | [] => none
    | name => some (String.ofList name, cs.dropWhile isNameChar)

mutual

/-- A value at the start of a text, with the spaces around it, and what follows. -/
def value? : Nat → List Char → Option (Tree × List Char)
  | 0, _ => none
  | fuel + 1, cs =>
    let cs := skipSpaces cs
    let found :=
      match Text.dropLead? "true".toList cs, Text.dropLead? "false".toList cs with
      | some rest, _ => some (Tree.flag true, rest)
      | none, some rest => some (Tree.flag false, rest)
      | none, none =>
        match cs with
        | '\x7b' :: rest =>
          (members? fuel rest).map fun (members, rest) => (.ofMembers members, rest)
        | '[' :: rest => (items? fuel rest).map fun (items, rest) => (.list items, rest)
        | '"' :: rest => (quoted? rest).map fun (text, rest) => (.text (String.ofList text), rest)
        | '\x27' :: c :: '\x27' :: rest => some (.text (String.ofList [c]), rest)
        | '\x27' :: _ => none
        | cs =>
          some (bare (cs.takeWhile fun c => !isMark c), cs.dropWhile fun c => !isMark c)
    found.map fun (value, rest) => (value, skipSpaces rest)

/-- The items of a list up to its closing bracket. -/
def items? : Nat → List Char → Option (List Tree × List Char)
  | 0, _ => none
  | fuel + 1, cs =>
    match cs with
    | ']' :: rest => some ([], rest)
    | cs => do
      let (item, rest) ← value? fuel cs
      match rest with
      | ',' :: rest => do
        let (items, rest) ← items? fuel rest
        return (item :: items, rest)
      | ']' :: rest => return ([item], rest)
      | _ => none

/-- The members of a table up to its closing bracket. -/
def members? : Nat → List Char → Option (List (String × Tree) × List Char)
  | 0, _ => none
  | fuel + 1, cs =>
    match cs with
    | '\x7d' :: rest => some ([], rest)
    | cs => do
      let (name, rest) ← memberName? cs
      match skipSpaces rest with
      | '=' :: rest => do
        let (value, rest) ← value? fuel rest
        match rest with
        | ',' :: rest => do
          let (members, rest) ← members? fuel rest
          return ((name, value) :: members, rest)
        | '\x7d' :: rest => return ([(name, value)], rest)
        | _ => none
      | _ => none

end

/-- The value of a variable. A text that is not wholly one value stands for itself. -/
def value (text : String) : Tree :=
  match value? (2 * text.length + 2) text.toList with
  | some (value, []) => value
  | _ => .text text

/-! ## The name of a variable -/

def foldCase (cs : List Char) : List Char := cs.map Char.toLower

/-- How the names of the program's own variables start. -/
def lead : List Char := "fleetstore_".toList

/-- The variable that names the configuration file is no setting. -/
def fileName : List Char := "config".toList

/-- The variable that holds the URL of the database under a name that other programs use too. -/
def databaseUrlName : List Char := "database_url".toList

/-- The path of the setting for which a variable of the program stands. A path has no empty part. -/
def path? (name : String) : Option (List String) := do
  let key ← Text.dropLead? lead (foldCase name.toList)
  if key = fileName then none
  else
    let parts := Text.splitAt '.' (Text.replaceAll "__".toList ['.'] key)
    if parts.any List.isEmpty then none else return parts.map String.ofList

/-- The tree of all settings in variables. The common variable for the URL of the database counts
more than those of the program. -/
def tree (environment : List (String × String)) : Tree :=
  let own := environment.filterMap fun (name, text) =>
    (path? name).map fun path => Tree.nest path (value text)
  let common := environment.filterMap fun (name, text) =>
    if foldCase name.toList = databaseUrlName then
      some (Tree.nest [String.ofList databaseUrlName] (value text))
    else none
  (own ++ common).foldl Tree.overlay (.table [])

end Variable
end ControlPlane
