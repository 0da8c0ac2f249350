/-
Reading a YAML text.

Lists and tables are written in lines of the same depth, or in brackets on any number of lines. A
text holds one value, or none. Anchors, tags, directives and keys that are no scalars are not read.
-/
import ControlPlane.Yaml.BlockScalar
import ControlPlane.Yaml.Plain
import ControlPlane.Yaml.Quoted
import ControlPlane.Yaml.Scalar

namespace ControlPlane
namespace Yaml

/-! ## Values in brackets -/

/-- Skip spaces, line breaks and comments. -/
def skipFlow : Nat → List Char → List Char
  | 0, cs => cs
  | fuel + 1, cs =>
    match skipSpaces cs with
    | '\n' :: rest => skipFlow fuel rest
    | '#' :: rest => skipFlow fuel (rest.dropWhile fun c => c ≠ '\n')
    | rest => rest

def skipGap (cs : List Char) : List Char := skipFlow (cs.length + 1) cs

/-- The text of a scalar within brackets, whether it has quotes, and what follows it. -/
def flowText? (cs : List Char) : Option (List Char × Bool × List Char) :=
  match quoted? cs with
  | some (text, rest) => some (text, true, rest)
  | none => (plain? true 0 cs).map fun (text, rest) => (text, false, rest)

/-- The value of a scalar. Only one without quotes can be anything but a text. -/
def scalarOf (text : List Char) (isQuoted : Bool) : Tree :=
  if isQuoted then .text (String.ofList text) else scalar text

/-- Whether a value within brackets is left out. -/
def isLeftOut (cs : List Char) : Bool :=
  match cs with
  | c :: _ => c = ',' || c = ']' || c = '\x7d'
  | [] => true

mutual

/-- A value within brackets or one that is written in them, and what follows it. -/
def flowValue? : Nat → List Char → Option (Tree × List Char)
  | 0, _ => none
  | fuel + 1, cs =>
    match cs with
    | '[' :: rest =>
      (flowItems? fuel (skipGap rest)).map fun (items, rest) => (.list items, rest)
    | '\x7b' :: rest =>
      (flowMembers? fuel (skipGap rest)).map fun (members, rest) => (.ofMembers members, rest)
    | cs => (flowText? cs).map fun (text, isQuoted, rest) => (scalarOf text isQuoted, rest)

/-- The items of a list up to its closing bracket. An item may be a table with one member. -/
def flowItems? : Nat → List Char → Option (List Tree × List Char)
  | 0, _ => none
  | fuel + 1, cs =>
    match cs with
    | ']' :: rest => some ([], rest)
    | cs => do
      let (value, rest) ← flowValue? fuel cs
      let (item, rest) ←
        match skipGap rest with
        | ':' :: rest => do
          let (name, _, _) ← flowText? cs
          let (value, rest) ← flowMember? fuel (skipGap rest)
          some (Tree.table [(String.ofList name, value)], rest)
        | rest => some (value, rest)
      let (items, rest) ← flowRest? fuel rest
      return (item :: items, rest)

/-- The items after one item: none, or those after a comma. -/
def flowRest? : Nat → List Char → Option (List Tree × List Char)
  | 0, _ => none
  | fuel + 1, cs =>
    match skipGap cs with
    | ',' :: rest => flowItems? fuel (skipGap rest)
    | ']' :: rest => some ([], rest)
    | _ => none

/-- The value of a member, which may be left out. -/
def flowMember? : Nat → List Char → Option (Tree × List Char)
  | 0, _ => none
  | fuel + 1, cs => if isLeftOut cs then some (.empty, cs) else flowValue? fuel cs

/-- The members of a table up to its closing bracket. -/
def flowMembers? : Nat → List Char → Option (List (String × Tree) × List Char)
  | 0, _ => none
  | fuel + 1, cs =>
    match cs with
    | '\x7d' :: rest => some ([], rest)
    | cs => do
      let (name, _, rest) ← flowText? cs
      let (value, rest) ←
        match skipGap rest with
        | ':' :: rest => flowMember? fuel (skipGap rest)
        | rest => some (.empty, rest)
      let member := (String.ofList name, value)
      match skipGap rest with
      | ',' :: rest => do
        let (members, rest) ← flowMembers? fuel (skipGap rest)
        return (member :: members, rest)
      | '\x7d' :: rest => return ([member], rest)
      | _ => none

end

/-! ## Values in lines -/

/-- A place in a text: how many characters stand before it on its line, and those from there on. -/
structure Place where
  column : Nat
  rest : List Char

namespace Place

/-- The place after the spaces on the line. -/
def skip (p : Place) : Place :=
  ⟨p.column + (p.rest.takeWhile isSpace).length, skipSpaces p.rest⟩

/-- Whether no content of the document follows. -/
def isEnd (p : Place) : Bool := p.rest.isEmpty || (p.column = 0 && isMarker p.rest)

/-- Whether an item of a list starts here. -/
def isItem (p : Place) : Bool := p.rest.head? = some '-' && isBreakOrSpace (p.rest.drop 1)

end Place

/-- The first content at the start of a line or after it. Only spaces may stand before it. -/
def content? : Nat → List Char → Option Place
  | 0, _ => none
  | fuel + 1, line =>
    let depth := indentation line
    match line.drop depth with
    | '\n' :: rest => content? fuel rest
    | '#' :: rest => content? fuel ((rest.dropWhile fun c => c ≠ '\n').drop 1)
    | '\t' :: _ => none
    | rest => some ⟨depth, rest⟩

/-- The next content after the end of this line, on which nothing may follow. -/
def nextContent? (cs : List Char) : Option Place :=
  (lineEnd? cs).bind fun rest => content? (rest.length + 1) rest

/-- The name of a member that starts here and the place behind its colon. -/
def memberName? (p : Place) : Option (String × Place) := do
  let (text, rest) ←
    match quoted? p.rest with
    | some (text, rest) => some (text, rest)
    | none =>
      if startsPlain false p.rest then
        let (part, rest) := plainPart false false p.rest
        some (trimEnd part, rest)
      else none
  match skipSpaces rest with
  | ':' :: after =>
    if isBreakOrSpace after then
      return (String.ofList text, ⟨p.column + (p.rest.length - after.length), after⟩)
    else none
  | _ => none

/-- A value that starts on this line and is no list or table in lines; the next content after it. -/
def inlineValue? (indent : Nat) (cs : List Char) : Option (Tree × Place) := do
  let (value, rest) ←
    match cs with
    | '|' :: rest =>
      (blockScalar? false indent rest).map fun (text, rest) => (scalarOf text true, '\n' :: rest)
    | '>' :: rest =>
      (blockScalar? true indent rest).map fun (text, rest) => (scalarOf text true, '\n' :: rest)
    | cs =>
      if cs.head?.any fun c => c = '[' || c = '\x7b' then flowValue? (4 * cs.length + 4) cs
      else
        match quoted? cs with
        | some (text, rest) => some (scalarOf text true, rest)
        | none => (plain? false indent cs).map fun (text, rest) => (scalar text, rest)
  return (value, ← nextContent? rest)

mutual

/-- The value that starts at a place, where a list or a table may begin; the next content after it.
Further lines of a scalar are indented by `indent` at least. -/
def blockValue? : Nat → Nat → Place → Option (Tree × Place)
  | 0, _, _ => none
  | fuel + 1, indent, p =>
    if p.isItem then (items? fuel p.column p).map fun (items, next) => (.list items, next)
    else
      match memberName? p with
      | some _ => (members? fuel p.column p).map fun (members, next) => (.ofMembers members, next)
      | none => inlineValue? indent p.rest

/-- The items of a list whose dashes stand in a column. -/
def items? : Nat → Nat → Place → Option (List Tree × Place)
  | 0, _, _ => none
  | fuel + 1, column, p => do
    let after : Place := ⟨column + 1, p.rest.drop 1⟩
    let (item, next) ←
      match lineEnd? after.rest with
      | some _ => do
        let next ← nextContent? after.rest
        if !next.isEnd && column < next.column then blockValue? fuel (column + 1) next
        else some (.empty, next)
      | none => blockValue? fuel (column + 1) after.skip
    if !next.isEnd && next.column = column && next.isItem then
      let (items, last) ← items? fuel column next
      return (item :: items, last)
    else return ([item], next)

/-- The members of a table whose names start in a column. -/
def members? : Nat → Nat → Place → Option (List (String × Tree) × Place)
  | 0, _, _ => none
  | fuel + 1, column, p => do
    let (name, after) ← memberName? p
    let (value, next) ←
      match lineEnd? after.rest with
      | some _ => do
        let next ← nextContent? after.rest
        if next.isEnd then some (.empty, next)
        else if column < next.column then blockValue? fuel (column + 1) next
        else if next.column = column && next.isItem then
          (items? fuel column next).map fun (items, next) => (.list items, next)
        else some (.empty, next)
      | none => inlineValue? (column + 1) after.skip.rest
    if next.isEnd || next.column < column then return ([(name, value)], next)
    else if next.column = column then
      let (members, last) ← members? fuel column next
      return ((name, value) :: members, last)
    else none

end

/-! ## Documents -/

/-- The place of a document's content, behind the mark that may start it; and whether its value has
to be on the line of that mark. -/
def start? (p : Place) : Option (Place × Bool) :=
  if p.column = 0 && isMarker p.rest && p.rest.head? = some '-' then
    let after : Place := ⟨3, p.rest.drop 3⟩
    match lineEnd? after.rest with
    | some _ => (nextContent? after.rest).map (·, false)
    | none => some (after.skip, true)
  else some (p, false)

/-- Whether nothing follows a document but the mark that may end it. -/
def endsDocument (p : Place) : Bool :=
  p.rest.isEmpty ||
    (isMarker p.rest && p.rest.head? = some '.' &&
      (nextContent? (p.rest.drop 3)).any fun next => next.rest.isEmpty)

/-- The value that a text holds; `some none` if it holds none. -/
def read? (text : String) : Option (Option Tree) := do
  let cs := normalBreaks text.toList
  let p ← content? (cs.length + 1) cs
  let (p, isInline) ← start? p
  if p.isEnd then
    if endsDocument p then return none else none
  else
    let (value, last) ←
      if isInline then inlineValue? 0 p.rest else blockValue? (4 * cs.length + 4) 0 p
    if endsDocument last then return some value else none

end Yaml
end ControlPlane
