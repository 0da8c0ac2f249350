/-
Scalars of YAML that keep their lines.

After `|` each line break is kept, after `>` it is folded, and a sign after either says what becomes
of the breaks at the end.
-/
import ControlPlane.Yaml.Line

namespace ControlPlane
namespace Yaml

/-- What becomes of the line breaks at the end. -/
inductive Chomping
  | strip
  | clip
  | keep
  deriving DecidableEq, Repr

/-- What stands after the mark: the chomping and perhaps an indentation, in either order. -/
def blockHeader (cs : List Char) : Chomping × Option Nat × List Char :=
  match cs with
  | c :: d :: rest =>
    match chomping? c, depth? c, chomping? d, depth? d with
    | some chomping, _, _, some depth => (chomping, some depth, rest)
    | _, some depth, some chomping, _ => (chomping, some depth, rest)
    | some chomping, _, _, _ => (chomping, none, d :: rest)
    | _, some depth, _, _ => (.clip, some depth, d :: rest)
    | _, _, _, _ => (.clip, none, cs)
  | [c] =>
    match chomping? c, depth? c with
    | some chomping, _ => (chomping, none, [])
    | _, some depth => (.clip, some depth, [])
    | _, _ => (.clip, none, cs)
  | [] => (.clip, none, [])
where
  chomping? (c : Char) : Option Chomping :=
    if c = '-' then some .strip else if c = '+' then some .keep else none
  depth? (c : Char) : Option Nat :=
    if c.isDigit && c ≠ '0' then some (c.toNat - '0'.toNat) else none

/-- The lines of a text. A break at its end begins no further line. -/
def linesOf (cs : List Char) : List (List Char) :=
  let lines := Text.splitAt '\n' cs
  if lines.getLast? = some [] then lines.dropLast else lines

def isBlankLine (line : List Char) : Bool := line.all fun c => c = ' '

/-- The depth of the first line with content, or of a deeper blank line before it. -/
def detectedDepth : List (List Char) → Nat
  | [] => 0
  | line :: rest =>
    if isBlankLine line then max line.length (detectedDepth rest) else indentation line

/-- The lines of the scalar without their indentation. -/
def blockBody (depth : Nat) (lines : List (List Char)) : List (List Char) :=
  (lines.takeWhile fun line => isBlankLine line || depth ≤ indentation line).map (List.drop depth)

/-- Lines joined by folding: a break between two lines of text is a space. -/
def foldLines : List (List Char) → List Char
  | [] => []
  | [line] => line
  | line :: next :: rest =>
    let isText (line : List Char) : Bool := !line.isEmpty && !line.head?.any isSpace
    if isText line then
      let empties := (next :: rest).takeWhile List.isEmpty
      let isTextAfter := ((next :: rest).drop empties.length).head?.any isText
      let between := if !isTextAfter then ['\n'] else if empties.isEmpty then [' '] else []
      line ++ between ++ foldLines (next :: rest)
    else line ++ '\n' :: foldLines (next :: rest)

/-- The text of a scalar that keeps its lines, after its mark, and what follows it. Its lines are
indented by `indent` at least. -/
def blockScalar? (isFolded : Bool) (indent : Nat) (cs : List Char) :
    Option (List Char × List Char) := do
  let (chomping, stated, rest) := blockHeader cs
  let rest ← lineEnd? rest
  let lines := linesOf rest
  let depth :=
    match stated with
    | some n => max (indent - 1 + n) 1
    | none => max (detectedDepth lines) (max indent 1)
  let body := blockBody depth lines
  let content := (body.reverse.dropWhile List.isEmpty).reverse
  let text := if isFolded then foldLines content else ['\n'].intercalate content
  let ending :=
    match chomping with
    | .strip => []
    | .clip => if content.isEmpty then [] else ['\n']
    | .keep =>
      let breaks := body.length - content.length + (if content.isEmpty then 0 else 1)
      List.replicate breaks '\n'
  return (text ++ ending, ['\n'].intercalate (lines.drop body.length))

end Yaml
end ControlPlane
