/-
Lines of a YAML text: blanks and comments at their ends, and breaks between them.

A scalar may run over several lines. One break between its parts is then a space, and each further
one is kept.
-/
import ControlPlane.Text.Search

namespace ControlPlane
namespace Yaml

def isSpace (c : Char) : Bool := c = ' ' || c = '\t'

/-- Whether a space, a line break or the end of the text stands here. -/
def isBreakOrSpace : List Char → Bool
  | [] => true
  | c :: _ => isSpace c || c = '\n'

def skipSpaces (cs : List Char) : List Char := cs.dropWhile isSpace

/-- The text from the next line on, if nothing but spaces and a comment is left of this one. -/
def lineEnd? (cs : List Char) : Option (List Char) :=
  match skipSpaces cs with
  | [] => some []
  | '\n' :: rest => some rest
  | '#' :: rest => some ((rest.dropWhile fun c => c ≠ '\n').drop 1)
  | _ => none

/-- A line break of any system as a line feed. -/
def normalBreaks : List Char → List Char
  | [] => []
  | '\r' :: '\n' :: rest => '\n' :: normalBreaks rest
  | c :: rest => (if c = '\r' then '\n' else c) :: normalBreaks rest

/-- How many lines without content there are from here on, and the line after them. -/
def emptyLines : Nat → List Char → Nat × List Char
  | 0, cs => (0, cs)
  | fuel + 1, cs =>
    match skipSpaces cs with
    | '\n' :: rest =>
      let (n, line) := emptyLines fuel rest
      (n + 1, line)
    | _ => (0, cs)

/-- What a line break stands for within a scalar, with the number of empty lines after it. -/
def folded (emptyCount : Nat) : List Char :=
  if emptyCount = 0 then [' '] else List.replicate emptyCount '\n'

/-- What spaces with line breaks among them stand for, and what follows them. -/
def gap (cs : List Char) : List Char × List Char :=
  match skipSpaces cs with
  | '\n' :: rest =>
    let (n, line) := emptyLines rest.length rest
    (folded n, skipSpaces line)
  | rest => (cs.takeWhile isSpace, rest)

/-- The spaces at the start of a line. -/
def indentation (line : List Char) : Nat := (line.takeWhile fun c => c = ' ').length

/-- Whether a line starts with a mark that ends a document. -/
def isMarker (cs : List Char) : Bool :=
  (cs.take 3 = ['-', '-', '-'] || cs.take 3 = ['.', '.', '.']) && isBreakOrSpace (cs.drop 3)

end Yaml
end ControlPlane
