/-
Scalars of YAML without quotes.

Such a scalar ends at a colon before a space, at a comment, and within brackets at what divides or
closes them. It may go on in later lines that are indented far enough.
-/
import ControlPlane.Yaml.Line

namespace ControlPlane
namespace Yaml

/-- The characters that divide and close lists and tables in brackets. -/
def isFlowMark (c : Char) : Bool := [',', '[', ']', '\x7b', '\x7d'].contains c

/-- The characters that mean something else at the start of a value. -/
def reserved : List Char :=
  [',', '[', ']', '\x7b', '\x7d', '#', '&', '*', '!', '|', '>', '\x27', '"', '%', '@', '\x60']

/-- Whether a scalar without quotes starts here. -/
def startsPlain (inFlow : Bool) : List Char → Bool
  | [] => false
  | c :: rest =>
    if c = '-' then !isBreakOrSpace rest
    else if c = '?' || c = ':' then !inFlow && !isBreakOrSpace rest
    else !(isSpace c || c = '\n' || reserved.contains c)

/-- Whether the scalar ends before this character, of which `rest` follows. -/
def endsPlain (inFlow afterSpace : Bool) (c : Char) (rest : List Char) : Bool :=
  c = '\n' || (c = '#' && afterSpace) || (c = ':' && isBreakOrSpace rest) ||
    (inFlow && isFlowMark c)

/-- The part of a scalar on one line, with the spaces after it, and what follows. -/
def plainPart (inFlow afterSpace : Bool) : List Char → List Char × List Char
  | [] => ([], [])
  | c :: rest =>
    if endsPlain inFlow afterSpace c rest then ([], c :: rest)
    else
      let (part, after) := plainPart inFlow (isSpace c) rest
      (c :: part, after)

/-- A part without the spaces after it. -/
def trimEnd (part : List Char) : List Char := (part.reverse.dropWhile isSpace).reverse

/-- How the line break that stands here is read, and the text after it, if the next line with
content goes on with the scalar. -/
def continuation? (inFlow : Bool) (indent : Nat) (cs : List Char) :
    Option (List Char × List Char) :=
  match cs with
  | '\n' :: rest =>
    let (n, line) := emptyLines rest.length rest
    let content := skipSpaces line
    let isText :=
      match content with
      | [] => false
      | c :: after => !endsPlain inFlow true c after
    if isText && (inFlow || indent ≤ indentation line) && !isMarker line then
      some (folded n, content)
    else none
  | _ => none

/-- A scalar whose further lines are indented by `indent` at least, and what follows it. -/
def plain (inFlow : Bool) (indent : Nat) : Nat → List Char → List Char × List Char
  | 0, cs => ([], cs)
  | fuel + 1, cs =>
    let (part, after) := plainPart inFlow false cs
    let text := trimEnd part
    match continuation? inFlow indent after with
    | some (between, line) =>
      let (later, rest) := plain inFlow indent fuel line
      (text ++ between ++ later, rest)
    | none => (text, after)

/-- A scalar without quotes that starts here, and what follows it. -/
def plain? (inFlow : Bool) (indent : Nat) (cs : List Char) : Option (List Char × List Char) :=
  if startsPlain inFlow cs then some (plain inFlow indent (cs.length + 1) cs) else none

end Yaml
end ControlPlane
