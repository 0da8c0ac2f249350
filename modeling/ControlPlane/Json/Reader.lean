/-
Reading a document from its text.

The reader takes a list of characters and gives back what it read with the rest. Documents nest less
than `maxDepth` deep, so reading recurses on the depth; the items of one array or object are counted
down from the length of the text, which they never exceed.
-/
import ControlPlane.Json
import ControlPlane.Text.Digits
import ControlPlane.Text.Search

namespace ControlPlane
namespace Json

namespace Reader

def isSpace (c : Char) : Bool := c = ' ' || c = '\n' || c = '\t' || c = '\r'

def skipSpace (cs : List Char) : List Char := cs.dropWhile isSpace

/-- A run of at least one digit, and the rest. -/
def digits? (cs : List Char) : Option (List Char × List Char) := Text.digits? cs.length cs

/-! ## Numbers -/

/-- The digits after a decimal point, if there is one. -/
def fraction? : List Char → Option (Option (List Char) × List Char)
  | '.' :: rest => (digits? rest).map fun (run, rest) => (some run, rest)
  | cs => some (none, cs)

def isExponentMark (c : Char) : Bool := c = 'e' || c = 'E'

/-- The power of ten after an exponent mark, if there is one. -/
def exponent? : List Char → Option (Option Int × List Char)
  | c :: rest =>
    if isExponentMark c then
      match rest with
      | '+' :: rest => (digits? rest).map fun (run, rest) => (some (Text.wholeOf run : Int), rest)
      | '-' :: rest =>
        (digits? rest).map fun (run, rest) => (some (-(Text.wholeOf run : Int)), rest)
      | rest => (digits? rest).map fun (run, rest) => (some (Text.wholeOf run : Int), rest)
    else some (none, c :: rest)
  | [] => some (none, [])

/-- The digits before the decimal point: a single zero, or digits that do not start with one. -/
def wholePart? : List Char → Option (List Char × List Char)
  | '0' :: rest => if rest.head?.any Char.isDigit then none else some (['0'], rest)
  | cs => digits? cs

def unsigned? (negative : Bool) (cs : List Char) : Option (Number × List Char) := do
  let (whole, rest) ← wholePart? cs
  let (fraction, rest) ← fraction? rest
  let (exponent, rest) ← exponent? rest
  let number ←
    match fraction, exponent with
    | none, none => Number.ofWhole? negative (Text.wholeOf whole)
    | _, _ =>
      let run := fraction.getD []
      Number.ofDecimal? negative ⟨Text.wholeOf (whole ++ run), exponent.getD 0 - run.length⟩
  return (number, rest)

def number? : List Char → Option (Number × List Char)
  | '-' :: rest => unsigned? true rest
  | cs => unsigned? false cs

/-! ## Strings -/

/-- The number written by four hexadecimal digits. -/
def unit? : List Char → Option (Nat × List Char)
  | a :: b :: c :: d :: rest => do
    let values ← [a, b, c, d].mapM Text.hexValue?
    return (values.foldl (fun n v => 16 * n + v) 0, rest)
  | _ => none

def isHighSurrogate (n : Nat) : Bool := 0xd800 ≤ n && n < 0xdc00
def isLowSurrogate (n : Nat) : Bool := 0xdc00 ≤ n && n < 0xe000

/-- A character written by its code: one unit, or two units that form a pair. -/
def codePoint? (cs : List Char) : Option (Char × List Char) := do
  let (high, rest) ← unit? cs
  if isLowSurrogate high then none
  else if isHighSurrogate high then
    match rest with
    | '\\' :: 'u' :: rest =>
      let (low, rest) ← unit? rest
      if isLowSurrogate low then
        return (Char.ofNat (0x10000 + (high - 0xd800) * 0x400 + (low - 0xdc00)), rest)
      else none
    | _ => none
  else return (Char.ofNat high, rest)

/-- The character that a letter after a backslash stands for. -/
def escaped? (cs : List Char) : Option (Char × List Char) :=
  match cs with
  | '"' :: rest => some ('"', rest)
  | '\\' :: rest => some ('\\', rest)
  | '/' :: rest => some ('/', rest)
  | 'b' :: rest => some ('\x08', rest)
  | 'f' :: rest => some ('\x0c', rest)
  | 'n' :: rest => some ('\n', rest)
  | 'r' :: rest => some ('\r', rest)
  | 't' :: rest => some ('\t', rest)
  | 'u' :: rest => codePoint? rest
  | _ => none

/-- The characters of a string up to its closing quote. -/
def stringBody : Nat → List Char → Option (List Char × List Char)
  | 0, _ => none
  | _ + 1, [] => none
  | fuel + 1, c :: rest =>
    if c = '"' then some ([], rest)
    else if c = '\\' then do
      let (d, rest) ← escaped? rest
      let (ds, rest) ← stringBody fuel rest
      return (d :: ds, rest)
    else if c.toNat < 0x20 then none
    else (stringBody fuel rest).map fun (ds, rest) => (c :: ds, rest)

/-- A string whose opening quote has been read. -/
def string? (cs : List Char) : Option (String × List Char) :=
  (stringBody (cs.length + 1) cs).map fun (body, rest) => (String.ofList body, rest)

/-! ## Documents -/

/-- Items divided by commas up to a closing mark. -/
def items? {α : Type} (item? : List Char → Option (α × List Char)) (close : Char) :
    Nat → List Char → Option (List α × List Char)
  | 0, _ => none
  | fuel + 1, cs => do
    let (x, rest) ← item? cs
    match skipSpace rest with
    | c :: rest =>
      if c = ',' then
        let (xs, rest) ← items? item? close fuel rest
        return (x :: xs, rest)
      else if c = close then return ([x], rest)
      else none
    | [] => none

/-- A name, a colon and a value. -/
def member? (value? : List Char → Option (Json × List Char)) (cs : List Char) :
    Option ((String × Json) × List Char) :=
  match skipSpace cs with
  | '"' :: rest => do
    let (name, rest) ← string? rest
    match skipSpace rest with
    | ':' :: rest =>
      let (value, rest) ← value? rest
      return ((name, value), rest)
    | _ => none
  | _ => none

/-- A value whose arrays and objects, the empty ones too, nest less deep than `depth`. -/
def value? : Nat → List Char → Option (Json × List Char)
  | 0, _ => none
  | depth + 1, cs =>
    match skipSpace cs with
    | 'n' :: rest => (Text.dropLead? ['u', 'l', 'l'] rest).map (Json.null, ·)
    | 't' :: rest => (Text.dropLead? ['r', 'u', 'e'] rest).map (Json.bool true, ·)
    | 'f' :: rest => (Text.dropLead? ['a', 'l', 's', 'e'] rest).map (Json.bool false, ·)
    | '"' :: rest => (string? rest).map fun (s, rest) => (.string s, rest)
    | '[' :: rest =>
      match skipSpace rest with
      | ']' :: rest => if depth = 0 then none else some (.array [], rest)
      | rest => (items? (value? depth) ']' rest.length rest).map fun (xs, rest) => (.array xs, rest)
    | '\x7b' :: rest =>
      match skipSpace rest with
      | '\x7d' :: rest => if depth = 0 then none else some (.record [], rest)
      | rest =>
        (items? (member? (value? depth)) '\x7d' rest.length rest).map fun (members, rest) =>
          (object members, rest)
    | cs => (number? cs).map fun (n, rest) => (.number n, rest)

end Reader

/-- The document written by a text; `none` if the text is none. -/
def read? (text : String) : Option Json :=
  match Reader.value? maxDepth text.toList with
  | some (value, rest) => if Reader.skipSpace rest = [] then some value else none
  | none => none

end Json
end ControlPlane
