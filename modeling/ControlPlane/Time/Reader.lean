/-
Reading an instant from its text.

The form is a date, a separator, a time of day and an offset from UTC. Blanks may stand before each
number and each mark; a number may leave out its leading zero; a signed year may have any number of
digits; an offset is `Z`, `UTC`, or a sign with hours and minutes. The offset cannot be left out.
-/
import ControlPlane.Text.Blank
import ControlPlane.Text.Digits
import ControlPlane.Time.Timestamp

namespace ControlPlane
namespace Time
namespace Reader

open Text

/-- A number of at most two digits after blanks. -/
def twoDigits? (cs : List Char) : Option (Nat × List Char) :=
  (digits? 2 (dropBlanks cs)).map fun (run, rest) => (wholeOf run, rest)

/-- A year: four digits at most without a sign, any number with one. -/
def year? (cs : List Char) : Option (Int × List Char) :=
  match dropBlanks cs with
  | '-' :: rest => (digits? rest.length rest).map fun (run, rest) => (-(wholeOf run : Int), rest)
  | '+' :: rest => (digits? rest.length rest).map fun (run, rest) => ((wholeOf run : Int), rest)
  | rest => (digits? 4 rest).map fun (run, rest) => ((wholeOf run : Int), rest)

/-- A mark after blanks. -/
def mark? (mark : Char) (cs : List Char) : Option (List Char) :=
  match dropBlanks cs with
  | c :: rest => if c = mark then some rest else none
  | [] => none

/-- The nanoseconds of a decimal fraction; digits after the ninth are dropped. -/
def fraction? : List Char → Option (Nat × List Char)
  | '.' :: rest =>
    (digits? 9 rest).map fun (run, rest) =>
      (wholeOf run * Nat.pow 10 (9 - run.length), rest.dropWhile Char.isDigit)
  | cs => some (0, cs)

def isSeparator (c : Char) : Bool := c = 'T' || c = 't' || c = ' '

/-- The letters that name UTC, in either case. -/
def isUtcName (cs : List Char) : Bool := (cs.take 3).map Char.toUpper = ['U', 'T', 'C']

/-- Two digits with nothing before them. -/
def plainTwoDigits? : List Char → Option (Nat × List Char)
  | a :: b :: rest =>
    if a.isDigit && b.isDigit then some (10 * digitValue a + digitValue b, rest) else none
  | _ => none

/-- An offset in seconds: less than a day, with less than sixty minutes. -/
def signedOffset? (negative : Bool) (cs : List Char) : Option (Int × List Char) := do
  let (hours, rest) ← plainTwoDigits? cs
  let (minutes, rest) ← plainTwoDigits? (rest.dropWhile fun c => c = ':' || isBlank c)
  let seconds : Int := hours * 3600 + minutes * 60
  if minutes < 60 ∧ seconds < 86400 then
    return (if negative then -seconds else seconds, rest)
  else none

def offset? (cs : List Char) : Option (Int × List Char) :=
  if isUtcName cs then some (0, cs.drop 3)
  else
    match cs with
    | c :: rest =>
      if c = 'Z' ∨ c = 'z' then some (0, rest)
      else if c = '+' then signedOffset? false rest
      else if c = '-' ∨ c.toNat = 0x2212 then signedOffset? true rest
      else none
    | [] => none

/-- The years that an instant may have. -/
def hasYear (year : Int) : Bool := -262143 ≤ year && year ≤ 262142

/-- The instant of a valid date and time of day with an offset. Second 60 is a leap second. -/
def instant? (date : Date) (hour minute second nanos : Nat) (offset : Int) : Option Timestamp :=
  if date.isValid && hasYear date.year && hour < 24 && minute < 60 && second ≤ 60 then
    let leap := second = 60
    let ofDay : Int := hour * 3600 + minute * 60 + (if leap then 59 else second)
    let seconds := date.dayNumber * 86400 + ofDay - offset
    let nanos := if leap then nanos + 1000000000 else nanos
    if hasYear (Date.ofDayNumber (seconds / 86400)).year then some ⟨seconds, nanos⟩ else none
  else none

/-- An instant at the start of a text, and the rest. -/
def timestamp? (cs : List Char) : Option (Timestamp × List Char) := do
  let (year, rest) ← year? cs
  let rest ← mark? '-' rest
  let (month, rest) ← twoDigits? rest
  let rest ← mark? '-' rest
  let (day, rest) ← twoDigits? rest
  let rest ←
    match rest with
    | c :: rest => if isSeparator c then some rest else none
    | [] => none
  let (hour, rest) ← twoDigits? rest
  let rest ← mark? ':' rest
  let (minute, rest) ← twoDigits? rest
  let rest ← mark? ':' rest
  let (second, rest) ← twoDigits? rest
  let (nanos, rest) ← fraction? rest
  let (offset, rest) ← offset? (dropBlanks rest)
  let instant ← instant? ⟨year, month, day⟩ hour minute second nanos offset
  return (instant, rest)

end Reader
end Time

/-- The instant written by a text; blanks may follow it. -/
def Timestamp.read? (text : String) : Option Timestamp :=
  match Time.Reader.timestamp? text.toList with
  | some (t, rest) => if Text.dropBlanks rest = [] then some t else none
  | none => none

end ControlPlane
