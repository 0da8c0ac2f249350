/-
Instants of time.

An instant is a count of seconds from 1970-01-01T00:00:00Z and a fraction in nanoseconds. A fraction
of a second or more marks a leap second, which belongs to the second before it. The database keeps
microseconds from 2000-01-01T00:00:00Z and cuts off finer digits towards that instant.
-/
import ControlPlane.Time.Calendar

namespace ControlPlane

/-- An instant; `nanos` is below two thousand million. -/
structure Timestamp where
  seconds : Int
  nanos : Nat
  deriving DecidableEq, Repr, Inhabited

namespace Timestamp

open Time

/-- Whether `a` is no later than `b`. -/
def isAtMost (a b : Timestamp) : Bool :=
  a.seconds < b.seconds || (a.seconds = b.seconds && a.nanos ≤ b.nanos)

/-- Midnight at the start of a date. -/
def ofDate (d : Date) : Timestamp := ⟨d.dayNumber * 86400, 0⟩

def addSeconds (t : Timestamp) (n : Int) : Timestamp := ⟨t.seconds + n, t.nanos⟩

/-! ## Storing -/

/-- The instant from which the database counts. -/
def storageEpoch : Timestamp := ofDate ⟨2000, 1, 1⟩

/-- The earliest instant that the database keeps. -/
def storageStart : Timestamp := ofDate ⟨-4713, 11, 24⟩

/-- Microseconds from the database's epoch, cut off towards it. -/
def storedMicros (t : Timestamp) : Int :=
  Int.tdiv ((t.seconds - storageEpoch.seconds) * 1000000000 + t.nanos) 1000

/-- The instant that many microseconds from the database's epoch. -/
def ofStoredMicros (micros : Int) : Timestamp :=
  ⟨storageEpoch.seconds + micros / 1000000, (micros % 1000000).toNat * 1000⟩

/-- The form in which the database gives an instant back; `none` if it is too early. -/
def stored? (t : Timestamp) : Option Timestamp :=
  let micros := t.storedMicros
  if micros < (storageStart.seconds - storageEpoch.seconds) * 1000000 then none
  else some (ofStoredMicros micros)

theorem storedMicros_ofStoredMicros (micros : Int) :
    (ofStoredMicros micros).storedMicros = micros := by
  have hnonneg : 0 ≤ micros % 1000000 := Int.emod_nonneg _ (by decide)
  have hcast : (((micros % 1000000).toNat * 1000 : Nat) : Int) = micros % 1000000 * 1000 := by
    rw [Int.natCast_mul, Int.toNat_of_nonneg hnonneg]
    rfl
  have hsplit := Int.mul_ediv_add_emod micros 1000000
  have hsum : (storageEpoch.seconds + micros / 1000000 - storageEpoch.seconds) * 1000000000 +
      micros % 1000000 * 1000 = micros * 1000 := by omega
  simp only [storedMicros, ofStoredMicros, hcast, hsum]
  exact Int.mul_tdiv_cancel micros (by decide)

/-- Storing what was stored changes nothing. -/
theorem stored?_stored? {t kept : Timestamp} (h : t.stored? = some kept) :
    kept.stored? = some kept := by
  simp only [stored?] at h
  split at h
  next => simp at h
  next hstart =>
    simp only [Option.some.injEq] at h
    subst h
    simp only [stored?, storedMicros_ofStoredMicros, hstart, if_false]

/-! ## Text -/

/-- A number with at least the given count of digits. -/
def padded (width n : Nat) : List Char :=
  let digits := (Nat.repr n).toList
  List.replicate (width - digits.length) '0' ++ digits

/-- Four digits; outside of the years 0 to 9999 a sign before them. -/
def yearText (year : Int) : List Char :=
  if 0 ≤ year ∧ year ≤ 9999 then padded 4 year.toNat
  else (if year < 0 then '-' else '+') :: padded 4 year.natAbs

/-- The fraction in the fewest of 0, 3, 6 or 9 digits that hold it. -/
def fractionText (nanos : Nat) : List Char :=
  if nanos = 0 then []
  else if nanos % 1000000 = 0 then '.' :: padded 3 (nanos / 1000000)
  else if nanos % 1000 = 0 then '.' :: padded 6 (nanos / 1000)
  else '.' :: padded 9 nanos

/-- The instant in UTC. A leap second is second 60 of its minute. -/
def render (t : Timestamp) : String :=
  let date := Date.ofDayNumber (t.seconds / 86400)
  let ofDay := (t.seconds % 86400).toNat
  let second := ofDay % 60 + t.nanos / 1000000000
  String.ofList <|
    yearText date.year ++ '-' :: padded 2 date.month ++ '-' :: padded 2 date.day ++
      'T' :: padded 2 (ofDay / 3600) ++ ':' :: padded 2 (ofDay / 60 % 60) ++
      ':' :: padded 2 second ++ fractionText (t.nanos % 1000000000) ++ ['Z']

end Timestamp
end ControlPlane
