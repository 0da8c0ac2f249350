/-
What a merge does to rows, and the tally of it.
-/

namespace ControlPlane

/-- What became of one row. -/
inductive Merge
  | inserted
  | updated
  | unchanged
  deriving DecidableEq, Repr, Inhabited

namespace Merge

def all : List Merge := [inserted, updated, unchanged]

def name : Merge → String
  | inserted => "inserted"
  | updated => "updated"
  | unchanged => "unchanged"

def named? (text : String) : Option Merge := all.find? fun outcome => outcome.name = text

end Merge

/-- How many rows became what. -/
structure Tally where
  inserted : Nat
  updated : Nat
  unchanged : Nat
  deriving DecidableEq, Repr, Inhabited

namespace Tally

def empty : Tally := ⟨0, 0, 0⟩

def record (tally : Tally) : Merge → Tally
  | .inserted => { tally with inserted := tally.inserted + 1 }
  | .updated => { tally with updated := tally.updated + 1 }
  | .unchanged => { tally with unchanged := tally.unchanged + 1 }

def ofList (outcomes : List Merge) : Tally := outcomes.foldl record empty

def count (tally : Tally) : Merge → Nat
  | .inserted => tally.inserted
  | .updated => tally.updated
  | .unchanged => tally.unchanged

/-- Whether nothing changed. -/
def isNoop (tally : Tally) : Bool := tally.inserted = 0 && tally.updated = 0

theorem count_record (tally : Tally) (outcome other : Merge) :
    (tally.record outcome).count other = tally.count other + if other = outcome then 1 else 0 := by
  cases outcome <;> cases other <;> rfl

end Tally
end ControlPlane
