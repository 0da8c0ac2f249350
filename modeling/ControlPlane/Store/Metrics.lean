/-
Counts of what the store did.

Every call of an operation is counted under its name and its outcome, and every merge counts its
rows. A counter that was touched is there, also with a count of zero.
-/
import ControlPlane.Merge

namespace ControlPlane

inductive Counter
  | operations (operation outcome : String)
  | mergedRows (operation : String) (outcome : Merge)
  deriving DecidableEq, Repr

/-- The name of a counter with its labels. -/
def Counter.name : Counter → String
  | operations operation outcome =>
    "fleetstore_db_operations_total\x7bop=" ++ operation ++ ",outcome=" ++ outcome ++ "\x7d"
  | mergedRows operation outcome =>
    "fleetstore_db_merge_rows_total\x7bop=" ++ operation ++ ",outcome=" ++ outcome.name ++ "\x7d"

structure Metrics where
  counts : List (Counter × Nat)
  deriving DecidableEq, Repr, Inhabited

namespace Metrics

def empty : Metrics := ⟨[]⟩

def count (m : Metrics) (counter : Counter) : Nat := (m.counts.lookup counter).getD 0

/-- Add to a counter, which is there from then on. -/
def add (m : Metrics) (counter : Counter) (n : Nat) : Metrics :=
  ⟨go m.counts⟩
where
  go : List (Counter × Nat) → List (Counter × Nat)
    | [] => [(counter, n)]
    | (c, k) :: rest => if counter = c then (c, k + n) :: rest else (c, k) :: go rest

def recordOperation (m : Metrics) (operation outcome : String) : Metrics :=
  m.add (.operations operation outcome) 1

def recordMerge (m : Metrics) (operation : String) (tally : Tally) : Metrics :=
  Merge.all.foldl (fun m outcome => m.add (.mergedRows operation outcome) (tally.count outcome)) m

theorem count_add (m : Metrics) (counter other : Counter) (n : Nat) :
    (m.add counter n).count other = m.count other + if other = counter then n else 0 := by
  obtain ⟨counts⟩ := m
  simp only [count, add]
  induction counts with
  | nil =>
    by_cases h : other = counter
    · simp [add.go, h]
    · simp [add.go, h, List.lookup_cons, beq_eq_false_iff_ne.2 h]
  | cons first rest ih =>
    obtain ⟨c, k⟩ := first
    by_cases hc : counter = c
    · subst hc
      by_cases h : other = counter
      · simp [add.go, h]
      · simp [add.go, h, List.lookup_cons, beq_eq_false_iff_ne.2 h]
    · by_cases h : other = c
      · subst h
        simp [add.go, hc, Ne.symm hc]
      · simp [add.go, hc, List.lookup_cons, beq_eq_false_iff_ne.2 h, ih]

end Metrics
end ControlPlane
