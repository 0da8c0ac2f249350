/-
Walking through rows page by page.

Each page holds the next rows after the last one of the page before, in the order of a key. So the
rows that are still to come become fewer with each page, and the walk ends. A visitor is called for
each row; it may cancel the walk, which takes effect at the end of the page, or stop it at once.
-/
import ControlPlane.Context
import ControlPlane.Storage.Order

namespace ControlPlane

/-- What a visitor does at a call. -/
inductive Reaction
  | proceed
  | cancel
  | stop
  deriving DecidableEq, Repr, Inhabited

/-- A visitor, by the number of the call; the first call is number 1. -/
abbrev Visitor := Nat → Reaction

/-- How a walk ends. -/
inductive Ending
  | completed
  /-- The visitor stopped it at this call. -/
  | stopped (call : Nat)
  | interrupted (why : Interruption)
  deriving DecidableEq, Repr, Inhabited

/-- The entities for which the visitor was called, and how the walk ended. -/
structure Walk (ε : Type) where
  visited : List ε
  ending : Ending

/-! ## One page -/

/-- What the visitor made of the entities of a page. -/
structure PageVisit (ε : Type) where
  visited : List ε
  hasCancelled : Bool
  stoppedAt : Option Nat

/-- Call the visitor for the entities of a page, of which `calls` came before. -/
def visitPage {ε : Type} (visitor : Visitor) (calls : Nat) : List ε → PageVisit ε
  | [] => ⟨[], false, none⟩
  | e :: rest =>
    match visitor (calls + 1) with
    | .stop => ⟨[e], false, some (calls + 1)⟩
    | reaction =>
      let later := visitPage visitor (calls + 1) rest
      { later with
        visited := e :: later.visited
        hasCancelled := reaction = .cancel || later.hasCancelled }

/-! ## All pages -/

section

variable {ρ ε : Type} (cmp : ρ → ρ → Ordering)

/-- Whether a row comes after the last one of the page before; all do if there was none. -/
def isAfter (last : Option ρ) (row : ρ) : Bool :=
  match last with
  | none => true
  | some last => cmp last row = .lt

/-- The next rows after the last one of the page before. -/
def nextPage (rows : List ρ) (limit : Nat) (last : Option ρ) : List ρ :=
  (sortBy cmp (rows.filter (isAfter cmp last))).take limit

/-- How many rows are still to come. -/
def remaining (rows : List ρ) (last : Option ρ) : Nat := (rows.filter (isAfter cmp last)).length

theorem mem_of_mem_nextPage {rows : List ρ} {limit : Nat} {last : Option ρ} {row : ρ}
    (h : row ∈ nextPage cmp rows limit last) : row ∈ rows ∧ isAfter cmp last row = true := by
  have hsorted := List.mem_of_mem_take h
  exact List.mem_filter.1 (mem_sortBy.1 hsorted)

theorem isAfter_of_isAfter [Std.TransCmp cmp] {last : Option ρ} {final row : ρ}
    (hfinal : isAfter cmp last final = true) (h : isAfter cmp (some final) row = true) :
    isAfter cmp last row = true := by
  cases last with
  | none => rfl
  | some last =>
    simp only [isAfter, decide_eq_true_eq] at hfinal h ⊢
    exact Std.TransCmp.lt_trans hfinal h

/-- A row of a page leaves fewer rows to come after it. -/
theorem remaining_lt [Std.TransCmp cmp] {rows : List ρ} {limit : Nat} {last : Option ρ} {final : ρ}
    (h : final ∈ nextPage cmp rows limit last) :
    remaining cmp rows (some final) < remaining cmp rows last := by
  obtain ⟨hmem, hafter⟩ := mem_of_mem_nextPage cmp h
  have hself : ¬isAfter cmp (some final) final = true := by
    simp [isAfter, Std.ReflCmp.compare_self]
  have hnested : rows.filter (isAfter cmp (some final)) =
      (rows.filter (isAfter cmp last)).filter (isAfter cmp (some final)) := by
    rw [List.filter_filter]
    refine List.filter_congr fun row _ => ?_
    cases hrow : isAfter cmp (some final) row with
    | false => simp
    | true => simp [isAfter_of_isAfter cmp hafter hrow]
  rw [remaining, hnested, remaining]
  exact List.length_filter_lt_length_iff_exists.2
    ⟨final, List.mem_filter.2 ⟨hmem, hafter⟩, hself⟩

/-- Walk through the pages after the last row of the page before. A page that is not full is the
last one, so that no other is read after it. -/
def walkFrom [Std.TransCmp cmp] (entities : List ρ → List ε) (visitor : Visitor) (rows : List ρ)
    (batch limit calls : Nat) (last : Option ρ) : Walk ε :=
  let page := nextPage cmp rows limit last
  match _ : page.getLast? with
  | none => ⟨[], .completed⟩
  | some final =>
    let visit := visitPage visitor calls (entities page)
    match visit.stoppedAt with
    | some call => ⟨visit.visited, .stopped call⟩
    | none =>
      if page.length < batch then ⟨visit.visited, .completed⟩
      else if visit.hasCancelled then ⟨visit.visited, .interrupted .cancelled⟩
      else
        let later :=
          walkFrom entities visitor rows batch limit (calls + page.length) (some final)
        { later with visited := visit.visited ++ later.visited }
termination_by remaining cmp rows last
decreasing_by exact remaining_lt cmp (List.mem_of_getLast? (by assumption))

/-- The largest page that can be asked for. -/
def largestPage : Nat := Nat.pow 2 63 - 1

/-- Walk through all rows with a given number of rows on a page; none on a page counts as one. -/
def walk [Std.TransCmp cmp] (entities : List ρ → List ε) (visitor : Visitor) (rows : List ρ)
    (batch : Nat) : Walk ε :=
  let batch := max batch 1
  walkFrom cmp entities visitor rows batch (min batch largestPage) 0 none

end

end ControlPlane
