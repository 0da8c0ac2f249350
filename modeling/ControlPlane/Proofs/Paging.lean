/-
Walking page by page is walking at once.

The rows that were not visited yet are those after the last one that was, so the next page begins
where the page before ended.  A visitor that is called for the entities of one page after another
sees what it would see in a single call of all, and a page that is not full is the last one.  So the
size of the pages makes no difference (`walk_eq`).
-/
import ControlPlane.Proofs.Order
import ControlPlane.Store.Paging

namespace ControlPlane

variable {ρ ε : Type}

/-! ## Visits -/

/-- Whether a visitor never cancels the walk. -/
def Visitor.NeverCancels (visitor : Visitor) : Prop := ∀ call, visitor call ≠ .cancel

/-- The walk that a visit of all entities amounts to. -/
def PageVisit.walk (visit : PageVisit ε) : Walk ε where
  visited := visit.visited
  ending :=
    match visit.stoppedAt with
    | none => .completed
    | some call => .stopped call

variable {visitor : Visitor}

theorem visitPage_cons_of_proceed {calls : Nat} (h : visitor (calls + 1) = .proceed) (e : ε)
    (rest : List ε) :
    visitPage visitor calls (e :: rest) =
      { visitPage visitor (calls + 1) rest with
        visited := e :: (visitPage visitor (calls + 1) rest).visited } := by
  rw [visitPage, h]
  simp

theorem visitPage_cons_of_stop {calls : Nat} (h : visitor (calls + 1) = .stop) (e : ε)
    (rest : List ε) :
    visitPage visitor calls (e :: rest) = ⟨[e], false, some (calls + 1)⟩ := by
  rw [visitPage, h]

theorem Visitor.NeverCancels.cases (hvisitor : visitor.NeverCancels) (call : Nat) :
    visitor call = .proceed ∨ visitor call = .stop := by
  cases h : visitor call with
  | proceed => exact .inl rfl
  | cancel => exact absurd h (hvisitor call)
  | stop => exact .inr rfl

theorem hasCancelled_visitPage (hvisitor : visitor.NeverCancels) (calls : Nat)
    (entities : List ε) : (visitPage visitor calls entities).hasCancelled = false := by
  induction entities generalizing calls with
  | nil => rfl
  | cons e rest ih =>
    rcases hvisitor.cases (calls + 1) with h | h
    · rw [visitPage_cons_of_proceed h]
      exact ih (calls + 1)
    · rw [visitPage_cons_of_stop h]

/-- What is visited without a stop is everything. -/
theorem visited_of_not_stopped (hvisitor : visitor.NeverCancels) {calls : Nat} {entities : List ε}
    (h : (visitPage visitor calls entities).stoppedAt = none) :
    (visitPage visitor calls entities).visited = entities := by
  induction entities generalizing calls with
  | nil => rfl
  | cons e rest ih =>
    rcases hvisitor.cases (calls + 1) with hcall | hcall
    · rw [visitPage_cons_of_proceed hcall] at h ⊢
      dsimp only at h ⊢
      rw [ih h]
    · rw [visitPage_cons_of_stop hcall] at h
      cases h

theorem visitPage_append_of_stopped (hvisitor : visitor.NeverCancels) {calls call : Nat}
    {first : List ε} (second : List ε)
    (h : (visitPage visitor calls first).stoppedAt = some call) :
    visitPage visitor calls (first ++ second) = visitPage visitor calls first := by
  induction first generalizing calls with
  | nil => cases h
  | cons e rest ih =>
    rw [List.cons_append]
    rcases hvisitor.cases (calls + 1) with hcall | hcall
    · rw [visitPage_cons_of_proceed hcall] at h ⊢
      rw [visitPage_cons_of_proceed hcall, ih h]
    · rw [visitPage_cons_of_stop hcall, visitPage_cons_of_stop hcall]

/-- A visit that is not stopped goes on to what is added. -/
theorem visitPage_append_of_not_stopped (hvisitor : visitor.NeverCancels) {calls : Nat}
    {first : List ε} (second : List ε)
    (h : (visitPage visitor calls first).stoppedAt = none) :
    visitPage visitor calls (first ++ second) =
      { visitPage visitor (calls + first.length) second with
        visited := first ++ (visitPage visitor (calls + first.length) second).visited } := by
  induction first generalizing calls with
  | nil => rfl
  | cons e rest ih =>
    rw [List.cons_append]
    rcases hvisitor.cases (calls + 1) with hcall | hcall
    · rw [visitPage_cons_of_proceed hcall] at h ⊢
      have hcalls : calls + 1 + rest.length = calls + (e :: rest).length := by
        rw [List.length_cons]
        omega
      rw [ih h, hcalls]
      rfl
    · rw [visitPage_cons_of_stop hcall] at h
      cases h

/-! ## Pages -/

/-- No more rows are left than there are. -/
theorem length_le_of_sortBy_eq {cmp : ρ → ρ → Ordering} {rows seen rest : List ρ}
    (h : sortBy cmp rows = seen ++ rest) : rest.length ≤ rows.length := by
  rw [← (sortBy_perm cmp rows).length_eq, h, List.length_append]
  omega

section

variable {cmp : ρ → ρ → Ordering} [Std.TransCmp cmp]

/-- The rows of the next page are the first of those that were not visited yet. -/
theorem nextPage_eq_take {rows seen rest : List ρ} (limit : Nat)
    (hsorted : sortBy cmp rows = seen ++ rest)
    (hascending : (sortBy cmp rows).Pairwise fun a b => cmp a b = .lt) :
    nextPage cmp rows limit seen.getLast? = rest.take limit := by
  rw [nextPage, ← sortBy_filter, hsorted]
  rw [hsorted] at hascending
  obtain ⟨hseen, -, hsplit⟩ := List.pairwise_append.1 hascending
  congr 1
  rcases List.eq_nil_or_concat seen with rfl | ⟨init, final, rfl⟩
  · simp [isAfter]
  rw [List.concat_eq_append, List.getLast?_concat, List.filter_append]
  have hdone : (init ++ [final]).filter (isAfter cmp (some final)) = [] := by
    refine List.filter_eq_nil_iff.2 fun row hrow => ?_
    simp only [isAfter, decide_eq_true_eq]
    rcases List.mem_append.1 hrow with hrow | hrow
    · have hlt : cmp row final = .lt := by
        rw [List.concat_eq_append] at hseen
        exact (List.pairwise_append.1 hseen).2.2 row hrow final (List.mem_singleton_self _)
      rw [Std.OrientedCmp.gt_of_lt hlt]
      simp
    · have hself : cmp final final = .eq := Std.ReflCmp.compare_self
      rw [List.mem_singleton.1 hrow, hself]
      simp
  have hahead : rest.filter (isAfter cmp (some final)) = rest := by
    refine List.filter_eq_self.2 fun row hrow => ?_
    simp only [isAfter, decide_eq_true_eq]
    exact hsplit final (by simp) row hrow
  rw [hdone, hahead, List.nil_append]

omit [Std.TransCmp cmp] in
/-- A page consists of sorted rows. -/
theorem take_sublist_sortBy {rows seen rest : List ρ} (limit : Nat)
    (hsorted : sortBy cmp rows = seen ++ rest) : (rest.take limit).Sublist (sortBy cmp rows) := by
  rw [hsorted]
  exact (List.take_sublist limit rest).trans (List.sublist_append_right seen rest)

/-- From any page on, the walk is a visit of all rows that were not visited yet.  The induction is
on how many these are. -/
theorem walkFrom_eq (hvisitor : visitor.NeverCancels) {entities : List ρ → List ε} {one : ρ → ε}
    {rows : List ρ} (hone : ∀ page, page.Sublist (sortBy cmp rows) → entities page = page.map one)
    {batch limit : Nat} (hlimit : 0 < limit) (hle : limit ≤ batch)
    (hfull : limit = batch ∨ rows.length ≤ limit)
    (hascending : (sortBy cmp rows).Pairwise fun a b => cmp a b = .lt) (rest : List ρ) :
    ∀ seen, sortBy cmp rows = seen ++ rest →
      walkFrom cmp entities visitor rows batch limit seen.length seen.getLast? =
        (visitPage visitor seen.length (rest.map one)).walk := by
  induction hn : rest.length using Nat.strongRecOn generalizing rest with
  | ind n ih =>
    subst hn
    intro seen hsorted
    have hpage := nextPage_eq_take limit hsorted hascending
    have hsplit : rest.map one = (rest.take limit).map one ++ (rest.drop limit).map one := by
      rw [← List.map_append, List.take_append_drop]
    have hentities := hone _ (take_sublist_sortBy limit hsorted)
    rw [walkFrom, hpage]
    dsimp only
    rw [hentities]
    split
    next hnone =>
      have hnil : rest = [] := by
        have := List.getLast?_eq_none_iff.1 hnone
        cases rest with
        | nil => rfl
        | cons row rest => simp [List.take_eq_nil_iff] at this; omega
      rw [hnil]
      rfl
    next final hfinal =>
      split
      next call hcall =>
        rw [hsplit, visitPage_append_of_stopped hvisitor _ hcall, PageVisit.walk, hcall]
      next hcall =>
        have hvisited := visited_of_not_stopped hvisitor hcall
        split
        next hshort =>
          -- A page that is not full is all that was left.
          have hall : rest.take limit = rest := by
            refine List.take_of_length_le ?_
            have hrest := length_le_of_sortBy_eq hsorted
            rw [List.length_take] at hshort
            omega
          rw [hall] at hcall ⊢
          rw [PageVisit.walk, hcall]
        next hlong =>
          rw [List.length_take] at hlong
          have hpos : 0 < rest.length := by omega
          have hlater := ih (rest.drop limit).length (by rw [List.length_drop]; omega)
            (rest.drop limit) rfl (seen ++ rest.take limit)
            (by rw [List.append_assoc, List.take_append_drop, hsorted])
          have hlast : (seen ++ rest.take limit).getLast? = some final := by
            rw [List.getLast?_append, hfinal, Option.some_or]
          rw [List.length_append, hlast] at hlater
          rw [hasCancelled_visitPage hvisitor, hvisited, hsplit,
            visitPage_append_of_not_stopped hvisitor _ hcall, List.length_map]
          simp only [Bool.false_eq_true, if_false, hlater]
          rfl

/-- A walk with pages of any size is a visit of all rows in their order. -/
theorem walk_eq (hvisitor : visitor.NeverCancels) {entities : List ρ → List ε} {one : ρ → ε}
    {rows : List ρ} (hone : ∀ page, page.Sublist (sortBy cmp rows) → entities page = page.map one)
    {batch : Nat} (hfull : batch ≤ largestPage ∨ rows.length ≤ largestPage)
    (hdistinct : rows.Pairwise fun a b => cmp a b ≠ .eq) :
    walk cmp entities visitor rows batch =
      (visitPage visitor 0 ((sortBy cmp rows).map one)).walk := by
  have hpos : 0 < largestPage := by decide
  exact walkFrom_eq hvisitor hone (by omega) (Nat.min_le_left _ _) (by omega)
    (sortBy_ascending cmp hdistinct) (sortBy cmp rows) [] rfl

end

/-! ## What a visitor comes to -/

theorem visitPage_of_proceed (hvisitor : visitor.NeverCancels) {entities : List ε} {calls : Nat}
    (h : ∀ call, calls < call → call ≤ calls + entities.length → visitor call ≠ .stop) :
    (visitPage visitor calls entities).walk = ⟨entities, .completed⟩ := by
  have hnot : (visitPage visitor calls entities).stoppedAt = none := by
    induction entities generalizing calls with
    | nil => rfl
    | cons e rest ih =>
      rw [List.length_cons] at h
      rcases hvisitor.cases (calls + 1) with hcall | hcall
      · rw [visitPage_cons_of_proceed hcall]
        exact ih fun call hlt hle => h call (by omega) (by omega)
      · exact absurd hcall (h (calls + 1) (by omega) (by omega))
  rw [PageVisit.walk, visited_of_not_stopped hvisitor hnot, hnot]

/-- The first stop ends a visit with the entity for which the visitor was called. -/
theorem visitPage_of_stop (hvisitor : visitor.NeverCancels) {entities : List ε} {calls n : Nat}
    (hpos : 0 < n) (hle : n ≤ entities.length) (hstop : visitor (calls + n) = .stop)
    (hfirst : ∀ call, calls < call → call < calls + n → visitor call ≠ .stop) :
    (visitPage visitor calls entities).walk = ⟨entities.take n, .stopped (calls + n)⟩ := by
  induction entities generalizing calls n with
  | nil =>
    rw [List.length_nil] at hle
    omega
  | cons e rest ih =>
    rw [List.length_cons] at hle
    rcases Nat.lt_or_eq_of_le hpos with hlater | hnow
    · have hcall : visitor (calls + 1) = .proceed :=
        (hvisitor.cases (calls + 1)).resolve_right (hfirst _ (by omega) (by omega))
      have hcalls : calls + 1 + (n - 1) = calls + n := by omega
      have hrest : (visitPage visitor (calls + 1) rest).walk =
          ⟨rest.take (n - 1), .stopped (calls + 1 + (n - 1))⟩ :=
        ih (by omega) (by omega) (by rw [hcalls]; exact hstop)
          fun call hlt hlt' => hfirst call (by omega) (by omega)
      rw [hcalls] at hrest
      obtain ⟨hvisited, hending⟩ := Walk.mk.inj hrest
      rw [visitPage_cons_of_proceed hcall, PageVisit.walk, hvisited, hending,
        ← List.take_succ_cons, Nat.sub_add_cancel (by omega)]
    · subst hnow
      rw [visitPage_cons_of_stop hstop]
      rfl

end ControlPlane
