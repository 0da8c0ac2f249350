/-
Cancelling an iteration from within.

A visitor that cancels goes on to the end of its page, and no page is read after that.  So what is
visited are the rows of full pages up to the one in which the visitor cancelled, or all rows where
these end before (`walkFrom_of_cancelsAt`).  A page that is not full is the last one in any case;
only after a full one does a walk look whether it was cancelled.
-/
import ControlPlane.Proofs.Iteration

namespace ControlPlane

variable {ρ ε : Type}

/-! ## Visitors that cancel -/

/-- Whether a visitor cancels the walk at a call, proceeds before it and never stops. -/
structure Visitor.CancelsAt (visitor : Visitor) (n : Nat) : Prop where
  cancels : visitor n = .cancel
  proceeds : ∀ call, 0 < call → call < n → visitor call = .proceed
  goesOn : ∀ call, visitor call ≠ .stop

variable {visitor : Visitor}

/-- A visitor that never stops is called for all entities of a page. -/
theorem visitPage_of_goesOn (hgoesOn : ∀ call, visitor call ≠ .stop) (calls : Nat)
    (entities : List ε) :
    (visitPage visitor calls entities).visited = entities ∧
      (visitPage visitor calls entities).stoppedAt = none ∧
      ((visitPage visitor calls entities).hasCancelled = true ↔
        ∃ call, calls < call ∧ call ≤ calls + entities.length ∧ visitor call = .cancel) := by
  induction entities generalizing calls with
  | nil =>
    refine ⟨rfl, rfl, iff_of_false Bool.false_ne_true ?_⟩
    rintro ⟨call, hlt, hle, -⟩
    rw [List.length_nil] at hle
    omega
  | cons e rest ih =>
    obtain ⟨hvisited, hstopped, hcancelled⟩ := ih (calls + 1)
    have hcall : visitPage visitor calls (e :: rest) =
        { visitPage visitor (calls + 1) rest with
          visited := e :: (visitPage visitor (calls + 1) rest).visited
          hasCancelled := visitor (calls + 1) = .cancel ||
            (visitPage visitor (calls + 1) rest).hasCancelled } := by
      rw [visitPage]
      cases hreaction : visitor (calls + 1) with
      | stop => exact absurd hreaction (hgoesOn _)
      | proceed => rfl
      | cancel => rfl
    rw [hcall]
    refine ⟨congrArg _ hvisited, hstopped, ?_⟩
    rw [Bool.or_eq_true, decide_eq_true_iff, hcancelled, List.length_cons]
    constructor
    · rintro (hnow | ⟨call, hlt, hle, hcancel⟩)
      · exact ⟨calls + 1, by omega, by omega, hnow⟩
      · exact ⟨call, by omega, by omega, hcancel⟩
    · rintro ⟨call, hlt, hle, hcancel⟩
      rcases Nat.lt_or_eq_of_le hlt with hlater | hnow
      · exact .inr ⟨call, hlater, by omega, hcancel⟩
      · exact .inl (by rwa [← hnow] at hcancel)

/-! ## Pages that are read -/

section

variable (cmp : ρ → ρ → Ordering)

/-- The pages that a walk reads, one after another: it reads on after a full page, unless the
visitor stopped or cancelled. -/
def pagesFrom [Std.TransCmp cmp] (entities : List ρ → List ε) (visitor : Visitor) (rows : List ρ)
    (batch limit calls : Nat) (last : Option ρ) : List (List ρ) :=
  let page := nextPage cmp rows limit last
  match _ : page.getLast? with
  | none => [page]
  | some final =>
    let visit := visitPage visitor calls (entities page)
    if visit.stoppedAt.isSome || page.length < batch || visit.hasCancelled then [page]
    else page :: pagesFrom entities visitor rows batch limit (calls + page.length) (some final)
termination_by remaining cmp rows last
decreasing_by exact remaining_lt cmp (List.mem_of_getLast? (by assumption))

end

variable {cmp : ρ → ρ → Ordering} [Std.TransCmp cmp]

section

variable {entities : List ρ → List ε} {rows : List ρ} {batch limit calls : Nat} {last : Option ρ}
  {final : ρ}

theorem walkFrom_of_some (h : (nextPage cmp rows limit last).getLast? = some final) :
    walkFrom cmp entities visitor rows batch limit calls last =
      (let page := nextPage cmp rows limit last
      let visit := visitPage visitor calls (entities page)
      match visit.stoppedAt with
      | some call => ⟨visit.visited, .stopped call⟩
      | none =>
        if page.length < batch then ⟨visit.visited, .completed⟩
        else if visit.hasCancelled then ⟨visit.visited, .interrupted .cancelled⟩
        else
          let later := walkFrom cmp entities visitor rows batch limit (calls + page.length)
            (some final)
          { later with visited := visit.visited ++ later.visited }) := by
  rw [walkFrom]
  dsimp only
  split
  next hnone =>
    rw [h] at hnone
    cases hnone
  next other hother =>
    rw [h] at hother
    cases hother
    rfl

theorem pagesFrom_of_some (h : (nextPage cmp rows limit last).getLast? = some final) :
    pagesFrom cmp entities visitor rows batch limit calls last =
      (let page := nextPage cmp rows limit last
      let visit := visitPage visitor calls (entities page)
      if visit.stoppedAt.isSome || page.length < batch || visit.hasCancelled then [page]
      else page :: pagesFrom cmp entities visitor rows batch limit (calls + page.length)
        (some final)) := by
  rw [pagesFrom]
  dsimp only
  split
  next hnone =>
    rw [h] at hnone
    cases hnone
  next other hother =>
    rw [h] at hother
    cases hother
    rfl

theorem walkFrom_of_nil (h : nextPage cmp rows limit last = []) :
    walkFrom cmp entities visitor rows batch limit calls last = ⟨[], .completed⟩ := by
  rw [walkFrom, h]
  rfl

theorem pagesFrom_of_nil (h : nextPage cmp rows limit last = []) :
    pagesFrom cmp entities visitor rows batch limit calls last = [[]] := by
  rw [pagesFrom, h]
  rfl

end

/-! ## Walks that are cancelled -/

section

variable {rows seen rest : List ρ} {batch limit n : Nat}
  (hfull : limit = batch ∨ rows.length ≤ limit)
  (hascending : (sortBy cmp rows).Pairwise fun a b => cmp a b = .lt)

include hfull hascending

/-- Where enough rows are left, the next page is a full one. -/
theorem nextPage_of_full (hpos : 0 < batch) (hlimit : limit ≤ batch)
    (hsorted : sortBy cmp rows = seen ++ rest) (hlong : batch ≤ rest.length) :
    nextPage cmp rows limit seen.getLast? = rest.take batch ∧
      ∃ final, (seen ++ rest.take batch).getLast? = some final ∧
        (nextPage cmp rows limit seen.getLast?).getLast? = some final := by
  have hrest := length_le_of_sortBy_eq hsorted
  have hpage : nextPage cmp rows limit seen.getLast? = rest.take batch := by
    rw [nextPage_eq_take limit hsorted hascending]
    congr 1
    omega
  have hne : rest.take batch ≠ [] := by
    refine List.ne_nil_of_length_pos ?_
    rw [List.length_take]
    omega
  refine ⟨hpage, (rest.take batch).getLast hne, ?_, ?_⟩
  · rw [List.getLast?_append, List.getLast?_eq_some_getLast hne, Option.some_or]
  · rw [hpage, List.getLast?_eq_some_getLast hne]

variable {entities : List ρ → List ε} {one : ρ → ε}
  (hone : ∀ page, page.Sublist (sortBy cmp rows) → entities page = page.map one)

include hone

/-- Where fewer rows are left than a page has, the next page is the last one. -/
theorem walkFrom_of_short (hgoesOn : ∀ call, visitor call ≠ .stop)
    (hsorted : sortBy cmp rows = seen ++ rest) (hshort : rest.length < batch) :
    walkFrom cmp entities visitor rows batch limit seen.length seen.getLast? =
        ⟨rest.map one, .completed⟩ ∧
      pagesFrom cmp entities visitor rows batch limit seen.length seen.getLast? = [rest] := by
  have hrest := length_le_of_sortBy_eq hsorted
  have hpage : nextPage cmp rows limit seen.getLast? = rest := by
    rw [nextPage_eq_take limit hsorted hascending]
    exact List.take_of_length_le (by omega)
  cases hlast : rest.getLast? with
  | none =>
    have hnil := List.getLast?_eq_none_iff.1 hlast
    subst hnil
    exact ⟨walkFrom_of_nil hpage, pagesFrom_of_nil hpage⟩
  | some final =>
    obtain ⟨hvisited, hstopped, -⟩ := visitPage_of_goesOn hgoesOn seen.length (rest.map one)
    rw [← hpage] at hlast
    have hentities : entities rest = rest.map one :=
      hone rest (hsorted ▸ List.sublist_append_right seen rest)
    rw [walkFrom_of_some hlast, pagesFrom_of_some hlast, hpage]
    dsimp only
    rw [hentities, hstopped, hvisited, if_pos hshort, decide_eq_true hshort]
    exact ⟨rfl, rfl⟩

/-- A walk ends with the full page in which the visitor cancels. -/
theorem walkFrom_of_cancel (hvisitor : visitor.CancelsAt n) (hlimit : limit ≤ batch)
    (hsorted : sortBy cmp rows = seen ++ rest) (hlong : batch ≤ rest.length)
    (hlt : seen.length < n) (hle : n ≤ seen.length + batch) :
    walkFrom cmp entities visitor rows batch limit seen.length seen.getLast? =
        ⟨(rest.take batch).map one, .interrupted .cancelled⟩ ∧
      pagesFrom cmp entities visitor rows batch limit seen.length seen.getLast? =
        [rest.take batch] := by
  obtain ⟨hpage, final, -, hlast⟩ :=
    nextPage_of_full hfull hascending (by omega) hlimit hsorted hlong
  obtain ⟨hvisited, hstopped, hcancelled⟩ :=
    visitPage_of_goesOn hvisitor.goesOn seen.length ((rest.take batch).map one)
  have hlength : (rest.take batch).length = batch := List.length_take_of_le hlong
  have hhas : (visitPage visitor seen.length ((rest.take batch).map one)).hasCancelled = true := by
    refine hcancelled.2 ⟨n, hlt, ?_, hvisitor.cancels⟩
    rwa [List.length_map, hlength]
  rw [walkFrom_of_some hlast, pagesFrom_of_some hlast, hpage]
  dsimp only
  rw [hone _ (take_sublist_sortBy batch hsorted), hstopped, hvisited, hhas, hlength,
    if_neg (Nat.lt_irrefl batch)]
  simp

/-- A walk goes on after a full page before the one in which the visitor cancels. -/
theorem walkFrom_of_later_cancel (hvisitor : visitor.CancelsAt n) (hpos : 0 < batch)
    (hlimit : limit ≤ batch) (hsorted : sortBy cmp rows = seen ++ rest)
    (hlong : batch ≤ rest.length) (hlater : seen.length + batch < n) :
    walkFrom cmp entities visitor rows batch limit seen.length seen.getLast? =
        (let later := walkFrom cmp entities visitor rows batch limit
          (seen ++ rest.take batch).length (seen ++ rest.take batch).getLast?
        { later with visited := (rest.take batch).map one ++ later.visited }) ∧
      pagesFrom cmp entities visitor rows batch limit seen.length seen.getLast? =
        rest.take batch :: pagesFrom cmp entities visitor rows batch limit
          (seen ++ rest.take batch).length (seen ++ rest.take batch).getLast? := by
  obtain ⟨hpage, final, hfinal, hlast⟩ :=
    nextPage_of_full hfull hascending hpos hlimit hsorted hlong
  obtain ⟨hvisited, hstopped, hcancelled⟩ :=
    visitPage_of_goesOn hvisitor.goesOn seen.length ((rest.take batch).map one)
  have hlength : (rest.take batch).length = batch := List.length_take_of_le hlong
  have hnot : (visitPage visitor seen.length ((rest.take batch).map one)).hasCancelled = false := by
    refine Bool.eq_false_iff.2 fun hhas => ?_
    obtain ⟨call, hlt, hle, hcancel⟩ := hcancelled.1 hhas
    rw [List.length_map, hlength] at hle
    rw [hvisitor.proceeds call (by omega) (by omega)] at hcancel
    cases hcancel
  rw [walkFrom_of_some hlast, pagesFrom_of_some hlast, hpage, hfinal, List.length_append]
  dsimp only
  rw [hone _ (take_sublist_sortBy batch hsorted), hstopped, hvisited, hnot, hlength,
    if_neg (Nat.lt_irrefl batch)]
  simp

/-- A walk that is cancelled visits all rows up to the end of the page in which that happens, or all
that there are, and reads no other.  The induction is on the number of full pages before that
one. -/
theorem walkFrom_of_cancelsAt (hvisitor : visitor.CancelsAt n) (hlimit : limit ≤ batch)
    (pages : Nat) :
    ∀ seen rest, sortBy cmp rows = seen ++ rest → seen.length + pages * batch < n →
      n ≤ seen.length + (pages + 1) * batch →
      walkFrom cmp entities visitor rows batch limit seen.length seen.getLast? =
          ⟨(rest.take ((pages + 1) * batch)).map one,
            if rest.length < (pages + 1) * batch then .completed else .interrupted .cancelled⟩ ∧
        (pagesFrom cmp entities visitor rows batch limit seen.length
          seen.getLast?).flatten = rest.take ((pages + 1) * batch) := by
  induction pages with
  | zero =>
    intro seen rest hsorted hlt hle
    rw [Nat.zero_mul, Nat.add_zero] at hlt
    rw [Nat.zero_add, Nat.one_mul] at hle ⊢
    rcases Nat.lt_or_ge rest.length batch with hshort | hlong
    · obtain ⟨hwalk, hpages⟩ := walkFrom_of_short hfull hascending hone hvisitor.goesOn hsorted
        hshort
      rw [hwalk, hpages, if_pos hshort, List.take_of_length_le (Nat.le_of_lt hshort)]
      exact ⟨rfl, List.append_nil _⟩
    · obtain ⟨hwalk, hpages⟩ := walkFrom_of_cancel hfull hascending hone hvisitor hlimit hsorted
        hlong hlt hle
      rw [hwalk, hpages, if_neg (Nat.not_lt.2 hlong)]
      exact ⟨rfl, List.append_nil _⟩
  | succ pages ih =>
    intro seen rest hsorted hlt hle
    have hpos : 0 < batch := by
      refine Nat.pos_of_ne_zero ?_
      rintro rfl
      omega
    have hsum : (pages + 1) * batch = pages * batch + batch := Nat.succ_mul pages batch
    have hsum' : (pages + 1 + 1) * batch = batch + (pages + 1) * batch := by
      rw [Nat.succ_mul, Nat.add_comm]
    rcases Nat.lt_or_ge rest.length batch with hshort | hlong
    · obtain ⟨hwalk, hpages⟩ := walkFrom_of_short hfull hascending hone hvisitor.goesOn hsorted
        hshort
      rw [hwalk, hpages, if_pos (by omega), List.take_of_length_le (by omega)]
      exact ⟨rfl, List.append_nil _⟩
    · obtain ⟨hwalk, hpages⟩ := walkFrom_of_later_cancel hfull hascending hone hvisitor hpos
        hlimit hsorted hlong (by omega)
      have hlength : (seen ++ rest.take batch).length = seen.length + batch := by
        rw [List.length_append, List.length_take_of_le hlong]
      obtain ⟨hwalk', hpages'⟩ := ih (seen ++ rest.take batch) (rest.drop batch)
        (by rw [List.append_assoc, List.take_append_drop, hsorted]) (by omega) (by omega)
      have hends : (rest.drop batch).length < (pages + 1) * batch ↔
          rest.length < (pages + 1 + 1) * batch := by
        rw [List.length_drop]
        omega
      rw [hwalk, hpages, hwalk', List.flatten_cons, hpages', hsum', List.take_add,
        List.map_append, if_congr (hends.trans (by rw [hsum'])) rfl rfl]
      exact ⟨rfl, rfl⟩

end

/-! ## Iterations that are cancelled -/

/-- The pages of rows that an iteration reads. -/
def Iteration.pagesRead (it : Iteration) (c : Contents) (visitor : Visitor) (batch : Nat) :
    List (List (Row it.listing.1)) :=
  have := it.listing.2.trans
  let batch := max batch 1
  pagesFrom it.listing.2.order (it.listing.2.entities c) visitor (it.listing.2.rows c) batch
    (min batch largestPage) 0 none

/-- The full pages up to the one with the call `n`, as a number of calls. -/
theorem pages_to_call {n batch : Nat} (hn : 0 < n) (hbatch : 0 < batch) :
    ∃ pages, (n + batch - 1) / batch = pages + 1 ∧ pages * batch < n ∧
      n ≤ (pages + 1) * batch := by
  have hdivmod := Nat.div_add_mod' (n - 1) batch
  have hmod := Nat.mod_lt (n - 1) hbatch
  refine ⟨(n - 1) / batch, ?_, by omega, ?_⟩
  · rw [show n + batch - 1 = n - 1 + batch by omega, Nat.add_div_right _ hbatch]
  · rw [Nat.succ_mul]
    omega

/-- The walk of an iteration that is cancelled visits its rows in their order up to the end of the
page in which that happens, or all that there are, and no page is read after that. -/
theorem Iteration.walk_of_cancelsAt {db : Database} (h : db.Sound) (it : Iteration)
    {visitor : Visitor} {n : Nat} (hn : 0 < n) (hvisitor : visitor.CancelsAt n) {batch : Nat}
    (hbatch : batch ≤ largestPage ∨ db.NumbersFit) :
    let calls := (n + max batch 1 - 1) / max batch 1 * max batch 1
    let rows := sortBy it.listing.2.order (it.listing.2.rows db.contents)
    it.walk db.contents visitor batch =
        ⟨(it.listing.2.entities db.contents rows).take calls,
          if rows.length < calls then .completed else .interrupted .cancelled⟩ ∧
      (it.pagesRead db.contents visitor batch).flatten = rows.take calls := by
  intro calls rows
  have htrans := it.listing.2.trans
  have hconsistent := Database.consistent_of_sound h
  have hascending := sortBy_ascending it.listing.2.order (rows_distinct hconsistent it)
  have hsorted := it.sortBy_rows_areDistinct hconsistent.allDistinct
  have hlargest : 0 < largestPage := by decide
  have hfull : min (max batch 1) largestPage = max batch 1 ∨
      (it.listing.2.rows db.contents).length ≤ min (max batch 1) largestPage := by
    rcases hbatch with hsmall | hfit
    · exact .inl (by omega)
    · have hrows := Nat.le_trans (it.length_rows_le db.contents) (h.length_le hfit _)
      omega
  obtain ⟨one, -, hentities⟩ := it.exists_entities_eq_map hconsistent.allDistinct
  obtain ⟨pages, hpages, hlt, hle⟩ := pages_to_call hn (show 0 < max batch 1 by omega)
  obtain ⟨hwalk, hread⟩ := walkFrom_of_cancelsAt hfull hascending
    (fun page hpage => hentities (hsorted.sublist hpage)) hvisitor (Nat.min_le_left _ _) pages []
    rows rfl (by simpa using hlt) (by simpa using hle)
  rw [← hpages] at hwalk hread
  rw [walk, Listing.walk, pagesRead, hentities hsorted, ← List.map_take]
  exact ⟨hwalk, hread⟩

namespace Deployment

/-- An iteration of a ready store whose visitor cancels the context at a call and goes on visits all
rows if there are fewer.  If not, it visits the rows of the pages up to the one with that call; it
is cancelled if they are all full, also where no row is left after them.  No row of another page is
read, and nothing is stored. -/
theorem iterate_cancelled_at_page_end {dep : Deployment} (hreachable : dep.Reachable)
    (hready : dep.store.lifecycle = .ready) {it : Iteration} (hnul : it.IsNulFree)
    {visitor : Visitor} {n : Nat} (hn : 0 < n) (hvisitor : visitor.CancelsAt n)
    (hbatch : dep.store.settings.batchSize ≤ largestPage ∨ dep.server.database.NumbersFit) :
    let batch := max dep.store.settings.batchSize 1
    let pages := (n + batch - 1) / batch
    let (visited, ending, after) := dep.iterate .undisturbed it visitor
    ∃ rows : List (Row it.listing.1), ∃ entities : List Entity,
      (∀ row, row ∈ rows ↔ row ∈ dep.server.database.contents.get it.listing.1 ∧
        it.Selects dep.server.database.contents row) ∧
      rows.Pairwise it.Precedes ∧
      entities = it.listing.2.entities dep.server.database.contents rows ∧
      List.Forall₂ Entity.Shows rows entities ∧
      (rows.length < n → visited = entities ∧ ending = .completed) ∧
      (n ≤ rows.length → visited = entities.take (min rows.length (pages * batch)) ∧
        ending = if rows.length < pages * batch then .completed
          else .failed ⟨it.name, .interrupted .cancelled⟩) ∧
      (it.pagesRead dep.server.database.contents visitor dep.store.settings.batchSize).flatten =
        rows.take (pages * batch) ∧
      after.server = dep.server ∧ after.store = dep.store := by
  intro batch pages
  have hsound := hreachable.sound
  have hconsistent := Database.consistent_of_sound hsound
  have htrans := it.listing.2.trans
  have hpos : 0 < batch := Nat.lt_of_lt_of_le Nat.one_pos (Nat.le_max_right _ _)
  obtain ⟨one, hshows, hall⟩ := it.exists_entities_eq_map hconsistent.allDistinct
  have hentities := hall (it.sortBy_rows_areDistinct hconsistent.allDistinct)
  obtain ⟨hwalk, hread⟩ := it.walk_of_cancelsAt hsound hn hvisitor hbatch
  have hcalls : n ≤ pages * batch := by
    obtain ⟨earlier, hpages, -, hle⟩ := pages_to_call hn hpos
    rwa [← hpages] at hle
  rw [iterate_eq_walk hready hnul, hwalk]
  generalize hrows : sortBy it.listing.2.order (it.listing.2.rows dep.server.database.contents) =
    rows at hread hentities ⊢
  have hlength :
      (it.listing.2.entities dep.server.database.contents rows).length = rows.length := by
    rw [hentities, List.length_map]
  refine ⟨rows, _, fun row => ?_, ?_, rfl, ?_, fun hfew => ⟨?_, ?_⟩, fun hmany => ⟨?_, ?_⟩, hread,
    rfl, rfl⟩
  · rw [← hrows]
    exact mem_sortBy.trans (Iteration.mem_rows_iff hconsistent)
  · rw [← hrows]
    exact (sortBy_ascending _ (Iteration.rows_distinct hconsistent it)).imp
      Iteration.precedes_of_lt
  · rw [hentities, List.forall₂_map_right_iff]
    exact List.forall₂_same.2 fun row _ => hshows row
  · refine List.take_of_length_le ?_
    rw [hlength]
    exact Nat.le_of_lt (Nat.lt_of_lt_of_le hfew hcalls)
  · rw [if_pos (Nat.lt_of_lt_of_le hfew hcalls)]
    rfl
  · rw [← hlength, Nat.min_comm]
    exact List.take_eq_take_min
  · split <;> rfl

/-- Two identities, one on a page, and a visitor that cancels when it is called for the second one:
both are visited, and the iteration is cancelled all the same. -/
theorem iterate_cancelled_at_last_identity :
    let dep := (initial ⟨.addModel, 1⟩).run
      [.migrate .undisturbed false,
        .perform ⟨0, 0⟩ .undisturbed (.getOrCreateIdentity "bob"),
        .perform ⟨60, 0⟩ .undisturbed (.getOrCreateIdentity "ann")]
    let (visited, ending, _) := dep.iterate .undisturbed .identities
      fun call => if call = 2 then .cancel else .proceed
    visited.length = 2 ∧ ending = .failed ⟨"identities.for_each", .interrupted .cancelled⟩ := by
  intro dep
  have hreachable : dep.Reachable := ⟨⟨.addModel, 1⟩, _, rfl⟩
  have hready : dep.store.lifecycle = .ready := by decide +kernel
  have hvisitor : Visitor.CancelsAt (fun call => if call = 2 then .cancel else .proceed) 2 :=
    ⟨rfl, fun call _ hlt => if_neg (Nat.ne_of_lt hlt), fun call => by split <;> decide⟩
  have hnul : Iteration.IsNulFree .identities := trivial
  have hbatch : dep.store.settings.batchSize ≤ largestPage := by decide +kernel
  obtain ⟨rows, entities, hmem, -, -, hshows, -, hmany, -⟩ :=
    iterate_cancelled_at_page_end hreachable hready hnul (by decide) hvisitor (.inl hbatch)
  have hstored : (dep.server.database.contents.get .identity).length = 2 := by decide +kernel
  have hnodup : (dep.server.database.contents.get .identity).Nodup :=
    (hreachable.sound.distinct .identity).imp fun hne heq => hne (congrArg _ heq)
  have htwo : 2 ≤ rows.length := by
    rw [← hstored]
    exact hnodup.length_le_of_subset fun row hrow => (hmem row).2 ⟨hrow, trivial⟩
  obtain ⟨hvisited, hending⟩ := hmany htwo
  have hcalls : (2 + max dep.store.settings.batchSize 1 - 1) / max dep.store.settings.batchSize 1 *
      max dep.store.settings.batchSize 1 = 2 := by decide +kernel
  rw [hcalls, Nat.min_eq_right htwo] at hvisited
  rw [hcalls, if_neg (Nat.not_lt.2 htwo)] at hending
  refine ⟨(congrArg List.length hvisited).trans ?_, hending⟩
  rw [List.length_take, ← hshows.length_eq, Nat.min_eq_left htwo]

end Deployment
end ControlPlane
