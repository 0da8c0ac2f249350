/-
What a delete takes away.

The rows that are meant go, and with them every row that has a cascading reference to a row that
goes, over however many steps (`Contents.Goes`).  The relations are gone over once, each after those
to which it refers, and `without_foldl_sweep` says that this is enough.  The delete is refused as a
whole where a row that stays refers to one that goes (`Contents.Blocks`), and otherwise it takes
away the rows that go and no others (`Contents.delete_ok`).
-/
import ControlPlane.Proofs.Admission
import Mathlib.Data.List.Perm.Subperm

namespace ControlPlane
namespace Contents

variable {r : Relation} {c d : Contents} {meant : (q : Relation) → Row q → Prop}

/-- A reference leads to one row at most. -/
theorem refersTo_unique (hunique : c.Unique) (hdistinct : c.Distinct) {ref : Reference r}
    (href : ref ∈ references r) {e : Entry r} {a b : Row ref.target} (ha : a ∈ c.get ref.target)
    (hb : b ∈ c.get ref.target) (hrefers : ref.refersTo e a = true)
    (hrefers' : ref.refersTo e b = true) : a = b := by
  have hnumber : ∀ {q : Relation} {n : Int} {a b : Row q}, a ∈ c.get q → b ∈ c.get q →
      decide (n = a.id) = true → decide (n = b.id) = true → a = b := by
    intro q n a b ha hb hleft hright
    exact hdistinct.eq ha hb ((of_decide_eq_true hleft).symm.trans (of_decide_eq_true hright))
  have horigin : ∀ {q : Relation} [DecidableEq (Origin q)] {o : Origin q} {a b : Row q},
      q.IsKeyed → a ∈ c.get q → b ∈ c.get q → decide (o = a.origin) = true →
        decide (o = b.origin) = true → a = b := by
    intro q _ o a b hkeyed ha hb hleft hright
    have hsame := (of_decide_eq_true hleft).symm.trans (of_decide_eq_true hright)
    exact hunique.eq_of_origin hkeyed ha hb hsame
  cases r <;> simp only [references, List.mem_cons, List.not_mem_nil, or_false] at href
  case region => subst href; exact horigin Relation.cloud_isKeyed ha hb hrefers hrefers'
  case controller => subst href; exact horigin Relation.region_isKeyed ha hb hrefers hrefers'
  case link => rcases href with rfl | rfl <;> exact hnumber ha hb hrefers hrefers'
  case credential =>
    rcases href with rfl | rfl
    · exact horigin Relation.cloud_isKeyed ha hb hrefers hrefers'
    · exact horigin Relation.identity_isKeyed ha hb hrefers hrefers'
  case model =>
    rcases href with rfl | rfl | rfl | rfl
    · exact horigin Relation.identity_isKeyed ha hb hrefers hrefers'
    · exact hnumber ha hb hrefers hrefers'
    · exact hnumber ha hb hrefers hrefers'
    · exact hnumber ha hb hrefers hrefers'
  case grant on =>
    rcases href with rfl | rfl
    · exact hnumber ha hb hrefers hrefers'
    · exact horigin Relation.identity_isKeyed ha hb hrefers hrefers'

/-! ## Rows that go and rows that are in the way -/

/-- Whether a row goes where some rows are meant. -/
inductive Goes (c : Contents) (meant : (q : Relation) → Row q → Prop) :
    (q : Relation) → Row q → Prop
  | meant {q : Relation} {row : Row q} (h : meant q row) : Goes c meant q row
  | cascade {q : Relation} {row : Row q} {ref : Reference q} {target : Row ref.target}
    (href : ref ∈ references q) (hcascades : ref.cascades = true)
    (htarget : target ∈ c.get ref.target) (hrefers : ref.refersTo row.toEntry target = true)
    (h : Goes c meant ref.target target) : Goes c meant q row

/-- Whether a row stays and yet refers to a row that goes. -/
def Blocks (c : Contents) (meant : (q : Relation) → Row q → Prop) (q : Relation) (row : Row q) :
    Prop :=
  ¬Goes c meant q row ∧ ∃ ref ∈ references q, ref.cascades = false ∧
    ∃ target ∈ c.get ref.target, ref.refersTo row.toEntry target = true ∧
      Goes c meant ref.target target

theorem goes_iff {q : Relation} {row : Row q} :
    Goes c meant q row ↔ meant q row ∨ ∃ ref ∈ references q, ref.cascades = true ∧
      ∃ target ∈ c.get ref.target, ref.refersTo row.toEntry target = true ∧
        Goes c meant ref.target target := by
  constructor
  · intro h
    cases h with
    | meant h => exact .inl h
    | cascade href hcascades htarget hrefers h =>
      exact .inr ⟨_, href, hcascades, _, htarget, hrefers, h⟩
  · rintro (h | ⟨ref, href, hcascades, target, htarget, hrefers, h⟩)
    · exact .meant h
    · exact .cascade href hcascades htarget hrefers h

/-- Whether the rows of a relation are those before, without the ones that are gone. -/
structure Without (gone : (q : Relation) → Row q → Prop) (before after : Contents) (q : Relation) :
    Prop where
  sublist : (after.get q).Sublist (before.get q)
  mem_iff : ∀ row ∈ before.get q, row ∈ after.get q ↔ ¬gone q row

theorem Without.congr {gone : (q : Relation) → Row q → Prop} {d' : Contents} {q : Relation}
    (h : Without gone c d q) (hsame : d'.get q = d.get q) : Without gone c d' q where
  sublist := by rw [hsame]; exact h.sublist
  mem_iff := by rw [hsame]; exact h.mem_iff

/-- Where nothing is gone, all rows are left. -/
theorem Without.get_eq {gone : (q : Relation) → Row q → Prop} {q : Relation}
    (hdistinct : c.Distinct) (h : Without gone c d q) (hnone : ∀ row ∈ c.get q, ¬gone q row) :
    d.get q = c.get q := by
  have hnodup : (c.get q).Nodup := (hdistinct q).imp fun hne heq => hne (congrArg Row.id heq)
  have hsubset : c.get q ⊆ d.get q := fun row hrow => (h.mem_iff row hrow).2 (hnone row hrow)
  exact h.sublist.eq_of_length_le (List.subperm_of_subset hnodup hsubset).length_le

/-! ## Going over the relations -/

/-- A relation is done once it is gone over after all to which it has cascading references. -/
theorem without_sweep (hunique : c.Unique) (hclosed : c.Closed) (hdistinct : c.Distinct)
    {q : Relation} (hpending : Without meant c d q)
    (hdone : ∀ ref ∈ references q, ref.cascades = true → Without (Goes c meant) c d ref.target) :
    Without (Goes c meant) c (d.sweep q) q := by
  refine ⟨(sublist_sweep d q q).trans hpending.sublist, fun row hrow => ?_⟩
  rw [sweep, PerRelation.get_set_self, List.mem_filter, hpending.mem_iff row hrow,
    List.all_eq_true]
  constructor
  · rintro ⟨hstays, hrefs⟩ hgoes
    cases hgoes with
    | meant h => exact hstays h
    | @cascade _ _ ref target href hcascades htarget hrefers hgoes =>
      have hresolves := hrefs ref href
      rw [hcascades, Bool.not_true, Bool.false_or] at hresolves
      obtain ⟨other, hother, hrefers'⟩ := resolves_iff.1 hresolves
      -- A reference leads to one row, so the row that it still leads to is the one that goes.
      have hdoneTarget := hdone ref href hcascades
      have hother' := hdoneTarget.sublist.subset hother
      rw [refersTo_unique hunique hdistinct href hother' htarget hrefers' hrefers] at hother
      exact (hdoneTarget.mem_iff target htarget).1 hother hgoes
  · intro hstays
    refine ⟨fun h => hstays (.meant h), fun ref href => ?_⟩
    cases hcascades : ref.cascades with
    | false => rfl
    | true =>
      rw [Bool.not_true, Bool.false_or]
      obtain ⟨target, htarget, hrefers⟩ := resolves_iff.1 (hclosed q row hrow ref href)
      refine resolves_iff.2 ⟨target, ?_, hrefers⟩
      refine ((hdone ref href hcascades).mem_iff target htarget).2 fun hgoes => hstays ?_
      exact .cascade href hcascades htarget hrefers hgoes

/-- Whether each relation of a list comes after those to which it has cascading references, where
some are done before. -/
def IsOrdered : List Relation → List Relation → Prop
  | _, [] => True
  | done, q :: rest =>
    q ∉ done ∧ (∀ ref ∈ references q, ref.cascades = true → ref.target ∈ done) ∧
      IsOrdered (q :: done) rest

/-- The relations without cascading references. -/
def undependent : List Relation := [.identity, .cloud, .controller, .credential, .model]

theorem cascades_eq_false {q : Relation} (hq : q ∈ undependent) :
    ∀ ref ∈ references q, ref.cascades = false := by
  simp only [undependent, List.mem_cons, List.not_mem_nil, or_false] at hq
  rcases hq with rfl | rfl | rfl | rfl | rfl <;> simp [references]

/-- Where nothing cascades, the rows that go are those that are meant. -/
theorem goes_iff_meant {q : Relation} {row : Row q} (hq : q ∈ undependent) :
    Goes c meant q row ↔ meant q row := by
  rw [goes_iff]
  refine ⟨?_, .inl⟩
  rintro (h | ⟨ref, href, hcascades, -⟩)
  · exact h
  · rw [cascades_eq_false hq ref href] at hcascades
    cases hcascades

theorem cascadeOrder_isOrdered : IsOrdered undependent cascadeOrder := by
  simp only [IsOrdered, cascadeOrder, undependent, references]
  decide

theorem mem_undependent_or_cascadeOrder (q : Relation) : q ∈ undependent ∨ q ∈ cascadeOrder := by
  cases q with
  | grant on => cases on <;> decide
  | _ => decide

/-- The induction is on the relations that are still to be gone over: each is done after its turn,
and those before it stay done. -/
theorem without_foldl_sweep (hunique : c.Unique) (hclosed : c.Closed) (hdistinct : c.Distinct)
    {order done : List Relation} (hordered : IsOrdered done order)
    (hdone : ∀ q ∈ done, Without (Goes c meant) c d q)
    (hpending : ∀ q, q ∉ done → Without meant c d q) :
    ∀ q, q ∈ done ∨ q ∈ order → Without (Goes c meant) c (order.foldl sweep d) q := by
  induction order generalizing done d with
  | nil =>
    rintro q (hq | hq)
    · exact hdone q hq
    · cases hq
  | cons next rest ih =>
    obtain ⟨hnew, hrefs, hrest⟩ := hordered
    have hothers : ∀ q, q ≠ next → (d.sweep next).get q = d.get q := fun q hq =>
      PerRelation.get_set_of_ne _ _ hq
    have hnext : Without (Goes c meant) c (d.sweep next) next :=
      without_sweep hunique hclosed hdistinct (hpending next hnew) fun ref href hcascades =>
        hdone _ (hrefs ref href hcascades)
    have hdone' : ∀ q ∈ next :: done, Without (Goes c meant) c (d.sweep next) q := by
      intro q hq
      by_cases heq : q = next
      · subst heq
        exact hnext
      · exact (hdone q (List.mem_of_ne_of_mem heq hq)).congr (hothers q heq)
    have hpending' : ∀ q, q ∉ next :: done → Without meant c (d.sweep next) q := by
      intro q hq
      rw [List.mem_cons, not_or] at hq
      exact (hpending q hq.2).congr (hothers q hq.1)
    intro q hq
    refine ih hrest hdone' hpending' q ?_
    rcases hq with hq | hq
    · exact .inl (List.mem_cons_of_mem _ hq)
    · rcases List.mem_cons.1 hq with rfl | hq
      · exact .inl List.mem_cons_self
      · exact .inr hq

/-! ## Deletes -/

section

variable {which : Row r → Bool}

/-- The rows that are left once those that are meant are taken away. -/
theorem without_meant (hwhich : ∀ row ∈ c.get r, which row = true ↔ meant r row)
    (hothers : ∀ q, q ≠ r → ∀ row ∈ c.get q, ¬meant q row) (q : Relation) :
    Without meant c (c.set r ((c.get r).filter fun row => !which row)) q := by
  by_cases hq : q = r
  · subst hq
    constructor
    · rw [PerRelation.get_set_self]
      exact List.filter_sublist
    · intro row hrow
      rw [PerRelation.get_set_self, List.mem_filter, ← hwhich row hrow]
      simp [hrow]
  · constructor
    · rw [PerRelation.get_set_of_ne _ _ hq]
    · intro row hrow
      rw [PerRelation.get_set_of_ne _ _ hq]
      exact iff_of_true hrow (hothers q hq row hrow)

theorem without_swept (hunique : c.Unique) (hclosed : c.Closed) (hdistinct : c.Distinct)
    (hwhich : ∀ row ∈ c.get r, which row = true ↔ meant r row)
    (hothers : ∀ q, q ≠ r → ∀ row ∈ c.get q, ¬meant q row) (q : Relation) :
    Without (Goes c meant) c
      (cascadeOrder.foldl sweep (c.set r ((c.get r).filter fun row => !which row))) q := by
  have hmeant := without_meant hwhich hothers
  refine without_foldl_sweep hunique hclosed hdistinct cascadeOrder_isOrdered (fun q hq => ?_)
    (fun q _ => hmeant q) q (mem_undependent_or_cascadeOrder q)
  refine ⟨(hmeant q).sublist, fun row hrow => ?_⟩
  rw [(hmeant q).mem_iff row hrow, goes_iff_meant hq]

/-- What is left is closed if and only if no row is in the way. -/
theorem isClosed_iff (hunique : c.Unique) (hclosed : c.Closed) (hdistinct : c.Distinct)
    (hleft : ∀ q, Without (Goes c meant) c d q) :
    allRelations.all d.isClosedAt = true ↔ ¬∃ q, ∃ row ∈ c.get q, Blocks c meant q row := by
  simp only [List.all_eq_true, isClosedAt]
  constructor
  · rintro h ⟨q, row, hrow, hstays, ref, href, -, target, htarget, hrefers, hgoes⟩
    have hleftRow := ((hleft q).mem_iff row hrow).2 hstays
    obtain ⟨other, hother, hrefers'⟩ :=
      resolves_iff.1 (h q (mem_allRelations q) row hleftRow ref href)
    have hother' := (hleft ref.target).sublist.subset hother
    rw [refersTo_unique hunique hdistinct href hother' htarget hrefers' hrefers] at hother
    exact ((hleft ref.target).mem_iff target htarget).1 hother hgoes
  · intro hnone q _ row hleftRow ref href
    have hrow := (hleft q).sublist.subset hleftRow
    have hstays := ((hleft q).mem_iff row hrow).1 hleftRow
    obtain ⟨target, htarget, hrefers⟩ := resolves_iff.1 (hclosed q row hrow ref href)
    refine resolves_iff.2 ⟨target, ((hleft ref.target).mem_iff target htarget).2 ?_, hrefers⟩
    intro hgoes
    -- The row would go along by a cascading reference, and be in the way by any other.
    cases hcascades : ref.cascades with
    | true => exact hstays (.cascade href hcascades htarget hrefers hgoes)
    | false =>
      exact hnone ⟨q, row, hrow, hstays, ref, href, hcascades, target, htarget, hrefers, hgoes⟩

variable (hunique : c.Unique) (hclosed : c.Closed) (hdistinct : c.Distinct)
  (hwhich : ∀ row ∈ c.get r, which row = true ↔ meant r row)
  (hothers : ∀ q, q ≠ r → ∀ row ∈ c.get q, ¬meant q row)
  (hfound : ∃ row ∈ c.get r, meant r row)

include hunique hclosed hdistinct hwhich hothers hfound

/-- A delete that nothing is in the way of takes away the rows that go and no others. -/
theorem delete_ok (hfree : ¬∃ q, ∃ row ∈ c.get q, Blocks c meant q row) :
    ∃ after, c.delete which = .ok (true, after) ∧ ∀ q, Without (Goes c meant) c after q := by
  have hleft := without_swept hunique hclosed hdistinct hwhich hothers
  obtain ⟨row, hrow, hmeant⟩ := hfound
  have hany : (c.get r).any which = true :=
    List.any_eq_true.2 ⟨row, hrow, (hwhich row hrow).2 hmeant⟩
  refine ⟨_, ?_, hleft⟩
  rw [delete, if_pos hany]
  exact if_pos ((isClosed_iff hunique hclosed hdistinct hleft).2 hfree)

/-- A delete that something is in the way of is refused. -/
theorem delete_error (hblocked : ∃ q, ∃ row ∈ c.get q, Blocks c meant q row) :
    c.delete which = .error .other := by
  have hleft := without_swept hunique hclosed hdistinct hwhich hothers
  obtain ⟨row, hrow, hmeant⟩ := hfound
  have hany : (c.get r).any which = true :=
    List.any_eq_true.2 ⟨row, hrow, (hwhich row hrow).2 hmeant⟩
  rw [delete, if_pos hany]
  refine if_neg fun h => ?_
  exact (isClosed_iff hunique hclosed hdistinct hleft).1 h hblocked

end

/-- Whether a row is one of those that a delete means. -/
inductive Meant (which : Row r → Bool) : (q : Relation) → Row q → Prop
  | intro {row : Row r} (h : which row = true) : Meant which r row

theorem meant_iff {which : Row r → Bool} {row : Row r} :
    Meant which r row ↔ which row = true := by
  refine ⟨fun h => ?_, .intro⟩
  cases h
  assumption

theorem not_meant {which : Row r → Bool} {q : Relation} (hq : q ≠ r) (row : Row q) :
    ¬Meant which q row := by
  intro h
  cases h
  exact hq rfl

/-- A delete that finds rows leaves all but those that go. -/
theorem without_of_delete (hunique : c.Unique) (hclosed : c.Closed) (hdistinct : c.Distinct)
    {which : Row r → Bool} {found : Bool} {after : Contents}
    (h : c.delete which = .ok (found, after)) (q : Relation) :
    Without (Goes c (Meant which)) c after q := by
  have hwhich : ∀ row ∈ c.get r, which row = true ↔ Meant which r row := fun _ _ => meant_iff.symm
  have hleft :=
    without_swept hunique hclosed hdistinct hwhich (fun q hq row _ => not_meant hq row) q
  unfold delete at h
  by_cases hany : (c.get r).any which = true
  · rw [if_pos hany] at h
    dsimp only at h
    split at h
    next =>
      cases h
      exact hleft
    next => cases h
  · rw [if_neg hany] at h
    cases h
    -- Where no row is meant, none goes, and sweeping has nothing to do.
    have hnone : ∀ q row, row ∈ c.get q → ¬Goes c (Meant which) q row := by
      intro q row hrow hgoes
      induction hgoes with
      | meant hmeant =>
        cases hmeant with
        | intro hwhich => exact hany (List.any_eq_true.2 ⟨_, hrow, hwhich⟩)
      | cascade _ _ htarget _ _ ih => exact ih htarget
    exact ⟨.refl _, fun row hrow => iff_of_true hrow (hnone q row hrow)⟩

end Contents
end ControlPlane
