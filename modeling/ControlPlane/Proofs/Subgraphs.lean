/-
Graphs below a path.

A graph may be put below a path, and the part of a graph below a path may be taken out again.  The
two undo each other (`nested_under`), and what is put below another path leaves no trace, unless one
of the two paths goes on to the other (`nested_under_of_apart`).  A graph is told by what it has at
each path (`ext_find?`), so all of this comes to a calculation with paths.  The graph of an entity
below a path is its own graph, put there (`eq_under`).
-/
import ControlPlane.Proofs.Associations
import Mathlib.Data.List.Nodup
import Mathlib.Data.List.Perm.Basic

namespace ControlPlane

/-! ## Dictionaries by their values -/

namespace Ascending

variable {α : Type} {entries first second : List (String × α)}

theorem lookup_eq_some (h : Ascending entries) {name : String} {value : α} :
    entries.lookup name = some value ↔ (name, value) ∈ entries := by
  induction entries with
  | nil => simp
  | cons head rest ih =>
    obtain ⟨n, v⟩ := head
    obtain ⟨hfirst, hrest⟩ := List.pairwise_cons.1 h
    rw [List.lookup_cons, List.mem_cons]
    by_cases hn : name = n
    · subst hn
      have hnot : (name, value) ∉ rest := fun hmem =>
        String.lt_irrefl name (hfirst (name, value) hmem)
      simp [hnot, eq_comm]
    · rw [beq_eq_false_iff_ne.2 hn, ih hrest]
      simp [hn]

theorem eq_of_mem_iff (h : Ascending first) (h' : Ascending second)
    (hmem : ∀ e, e ∈ first ↔ e ∈ second) : first = second := by
  have hnodup : ∀ {entries : List (String × α)}, Ascending entries → entries.Nodup := by
    intro entries h
    refine List.Pairwise.imp ?_ h
    rintro a b hlt rfl
    exact String.lt_irrefl _ hlt
  refine ((List.perm_ext_iff_of_nodup (hnodup h) (hnodup h')).2 hmem).eq_of_pairwise ?_ h h'
  intro a b _ _ hab hba
  exact absurd hab (String.lt_asymm hba)

end Ascending

namespace Dictionary

variable {α : Type}

/-- A dictionary is told by its values. -/
theorem ext_find? {d e : Dictionary α} (h : ∀ name, d.find? name = e.find? name) : d = e := by
  refine Dictionary.ext (Ascending.eq_of_mem_iff d.ascending e.ascending fun ⟨name, value⟩ => ?_)
  rw [← Ascending.lookup_eq_some d.ascending, ← Ascending.lookup_eq_some e.ascending]
  exact iff_of_eq (congrArg (· = some value) (h name))

theorem find?_eq_some {d : Dictionary α} {name : String} {value : α} :
    d.find? name = some value ↔ (name, value) ∈ d.entries :=
  Ascending.lookup_eq_some d.ascending

/-- Where both have a value, the second counts. -/
theorem find?_union (d e : Dictionary α) (name : String) :
    (d.union e).find? name = (e.find? name).or (d.find? name) := by
  obtain ⟨entries, hascending⟩ := e
  show (entries.foldl _ d).find? name = (entries.lookup name).or (d.find? name)
  induction entries generalizing d with
  | nil => rfl
  | cons head rest ih =>
    obtain ⟨n, v⟩ := head
    obtain ⟨hfirst, hrest⟩ := List.pairwise_cons.1 hascending
    rw [List.foldl_cons, ih _ hrest, find?_insert, List.lookup_cons]
    by_cases hn : name = n
    · subst hn
      have hnone : rest.lookup name = none := by
        refine Option.eq_none_iff_forall_ne_some.2 fun value hvalue => ?_
        have hmem := (Ascending.lookup_eq_some hrest).1 hvalue
        exact String.lt_irrefl name (hfirst (name, value) hmem)
      simp [hnone]
    · rw [beq_eq_false_iff_ne.2 hn]
      simp [hn]

end Dictionary

namespace Text

theorem append_lt_append {lead p q : String} (h : p < q) : lead ++ p < lead ++ q := by
  rw [String.lt_iff] at h ⊢
  rw [String.toList_append, String.toList_append]
  induction lead.toList with
  | nil => exact h
  | cons c cs ih => exact List.Lex.cons ih

theorem isPrefix_append (lead rest : String) : lead.toList <+: (lead ++ rest).toList := by
  rw [String.toList_append]
  exact List.prefix_append _ _

end Text

namespace Preload

theorem ext_find? {g h : Preload} (hfind : ∀ path, g.find? path = h.find? path) : g = h :=
  congrArg Preload.mk (Dictionary.ext_find? hfind)

theorem find?_add (g : Preload) (above name path : String) (m : Multiplicity) :
    (g.add above name m).find? path = if path = join above name then some m else g.find? path :=
  Dictionary.find?_insert _ _ _ _

theorem find?_union (g h : Preload) (path : String) :
    (g.union h).find? path = (h.find? path).or (g.find? path) :=
  Dictionary.find?_union _ _ _

theorem find?_empty (path : String) : empty.find? path = none := rfl

theorem find?_nested (g : Preload) (association path : String) :
    (g.nested association).find? path = g.find? (association ++ "." ++ path) := by
  refine Option.ext fun m => ?_
  refine Dictionary.find?_eq_some.trans (Iff.trans ?_ Dictionary.find?_eq_some.symm)
  exact mem_nestedEntries

/-! ## Going down in several steps -/

theorem nested_nested (g : Preload) (first second : String) :
    (g.nested first).nested second = g.nested (first ++ "." ++ second) := by
  refine ext_find? fun path => ?_
  simp only [find?_nested, String.append_assoc]

theorem nested_union (g h : Preload) (association : String) :
    (g.union h).nested association = (g.nested association).union (h.nested association) := by
  refine ext_find? fun path => ?_
  simp only [find?_nested, find?_union]

/-! ## Graphs that are put below a path -/

variable {above association p q : String}

theorem join_empty (path : String) : join "" path = path := rfl

theorem join_eq (h : above ≠ "") (path : String) : join above path = above ++ "." ++ path := by
  rw [join, if_neg (by simpa using h)]

theorem join_lt_join (h : p < q) : join above p < join above q := by
  unfold join
  split
  next => exact h
  next => exact Text.append_lt_append h

theorem join_inj : join above p = join above q ↔ p = q := by
  refine ⟨fun h => ?_, congrArg _⟩
  by_cases habove : above = ""
  · rwa [habove, join_empty, join_empty] at h
  · rw [join_eq habove, join_eq habove] at h
    exact (String.append_right_inj _).1 h

theorem ascending_join {entries : List (String × Multiplicity)} (h : Ascending entries)
    (above : String) : Ascending (entries.map fun (path, m) => (join above path, m)) := by
  unfold Ascending at h ⊢
  rw [List.pairwise_map]
  exact h.imp join_lt_join

/-- A graph, put below a path. -/
def under (above : String) (g : Preload) : Preload where
  paths :=
    { entries := g.paths.entries.map fun (path, m) => (join above path, m)
      ascending := ascending_join g.paths.ascending above }

theorem find?_under_eq_some {g : Preload} {path : String} {m : Multiplicity} :
    (g.under above).find? path = some m ↔
      ∃ rest, path = join above rest ∧ g.find? rest = some m := by
  refine Dictionary.find?_eq_some.trans (List.mem_map.trans ?_)
  constructor
  · rintro ⟨⟨rest, m'⟩, hmem, heq⟩
    obtain ⟨rfl, rfl⟩ := Prod.mk.inj heq
    exact ⟨rest, rfl, Dictionary.find?_eq_some.2 hmem⟩
  · rintro ⟨rest, rfl, hrest⟩
    exact ⟨(rest, m), Dictionary.find?_eq_some.1 hrest, rfl⟩

theorem find?_under_join (g : Preload) (above path : String) :
    (g.under above).find? (join above path) = g.find? path := by
  refine Option.ext fun m => find?_under_eq_some.trans ?_
  constructor
  · rintro ⟨rest, hjoin, hrest⟩
    rwa [join_inj.1 hjoin]
  · exact fun h => ⟨path, rfl, h⟩

theorem nested_under (g : Preload) (h : above ≠ "") : (g.under above).nested above = g := by
  refine ext_find? fun path => ?_
  rw [find?_nested, ← join_eq h, find?_under_join]

/-- All paths of a graph that is put below a path start with that path. -/
theorem isPrefix_of_contains_under {g : Preload} {path : String} (h : above ≠ "")
    (hcontains : (g.under above).contains path = true) :
    (above ++ ".").toList <+: path.toList := by
  obtain ⟨m, hm⟩ := Option.isSome_iff_exists.1 hcontains
  obtain ⟨rest, rfl, -⟩ := find?_under_eq_some.1 hm
  rw [join_eq h]
  exact Text.isPrefix_append _ _

/-- Whether neither of two paths is on the way to the other, or to what is below it. -/
def Apart (p q : String) : Prop :=
  ¬(p ++ ".").toList <+: (q ++ ".").toList ∧ ¬(q ++ ".").toList <+: (p ++ ".").toList

instance : Decidable (Apart p q) := inferInstanceAs (Decidable (_ ∧ _))

theorem Apart.symm (h : Apart p q) : Apart q p := ⟨h.2, h.1⟩

/-- What is put below a path leaves no trace below another. -/
theorem nested_under_of_apart (g : Preload) (hq : q ≠ "") (h : Apart p q) :
    (g.under q).nested p = empty := by
  refine ext_find? fun path => ?_
  rw [find?_nested, find?_empty]
  refine Option.eq_none_iff_forall_ne_some.2 fun m hm => ?_
  obtain ⟨rest, heq, -⟩ := find?_under_eq_some.1 hm
  -- One text starts with both paths, so the shorter of the two is where the longer one starts.
  have hfirst := Text.isPrefix_append (p ++ ".") path
  rw [heq, join_eq hq] at hfirst
  have hsecond := Text.isPrefix_append (q ++ ".") rest
  rcases List.prefix_or_prefix_of_prefix hfirst hsecond with hprefix | hprefix
  · exact h.1 hprefix
  · exact h.2 hprefix

theorem union_empty (g : Preload) : g.union empty = g := rfl

theorem empty_union (g : Preload) : empty.union g = g := by
  refine ext_find? fun path => ?_
  rw [find?_union, find?_empty, Option.or_none]

/-! ### Building up -/

theorem empty_under (above : String) : empty.under above = empty := rfl

theorem add_under (g : Preload) (above name : String) (m : Multiplicity) :
    (g.add "" name m).under above = (g.under above).add above name m := by
  refine ext_find? fun path => Option.ext fun m' => ?_
  rw [find?_under_eq_some, find?_add]
  constructor
  · rintro ⟨rest, rfl, hrest⟩
    rw [find?_add, join_empty] at hrest
    rwa [find?_under_join, if_congr join_inj rfl rfl]
  · intro h
    split at h
    next hpath => exact ⟨name, hpath, by rwa [find?_add, join_empty, if_pos rfl]⟩
    next hpath =>
      obtain ⟨rest, rfl, hrest⟩ := find?_under_eq_some.1 h
      refine ⟨rest, rfl, ?_⟩
      rwa [find?_add, join_empty, if_neg fun heq => hpath (congrArg _ heq)]

theorem union_under (g h : Preload) (above : String) :
    (g.union h).under above = (g.under above).union (h.under above) := by
  refine ext_find? fun path => Option.ext fun m => ?_
  rw [find?_under_eq_some, find?_union]
  constructor
  · rintro ⟨rest, rfl, hrest⟩
    rwa [find?_under_join, find?_under_join, ← find?_union]
  · intro hfind
    rcases Option.or_eq_some_iff.1 hfind with hsecond | ⟨hnone, hfirst⟩
    · obtain ⟨rest, rfl, hrest⟩ := find?_under_eq_some.1 hsecond
      exact ⟨rest, rfl, by rw [find?_union, hrest, Option.some_or]⟩
    · obtain ⟨rest, rfl, hrest⟩ := find?_under_eq_some.1 hfirst
      rw [find?_under_join] at hnone
      exact ⟨rest, rfl, by rw [find?_union, hnone, Option.none_or, hrest]⟩

theorem under_under (g : Preload) (above : String) (h : association ≠ "") :
    (g.under association).under above = g.under (join above association) := by
  refine ext_find? fun path => Option.ext fun m => ?_
  rw [find?_under_eq_some, find?_under_eq_some]
  constructor
  · rintro ⟨middle, rfl, hmiddle⟩
    obtain ⟨rest, rfl, hrest⟩ := find?_under_eq_some.1 hmiddle
    exact ⟨rest, by rw [join_join h, join_eq h], hrest⟩
  · rintro ⟨rest, rfl, hrest⟩
    exact ⟨join association rest, by rw [join_join h, join_eq h],
      find?_under_eq_some.2 ⟨rest, rfl, hrest⟩⟩

/-! ## The graphs of the entities -/

/-- Whether a function gives the graph of an entity below a path. -/
inductive IsEntityGraph : (String → Preload) → Prop
  | cloud : IsEntityGraph cloud
  | region : IsEntityGraph region
  | controller : IsEntityGraph controller
  | model : IsEntityGraph model
  | credential : IsEntityGraph credential
  | identity : IsEntityGraph fun _ => identity

theorem region_eq_under (above : String) : region above = (region "").under above := by
  simp only [region, add_under, empty_under]

/-- The graph of an entity below a path is its own graph, put there. -/
theorem eq_under {graph : String → Preload} (h : IsEntityGraph graph) (above : String) :
    graph above = (graph "").under above := by
  cases h with
  | cloud => simp only [cloud, add_under, empty_under]
  | region => exact region_eq_under above
  | controller => simp only [controller, add_under, empty_under]
  | model =>
    have hregion : (region (join "" "cloud_region")).under above =
        region (join above "cloud_region") := by
      rw [region_eq_under, join_empty, under_under _ _ (by decide), ← region_eq_under]
    simp only [model, union_under, add_under, empty_under, hregion]
  | credential => simp only [credential, add_under, empty_under]
  | identity => rfl

/-- Going below one association and then another is going below the path of both, and what is below
an association in two graphs together is what is below it in each.  The graph of an entity below a
path has no other paths than those below it, and is its own graph there; and two such graphs below
paths that are apart can be taken out of their union again. -/
theorem graphs_nest :
    (∀ (g : Preload) first second,
      (g.nested first).nested second = g.nested (first ++ "." ++ second)) ∧
    (∀ (g h : Preload) association,
      (g.union h).nested association = (g.nested association).union (h.nested association)) ∧
    (∀ graph, IsEntityGraph graph → ∀ p, p ≠ "" →
      (graph p).nested p = graph "" ∧
      ∀ path, (graph p).contains path = true → (p ++ ".").toList <+: path.toList) ∧
    ∀ graph other, IsEntityGraph graph → IsEntityGraph other → ∀ p q, p ≠ "" → q ≠ "" →
      Apart p q →
      ((graph p).union (other q)).nested p = graph "" ∧
      ((graph p).union (other q)).nested q = other "" := by
  refine ⟨nested_nested, nested_union, fun graph hgraph p hp => ?_,
    fun graph other hgraph hother p q hp hq hapart => ?_⟩
  · rw [eq_under hgraph p]
    exact ⟨nested_under _ hp, fun path => isPrefix_of_contains_under hp⟩
  · rw [eq_under hgraph p, eq_under hother q, nested_union, nested_union, nested_under _ hp,
      nested_under _ hq, nested_under_of_apart _ hq hapart, nested_under_of_apart _ hp hapart.symm,
      union_empty, empty_union]
    exact ⟨rfl, rfl⟩

/-- The region of a model and a cloud, below paths that start with the same letters. -/
theorem graphs_nest_cloud_region :
    Apart "cloud_region" "cloud" ∧
    ((region "cloud_region").union (cloud "cloud")).nested "cloud_region" = region "" ∧
    ((region "cloud_region").union (cloud "cloud")).nested "cloud" = cloud "" ∧
    (model "m.cloud").nested "m.cloud" = model "" := by
  obtain ⟨-, -, halone, htogether⟩ := graphs_nest
  have hapart : Apart "cloud_region" "cloud" := by decide +kernel
  obtain ⟨hregion, hcloud⟩ :=
    htogether region cloud .region .cloud "cloud_region" "cloud" (by decide) (by decide) hapart
  obtain ⟨hmodel, -⟩ := halone model .model "m.cloud" (by decide)
  exact ⟨hapart, hregion, hcloud, hmodel⟩

end Preload
end ControlPlane
