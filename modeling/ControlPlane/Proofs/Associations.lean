/-
What associations lead to.

An association to many leads to the rows that refer to the one at its root: to all of them, in the
order of the association (`Contents.Lists`).  An association to one leads to the row that is
referred to, and in a consistent database exactly one row is (`Contents.IsOnly`).  Both are said of
the rows alone and shown of each way of loading them.  The graph below an association has the paths
of the whole graph that go on from there (`Preload.contains_nested`).
-/
import ControlPlane.Proofs.Iteration

namespace ControlPlane

/-! ## Paths -/

namespace Preload

theorem below?_eq_some {lead path rest : String} :
    below? lead path = some rest ↔ path = lead ++ rest := by
  constructor
  · intro h
    apply String.toList_injective
    rw [eq_of_below? h, String.toList_append]
  · rintro rfl
    rw [below?, String.toList_append, Text.dropLead?_append, Option.map_some,
      String.ofList_toList]

theorem contains_iff {g : Preload} {path : String} :
    g.contains path = true ↔ ∃ m, (path, m) ∈ g.paths.entries := by
  refine ⟨mem_of_contains, fun ⟨m, hm⟩ => ?_⟩
  rw [contains, Dictionary.contains, Dictionary.find?]
  generalize g.paths.entries = entries at hm
  induction entries with
  | nil => cases hm
  | cons first rest ih =>
    obtain ⟨p, m'⟩ := first
    rw [List.lookup_cons]
    by_cases hp : path = p
    · rw [beq_iff_eq.2 hp]
      rfl
    · rw [beq_eq_false_iff_ne.2 hp]
      rcases List.mem_cons.1 hm with heq | hm
      · exact absurd (congrArg Prod.fst heq) hp
      · exact ih hm

theorem mem_nestedEntries {association path : String} {m : Multiplicity}
    {entries : List (String × Multiplicity)} :
    (path, m) ∈ nestedEntries association entries ↔ (association ++ "." ++ path, m) ∈ entries := by
  rw [nestedEntries, List.mem_filterMap]
  constructor
  · rintro ⟨⟨whole, m'⟩, hmem, hbelow⟩
    obtain ⟨rest, hrest, heq⟩ := Option.map_eq_some_iff.1 hbelow
    obtain ⟨rfl, rfl⟩ := Prod.mk.inj heq
    rwa [below?_eq_some.1 hrest] at hmem
  · intro hmem
    exact ⟨_, hmem, Option.map_eq_some_iff.2 ⟨path, below?_eq_some.2 rfl, rfl⟩⟩

/-- The graph below an association has the paths that go on from it. -/
theorem contains_nested (g : Preload) (association path : String) :
    (g.nested association).contains path = g.contains (association ++ "." ++ path) := by
  rw [Bool.eq_iff_iff, contains_iff, contains_iff]
  exact exists_congr fun m => mem_nestedEntries

theorem join_join {association : String} (h : association ≠ "") (above path : String) :
    join (join above association) path = join above (association ++ "." ++ path) := by
  have hjoined : (join above association).isEmpty = false := by
    rw [join]
    split <;> simp [h]
  by_cases habove : above.isEmpty = true
  · simp only [join, habove, if_true] at hjoined ⊢
    simp only [hjoined, if_false, Bool.false_eq_true]
  · simp only [join, habove, if_false, Bool.false_eq_true] at hjoined ⊢
    rw [if_neg (ne_true_of_eq_false hjoined)]
    simp only [String.append_assoc]

/-- Whether a graph is the part of another below a path. -/
def IsBelow (part whole : Preload) (above : String) : Prop :=
  ∀ path, part.contains path = whole.contains (join above path)

theorem isBelow_self (g : Preload) : g.IsBelow g "" := fun _ => rfl

theorem IsBelow.nested {part whole : Preload} {above : String} (h : part.IsBelow whole above)
    (association : String) (hne : association ≠ "") :
    (part.nested association).IsBelow whole (join above association) := by
  intro path
  rw [contains_nested, h, join_join hne]

end Preload

/-! ## Orders -/

namespace Row

def IsNamedBefore (a b : Row .region) : Prop := Text.IsBefore a.origin.region b.origin.region

def IsKeyedBefore (a b : Row .region) : Prop :=
  Text.IsBefore a.origin.cloud b.origin.cloud ∨
    a.origin.cloud = b.origin.cloud ∧ Text.IsBefore a.origin.region b.origin.region

def IsGrantedBefore {on : Grantable} (a b : Row (.grant on)) : Prop :=
  Text.IsBefore a.origin.identity b.origin.identity

theorem eq_of_byRegionKey {a b : Row .region} (h : a.byRegionKey b = .eq) :
    (a.origin.cloud, a.origin.region) = (b.origin.cloud, b.origin.region) := by
  obtain ⟨hcloud, hregion⟩ := Iteration.compareLex_texts_eq_eq.1 h
  rw [hcloud, hregion]

/-- Whether a link comes before another: the one with the higher priority, or at the same priority
the one whose partner comes before the partner of the other. -/
def RanksBefore {r : Relation} (c : Contents) (partner : Row .link → Int)
    (before : Row r → Row r → Prop) (a b : Row .link) : Prop :=
  b.settings < a.settings ∨ a.settings = b.settings ∧
    ∃ p ∈ c.get r, ∃ q ∈ c.get r, p.id = partner a ∧ q.id = partner b ∧ before p q

end Row

namespace Contents

variable {r q : Relation} {κ : Type} [DecidableEq κ] {c : Contents}

/-- Whether rows are those of their relation of which something holds, in an order. -/
structure Lists (c : Contents) (selects : Row r → Prop) (precedes : Row r → Row r → Prop)
    (rows : List (Row r)) : Prop where
  mem_iff : ∀ row, row ∈ rows ↔ row ∈ c.get r ∧ selects row
  ordered : rows.Pairwise precedes

/-- Whether a row is the only one of its relation of which something holds. -/
structure IsOnly (c : Contents) (selects : Row r → Prop) (row : Row r) : Prop where
  mem : row ∈ c.get r
  selected : selects row
  only : ∀ other ∈ c.get r, selects other → other = row

/-! ## Rows with a key -/

theorem mem_filter_contains {key : Row r → κ} {k : κ} {rows : List (Row r)} {row : Row r} :
    row ∈ rows.filter (fun row => [k].contains (key row)) ↔ row ∈ rows ∧ key row = k := by
  rw [List.mem_filter, List.contains_iff_mem, List.mem_singleton]

/-- Rows with a key, sorted by an order in which no two of them tie. -/
theorem lists_sortBy (cmp : Row r → Row r → Ordering) [Std.TransCmp cmp] {key : Row r → κ} {k : κ}
    {precedes : Row r → Row r → Prop} (hne : (c.get r).Pairwise fun a b => cmp a b ≠ .eq)
    (hlt : ∀ a b, key a = k → key b = k → cmp a b = .lt → precedes a b) :
    c.Lists (fun row => key row = k) precedes
      (sortBy cmp ((c.get r).filter fun row => [k].contains (key row))) where
  mem_iff row := mem_sortBy.trans mem_filter_contains
  ordered := by
    refine (sortBy_ascending cmp (hne.filter _)).imp_of_mem ?_
    intro a b ha hb hcmp
    have hkey := (mem_filter_contains.1 (mem_sortBy.1 ha)).2
    have hkey' := (mem_filter_contains.1 (mem_sortBy.1 hb)).2
    exact hlt a b hkey hkey' hcmp

/-- Of rows with a key that no two rows share, the first is the only one. -/
theorem head?_isOnly {cmp : Row r → Row r → Ordering} {key : Row r → κ} {k : κ}
    (hnodup : ((c.get r).map key).Nodup) (hexists : ∃ row ∈ c.get r, key row = k) :
    ∃ row, (sortBy cmp ((c.get r).filter fun row => [k].contains (key row))).head? = some row ∧
      c.IsOnly (fun row => key row = k) row := by
  obtain ⟨row, hrow, hkey⟩ := hexists
  have hsorted : row ∈ sortBy cmp ((c.get r).filter fun row => [k].contains (key row)) :=
    mem_sortBy.2 (mem_filter_contains.2 ⟨hrow, hkey⟩)
  obtain ⟨first, hfirst⟩ := Option.isSome_iff_exists.1
    (List.isSome_head?.2 (List.ne_nil_of_mem hsorted))
  have hmem := mem_filter_contains.1 (mem_sortBy.1 (List.mem_of_head? hfirst))
  refine ⟨first, hfirst, hmem.1, hmem.2, fun other hother hkey' => ?_⟩
  exact List.inj_on_of_nodup_map hnodup hother hmem.1 (hkey'.trans hmem.2.symm)

/-! ## Links with a key -/

section Joined

variable {partner : Row .link → Int}

/-- Each of some links with its partner, the row of the number to which it refers. -/
def joined (c : Contents) (q : Relation) (partner : Row .link → Int) (links : List (Row .link)) :
    List (Row .link × Row q) :=
  links.filterMap fun link => ((c.get q).find? fun row => partner link = row.id).map (link, ·)

theorem mem_joined (hids : ((c.get q).map fun row => row.id).Nodup) {links : List (Row .link)}
    {p : Row .link × Row q} :
    p ∈ c.joined q partner links ↔ p.1 ∈ links ∧ p.2 ∈ c.get q ∧ p.2.id = partner p.1 := by
  obtain ⟨link, row⟩ := p
  have hfind : (c.get q).find? (fun row => partner link = row.id) = some row ↔
      row ∈ c.get q ∧ row.id = partner link := by
    simp only [eq_comm (a := partner link)]
    exact find?_key_eq_some hids
  rw [joined, List.mem_filterMap]
  constructor
  · rintro ⟨other, hlink, hrow⟩
    obtain ⟨row', hrow', heq⟩ := Option.map_eq_some_iff.1 hrow
    obtain ⟨rfl, rfl⟩ := Prod.mk.inj heq
    exact ⟨hlink, hfind.1 hrow'⟩
  · rintro ⟨hlink, hrow⟩
    exact ⟨link, hlink, Option.map_eq_some_iff.2 ⟨row, hfind.2 hrow, rfl⟩⟩

variable {cmp : Row q → Row q → Ordering} {root : Row .link → Int}

/-- The order in which links are loaded: by the row at the root, then by their priority, then by
the partner. -/
def rankOrder (cmp : Row q → Row q → Ordering) (root : Row .link → Int) :
    Row .link × Row q → Row .link × Row q → Ordering :=
  compareLex (compareOn fun p => root p.1)
    (compareLex (fun p s => Row.byPriority p.1 s.1) fun p s => cmp p.2 s.2)

theorem joined_ne_eq (hids : ((c.get q).map fun row => row.id).Nodup)
    (hlinks : ∀ a ∈ c.get .link, ∀ b ∈ c.get .link, root a = root b → partner a = partner b → a = b)
    (hne : ∀ p ∈ c.get q, ∀ s ∈ c.get q, cmp p s = .eq → p = s) {links : List (Row .link)}
    (hsubset : ∀ link ∈ links, link ∈ c.get .link) (hnodup : links.Nodup) :
    (c.joined q partner links).Pairwise fun p s => rankOrder cmp root p s ≠ .eq := by
  have hpairs : (c.joined q partner links).Pairwise fun p s => p.1 ≠ s.1 := by
    refine List.pairwise_filterMap.2 (hnodup.imp ?_)
    intro a b hab p hp s hs
    obtain ⟨_, -, rfl⟩ := Option.map_eq_some_iff.1 hp
    obtain ⟨_, -, rfl⟩ := Option.map_eq_some_iff.1 hs
    exact hab
  refine hpairs.imp_of_mem ?_
  intro p s hp hs hps heq
  obtain ⟨hlink, hrow, hid⟩ := (mem_joined hids).1 hp
  obtain ⟨hlink', hrow', hid'⟩ := (mem_joined hids).1 hs
  rw [rankOrder, compareLex, Ordering.then_eq_eq, compareLex, Ordering.then_eq_eq] at heq
  have hroot : root p.1 = root s.1 := Std.LawfulEqOrd.compare_eq_iff_eq.1 heq.1
  -- The order of the partners has no ties, so two links that tie have one partner.
  have hpartner : p.2 = s.2 := hne _ hrow _ hrow' heq.2.2
  refine hps (hlinks _ (hsubset _ hlink) _ (hsubset _ hlink') hroot ?_)
  rw [← hid, ← hid', hpartner]

/-- The links that refer to a row, in the order of their partners on the other side. -/
theorem lists_joined (cmp : Row q → Row q → Ordering) [Std.TransCmp cmp]
    {before : Row q → Row q → Prop} {id : Int}
    (hids : ((c.get q).map fun row => row.id).Nodup) (hnodup : (c.get .link).Nodup)
    (hpartner : ∀ link ∈ c.get .link, ∃ row ∈ c.get q, row.id = partner link)
    (hlinks : ∀ a ∈ c.get .link, ∀ b ∈ c.get .link, root a = root b → partner a = partner b → a = b)
    (hne : ∀ p ∈ c.get q, ∀ s ∈ c.get q, cmp p s = .eq → p = s)
    (hlt : ∀ p s, cmp p s = .lt → before p s) :
    c.Lists (fun link => root link = id) (Row.RanksBefore c partner before)
      ((sortBy (rankOrder cmp root) (c.joined q partner
        ((c.get .link).filter fun link => [id].contains (root link)))).map Prod.fst) := by
  have htrans : Std.TransCmp fun p s : Row .link × Row q => cmp p.2 s.2 := transCmp_on Prod.snd
  have htrans' : Std.TransCmp (rankOrder cmp root) := by
    unfold rankOrder
    infer_instance
  have hmem : ∀ {p : Row .link × Row q}, p ∈ sortBy (rankOrder cmp root) (c.joined q partner
      ((c.get .link).filter fun link => [id].contains (root link))) →
      (p.1 ∈ c.get .link ∧ root p.1 = id) ∧ p.2 ∈ c.get q ∧ p.2.id = partner p.1 := by
    intro p hp
    obtain ⟨hlink, hrow⟩ := (mem_joined hids).1 (mem_sortBy.1 hp)
    exact ⟨mem_filter_contains.1 hlink, hrow⟩
  constructor
  · intro link
    rw [List.mem_map]
    constructor
    · rintro ⟨p, hp, rfl⟩
      exact (hmem hp).1
    · intro hlink
      obtain ⟨row, hrow⟩ := hpartner link hlink.1
      have hjoined := (mem_joined (p := (link, row)) hids).2 ⟨mem_filter_contains.2 hlink, hrow⟩
      exact ⟨(link, row), mem_sortBy.2 hjoined, rfl⟩
  · have hties := joined_ne_eq hids hlinks hne (fun _ hlink => (mem_filter_contains.1 hlink).1)
      (hnodup.filter fun link => [id].contains (root link))
    refine List.pairwise_map.2 ((sortBy_ascending _ hties).imp_of_mem ?_)
    intro p s hp hs hcmp
    obtain ⟨⟨-, hroot⟩, hrow, hid⟩ := hmem hp
    obtain ⟨⟨-, hroot'⟩, hrow', hid'⟩ := hmem hs
    rw [rankOrder, compareLex, Ordering.then_eq_lt, compareLex, Ordering.then_eq_lt] at hcmp
    rcases hcmp with hcmp | ⟨-, hcmp | ⟨heq, hcmp⟩⟩
    · rw [compareOn, hroot, hroot', Int.compare_eq_lt] at hcmp
      exact absurd hcmp (Int.lt_irrefl id)
    · exact .inl (Int.compare_eq_lt.1 hcmp)
    · have hpriority : s.1.settings = p.1.settings := Std.LawfulEqOrd.compare_eq_iff_eq.1 heq
      exact .inr ⟨hpriority.symm, p.2, hrow, s.2, hrow', hid, hid', hlt _ _ hcmp⟩

end Joined

end Contents

/-! ## Each way of loading -/

open Contents

namespace Database

variable {db : Database} (h : db.Consistent)

include h

theorem Consistent.nodup (r : Relation) : (db.contents.get r).Nodup :=
  List.Nodup.of_map _ (h.ids r)

theorem lists_regionsOfClouds (name : String) :
    db.contents.Lists (fun region : Row .region => region.origin.cloud = name) Row.IsNamedBefore
      (db.contents.regionsOfClouds [name]) := by
  refine lists_sortBy Row.byRegionKey ?_ ?_
  · exact Iteration.pairwise_ne_eq_of_nodup
      (fun a b heq => Row.eq_of_byRegionKey heq) h.regionKeys
  · intro a b ha hb hlt
    rcases Iteration.compareLex_texts_eq_lt.1 hlt with hlt | ⟨-, hlt⟩
    · rw [ha, hb] at hlt
      exact absurd hlt (List.lt_irrefl _)
    · exact hlt

/-- An object and an identity have one grant between them, so no two grants tie. -/
theorem Consistent.byGrantee_ne_eq (on : Grantable) :
    (db.contents.get (.grant on)).Pairwise fun a b => Row.byGrantee a b ≠ .eq := by
  refine Iteration.pairwise_ne_eq_of_nodup (fun a b heq => Prod.ext_iff.2 ?_) (h.grants on)
  obtain ⟨hobject, hidentity⟩ := Ordering.then_eq_eq.1 heq
  exact ⟨Std.LawfulEqOrd.compare_eq_iff_eq.1 hobject,
    Std.LawfulEqOrd.compare_eq_iff_eq.1 hidentity⟩

theorem lists_grantsOn (on : Grantable) (object : Int) :
    db.contents.Lists (fun grant : Row (.grant on) => grant.origin.object = object)
      Row.IsGrantedBefore
      (db.contents.grantsOn on [object]) := by
  refine lists_sortBy Row.byGrantee (h.byGrantee_ne_eq on) ?_
  intro a b ha hb hlt
  rcases Ordering.then_eq_lt.1 hlt with hlt | ⟨-, hlt⟩
  · rw [compareOn, ha, hb, Int.compare_eq_lt] at hlt
    exact absurd hlt (Int.lt_irrefl object)
  · exact Iteration.compareOn_text_eq_lt.1 hlt

theorem Consistent.eq_of_link {a b : Row .link} (ha : a ∈ db.contents.link)
    (hb : b ∈ db.contents.link) (hregion : a.origin.region = b.origin.region)
    (hcontroller : a.origin.controller = b.origin.controller) : a = b :=
  List.inj_on_of_nodup_map h.links ha hb (Prod.ext_iff.2 ⟨hregion, hcontroller⟩)

theorem lists_linksOfRegions (id : Int) :
    db.contents.Lists (fun link : Row .link => link.origin.region = id)
      (Row.RanksBefore db.contents (fun link => link.origin.controller)
        fun a b : Row .controller => Text.IsBefore a.origin.name b.origin.name)
      (db.contents.linksOfRegions [id]) :=
  lists_joined Row.byControllerName (h.ids .controller) (h.nodup .link) h.controllerOfLink
    (fun _ ha _ hb => h.eq_of_link ha hb)
    (fun _ hp _ hs heq => List.inj_on_of_nodup_map h.controllerNames hp hs
      (Std.LawfulEqOrd.compare_eq_iff_eq.1 heq))
    fun _ _ => Iteration.compareOn_text_eq_lt.1

theorem lists_linksOfControllers (id : Int) :
    db.contents.Lists (fun link : Row .link => link.origin.controller = id)
      (Row.RanksBefore db.contents (fun link => link.origin.region) Row.IsKeyedBefore)
      (db.contents.linksOfControllers [id]) :=
  lists_joined Row.byRegionKey (h.ids .region) (h.nodup .link) h.regionOfLink
    (fun _ ha _ hb hcontroller hregion => h.eq_of_link ha hb hregion hcontroller)
    (fun _ hp _ hs heq => List.inj_on_of_nodup_map h.regionKeys hp hs (Row.eq_of_byRegionKey heq))
    fun _ _ => Iteration.compareLex_texts_eq_lt.1

theorem head?_cloudsNamed {name : String} (hexists : ∃ row ∈ db.contents.cloud, row.origin = name) :
    ∃ row, (db.contents.cloudsNamed [name]).head? = some row ∧
      db.contents.IsOnly (fun cloud : Row .cloud => cloud.origin = name) row :=
  head?_isOnly (r := .cloud) h.cloudNames hexists

theorem head?_identitiesNamed {name : String}
    (hexists : ∃ row ∈ db.contents.identity, row.origin = name) :
    ∃ row, (db.contents.identitiesNamed [name]).head? = some row ∧
      db.contents.IsOnly (fun identity : Row .identity => identity.origin = name) row :=
  head?_isOnly (r := .identity) h.identityNames hexists

theorem head?_withIds {r : Relation} {id : Int}
    (hexists : ∃ row ∈ db.contents.get r, row.id = id) :
    ∃ row, (db.contents.withIds r [id]).head? = some row ∧
      db.contents.IsOnly (fun row => row.id = id) row :=
  head?_isOnly (h.ids r) hexists

end Database
end ControlPlane
