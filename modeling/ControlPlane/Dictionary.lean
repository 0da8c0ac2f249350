/-
Dictionaries: values under texts, in the order of the texts.

The entries are kept in strictly ascending order, so two dictionaries with the same values under the
same names are equal. `insertEntry` works on bare lists, which also the members of a document use.
-/

namespace ControlPlane

/-! ## Entries in the order of their names -/

/-- Insert an entry in the order of names, replacing one of the same name. -/
def insertEntry {α : Type} (name : String) (value : α) : List (String × α) → List (String × α)
  | [] => [(name, value)]
  | (n, v) :: rest =>
    if name < n then (name, value) :: (n, v) :: rest
    else if name = n then (name, value) :: rest
    else (n, v) :: insertEntry name value rest

/-- Entries in the order of their names, the last of each name. -/
def orderedEntries {α : Type} (entries : List (String × α)) : List (String × α) :=
  entries.foldl (fun acc (name, value) => insertEntry name value acc) []

/-- The names ascend strictly. -/
abbrev Ascending {α : Type} (entries : List (String × α)) : Prop :=
  entries.Pairwise fun a b => a.1 < b.1

theorem mem_insertEntry {α : Type} {name : String} {value : α} {entries : List (String × α)}
    {e : String × α} (h : e ∈ insertEntry name value entries) :
    e = (name, value) ∨ e ∈ entries := by
  induction entries with
  | nil => simpa [insertEntry] using h
  | cons first rest ih =>
    obtain ⟨n, v⟩ := first
    rw [insertEntry] at h
    split at h
    next => simpa using h
    next =>
      split at h
      next => simp only [List.mem_cons] at h ⊢; exact h.imp_right .inr
      next =>
        simp only [List.mem_cons] at h ⊢
        rcases h with h | h
        · exact .inr (.inl h)
        · exact (ih h).imp_right .inr

theorem lt_of_not_lt_of_ne {a b : String} (h : ¬a < b) (hne : a ≠ b) : b < a := by
  have hle : b ≤ a := String.not_lt.1 h
  by_cases hlt : b < a
  · exact hlt
  · exact absurd (String.le_antisymm (String.not_lt.1 hlt) hle) hne

theorem ascending_insertEntry {α : Type} (name : String) (value : α)
    {entries : List (String × α)} (h : Ascending entries) :
    Ascending (insertEntry name value entries) := by
  induction entries with
  | nil => simp [insertEntry, Ascending]
  | cons first rest ih =>
    obtain ⟨n, v⟩ := first
    rw [insertEntry]
    have hrest := List.pairwise_cons.1 h
    split
    next hlt =>
      refine List.pairwise_cons.2 ⟨?_, h⟩
      intro e he
      rcases List.mem_cons.1 he with rfl | he
      · exact hlt
      · exact String.lt_trans hlt (hrest.1 e he)
    next hlt =>
      split
      next heq =>
        subst heq
        exact List.pairwise_cons.2 ⟨hrest.1, hrest.2⟩
      next hne =>
        refine List.pairwise_cons.2 ⟨?_, ih hrest.2⟩
        intro e he
        rcases mem_insertEntry he with rfl | he
        · exact lt_of_not_lt_of_ne hlt hne
        · exact hrest.1 e he

theorem lookup_insertEntry {α : Type} (name other : String) (value : α)
    (entries : List (String × α)) :
    (insertEntry name value entries).lookup other =
      if other = name then some value else entries.lookup other := by
  induction entries with
  | nil =>
    by_cases h : other = name
    · simp [insertEntry, h]
    · simp [insertEntry, h, List.lookup_cons, beq_eq_false_iff_ne.2 h]
  | cons first rest ih =>
    obtain ⟨n, v⟩ := first
    rw [insertEntry]
    split
    next =>
      by_cases h : other = name
      · simp [h]
      · simp [h, List.lookup_cons, beq_eq_false_iff_ne.2 h]
    next =>
      split
      next heq =>
        subst heq
        by_cases h : other = name
        · simp [h]
        · simp [h, List.lookup_cons, beq_eq_false_iff_ne.2 h]
      next hne =>
        by_cases hn : other = n
        · subst hn
          simp [Ne.symm hne]
        · simp only [List.lookup_cons, beq_eq_false_iff_ne.2 hn, ih]

/-! ## Dictionaries -/

structure Dictionary (α : Type) where
  entries : List (String × α)
  ascending : Ascending entries

namespace Dictionary

variable {α β : Type}

@[ext] theorem ext {d e : Dictionary α} (h : d.entries = e.entries) : d = e := by
  cases d
  cases e
  simp_all

instance [DecidableEq α] : DecidableEq (Dictionary α) := fun d e =>
  if h : d.entries = e.entries then isTrue (ext h) else isFalse fun heq => h (congrArg entries heq)

def empty : Dictionary α := ⟨[], List.Pairwise.nil⟩

instance : Inhabited (Dictionary α) := ⟨empty⟩

def size (d : Dictionary α) : Nat := d.entries.length

/-- The value under a name. -/
def find? (d : Dictionary α) (name : String) : Option α := d.entries.lookup name

def contains (d : Dictionary α) (name : String) : Bool := (d.find? name).isSome

/-- Put a value under a name, in place of any that is there. -/
def insert (d : Dictionary α) (name : String) (value : α) : Dictionary α :=
  ⟨insertEntry name value d.entries, ascending_insertEntry name value d.ascending⟩

/-- Put every value of `e` into `d`. -/
def union (d e : Dictionary α) : Dictionary α :=
  e.entries.foldl (fun acc (name, value) => acc.insert name value) d

def ofList (entries : List (String × α)) : Dictionary α :=
  entries.foldl (fun acc (name, value) => acc.insert name value) empty

theorem find?_insert (d : Dictionary α) (name other : String) (value : α) :
    (d.insert name value).find? other = if other = name then some value else d.find? other :=
  lookup_insertEntry name other value d.entries

end Dictionary
end ControlPlane
