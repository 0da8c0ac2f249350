/-
Values that a statement carries into the database.

The database refuses some values, and gives others back in a form of its own. `stored?` says both,
and a stored form is stored as it is.
-/
import ControlPlane.Access
import ControlPlane.Json
import ControlPlane.Life
import ControlPlane.Time.Timestamp
import ControlPlane.Uuid

namespace ControlPlane

class Storable (α : Type) where
  /-- The form in which the database gives a value back; `none` if it refuses the value. -/
  stored? : α → Option α
  stored?_stored? : ∀ {a kept : α}, stored? a = some kept → stored? kept = some kept

export Storable (stored?)

namespace Storable

variable {α β : Type}

/-- Values that the database keeps as they are. -/
@[reducible] def exact : Storable α := ⟨some, fun _ => rfl⟩

/-- Values that are stored field by field, as another type has them. -/
@[reducible] def via [Storable β] (parts : α → β) (whole : β → α)
    (parts_whole : ∀ b, parts (whole b) = b) : Storable α where
  stored? a := (stored? (parts a)).map whole
  stored?_stored? := by
    intro a kept h
    obtain ⟨b, hb, rfl⟩ := Option.map_eq_some_iff.1 h
    simp [parts_whole, stored?_stored? hb]

instance : Storable Unit := exact

instance : Storable Bool := exact

instance : Storable Int := exact

instance : Storable Nat := exact

instance : Storable Uuid := exact

instance : Storable Access := exact

instance : Storable Life := exact

instance : Storable String where
  stored? s := if Json.hasNul s then none else some s
  stored?_stored? := by
    intro s kept h
    by_cases hs : Json.hasNul s = true
    · simp [hs] at h
    · simp [hs] at h
      subst h
      simp [hs]

instance : Storable Timestamp := ⟨Timestamp.stored?, Timestamp.stored?_stored?⟩

instance : Storable Json := ⟨Json.stored?, Json.stored?_stored?⟩

instance [Storable α] : Storable (Option α) where
  stored?
    | none => some none
    | some a => (stored? a).map some
  stored?_stored? := by
    intro a kept h
    cases a with
    | none => simp only [Option.some.injEq] at h; subst h; rfl
    | some a =>
      obtain ⟨b, hb, rfl⟩ := Option.map_eq_some_iff.1 h
      simp [stored?_stored? hb]

instance [Storable α] [Storable β] : Storable (α × β) where
  stored? p := do return (← stored? p.1, ← stored? p.2)
  stored?_stored? := by
    intro p kept h
    simp only [Option.bind_eq_bind, Option.bind_eq_some_iff, Option.pure_def,
      Option.some.injEq] at h
    obtain ⟨a, ha, b, hb, rfl⟩ := h
    simp [stored?_stored? ha, stored?_stored? hb]

/-! ## Lists and dictionaries -/

def storedItems? [Storable α] : List α → Option (List α)
  | [] => some []
  | a :: rest => do return (← stored? a) :: (← storedItems? rest)

theorem storedItems?_storedItems? [Storable α] {items kept : List α}
    (h : storedItems? items = some kept) : storedItems? kept = some kept := by
  induction items generalizing kept with
  | nil => simp only [storedItems?, Option.some.injEq] at h; subst h; rfl
  | cons a rest ih =>
    simp only [storedItems?, Option.bind_eq_bind, Option.bind_eq_some_iff, Option.pure_def,
      Option.some.injEq] at h
    obtain ⟨b, hb, rest', hrest, rfl⟩ := h
    simp [storedItems?, stored?_stored? hb, ih hrest]

instance [Storable α] : Storable (List α) := ⟨storedItems?, storedItems?_storedItems?⟩

/-- The names of entries stay, if the database takes them. -/
theorem map_fst_of_storedItems? [Storable α] {entries kept : List (String × α)}
    (h : storedItems? entries = some kept) : kept.map Prod.fst = entries.map Prod.fst := by
  induction entries generalizing kept with
  | nil => simp only [storedItems?, Option.some.injEq] at h; subst h; rfl
  | cons e rest ih =>
    simp only [storedItems?, Option.bind_eq_bind, Option.bind_eq_some_iff, Option.pure_def,
      Option.some.injEq] at h
    obtain ⟨e', he, rest', hrest, rfl⟩ := h
    have hname : e'.1 = e.1 := by
      simp only [stored?, Option.bind_eq_bind, Option.bind_eq_some_iff, Option.pure_def,
        Option.some.injEq] at he
      obtain ⟨name, hname, value, -, rfl⟩ := he
      split at hname
      next => simp at hname
      next => exact (Option.some.inj hname).symm
    simp [hname, ih hrest]

theorem ascending_of_storedItems? [Storable α] {entries kept : List (String × α)}
    (h : storedItems? entries = some kept) (hasc : Ascending entries) : Ascending kept := by
  have hnames : (kept.map Prod.fst).Pairwise (· < ·) := by
    rw [map_fst_of_storedItems? h]
    exact List.pairwise_map.2 hasc
  exact List.pairwise_map.1 hnames

def storedDictionary? [Storable α] (d : Dictionary α) : Option (Dictionary α) :=
  match h : storedItems? d.entries with
  | none => none
  | some kept => some ⟨kept, ascending_of_storedItems? h d.ascending⟩

theorem storedDictionary?_eq_some [Storable α] {d kept : Dictionary α} :
    storedDictionary? d = some kept ↔ storedItems? d.entries = some kept.entries := by
  constructor
  · intro h
    unfold storedDictionary? at h
    split at h
    next => simp at h
    next entries hentries =>
      simp only [Option.some.injEq] at h
      subst h
      exact hentries
  · intro h
    unfold storedDictionary?
    split
    next hnone => rw [h] at hnone; simp at hnone
    next entries hentries =>
      rw [h] at hentries
      exact congrArg some (Dictionary.ext (Option.some.inj hentries).symm)

instance [Storable α] : Storable (Dictionary α) where
  stored? := storedDictionary?
  stored?_stored? h :=
    storedDictionary?_eq_some.2 (storedItems?_storedItems? (storedDictionary?_eq_some.1 h))

end Storable
end ControlPlane
