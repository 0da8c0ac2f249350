/-
Free-form documents.

The members of an object stand in the order of their names, each name once: `Json.object` inserts
them one by one, and a later member replaces an earlier one of the same name. So two documents that
differ in the order of members only are the same value.
-/
import ControlPlane.Dictionary
import ControlPlane.Number

namespace ControlPlane

inductive Json
  | null
  | bool (value : Bool)
  | number (value : Number)
  | string (value : String)
  | array (items : List Json)
  | record (members : List (String × Json))
  deriving BEq, Repr, Inhabited

namespace Json

/-- An object with the given members, of which the last of each name counts. -/
def object (members : List (String × Json)) : Json := .record (orderedEntries members)

def int (n : Int) : Json := .number (.integer n)

/-- A member of an object; `null` for one that is missing, and for what is no object. -/
def member (name : String) : Json → Json
  | .record members => (members.lookup name).getD .null
  | _ => .null

/-- Whether an object has a member of that name. -/
def hasMember (name : String) : Json → Bool
  | .record members => (members.lookup name).isSome
  | _ => false

mutual

/-- How deep arrays and objects contain one another; zero for what is neither. -/
def depth : Json → Nat
  | .array items => itemsDepth items + 1
  | .record members => membersDepth members + 1
  | _ => 0

def itemsDepth : List Json → Nat
  | [] => 0
  | item :: rest => max item.depth (itemsDepth rest)

def membersDepth : List (String × Json) → Nat
  | [] => 0
  | (_, value) :: rest => max value.depth (membersDepth rest)

end

/-! ## Overlay -/

mutual

/-- One document laid on another: members of objects are laid on each other name by name, and
anything else replaces what it is laid on. -/
def overlay (base : Json) : Json → Json
  | .record top =>
    match base with
    | .record members => .record (overlayMembers members top)
    | _ => .record top
  | top => top

/-- Members laid on members. A name that is not there yet is added. -/
def overlayMembers (base : List (String × Json)) : List (String × Json) → List (String × Json)
  | [] => base
  | (name, value) :: rest =>
    let laid :=
      match base.lookup name with
      | some below => overlay below value
      | none => value
    overlayMembers (insertEntry name laid base) rest

end

/-- A partial document with the members of another that it leaves out. Where there is no document,
all are left out. -/
def completedBy (doc base : Json) : Json :=
  match doc with
  | .null => base
  | _ => base.overlay doc

/-! ## Storing -/

/-- Whether a text contains the character that the database cannot hold. -/
def hasNul (s : String) : Bool := s.toList.any fun c => c.toNat = 0

mutual

/-- The form in which the database gives a document back; `none` if it refuses the document, which
it does where a text or a name contains the character U+0000. -/
def stored? : Json → Option Json
  | .null => some .null
  | .bool b => some (.bool b)
  | .number n => some (.number n.stored)
  | .string s => if hasNul s then none else some (.string s)
  | .array items => (storedItems? items).map .array
  | .record members => (storedMembers? members).map .record

def storedItems? : List Json → Option (List Json)
  | [] => some []
  | item :: rest => do return (← stored? item) :: (← storedItems? rest)

def storedMembers? : List (String × Json) → Option (List (String × Json))
  | [] => some []
  | (name, value) :: rest => do
    if hasNul name then none
    else return (name, ← stored? value) :: (← storedMembers? rest)

end

mutual

/-- Storing what was stored changes nothing. -/
theorem stored?_stored? {doc kept : Json} (h : stored? doc = some kept) :
    stored? kept = some kept := by
  cases doc with
  | null => simp only [stored?, Option.some.injEq] at h; subst h; rfl
  | bool b => simp only [stored?, Option.some.injEq] at h; subst h; rfl
  | number n =>
    simp only [stored?, Option.some.injEq] at h
    subst h
    simp [stored?, Number.stored_stored]
  | string s =>
    by_cases hs : hasNul s = true
    · simp [stored?, hs] at h
    · simp [stored?, hs] at h
      subst h
      simp [stored?, hs]
  | array items =>
    simp only [stored?, Option.map_eq_some_iff] at h
    obtain ⟨kept, hkept, rfl⟩ := h
    simp [stored?, storedItems?_storedItems? hkept]
  | record members =>
    simp only [stored?, Option.map_eq_some_iff] at h
    obtain ⟨kept, hkept, rfl⟩ := h
    simp [stored?, storedMembers?_storedMembers? hkept]

theorem storedItems?_storedItems? {items kept : List Json} (h : storedItems? items = some kept) :
    storedItems? kept = some kept := by
  cases items with
  | nil => simp only [storedItems?, Option.some.injEq] at h; subst h; rfl
  | cons item rest =>
    simp only [storedItems?, Option.bind_eq_bind, Option.bind_eq_some_iff, Option.pure_def,
      Option.some.injEq] at h
    obtain ⟨item', hitem, rest', hrest, rfl⟩ := h
    simp [storedItems?, stored?_stored? hitem, storedItems?_storedItems? hrest]

theorem storedMembers?_storedMembers? {members kept : List (String × Json)}
    (h : storedMembers? members = some kept) : storedMembers? kept = some kept := by
  cases members with
  | nil => simp only [storedMembers?, Option.some.injEq] at h; subst h; rfl
  | cons first rest =>
    obtain ⟨name, value⟩ := first
    cases hname : hasNul name with
    | true => simp [storedMembers?, hname] at h
    | false =>
      simp only [storedMembers?, hname, Bool.false_eq_true, if_false, Option.bind_eq_bind,
        Option.bind_eq_some_iff, Option.pure_def, Option.some.injEq] at h
      obtain ⟨value', hvalue, rest', hrest, rfl⟩ := h
      simp [storedMembers?, hname, stored?_stored? hvalue, storedMembers?_storedMembers? hrest]

end

/-! ## Reading back -/

/-- How many arrays and objects inside each other are too many to be read. -/
def maxDepth : Nat := 128

mutual

/-- Whether all numbers of a document are read from the text that the database keeps of them. -/
def hasReadableNumbers : Json → Bool
  | .number n => n.isReadable
  | .array items => itemsHaveReadableNumbers items
  | .record members => membersHaveReadableNumbers members
  | _ => true

def itemsHaveReadableNumbers : List Json → Bool
  | [] => true
  | item :: rest => item.hasReadableNumbers && itemsHaveReadableNumbers rest

def membersHaveReadableNumbers : List (String × Json) → Bool
  | [] => true
  | (_, value) :: rest => value.hasReadableNumbers && membersHaveReadableNumbers rest

end

/-- Whether a document is read from the text that the database keeps of it. -/
def isReadable (doc : Json) : Bool := doc.depth < maxDepth && doc.hasReadableNumbers

end Json
end ControlPlane
