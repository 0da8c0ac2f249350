/-
Which associations of an entity are loaded with it.

A graph is a set of association paths such as `regions.controllers`, each with the multiplicity of
its last step. `nested` is the part of a graph below one association, with the paths shortened; it
is strictly smaller when the graph contains the association, so loading along a graph ends.
-/
import ControlPlane.Dictionary
import ControlPlane.Text.Search

namespace ControlPlane

/-- Whether an association leads to one entity or to any number. -/
inductive Multiplicity
  | belongsTo
  | hasMany
  deriving DecidableEq, Repr, Inhabited

namespace Multiplicity

def name : Multiplicity → String
  | belongsTo => "belongs_to"
  | hasMany => "has_many"

def named? : String → Option Multiplicity
  | "belongs_to" => some belongsTo
  | "has_many" => some hasMany
  | _ => none

end Multiplicity

structure Preload where
  paths : Dictionary Multiplicity
  deriving DecidableEq

namespace Preload

/-- A path below another. -/
def join (above name : String) : String := if above.isEmpty then name else above ++ "." ++ name

def empty : Preload := ⟨Dictionary.empty⟩

instance : Inhabited Preload := ⟨empty⟩

def size (g : Preload) : Nat := g.paths.size

def contains (g : Preload) (path : String) : Bool := g.paths.contains path

def find? (g : Preload) (path : String) : Option Multiplicity := g.paths.find? path

/-- Add an association below a path. -/
def add (g : Preload) (above name : String) (m : Multiplicity) : Preload :=
  ⟨g.paths.insert (join above name) m⟩

/-- The paths of both graphs; where both have one, the second counts. -/
def union (g h : Preload) : Preload := ⟨g.paths.union h.paths⟩

/-! ## The graph below an association -/

/-- The path below `lead`, which ends in a dot. -/
def below? (lead path : String) : Option String :=
  (Text.dropLead? lead.toList path.toList).map String.ofList

theorem eq_of_below? {lead path rest : String} (h : below? lead path = some rest) :
    path.toList = lead.toList ++ rest.toList := by
  obtain ⟨cs, hcs, rfl⟩ := Option.map_eq_some_iff.1 h
  simp [Text.dropLead?_eq_some hcs]

theorem below?_lt_below? {lead p q p' q' : String} (hp : below? lead p = some p')
    (hq : below? lead q = some q') (hlt : p < q) : p' < q' := by
  rw [String.lt_iff, eq_of_below? hp, eq_of_below? hq] at hlt
  rw [String.lt_iff]
  generalize lead.toList = cs at hlt
  induction cs with
  | nil => exact hlt
  | cons c cs ih => exact ih (by simpa using hlt)

def nestedEntries (association : String) (entries : List (String × Multiplicity)) :
    List (String × Multiplicity) :=
  entries.filterMap fun (path, m) => (below? (association ++ ".") path).map (·, m)

theorem ascending_nestedEntries (association : String) {entries : List (String × Multiplicity)}
    (h : Ascending entries) : Ascending (nestedEntries association entries) := by
  refine List.Pairwise.filterMap _ ?_ h
  intro a b hlt a' ha' b' hb'
  obtain ⟨p, hp, rfl⟩ := Option.map_eq_some_iff.1 ha'
  obtain ⟨q, hq, rfl⟩ := Option.map_eq_some_iff.1 hb'
  exact below?_lt_below? hp hq hlt

/-- The graph below an association, with its name and the dot taken off each path. -/
def nested (g : Preload) (association : String) : Preload :=
  ⟨nestedEntries association g.paths.entries, ascending_nestedEntries association g.paths.ascending⟩

theorem below?_self (association : String) : below? (association ++ ".") association = none := by
  cases h : below? (association ++ ".") association with
  | none => rfl
  | some rest =>
    have heq := congrArg List.length (eq_of_below? h)
    simp at heq

theorem mem_of_contains {g : Preload} {path : String} (h : g.contains path = true) :
    ∃ m, (path, m) ∈ g.paths.entries := by
  simp only [contains, Dictionary.contains, Dictionary.find?] at h
  generalize g.paths.entries = entries at h
  induction entries with
  | nil => simp at h
  | cons first rest ih =>
    obtain ⟨p, m⟩ := first
    by_cases hp : path = p
    · exact ⟨m, by simp [hp]⟩
    · rw [List.lookup_cons, beq_eq_false_iff_ne.2 hp] at h
      obtain ⟨m', hm'⟩ := ih h
      exact ⟨m', List.mem_cons_of_mem _ hm'⟩

/-- Going below an association that the graph contains leaves fewer paths. -/
theorem size_nested_lt {g : Preload} {association : String} (h : g.contains association = true) :
    (g.nested association).size < g.size := by
  obtain ⟨m, hm⟩ := mem_of_contains h
  refine List.length_filterMap_lt_length_iff_exists.2 ⟨(association, m), hm, ?_⟩
  simp [below?_self]

/-! ## The graphs of the entities -/

def cloud (above : String) : Preload :=
  empty
    |>.add above "regions" .hasMany
    |>.add above "regions.controllers" .hasMany
    |>.add above "regions.controllers.controller" .belongsTo
    |>.add above "grants" .hasMany
    |>.add above "grants.identity" .belongsTo

def region (above : String) : Preload :=
  empty
    |>.add above "cloud" .belongsTo
    |>.add above "controllers" .hasMany
    |>.add above "controllers.controller" .belongsTo

def controller (above : String) : Preload :=
  empty
    |>.add above "cloud_regions" .hasMany
    |>.add above "cloud_regions.cloud_region" .belongsTo
    |>.add above "cloud_regions.cloud_region.cloud" .belongsTo

def model (above : String) : Preload :=
  (empty
    |>.add above "owner" .belongsTo
    |>.add above "controller" .belongsTo
    |>.add above "cloud_credential" .belongsTo
    |>.add above "grants" .hasMany
    |>.add above "grants.identity" .belongsTo
    |>.add above "cloud_region" .belongsTo).union (region (join above "cloud_region"))

def credential (above : String) : Preload :=
  empty
    |>.add above "cloud" .belongsTo
    |>.add above "owner" .belongsTo
    |>.add above "grants" .hasMany
    |>.add above "grants.identity" .belongsTo

/-- An identity has no associations. -/
def identity : Preload := empty

end Preload
end ControlPlane
