/-
The orders in which rows are given.

Texts are ordered by their code points, which is the order of their bytes in UTF-8.
-/
import ControlPlane.Storage.Database

namespace ControlPlane

section

variable {α : Type} (cmp : α → α → Ordering)

/-- Put an item before the first one that it does not exceed. -/
def insertBy (a : α) : List α → List α
  | [] => [a]
  | b :: rest => if (cmp a b).isLE then a :: b :: rest else b :: insertBy a rest

/-- Sort by a comparison; what compares as equal keeps its order. -/
def sortBy (items : List α) : List α := items.foldr (insertBy cmp) []

theorem insertBy_perm (a : α) (items : List α) : (insertBy cmp a items).Perm (a :: items) := by
  induction items with
  | nil => exact .refl _
  | cons b rest ih =>
    rw [insertBy]
    split
    next => exact .refl _
    next => exact (ih.cons b).trans (.swap a b rest)

theorem sortBy_perm (items : List α) : (sortBy cmp items).Perm items := by
  induction items with
  | nil => exact .refl _
  | cons a rest ih => exact (insertBy_perm cmp a _).trans (ih.cons a)

theorem mem_sortBy {cmp : α → α → Ordering} {items : List α} {a : α} :
    a ∈ sortBy cmp items ↔ a ∈ items :=
  (sortBy_perm cmp items).mem_iff

end

namespace Row

def byId {r : Relation} : Row r → Row r → Ordering := compareOn fun row => row.id

def byIdentityName : Row .identity → Row .identity → Ordering := compareOn fun row => row.origin

def byCloudName : Row .cloud → Row .cloud → Ordering := compareOn fun row => row.origin

def byControllerName : Row .controller → Row .controller → Ordering :=
  compareOn fun row => row.origin.name

/-- By the name of the cloud, then by that of the region. -/
def byRegionKey : Row .region → Row .region → Ordering :=
  compareLex (compareOn fun row => row.origin.cloud) (compareOn fun row => row.origin.region)

/-- By the name of the cloud, then by that of the credential. -/
def byCredentialName : Row .credential → Row .credential → Ordering :=
  compareLex (compareOn fun row => row.origin.cloud) (compareOn fun row => row.origin.name)

/-- By the object, then by the name of the identity. -/
def byGrantee {on : Grantable} : Row (.grant on) → Row (.grant on) → Ordering :=
  compareLex (compareOn fun row => row.origin.object) (compareOn fun row => row.origin.identity)

/-- Higher priorities first. -/
def byPriority : Row .link → Row .link → Ordering := fun a b => compare b.settings a.settings

end Row
end ControlPlane
