/-
The database: rows, sequences, and what one statement does to them.

Every attempt to insert takes the next number of the relation's sequence, whether it succeeds or
not, so no number is given twice. A delete removes the rows whose cascading references then lead
nowhere, and is refused if any other reference leads nowhere after that.
-/
import ControlPlane.Storage.Schema

namespace ControlPlane

/-- The rows of all relations, in the order in which they were inserted. -/
abbrev Contents := PerRelation fun r => List (Row r)

structure Database where
  contents : Contents
  /-- The number that the next row of each relation gets. -/
  sequences : PerRelation fun _ => Int

/-- A database without rows, the sequences at their start. -/
def Database.empty : Database :=
  ⟨PerRelation.tabulate fun _ => [], PerRelation.tabulate fun _ => 1⟩

instance : Inhabited Database := ⟨Database.empty⟩

namespace Contents

variable {r : Relation}

/-! ## Constraints -/

/-- Whether a reference of an entry leads to a row. -/
def resolves (c : Contents) (ref : Reference r) (e : Entry r) : Bool :=
  (c.get ref.target).any (ref.refersTo e)

/-- The first uniqueness constraint that an entry violates beside other rows. -/
def duplicate? (others : List (Row r)) (e : Entry r) : Option (Uniqueness r) :=
  (uniquenesses r).find? fun u => others.any fun row => u.conflicts e row.toEntry

/-- Why an entry cannot stand beside other rows, if it cannot. -/
def refusal? (c : Contents) (others : List (Row r)) (e : Entry r) : Option Failure :=
  match duplicate? others e with
  | some u => some (.duplicate u.name (u.detail e))
  | none => if (references r).all fun ref => c.resolves ref e then none else some .other

/-! ## Updates -/

/-- Overwrite the settings of the row that is meant. The row as written, if there is one. -/
def update (c : Contents) (now : Timestamp) (which : Row r → Bool)
    (change : Settings r → Settings r) : Except Failure (Option (Row r) × Contents) :=
  match (c.get r).find? which with
  | none => .ok (none, c)
  | some row =>
    let written : Row r := { row with settings := change row.settings, updatedAt := now }
    let others := (c.get r).filter fun other => other.id != row.id
    match c.refusal? others written.toEntry with
    | some failure => .error failure
    | none =>
      let rows := (c.get r).map fun other => if other.id = row.id then written else other
      .ok (some written, c.set r rows)

/-! ## Deletes -/

/-- Remove the rows of a relation whose cascading references lead nowhere. -/
def sweep (c : Contents) (r : Relation) : Contents :=
  c.set r <| (c.get r).filter fun row =>
    (references r).all fun ref => !ref.cascades || c.resolves ref row.toEntry

/-- Whether all references of a relation lead to rows. -/
def isClosedAt (c : Contents) (r : Relation) : Bool :=
  (c.get r).all fun row => (references r).all fun ref => c.resolves ref row.toEntry

def allRelations : List Relation :=
  [.identity, .cloud, .region, .controller, .link, .credential, .model, .grant .cloud,
    .grant .model, .grant .credential]

/-- Delete the rows that are meant, and whether there were any. -/
def delete (c : Contents) (which : Row r → Bool) : Except Failure (Bool × Contents) :=
  if (c.get r).any which then
    let kept := c.set r ((c.get r).filter fun row => !which row)
    let swept := cascadeOrder.foldl sweep kept
    if allRelations.all swept.isClosedAt then .ok (true, swept) else .error .other
  else .ok (false, c)

end Contents

namespace Database

variable {r : Relation}

/-- Take the next number of a sequence. -/
def draw (db : Database) (r : Relation) : Int × Database :=
  (db.sequences.get r, { db with sequences := db.sequences.set r (db.sequences.get r + 1) })

/-- Insert a row. -/
def insert (db : Database) (now : Timestamp) (e : Entry r) : Except Failure (Row r) × Database :=
  let (id, drawn) := db.draw r
  match db.contents.refusal? (db.contents.get r) e with
  | some failure => (.error failure, drawn)
  | none =>
    let row : Row r := { e with id := id, createdAt := now, updatedAt := now }
    (.ok row, { drawn with contents := db.contents.set r (db.contents.get r ++ [row]) })

end Database
end ControlPlane
