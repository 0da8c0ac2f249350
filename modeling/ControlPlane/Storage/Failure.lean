/-
How statements fail in the database, and the errors of operations that come of it.

The database reports the values of a duplicate within a sentence. They are read back out of it, and
since they may themselves contain the marks around them, they reach from the first opening to the
last closing.
-/
import ControlPlane.StoreError
import ControlPlane.Text.Search

namespace ControlPlane

/-- How a statement fails in the database. -/
inductive Failure
  /-- A row that has to be there is missing. -/
  | noRow
  /-- Another row has the same values in unique columns; `detail` is what the database says. -/
  | duplicate (uniqueness : Option String) (detail : Option String)
  | other
  deriving DecidableEq, Repr, Inhabited

namespace Failure

/-- What the database says of values that another row has. -/
def duplicateDetail (columns values : List String) : String :=
  "Key (" ++ String.intercalate ", " columns ++ ")=(" ++ String.intercalate ", " values ++
    ") already exists."

/-- The values in what the database says, from the first opening to the last closing. -/
def conflictingValue? (detail : String) : Option String :=
  (Text.between? "=(".toList ')' detail.toList).map String.ofList

/-- The error of an operation on a subject that fails in this way. -/
def toError (operation : String) (subject : Subject) : Failure → StoreError
  | noRow => .notFound operation subject
  | duplicate uniqueness detail =>
    ⟨operation,
      .alreadyExists subject.kind ((detail.bind conflictingValue?).getD subject.key) uniqueness⟩
  | other => ⟨operation, .internal⟩

end Failure
end ControlPlane
