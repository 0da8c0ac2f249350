/-
Scripts: sequences of statements that the database runs for one operation.

A script ends with a value, with the failure of a statement, or with an interruption. What it has
done to the database up to its end stands in its last state, also where it does not succeed. A
transaction puts the rows back in that case, and only the rows: numbers that were drawn stay drawn.
-/
import ControlPlane.Context
import ControlPlane.Merge
import ControlPlane.Storage.Database

namespace ControlPlane

/-- When an operation that is under way is interrupted. -/
inductive Moment
  /-- When its first statement reaches the database. -/
  | firstStatement
  /-- At the first statement that reads after one that writes. -/
  | readAfterWrite
  deriving DecidableEq, Repr, Inhabited

/-- What a script runs in. -/
structure Environment where
  now : Timestamp
  /-- The access of identities that are created when they are first named. -/
  defaultAccess : Access
  disturbance : Option (Moment × Interruption)

/-- The state of a script. -/
structure Progress where
  database : Database
  /-- Whether a statement of the script has written. -/
  hasWritten : Bool

/-- Why a script ends without a value. -/
inductive Stop
  /-- A statement failed; `subject` is what it was about, where that is not the subject of the
  operation. -/
  | failed (failure : Failure) (subject : Option Subject)
  | interrupted (why : Interruption)

/-- Give a failure a subject, unless it has one. -/
def Stop.about (subject : Subject) : Stop → Stop
  | .failed failure none => .failed failure (some subject)
  | stop => stop

abbrev Script := ReaderT Environment (EStateM Stop Progress)

namespace Script

variable {α β : Type} {r : Relation}

def fail (failure : Failure) : Script α := throw (.failed failure none)

/-- End as an interruption at this moment demands, if one does. -/
def checkpoint (moment : Moment) : Script Unit := do
  match (← read).disturbance with
  | some (m, why) => if m = moment then throw (.interrupted why)
  | none => return

/-- A parameter in the form in which it is stored. A statement whose parameters are refused does
not run. -/
def parameter [Storable α] (value : α) : Script α :=
  match stored? value with
  | some kept => return kept
  | none => fail .other

/-! ## Statements -/

/-- A statement that reads. -/
def query [Storable α] (params : α) (f : α → Contents → β) : Script β := do
  let params ← parameter params
  checkpoint .firstStatement
  if (← get).hasWritten then checkpoint .readAfterWrite
  return f params (← get).database.contents

/-- A statement that reads a row that has to be there. -/
def queryOne [Storable α] (params : α) (f : α → Contents → Option β) : Script β := do
  match ← query params f with
  | some found => return found
  | none => fail .noRow

/-- Insert a row and give it as inserted. An interrupted insert still takes a number. -/
def insert (e : Entry r) : Script (Row r) := do
  let e ← parameter e
  let env ← read
  let progress ← get
  let (outcome, database) := progress.database.insert env.now e
  match env.disturbance with
  | some (.firstStatement, why) =>
    set { progress with database := { database with contents := progress.database.contents } }
    throw (.interrupted why)
  | _ =>
    set (⟨database, true⟩ : Progress)
    match outcome with
    | .ok row => return row
    | .error failure => fail failure

/-- Overwrite the settings of the row that is meant. The row as written, if there is one. -/
def update [Storable α] (params : α) (which : α → Row r → Bool)
    (change : α → Settings r → Settings r) : Script (Option (Row r)) := do
  let params ← parameter params
  checkpoint .firstStatement
  let progress ← get
  match progress.database.contents.update (← read).now (which params) (change params) with
  | .ok (row, contents) =>
    set (⟨{ progress.database with contents := contents }, true⟩ : Progress)
    return row
  | .error failure => fail failure

/-- Delete the rows that are meant, and whether there were any. -/
def delete [Storable α] (params : α) (which : α → Row r → Bool) : Script Bool := do
  let params ← parameter params
  checkpoint .firstStatement
  let progress ← get
  match progress.database.contents.delete (which params) with
  | .ok (found, contents) =>
    set (⟨{ progress.database with contents := contents }, true⟩ : Progress)
    return found
  | .error failure => fail failure

/-! ## Combinations -/

/-- Run a script for every item of a list, in order. -/
def each (f : α → Script β) : List α → Script (List β)
  | [] => return []
  | a :: rest => do
    let b ← f a
    return b :: (← each f rest)

/-- Run a script that reads back what another has written. Its documents are decoded from their
texts, which fails where one of them is not read. What was committed is always read: scripts that
write documents end with this, and take back what they wrote where it fails. -/
def decoded (isReadable : α → Bool) (body : Script α) : Script α := do
  let found ← body
  if isReadable found then return found else fail .other

/-- Run a script as a transaction: where it ends without a value, the rows are as before it. -/
def transaction (body : Script α) : Script α := fun env before =>
  match body env before with
  | .ok value after => .ok value after
  | .error stop after =>
    .error stop
      { after with database := { after.database with contents := before.database.contents } }

/-- Run a script that is about something other than the subject of the operation. -/
def about (subject : Subject) (body : Script α) : Script α := fun env before =>
  match body env before with
  | .ok value after => .ok value after
  | .error stop after => .error (stop.about subject) after

/-- Insert a row; where another has the same unique values, do something else. Only such a
conflict leads there. -/
def insertOr (e : Entry r) (onConflict : Script Merge) : Script Merge := fun env before =>
  match insert e env before with
  | .ok _ after => .ok .inserted after
  | .error (.failed (.duplicate _ _) _) after => onConflict env after
  | .error stop after => .error stop after

/-- Insert a row unless another has the same unique values. -/
def insertNew (e : Entry r) : Script Merge := insertOr e (return .unchanged)

/-- Insert a row, or overwrite the settings of the one with the same unique values. The row is
written only where its settings differ. -/
def insertOrChange [Storable α] (e : Entry r) (params : α) (which : α → Row r → Bool)
    (change : α → Settings r → Settings r) : Script Merge :=
  insertOr e do
    match ← update params which change with
    | some _ => return .updated
    | none => return .unchanged

end Script
end ControlPlane
