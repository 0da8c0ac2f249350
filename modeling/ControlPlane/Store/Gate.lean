/-
Running operations and iterations.

Three things are looked at in this order before a script runs: whether the store is ready, whether
the key that the operation addresses could exist, and whether the context is already interrupted.
Where one of them says no, the database is left alone. An iteration addresses no key.
-/
import ControlPlane.Store.Iteration
import ControlPlane.Store.Operation
import ControlPlane.Store.Readiness

namespace ControlPlane

/-- What happens to the context of an operation. -/
inductive Course
  | undisturbed
  /-- It is interrupted before the operation starts. -/
  | interrupted (why : Interruption)
  /-- It is interrupted while the operation is under way, if the moment comes. -/
  | disturbed (moment : Moment) (why : Interruption)
  deriving DecidableEq, Repr, Inhabited

namespace Course

/-- The course of a context that changes no more. -/
def ofContext (ctx : Context) (tokens : Tokens) (now : Int) : Course :=
  match ctx.interruption tokens now with
  | some why => interrupted why
  | none => undisturbed

/-- The interruption at a given moment. -/
def interruptionAt? (course : Course) (moment : Moment) : Option Interruption :=
  match course with
  | disturbed m why => if m = moment then some why else none
  | _ => none

/-- The interruption before the first statement. -/
def interruptionAtStart? : Course → Option Interruption
  | interrupted why => some why
  | course => course.interruptionAt? .firstStatement

end Course

namespace Store

def environment (store : Store) (now : Timestamp) (course : Course) : Environment where
  now := now
  defaultAccess := store.settings.defaultAccess
  disturbance :=
    match course with
    | .disturbed moment why => some (moment, why)
    | _ => none

/-- The error that a script ends with. -/
def errorOf (plan : Plan) : Stop → StoreError
  | .interrupted why => ⟨plan.name, .interrupted why⟩
  | .failed failure subject => failure.toError plan.name (subject.getD plan.subject)

/-- Run a script. -/
def execute (store : Store) (now : Timestamp) (course : Course) (plan : Plan) (db : Database) :
    Except StoreError Reply × Database :=
  match plan.script (store.environment now course) ⟨db, false⟩ with
  | .ok reply after => (.ok reply, after.database)
  | .error stop after => (.error (errorOf plan stop), after.database)

/-- What is wrong before an operation starts, if anything is. -/
def gate? (store : Store) (course : Course) (plan : Plan) : Option StoreError :=
  match store.refusal? with
  | some cause => some ⟨plan.name, cause⟩
  | none =>
    if plan.subject.isValid then
      match course with
      | .interrupted why => some ⟨plan.name, .interrupted why⟩
      | _ => none
    else some (.notFound plan.name plan.subject)

/-- Perform an operation. -/
def perform (store : Store) (now : Timestamp) (course : Course) (op : Operation) (db : Database) :
    Except StoreError Reply × Database :=
  match store.gate? course op.plan with
  | some e => (.error e, db)
  | none => store.execute now course op.plan db

/-- Perform an iteration: the entities that were visited, and how it ended. -/
def iterate (store : Store) (course : Course) (it : Iteration) (visitor : Visitor)
    (db : Database) : Except StoreError (Walk Entity) :=
  match store.refusal?, course with
  | some cause, _ => .error ⟨it.name, cause⟩
  | none, .interrupted why => .error ⟨it.name, .interrupted why⟩
  | none, course =>
    if it.hasStorableParameters then
      match course.interruptionAt? .firstStatement with
      | some why => .error ⟨it.name, .interrupted why⟩
      | none => .ok (it.walk db.contents visitor store.settings.batchSize)
    else .error ⟨it.name, .internal⟩

end Store
end ControlPlane
