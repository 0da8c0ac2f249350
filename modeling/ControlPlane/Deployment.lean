/-
A store, the database server behind it, and the counts of what was done.

Steps are what can happen from outside: operations and iterations, opening another store on the same
server, migrations, and interference with the ledger. Each call is counted once, under its own name,
also where it is refused.
-/
import ControlPlane.Store.Gate
import ControlPlane.Store.Metrics
import ControlPlane.Store.Migration

namespace ControlPlane

structure Deployment where
  server : Server
  store : Store
  metrics : Metrics

namespace Deployment

/-- A store that has just been opened on an empty server. -/
def initial (settings : StoreSettings) : Deployment :=
  ⟨Server.empty, Store.opened true settings, Metrics.empty⟩

def record (dep : Deployment) (operation outcome : String) : Deployment :=
  { dep with metrics := dep.metrics.recordOperation operation outcome }

/-- The outcome under which a result is counted. -/
def outcomeOf {α : Type} : Except StoreError α → String
  | .ok _ => "ok"
  | .error e => e.code

/-! ## Operations -/

/-- Count the rows of a merge. -/
def recordMerge (dep : Deployment) (operation : String) : Except StoreError Reply → Deployment
  | .ok (.merged m) => { dep with metrics := dep.metrics.recordMerge operation m.tally }
  | _ => dep

def perform (dep : Deployment) (now : Timestamp) (course : Course) (op : Operation) :
    Except StoreError Reply × Deployment :=
  let (result, database) := dep.store.perform now course op dep.server.database
  let after := { dep with server := { dep.server with database := database } }
  let name := op.plan.name
  (result, (after.record name (outcomeOf result)).recordMerge name result)

/-! ## Iterations -/

/-- How an iteration ends as a whole. -/
inductive IterationEnd
  | completed
  | stopped (call : Nat)
  | failed (error : StoreError)
  deriving DecidableEq, Repr

def IterationEnd.outcome : IterationEnd → String
  | .completed => "ok"
  | .stopped _ => "aborted"
  | .failed e => e.code

def IterationEnd.ofEnding (name : String) : Ending → IterationEnd
  | .completed => .completed
  | .stopped call => .stopped call
  | .interrupted why => .failed ⟨name, .interrupted why⟩

/-- The entities that were visited, the end, and the deployment after it. -/
def iterate (dep : Deployment) (course : Course) (it : Iteration) (visitor : Visitor) :
    List Entity × IterationEnd × Deployment :=
  let (visited, ending) :=
    match dep.store.iterate course it visitor dep.server.database with
    | .error e => ([], .failed e)
    | .ok walk => (walk.visited, IterationEnd.ofEnding it.name walk.ending)
  (visited, ending, dep.record it.name ending.outcome)

/-! ## Opening and migrating -/

/-- Open another store on the same server. -/
def reopen (dep : Deployment) (isBound : Bool) (settings : StoreSettings) : Deployment :=
  { dep with store := Store.opened isBound settings }

def migrateName : String := "database.migrate"

/-- The system while its migration is in flight; `none` if a call comes back at once. -/
def inFlight? (dep : Deployment) (course : Course) : Option Deployment :=
  match dep.store.migrationStart, course with
  | .started, .interrupted _ => none
  | .started, _ => some { dep with store := { dep.store with lifecycle := .migrating } }
  | _, _ => none

/-- Bring the schema up to date, after dropping everything if that is asked for. The drop is a
transaction of its own: what is dropped stays so if the context ends before the ledger is read. -/
def runMigrations (dep : Deployment) (course : Course) (reset : Bool) :
    Except StoreError Unit × Server :=
  match course.interruptionAtStart? with
  | some why => (.error ⟨migrateName, .interrupted why⟩, dep.server)
  | none =>
    let server := if reset then Server.empty else dep.server
    match if reset then course.interruptionAt? .readAfterWrite else none with
    | some why => (.error ⟨migrateName, .interrupted why⟩, server)
    | none =>
      match server.migrate with
      | .ok migrated => (.ok (), migrated)
      | .error why => (.error ⟨migrateName, .serverConfiguration why⟩, server)

/-- Carry out a migration that was started. It is not retried when it fails. -/
def finishMigration (dep : Deployment) (course : Course) (reset : Bool) :
    Except StoreError Unit × Deployment :=
  let (result, server) := dep.runMigrations course reset
  let lifecycle : Lifecycle := if result.isOk then .ready else .failed
  let after : Deployment :=
    { dep with server := server, store := { dep.store with lifecycle := lifecycle } }
  (result, after.record migrateName (outcomeOf result))

/-- Bring the schema up to date and make the store ready. -/
def migrate (dep : Deployment) (course : Course) (reset : Bool) :
    Except StoreError Unit × Deployment :=
  match dep.store.migrationStart with
  | .started => dep.finishMigration course reset
  | .alreadyReady => (.ok (), dep.record migrateName "ok")
  | .refused cause =>
    let e : StoreError := ⟨migrateName, cause⟩
    (.error e, dep.record migrateName e.code)

/-- Interfere with the ledger, and how many of its entries that changes. -/
def tamper (dep : Deployment) (version : Int) (how : Tampering) : Nat × Deployment :=
  let (changed, ledger) := dep.server.ledger.tamper version how
  (changed, { dep with server := { dep.server with ledger := ledger } })

end Deployment
end ControlPlane
