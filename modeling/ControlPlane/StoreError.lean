/-
Errors of the store.

Every error names the operation that failed and its cause. The wording is in `message?` alone.
-/
import ControlPlane.Context
import ControlPlane.Subject
import ControlPlane.Text.Quoted

namespace ControlPlane

/-- Why a store cannot be used at all. -/
inductive Unusable
  | notConfigured
  | notMigrated
  | migrationFailed
  /-- The database has a migration from another build. -/
  | unknownMigration (version : Int)
  | modifiedMigration (version : Int)
  | partialMigration (version : Int)
  deriving DecidableEq, Repr, Inhabited

def Unusable.message : Unusable → String
  | notConfigured => "database not configured"
  | notMigrated => "database not migrated"
  | migrationFailed => "database migration failed"
  | unknownMigration v =>
    "database schema has migration " ++ toString v ++ " which this build does not know"
  | modifiedMigration v =>
    "migration " ++ toString v ++ " was previously applied but has been modified"
  | partialMigration v => "migration " ++ toString v ++ " is partially applied"

/-- The cause of an error. -/
inductive Cause
  | serverConfiguration (why : Unusable)
  | upgradeInProgress
  | notFound (kind : EntityKind) (key : String)
  | alreadyExists (kind : EntityKind) (key : String) (uniqueness : Option String)
  | interrupted (why : Interruption)
  | internal
  deriving DecidableEq, Repr, Inhabited

structure StoreError where
  operation : String
  cause : Cause
  deriving DecidableEq, Repr, Inhabited

namespace StoreError

/-- The code by which callers tell errors apart. -/
def code (e : StoreError) : String :=
  match e.cause with
  | .serverConfiguration _ => "server_configuration"
  | .upgradeInProgress => "upgrade_in_progress"
  | .notFound _ _ => "not_found"
  | .alreadyExists _ _ _ => "already_exists"
  | .interrupted _ => "cancelled"
  | .internal => "internal"

def isNotFound (e : StoreError) : Bool :=
  match e.cause with
  | .notFound _ _ => true
  | _ => false

/-- The message. Internal errors have none here: theirs is the database's own. -/
def message? (e : StoreError) : Option String :=
  let said (text : String) := some (e.operation ++ ": " ++ text)
  match e.cause with
  | .serverConfiguration why => said why.message
  | .upgradeInProgress => said "database upgrade in progress"
  | .notFound kind key => said (kind.name ++ " " ++ Text.quoted key ++ " not found")
  | .alreadyExists kind key _ => said (kind.name ++ " " ++ Text.quoted key ++ " already exists")
  | .interrupted why => said why.message
  | .internal => none

def notFound (operation : String) (subject : Subject) : StoreError :=
  ⟨operation, .notFound subject.kind subject.key⟩

end StoreError

end ControlPlane
