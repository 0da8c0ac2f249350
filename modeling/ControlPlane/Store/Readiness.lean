/-
Whether a store can be used.

A store starts unconfigured. Its one migration makes it ready or leaves it failed for good; to try
again, another store has to be opened.
-/
import ControlPlane.Access
import ControlPlane.StoreError

namespace ControlPlane

structure StoreSettings where
  /-- The access of identities that are created when they are first named. -/
  defaultAccess : Access
  /-- How many rows an iteration reads at a time; none at a time counts as one. -/
  batchSize : Nat
  deriving DecidableEq, Repr, Inhabited

def StoreSettings.default : StoreSettings := ⟨.addModel, 100⟩

inductive Lifecycle
  | unconfigured
  | migrating
  | ready
  | failed
  deriving DecidableEq, Repr, Inhabited

/-- The state as it is shown; a store whose migration failed shows as unconfigured. -/
def Lifecycle.name : Lifecycle → String
  | .unconfigured => "Unconfigured"
  | .migrating => "Migrating"
  | .ready => "Ready"
  | .failed => "Unconfigured"

structure Store where
  /-- Whether there is a database behind the store. -/
  isBound : Bool
  lifecycle : Lifecycle
  settings : StoreSettings
  deriving DecidableEq, Repr, Inhabited

/-- What a request to migrate comes to before anything is done. -/
inductive MigrationStart
  | started
  | alreadyReady
  | refused (cause : Cause)
  deriving DecidableEq, Repr

namespace Store

/-- A store that has just been opened. -/
def opened (isBound : Bool) (settings : StoreSettings) : Store := ⟨isBound, .unconfigured, settings⟩

/-- Why operations are refused, if they are. -/
def refusal? (store : Store) : Option Cause :=
  match store.lifecycle with
  | .ready => none
  | .migrating => some .upgradeInProgress
  | .failed => some (.serverConfiguration .migrationFailed)
  | .unconfigured =>
    if store.isBound then some (.serverConfiguration .notMigrated)
    else some (.serverConfiguration .notConfigured)

def migrationStart (store : Store) : MigrationStart :=
  if store.isBound then
    match store.lifecycle with
    | .unconfigured => .started
    | .ready => .alreadyReady
    | .migrating => .refused .upgradeInProgress
    | .failed => .refused (.serverConfiguration .migrationFailed)
  else .refused (.serverConfiguration .notConfigured)

end Store
end ControlPlane
