/-
The configuration of the program.
-/
import ControlPlane.Store.Readiness
import ControlPlane.Text.Blank

namespace ControlPlane

/-- How the pool of connections is run. Times are in seconds. -/
structure Pool where
  maxConnections : Nat
  minConnections : Nat
  acquireTimeout : Nat
  idleTimeout : Nat
  maxLifetime : Nat
  deriving DecidableEq, Repr, Inhabited

/-- The limits of a pool: what is not there has no limit. -/
structure PoolLimits where
  maxConnections : Nat
  minConnections : Nat
  acquireTimeout : Nat
  idleTimeout : Option Nat
  maxLifetime : Option Nat
  deriving DecidableEq, Repr, Inhabited

namespace Pool

def default : Pool := ⟨10, 0, 30, 600, 1800⟩

/-- The limits that a pool is opened with. A connection that may be idle or live for no time at all
may be so forever. -/
def limits (pool : Pool) : PoolLimits :=
  let unlessZero (seconds : Nat) : Option Nat := if seconds = 0 then none else some seconds
  { maxConnections := pool.maxConnections
    minConnections := pool.minConnections
    acquireTimeout := pool.acquireTimeout
    idleTimeout := unlessZero pool.idleTimeout
    maxLifetime := unlessZero pool.maxLifetime }

end Pool

structure Configuration where
  databaseUrl : String
  pool : Pool
  store : StoreSettings
  /-- Whether traces are exported. -/
  exportsTraces : Bool
  deriving DecidableEq, Repr, Inhabited

/-- What keeps a configuration from being used. -/
inductive Mistake
  | noDatabaseUrl
  | noConnections
  | moreIdleThanAll (least most : Nat)
  | noBatch
  deriving DecidableEq, Repr, Inhabited

def Mistake.message : Mistake → String
  | noDatabaseUrl => "Config validation: database.url must not be empty"
  | noConnections => "Config validation: database.pool.max_connections must be at least 1"
  | moreIdleThanAll least most =>
    "Config validation: database.pool.min_connections (" ++ toString least ++
      ") cannot be greater than max_connections (" ++ toString most ++ ")"
  | noBatch => "Config validation: iteration_batch_size must be greater than 0"

namespace Configuration

def default : Configuration :=
  ⟨"postgres://localhost:5432/fleetstore", .default, .default, false⟩

/-- The first mistake in a configuration, if there is one. -/
def mistake? (c : Configuration) : Option Mistake :=
  if (Text.strip c.databaseUrl).isEmpty then some .noDatabaseUrl
  else if c.pool.maxConnections = 0 then some .noConnections
  else if c.pool.maxConnections < c.pool.minConnections then
    some (.moreIdleThanAll c.pool.minConnections c.pool.maxConnections)
  else if c.store.batchSize = 0 then some .noBatch
  else none

end Configuration
end ControlPlane
