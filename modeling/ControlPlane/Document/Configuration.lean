/-
How the configuration is written in documents.

What a document leaves out keeps its default; it has no other members than those of the
configuration.
-/
import ControlPlane.Configuration
import ControlPlane.Document.Value

namespace ControlPlane

open Json

/-- The structure as an object that has each of its fields, if the document has no others. -/
def Json.onlyFields? (fields : List Field) (doc : Json) : Option Json :=
  match doc with
  | .record members =>
    if members.all fun (name, _) => (fields.map Field.name).contains name then
      Json.fields? fields doc
    else none
  | _ => Json.fields? fields doc

def StoreSettings.toDocument (s : StoreSettings) : Json :=
  .object
    [("default_controller_access", .string s.defaultAccess.name),
      ("iteration_batch_size", .int s.batchSize)]

/-- Settings of the store, of which any may be left out. -/
def StoreSettings.ofPartial? (doc : Json) : Option StoreSettings :=
  let read? : Option StoreSettings := do
    let access ← Decode.optional Decode.access (doc.member "default_controller_access")
    let batch ← Decode.optional (Decode.unsigned 64) (doc.member "iteration_batch_size")
    return ⟨access.getD default.defaultAccess, batch.getD default.batchSize⟩
  match doc with
  | .null => some default
  | .record _ => read?
  | _ => none

namespace Pool

def members (pool : Pool) : List (String × Json) :=
  [("max_connections", .int pool.maxConnections), ("min_connections", .int pool.minConnections),
    ("acquire_timeout_secs", .int pool.acquireTimeout),
    ("idle_timeout_secs", .int pool.idleTimeout), ("max_lifetime_secs", .int pool.maxLifetime)]

def toDocument (pool : Pool) : Json := .object pool.members

def fields : List Field := Pool.default.members.map fun (name, value) => .defaulted name value

def ofDocument? (doc : Json) : Option Pool := do
  let doc ← onlyFields? fields doc
  return {
    maxConnections := ← Decode.unsigned 32 (doc.member "max_connections")
    minConnections := ← Decode.unsigned 32 (doc.member "min_connections")
    acquireTimeout := ← Decode.unsigned 64 (doc.member "acquire_timeout_secs")
    idleTimeout := ← Decode.unsigned 64 (doc.member "idle_timeout_secs")
    maxLifetime := ← Decode.unsigned 64 (doc.member "max_lifetime_secs") }

end Pool

def PoolLimits.toDocument (limits : PoolLimits) : Json :=
  let seconds (n : Nat) : Json := .int n
  .object
    [("max_connections", .int limits.maxConnections),
      ("min_connections", .int limits.minConnections),
      ("acquire_timeout_secs", .int limits.acquireTimeout),
      ("idle_timeout_secs", .ofOption seconds limits.idleTimeout),
      ("max_lifetime_secs", .ofOption seconds limits.maxLifetime)]

namespace Configuration

def databaseMembers (c : Configuration) : List (String × Json) :=
  [("url", .string c.databaseUrl), ("pool", c.pool.toDocument)]

def identitiesMembers (c : Configuration) : List (String × Json) :=
  [("default_controller_access", .string c.store.defaultAccess.name)]

def members (c : Configuration) : List (String × Json) :=
  [("database", .object c.databaseMembers), ("identities", .object c.identitiesMembers),
    ("iteration_batch_size", .int c.store.batchSize),
    ("enable_otel_export", .bool c.exportsTraces)]

def toDocument (c : Configuration) : Json := .object c.members

def fieldsOf (members : List (String × Json)) : List Field :=
  members.map fun (name, value) => .defaulted name value

/-- The configuration, without a URL that is to replace its own. -/
def ofDocument? (doc : Json) : Option Configuration := do
  let doc ← onlyFields? (fieldsOf default.members ++ [.defaulted "database_url" .null]) doc
  let database ← onlyFields? (fieldsOf default.databaseMembers) (doc.member "database")
  let identities ← onlyFields? (fieldsOf default.identitiesMembers) (doc.member "identities")
  let _ ← Decode.optional Decode.text (doc.member "database_url")
  return {
    databaseUrl := ← Decode.text (database.member "url")
    pool := ← Pool.ofDocument? (database.member "pool")
    store :=
      ⟨← Decode.access (identities.member "default_controller_access"),
        ← Decode.unsigned 64 (doc.member "iteration_batch_size")⟩
    exportsTraces := ← Decode.boolean (doc.member "enable_otel_export") }

/-- The configuration of a document that is laid over the default. -/
def ofPartial? (doc : Json) : Option Configuration :=
  ofDocument? (doc.completedBy default.toDocument)

end Configuration
end ControlPlane
