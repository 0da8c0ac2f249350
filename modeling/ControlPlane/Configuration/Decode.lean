/-
The configuration from a tree of values.

A table gives settings by name and has no other names; a list gives them in their order. What is
left out keeps its default. A fault says where in the tree it is.
-/
import ControlPlane.Configuration
import ControlPlane.Number.Word
import ControlPlane.Tree

namespace ControlPlane

/-- What is wrong with a value. -/
inductive FaultKind
  | unknownField
  | unknownVariant
  | invalidType
  /-- An integer is out of range. -/
  | invalidValue
  /-- The text is no tree at all. -/
  | unreadable
  deriving DecidableEq, Repr, Inhabited

/-- A fault, and the names that lead to it. -/
structure Fault where
  kind : FaultKind
  path : List String
  deriving DecidableEq, Repr, Inhabited

def Fault.message (f : Fault) : String :=
  let what :=
    match f.kind with
    | .unknownField => "unknown field"
    | .unknownVariant => "unknown variant"
    | .invalidType => "invalid type"
    | .invalidValue => "invalid value"
    | .unreadable => "unreadable configuration"
  if f.path.isEmpty then what else what ++ " for key \"" ++ String.intercalate "." f.path ++ "\""

namespace Tree
namespace Decode

/-! ## Values -/

def fail {α : Type} (kind : FaultKind) : Except Fault α := .error ⟨kind, []⟩

/-- What is read below a name. -/
def under {α : Type} (name : String) (result : Except Fault α) : Except Fault α :=
  result.mapError fun f => { f with path := name :: f.path }

def text : Tree → Except Fault String
  | .text s => .ok s
  | _ => fail .invalidType

def flag : Tree → Except Fault Bool
  | .flag b => .ok b
  | _ => fail .invalidType

/-- An unsigned integer of the given width. One that no word of 64 bits holds is of another type. -/
def unsigned (bits : Nat) : Tree → Except Fault Nat
  | .integer n =>
    if Word.holdsUnsigned bits n then .ok n.toNat
    else if Word.holds n then fail .invalidValue
    else fail .invalidType
  | _ => fail .invalidType

/-- A value that may be empty. -/
def optional {α : Type} (item : Tree → Except Fault α) : Tree → Except Fault (Option α)
  | .empty => .ok none
  | t => (item t).map some

/-- A level of access by its name, by its number, or as the first name of a table with an empty
value. -/
def access : Tree → Except Fault Access
  | .text name => named name
  | .integer n =>
    if Word.holdsUnsigned 32 n then
      match Access.all[n.toNat]? with
      | some level => .ok level
      | none => fail .invalidValue
    else fail .invalidType
  | .table ((name, value) :: _) => under name do
    let level ← named name
    if value == .empty then return level else fail .invalidType
  | _ => fail .invalidType
where
  named (name : String) : Except Fault Access :=
    match Access.named? name with
    | some level => .ok level
    | none => fail .unknownVariant

/-- Settings one after the other, by their names in a table or in their order in a list. -/
def settings {σ : Type} (order : List String) (assign : String → Tree → σ → Except Fault σ)
    (start : σ) : Tree → Except Fault σ
  | .table members => members.foldlM (fun s (name, t) => under name (assign name t s)) start
  | .list items =>
    (order.zip items).zipIdx.foldlM
      (fun s ((name, t), i) => under (toString i) (assign name t s)) start
  | _ => fail .invalidType

end Decode
end Tree

open ControlPlane.Tree

/-! ## The configuration -/

namespace Pool

def settingNames : List String :=
  ["max_connections", "min_connections", "acquire_timeout_secs", "idle_timeout_secs",
    "max_lifetime_secs"]

def assign (name : String) (t : Tree) (pool : Pool) : Except Fault Pool := do
  match name with
  | "max_connections" => return { pool with maxConnections := ← Decode.unsigned 32 t }
  | "min_connections" => return { pool with minConnections := ← Decode.unsigned 32 t }
  | "acquire_timeout_secs" => return { pool with acquireTimeout := ← Decode.unsigned 64 t }
  | "idle_timeout_secs" => return { pool with idleTimeout := ← Decode.unsigned 64 t }
  | "max_lifetime_secs" => return { pool with maxLifetime := ← Decode.unsigned 64 t }
  | _ => Decode.fail .unknownField

/-- The pool that a tree describes. -/
def ofTree (t : Tree) : Except Fault Pool := Decode.settings settingNames assign .default t

end Pool

namespace Configuration

def assignDatabase (name : String) (t : Tree) (c : Configuration) :
    Except Fault Configuration := do
  match name with
  | "url" => return { c with databaseUrl := ← Decode.text t }
  | "pool" => return { c with pool := ← Pool.ofTree t }
  | _ => Decode.fail .unknownField

def assignIdentities (name : String) (t : Tree) (c : Configuration) :
    Except Fault Configuration := do
  match name with
  | "default_controller_access" =>
    return { c with store := { c.store with defaultAccess := ← Decode.access t } }
  | _ => Decode.fail .unknownField

/-- A configuration, and the URL of the database that is to replace its own. -/
abbrev Draft := Configuration × Option String

def assign (name : String) (t : Tree) (draft : Draft) : Except Fault Draft := do
  let (c, url) := draft
  match name with
  | "database" => return (← Decode.settings ["url", "pool"] assignDatabase c t, url)
  | "identities" =>
    return (← Decode.settings ["default_controller_access"] assignIdentities c t, url)
  | "iteration_batch_size" =>
    return ({ c with store := { c.store with batchSize := ← Decode.unsigned 64 t } }, url)
  | "enable_otel_export" => return ({ c with exportsTraces := ← Decode.flag t }, url)
  | "database_url" => return (c, ← Decode.optional Decode.text t)
  | _ => Decode.fail .unknownField

def settingNames : List String :=
  ["database", "identities", "iteration_batch_size", "enable_otel_export", "database_url"]

/-- The configuration that a tree describes. -/
def ofTree (t : Tree) : Except Fault Draft := Decode.settings settingNames assign (.default, none) t

end Configuration
end ControlPlane
