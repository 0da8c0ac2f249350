/-
The schema of the database and the ledger of its migrations.

This build knows one migration. The ledger says which migrations the database has; one that another
build applied, one that was left half done and one whose text has changed since make the database
unusable for this build. A reset drops everything, the ledger too.
-/
import ControlPlane.Storage.Database
import ControlPlane.StoreError

namespace ControlPlane

/-- The one migration that this build knows. -/
def knownMigration : Int := 20250601000000

/-- A migration that has been applied to the database. -/
structure AppliedMigration where
  version : Int
  isComplete : Bool
  /-- Whether it is the text that was applied. -/
  isIntact : Bool
  deriving DecidableEq, Repr, Inhabited

/-- The migrations of the database, by ascending version. -/
structure Ledger where
  applied : List AppliedMigration
  deriving DecidableEq, Repr, Inhabited

namespace Ledger

def empty : Ledger := ⟨[]⟩

/-- Enter a migration. -/
def enter (ledger : Ledger) (m : AppliedMigration) : Ledger :=
  ⟨go ledger.applied⟩
where
  go : List AppliedMigration → List AppliedMigration
    | [] => [m]
    | a :: rest => if m.version < a.version then m :: a :: rest else a :: go rest

def find? (ledger : Ledger) (version : Int) : Option AppliedMigration :=
  ledger.applied.find? fun m => m.version = version

/-- Why the database cannot be used by this build, if it cannot: of several reasons that which is
listed first, and the lowest version for it. -/
def problem? (ledger : Ledger) : Option Unusable :=
  match ledger.applied.find? fun m => !m.isComplete with
  | some m => some (.partialMigration m.version)
  | none =>
    match ledger.applied.find? fun m => m.version ≠ knownMigration with
    | some m => some (.unknownMigration m.version)
    | none =>
      match ledger.find? knownMigration with
      | some m => if m.isIntact then none else some (.modifiedMigration m.version)
      | none => none

/-- Apply the migration that this build knows, unless the database has it. -/
def migrated (ledger : Ledger) : Ledger :=
  match ledger.find? knownMigration with
  | some _ => ledger
  | none => ledger.enter ⟨knownMigration, true, true⟩

end Ledger

/-- Ways in which something else interferes with the ledger. -/
inductive Tampering
  | unknown
  | modified
  | dirty
  deriving DecidableEq, Repr, Inhabited

/-- Interfere with the ledger entry of a version, and how many entries that changes. -/
def Ledger.tamper (ledger : Ledger) (version : Int) (how : Tampering) : Nat × Ledger :=
  match how, ledger.find? version with
  | .unknown, none => (1, ledger.enter ⟨version, true, false⟩)
  | .unknown, some _ => (0, ledger)
  | _, none => (0, ledger)
  | how, some _ =>
    (1, ⟨ledger.applied.map fun m =>
      if m.version = version then
        { m with isComplete := m.isComplete && how ≠ .dirty, isIntact := false }
      else m⟩)

/-- What there is in the database server. -/
structure Server where
  database : Database
  ledger : Ledger

namespace Server

def empty : Server := ⟨Database.empty, Ledger.empty⟩

instance : Inhabited Server := ⟨empty⟩

/-- Bring the schema up to date. -/
def migrate (server : Server) : Except Unusable Server :=
  match server.ledger.problem? with
  | some why => .error why
  | none => .ok { server with ledger := server.ledger.migrated }

end Server
end ControlPlane
