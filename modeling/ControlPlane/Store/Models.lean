/-
What the store does with models.

Owners and the subjects of grants are in their safe form here.
-/
import ControlPlane.Store.Addressing
import ControlPlane.Store.Grants

namespace ControlPlane
namespace Models

open Script

def withId (id : Int) : Script Model :=
  queryOne id fun id c => (c.rowWithId? .model id).bind c.modelOfRow?

/-- Create a model, and its owner if need be. -/
def add (e : Entry .model) : Script Model := transaction do
  let _ ← Identities.ensure e.origin.owner
  let row ← insert e
  withId row.id

def get (key : ModelKey) : Script Model := queryOne key fun key c => c.model? key

def overwrite (key : ModelKey) (settings : Model.Settings) : Script Model := transaction do
  let id ← idOf key
  let _ ← update (id, settings) (fun p (row : Row .model) => row.id = p.1) (fun p _ => p.2)
  withId id

def remove (key : ModelKey) : Script Unit := do
  let id ← idOf key
  let _ ← delete id fun id (row : Row .model) => row.id = id

/-- The models with any of the identifiers. -/
def withUuids (uuids : List Uuid) : Script (List Model) :=
  query uuids fun uuids c => c.modelsWhere fun row => row.settings.uuid.any uuids.contains

def usingCredential (credential : Int) : Script (List Model) :=
  query credential fun credential c =>
    c.modelsWhere fun row => row.settings.credential = credential

def assignGrant (key : ModelKey) (identity : String) (access : Option Access) : Script Unit :=
  transaction do
    let id ← idOf key
    Grants.assign .model id identity access

/-- Record when an identity last connected to a model, in the grant that it has to hold. -/
def recordConnection (key : ModelKey) (identity : String) (time : Timestamp) : Script Unit := do
  let id ← idOf key
  match ← update (id, identity, time)
      (fun p (row : Row (.grant .model)) => row.origin = ⟨p.1, p.2.1⟩)
      (fun p settings => { settings with lastConnection := some p.2.2 }) with
  | some _ => return
  | none => fail .noRow

end Models
end ControlPlane
