/-
What the store does with identities.

Names are in their safe form here. An identity that something names for the first time is created
on the way.
-/
import ControlPlane.Entity.Lookup
import ControlPlane.Identity.Name
import ControlPlane.Request
import ControlPlane.Storage.Script

namespace ControlPlane
namespace Identities

open Script

/-- What an identity has that is created because something names it. -/
def firstEntry (name : String) (access : Access) : Entry .identity :=
  ⟨name, ⟨IdentityName.displayName name, access, none, false⟩⟩

/-- Create the identity unless there is one of that name. -/
def ensure (name : String) : Script Merge := do
  insertNew (firstEntry name (← read).defaultAccess)

def get (name : String) : Script Identity := queryOne name fun name c => c.identity? name

/-- The identity of that name, which is created if there is none. -/
def getOrCreate (name : String) : Script Identity := transaction do
  let _ ← ensure name
  get name

/-- The given display name, or the one that comes with the name. -/
def displayNameOr (name given : String) : String :=
  if given.isEmpty then IdentityName.displayName name else given

def add (draft : Identity.Draft) : Script Identity := do
  let settings : Identity.Settings :=
    { displayName := displayNameOr draft.name (draft.displayName.getD "")
      access := draft.access.getD (← read).defaultAccess
      lastLogin := none
      isDisabled := draft.isDisabled }
  let row ← insert (⟨draft.name, settings⟩ : Entry .identity)
  return ⟨row⟩

/-- Overwrite the settings of an identity. An empty display name stands for the default. -/
def overwrite (name : String) (settings : Identity.Settings) : Script Identity := do
  let settings := { settings with displayName := displayNameOr name settings.displayName }
  match ← update (name, settings) (fun p (row : Row .identity) => row.origin = p.1)
      (fun p _ => p.2) with
  | some row => return ⟨row⟩
  | none => fail .noRow

def remove (name : String) : Script Unit := do
  let found ← delete name fun name (row : Row .identity) => row.origin = name
  unless found do fail .noRow

def clouds (name : String) : Script (List (Cloud × Grant.Settings)) :=
  query name fun name c => c.cloudsGranted name

def models (name : String) : Script (List (Model × Grant.Settings)) :=
  query name fun name c => c.modelsGranted name

def credentials (name cloud : String) : Script (List Credential) :=
  query (name, cloud) fun p c => c.credentialsOwned p.1 p.2

end Identities
end ControlPlane
