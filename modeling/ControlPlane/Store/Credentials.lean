/-
What the store does with credentials.

Owners and the subjects of grants are in their safe form here.
-/
import ControlPlane.Store.Addressing
import ControlPlane.Store.Grants

namespace ControlPlane
namespace Credentials

open Script

def withId (id : Int) : Script Credential :=
  queryOne id fun id c => (c.rowWithId? .credential id).bind c.credentialOfRow?

/-- What a credential needs before it is created: its cloud has to be there, and its owner is
created if need be. -/
def prepare (key : CredentialKey) : Script Unit := do
  let _ ← Clouds.referredId key.cloud
  let _ ← Identities.ensure key.owner

def add (e : Entry .credential) : Script Credential := transaction do
  prepare e.origin
  let row ← insert e
  withId row.id

def get (key : CredentialKey) : Script Credential := queryOne key fun key c => c.credential? key

def overwrite (key : CredentialKey) (settings : Credential.Settings) : Script Credential :=
  transaction do
    match ← update (key, settings) (fun p (row : Row .credential) => row.origin = p.1)
        (fun p _ => p.2) with
    | some row => withId row.id
    | none => fail .noRow

/-- Delete a credential with its grants, unless a model still uses it. -/
def remove (key : CredentialKey) : Script Unit := do
  let found ← delete key fun key (row : Row .credential) => row.origin = key
  unless found do fail .noRow

/-- Reconcile a credential with a snapshot. What is stored of the credential stays; grants get the
access that the snapshot reports. -/
def reconcile (e : Entry .credential) (grants : List GrantReport) : Script (Merged Credential) :=
  transaction do
    prepare e.origin
    let credential ← insertNew e
    let id ← idOf e.origin
    let grants ← Grants.mergeReports .credential id grants
    let entity ← withId id
    return ⟨entity, Tally.ofList (credential :: grants)⟩

def assignGrant (key : CredentialKey) (identity : String) (access : Option Access) : Script Unit :=
  transaction do
    let id ← idOf key
    Grants.assign .credential id identity access

end Credentials
end ControlPlane
