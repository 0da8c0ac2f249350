/-
Granting access to clouds, models and credentials.

An object and an identity have at most one grant between them. Taking access away deletes it.
-/
import ControlPlane.Store.Identities

namespace ControlPlane
namespace Grants

open Script

/-- Grant an identity access to an object, or change the access of the grant that it has. The
identity is created if need be. -/
def merge (on : Grantable) (object : Int) (identity : String) (access : Access) : Script Merge := do
  let _ ← Identities.ensure identity
  let entry : Entry (.grant on) := ⟨⟨object, identity⟩, ⟨access, none⟩⟩
  insertOrChange entry (object, identity, access)
    (fun p row => row.origin = ⟨p.1, p.2.1⟩ && row.settings.access ≠ p.2.2)
    (fun p settings => { settings with access := p.2.2 })

/-- Take away the access of an identity, if it has any. -/
def revoke (on : Grantable) (object : Int) (identity : String) : Script Unit := do
  let _ ← delete (object, identity) fun p (row : Row (.grant on)) => row.origin = ⟨p.1, p.2⟩

def assign (on : Grantable) (object : Int) (identity : String) : Option Access → Script Unit
  | some access => do let _ ← merge on object identity access
  | none => revoke on object identity

/-- Merge the grants that a snapshot reports, in their order. -/
def mergeReports (on : Grantable) (object : Int) : List GrantReport → Script (List Merge) :=
  each fun report => merge on object (IdentityName.sanitise report.identityName) report.access

end Grants
end ControlPlane
