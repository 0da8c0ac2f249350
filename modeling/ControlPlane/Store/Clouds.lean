/-
What the store does with clouds.
-/
import ControlPlane.Store.Grants
import ControlPlane.Store.Regions

namespace ControlPlane
namespace Clouds

open Script

def get (name : String) : Script Cloud := queryOne name fun name c => c.cloud? name

/-- A cloud that has just been written. -/
def readBack (name : String) : Script Cloud := decoded Cloud.isReadable (get name)

def list : Script (List Cloud) := query () fun _ c => c.allClouds

/-- Create a cloud with its first regions, all of them or nothing. -/
def add (draft : Cloud.Draft) : Script Cloud := transaction do
  let _ ← insert draft.entry
  let _ ← each (fun region => Regions.insertUnder (region.entry draft.name)) draft.regions
  readBack draft.name

def overwrite (name : String) (settings : Cloud.Settings) : Script Cloud := transaction do
  match ← update (name, settings) (fun p (row : Row .cloud) => row.origin = p.1)
      (fun p _ => p.2) with
  | some _ => readBack name
  | none => fail .noRow

/-- Delete a cloud with its regions, their links and its grants, unless something else refers to
the cloud or to one of its regions. -/
def remove (name : String) : Script Unit := do
  let found ← delete name fun name (row : Row .cloud) => row.origin = name
  unless found do fail .noRow

/-- Reconcile a cloud with a snapshot. What is stored of the cloud and of its regions stays; what
is missing is added; grants get the access that the snapshot reports. Nothing is removed. -/
def reconcile (snapshot : Cloud.Snapshot) : Script (Merged Cloud) := transaction do
  let draft := snapshot.cloud
  let cloud ← insertNew draft.entry
  let id ← idOf draft.name
  let regions ← each (fun region => insertNew (region.entry draft.name)) draft.regions
  let grants ← Grants.mergeReports .cloud id snapshot.grants
  let entity ← readBack draft.name
  return ⟨entity, Tally.ofList (cloud :: regions ++ grants)⟩

def assignGrant (name identity : String) (access : Option Access) : Script Unit := transaction do
  let id ← idOf name
  Grants.assign .cloud id identity access

end Clouds
end ControlPlane
