/-
What the store does with controllers.
-/
import ControlPlane.Request
import ControlPlane.Store.Links

namespace ControlPlane
namespace Controllers

open Script

def withId (id : Int) : Script Controller :=
  queryOne id fun id c => (c.rowWithId? .controller id).bind c.controllerOfRow?

/-- A controller that has just been written. -/
def readBack (id : Int) : Script Controller := decoded Controller.isReadable (withId id)

/-- Create a controller with its links. The region that hosts it and the regions that it serves
have to be there. -/
def add (draft : Controller.Draft) : Script Controller := transaction do
  let _ ← Regions.referredId draft.origin.hosting
  let row ← insert draft.entry
  let link (p : RegionPriority) : Script Merge := do
    let region ← Regions.referredId p.region
    Links.merge region row.id p.priority
  let _ ← each link draft.priorities
  readBack row.id

def get (key : ControllerKey) : Script Controller := queryOne key fun key c => c.controller? key

def overwrite (key : ControllerKey) (settings : Controller.Settings) : Script Controller :=
  transaction do
    let id ← idOf key
    let _ ← update (id, settings) (fun p (row : Row .controller) => row.id = p.1) (fun p _ => p.2)
    readBack id

/-- Delete a controller with its links, unless it still has models. -/
def remove (key : ControllerKey) : Script Unit := do
  let id ← idOf key
  let _ ← delete id fun id (row : Row .controller) => row.id = id

end Controllers
end ControlPlane
