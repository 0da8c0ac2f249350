/-
What the store does with the links between regions and the controllers that serve them.
-/
import ControlPlane.Store.Addressing

namespace ControlPlane
namespace Links

open Script

/-- Link a region with a controller, or change the priority of their link. -/
def merge (region controller priority : Int) : Script Merge :=
  insertOrChange (⟨⟨region, controller⟩, priority⟩ : Entry .link) (region, controller, priority)
    (fun p row => row.origin = ⟨p.1, p.2.1⟩ && row.settings ≠ p.2.2)
    (fun p _ => p.2.2)

def assign (region : RegionKey) (controller : ControllerKey) (priority : Int) : Script Merge := do
  let region ← Regions.referredId region
  let controller ← Controllers.referredId controller
  merge region controller priority

def remove (region : RegionKey) (controller : ControllerKey) : Script Unit := do
  let region ← Regions.referredId region
  let controller ← Controllers.referredId controller
  let found ← delete (region, controller) fun p (row : Row .link) => row.origin = ⟨p.1, p.2⟩
  unless found do fail .noRow

end Links
end ControlPlane
