/-
What the store does with regions.
-/
import ControlPlane.Store.Addressing

namespace ControlPlane
namespace Regions

open Script

def withId (id : Int) : Script Region :=
  queryOne id fun id c => (c.rowWithId? .region id).bind c.regionOfRow?

/-- A region that has just been written. -/
def readBack (id : Int) : Script Region := decoded Region.isReadable (withId id)

/-- Insert a region. A missing cloud and a region that exists already are reported as such,
whatever the operation is about. -/
def insertUnder (e : Entry .region) : Script Int := do
  let _ ← Clouds.referredId e.origin.cloud
  let row ← about (.ofRegion e.origin) (insert e)
  return row.id

def add (e : Entry .region) : Script Region := transaction do
  let id ← insertUnder e
  readBack id

def get (key : RegionKey) : Script Region := queryOne key fun key c => c.region? key

def overwrite (key : RegionKey) (settings : Region.Settings) : Script Region := transaction do
  match ← update (key, settings) (fun p (row : Row .region) => row.origin = p.1)
      (fun p _ => p.2) with
  | some row => readBack row.id
  | none => fail .noRow

def remove (key : RegionKey) : Script Unit := do
  let found ← delete key fun key (row : Row .region) => row.origin = key
  unless found do fail .noRow

/-- The first region of that name that was created on any cloud of a provider. -/
def findAtProvider (provider region : String) : Script Region :=
  queryOne (provider, region) fun p c => c.regionAtProvider? p.1 p.2

end Regions
end ControlPlane
