/-
The life cycle of a model, as its controller reports it.
-/

namespace ControlPlane

inductive Life
  | alive
  | dying
  | dead
  | migratingInternal
  | migratingAway
  deriving DecidableEq, Repr, Inhabited

namespace Life

def all : List Life := [alive, dying, dead, migratingInternal, migratingAway]

def name : Life → String
  | alive => "alive"
  | dying => "dying"
  | dead => "dead"
  | migratingInternal => "migrating-internal"
  | migratingAway => "migrating-away"

def named? (text : String) : Option Life := all.find? fun life => life.name = text

theorem named?_name (life : Life) : named? life.name = some life := by
  cases life <;> decide

end Life
end ControlPlane
