/-
Access levels, as grants carry them and as identities hold them over all controllers.

There is no level for no access: where there is no access, there is no grant.
-/
import ControlPlane.Text.Quoted

namespace ControlPlane

inductive Access
  | login
  | addModel
  | superuser
  | read
  | write
  | admin
  deriving DecidableEq, Repr, Inhabited

namespace Access

/-- The levels, from the lowest to the highest. -/
def all : List Access := [login, addModel, superuser, read, write, admin]

def name : Access → String
  | login => "login"
  | addModel => "add-model"
  | superuser => "superuser"
  | read => "read"
  | write => "write"
  | admin => "admin"

def named? (text : String) : Option Access := all.find? fun level => level.name = text

/-- What is said of a text that names no level. -/
def unknownMessage (text : String) : String := "unknown access level " ++ Text.quoted text

def rank (level : Access) : Nat := all.idxOf level

/-- The lower levels, in their order. -/
def below (level : Access) : List Access := all.filter fun lower => lower.rank < level.rank

theorem named?_name (level : Access) : named? level.name = some level := by
  cases level <;> decide

end Access
end ControlPlane
