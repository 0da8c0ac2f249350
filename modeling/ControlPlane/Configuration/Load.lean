/-
Loading the configuration.

The variables count more than the file. What both leave out keeps its default.
-/
import ControlPlane.Configuration.Decode
import ControlPlane.Configuration.Variable
import ControlPlane.Yaml.Reader

namespace ControlPlane

/-- Why there is no configuration. -/
inductive LoadError
  | fault (fault : Fault)
  | mistake (mistake : Mistake)
  deriving DecidableEq, Repr, Inhabited

def LoadError.message : LoadError → String
  | fault f => f.message
  | mistake m => m.message

namespace Configuration

/-- The tree in the text of a file, which has to be a table; a file without a value is an empty
one. -/
def fileTree (text : String) : Except Fault Tree :=
  match Yaml.read? text with
  | some none => .ok (.table [])
  | some (some (.table members)) => .ok (.table members)
  | _ => Tree.Decode.fail .unreadable

/-- The configuration from a file, if there is one, and the variables. -/
def load (file : Option String) (environment : List (String × String)) :
    Except LoadError Configuration := do
  let base ← (file.elim (.ok (.table [])) fileTree).mapError .fault
  let (c, url) ← (ofTree (base.overlay (Variable.tree environment))).mapError .fault
  let c := { c with databaseUrl := url.getD c.databaseUrl }
  match c.mistake? with
  | some m => throw (.mistake m)
  | none => return c

end Configuration
end ControlPlane
