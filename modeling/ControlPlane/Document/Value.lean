/-
How simple values are written in documents.
-/
import ControlPlane.Entity.Settings
import ControlPlane.Json.Decode
import ControlPlane.Time.Reader

namespace ControlPlane
namespace Json

/-- `null` for no value. -/
def ofOption {α : Type} (f : α → Json) : Option α → Json
  | none => .null
  | some a => f a

def ofList {α : Type} (f : α → Json) (items : List α) : Json := .array (items.map f)

def ofTimestamp (t : Timestamp) : Json := .string t.render

def ofUuid (u : Uuid) : Json := .string u.render

def ofConfig (config : Config) : Json := .record config.entries

namespace Decode

def timestamp (doc : Json) : Option Timestamp := (text doc).bind Timestamp.read?

def uuid (doc : Json) : Option Uuid := (text doc).bind Uuid.read?

def access : Decoder Access := enumeration Access.named?

def life : Decoder Life := enumeration Life.named?

def config (doc : Json) : Option Config := (freeForm doc).map Dictionary.ofList

def texts : Decoder (List String) := list text

end Decode
end Json
end ControlPlane
