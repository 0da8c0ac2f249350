/-
Export of traces, as environment variables set it up.
-/
import ControlPlane.Dictionary
import ControlPlane.Text.Blank
import ControlPlane.Text.Search

namespace ControlPlane
namespace Telemetry

/-- Where traces go. -/
structure Target where
  serviceName : String
  endpoint : String
  /-- The headers of each request, by name. -/
  headers : List (String × String)
  deriving DecidableEq, Repr, Inhabited

/-- The header that a pair with an equals sign describes. One without a name is none. -/
def header? (pair : List Char) : Option (String × String) := do
  let (name, value) ← Text.cutFirst? ['='] pair
  let name := Text.trimBlanks name
  if name.isEmpty then none else return (String.ofList name, String.ofList (Text.trimBlanks value))

/-- The headers in pairs between commas, with spaces perhaps written as `%20`. Of two with one name
the later one counts. -/
def readHeaders (text : String) : List (String × String) :=
  orderedEntries <|
    (Text.splitAt ',' (Text.replaceAll "%20".toList [' '] text.toList)).filterMap header?

def Target.ofEnvironment (environment : List (String × String)) : Target where
  serviceName := (environment.lookup "OTEL_SERVICE_NAME").getD "fleetstore"
  endpoint := (environment.lookup "OTEL_EXPORTER_OTLP_ENDPOINT").getD "http://localhost:4318"
  headers := ((environment.lookup "OTEL_EXPORTER_OTLP_HEADERS").map readHeaders).getD []

/-- What is said of a target before traces go there. -/
def Target.announcement (target : Target) : List String :=
  ["[OTLP] Service Name: " ++ target.serviceName, "[OTLP] Endpoint: " ++ target.endpoint,
    "[OTLP] Custom headers, length: " ++ toString target.headers.length]

end Telemetry
end ControlPlane
