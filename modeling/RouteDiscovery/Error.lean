import RouteDiscovery.Config
import RouteDiscovery.Link
import RouteDiscovery.Route
import RouteDiscovery.Wire.Fault

/-!
The errors of the whole library, each with the chain of causes below it.
-/
namespace RouteDiscovery

inductive Error where
  | codec (fault : Wire.Fault)
  | route (error : RouteError)
  | link (error : LinkError)
  | config (reason : String)
  | io (reason : String)
  deriving DecidableEq

namespace Error

def ofConfigFault (fault : ConfigFault) : Error :=
  config fault.message

def message : Error → String
  | codec fault => s!"codec error: {fault.message}"
  | route error => s!"routing error: {error.message}"
  | link error => s!"transport error: {error.message}"
  | config reason => s!"configuration error: {reason}"
  | io reason => s!"I/O error: {reason}"

/-- What the errors below this one say, the nearest first. -/
def causes : Error → List String
  | codec fault => [fault.message]
  | route error => [error.message]
  | link error => error.message :: error.reason?.toList
  | config _ => []
  | io reason => [reason]

end Error
end RouteDiscovery
