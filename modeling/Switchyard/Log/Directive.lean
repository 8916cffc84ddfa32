/-
  Switchyard.Log.Directive
  ────────────────────────
  Which log levels a server asks for when its environment says nothing else.
-/
import Switchyard.Config.Basic

namespace Switchyard

/-- The level of the server's own events and of those of its HTTP layer. -/
def ObservabilityConfig.directive (c : ObservabilityConfig) (debug : Bool) : String :=
  let level := if debug then "debug" else c.logLevel
  s!"dispatch_server={level},tower_http={level}"

end Switchyard
