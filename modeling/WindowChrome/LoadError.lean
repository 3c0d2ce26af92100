/-! # Errors of loading a backend -/

namespace WindowChrome

inductive LoadError where
  | unknown (name : String)
  | failed (name reason : String)
  | switchedOff
  /-- The backend hung in an earlier load and is flagged for it. -/
  | hung (name : String)
  deriving DecidableEq, Repr

def LoadError.message : LoadError → String
  | .unknown name => s!"no decoration plugin named {name}"
  | .failed name reason =>
      s!"failed to load decoration plugin {name}: {reason}"
  | .switchedOff => "decorations are disabled"
  | .hung name =>
      s!"decoration plugin {name} hung during initialization and is marked unsafe"

end WindowChrome
