import WindowChrome.Button.Kind
import WindowChrome.Metrics
import WindowChrome.Session

/-! # Signals -/

namespace WindowChrome

inductive Mode where
  | server
  | none
  deriving DecidableEq, Repr

inductive Signal where
  /-- A backend was loaded and what it declares is in effect. -/
  | declared
  | leftLayout (kinds : List Button.Kind)
  | rightLayout (kinds : List Button.Kind)
  | borderSize (size : BorderSize)
  | font (font : Font)
  | closeOnDoubleClick (on : Bool)
  /-- The preferences were computed again. -/
  | reconfigured
  | theme (name : Option String)
  | mode (mode : Mode)
  | shadow (window : WindowId)
  | repaint (window : WindowId)
  | clicked (window : WindowId) (button : Button.Kind)
  deriving DecidableEq, Repr

end WindowChrome
