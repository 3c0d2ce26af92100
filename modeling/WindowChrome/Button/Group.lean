import WindowChrome.Button.Kind
import WindowChrome.Color

/-! # Buttons of one side of a title bar -/

namespace WindowChrome

structure Button where
  kind : Button.Kind
  /-- Where the button is drawn, relative to the decoration. -/
  rect : Rect := .zero
  hovered : Bool := false
  pressed : Bool := false
  deriving DecidableEq, Repr

namespace Button

def idle (kind : Kind) : Button := { kind }

inductive Side where
  | left
  | right
  deriving DecidableEq, Repr

structure Group where
  side : Side
  configured : List Kind
  buttons : List Button
  deriving DecidableEq, Repr

namespace Group

def kinds (group : Group) : List Kind :=
  group.buttons.map (·.kind)

def visibleKinds (group : Group) (capabilities : Capabilities) : List Kind :=
  group.configured.filter (·.isVisible capabilities)

/-- Brings the visible buttons up to date with the capabilities, and says
whether they changed. -/
def refresh (group : Group) (capabilities : Capabilities) : Bool × Group :=
  let visible := group.visibleKinds capabilities
  if visible = group.kinds then (false, group)
  else (true, { group with buttons := visible.map idle })

def ofConfigured (side : Side) (configured : List Kind)
    (capabilities : Capabilities) : Group :=
  (refresh { side, configured, buttons := [] } capabilities).2

/-- The position of the first button at or after `start` under a point. -/
def positionFrom (point : Point) :
    Nat → List Button → Except Fault (Option Nat)
  | _, [] => .ok none
  | start, button :: rest => do
      if ← button.rect.contains point then
        return some start
      positionFrom point (start + 1) rest

/-- The position of the first button under a point.  Buttons after it are not
looked at. -/
def buttonAt (group : Group) (point : Point) : Except Fault (Option Nat) :=
  positionFrom point 0 group.buttons

end Group

structure Colors where
  fill : Color
  foreground : Color
  deriving DecidableEq, Repr

def Kind.pressedFill : Kind → Color
  | .close => .ofRgb 205 0 0
  | _ => .ofRgb 0 0 205

def Kind.hoveredFill : Kind → Color
  | .close => .ofRgb 255 0 0
  | _ => .ofRgb 0 0 255

/-- The colors of a button on a frame: a button that is pressed or hovered is
drawn in the frame color on a background of its own, and pressing outweighs
hovering. -/
def colors (button : Button) (frame font : Color) : Colors :=
  if button.pressed then ⟨button.kind.pressedFill, frame⟩
  else if button.hovered then ⟨button.kind.hoveredFill, frame⟩
  else ⟨frame, font⟩

end Button

end WindowChrome
