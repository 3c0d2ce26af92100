import WindowChrome.Button.Kind
import WindowChrome.Session

/-! # What happens to a decoration, and what it answers -/

namespace WindowChrome

inductive WindowEvent where
  | resized (width height : Int)
  | maximized (on : Bool)
  | activated (on : Bool)
  | retitled (caption : String)
  | enabled (capabilities : Capabilities)
  | pointerMoved (pointer : Option Point)
  | pointerPressed (point : Point)
  | pointerReleased (point : Point)
  deriving DecidableEq, Repr

inductive Decoration.Event where
  | window (event : WindowEvent)
  | theme (id : Int)
  | font (font : Font)
  | layout (left right : List Button.Kind)
  deriving DecidableEq, Repr

structure Update where
  geometry : Bool := false
  shadow : Bool := false
  repaint : Bool := false
  action : Bool := false
  deriving DecidableEq, Repr

namespace Update

def nothing : Update := {}

def bits (update : Update) : Nat :=
  update.geometry.toNat + 2 * update.shadow.toNat +
    4 * update.repaint.toNat + 8 * update.action.toNat

/-- The update with the given bits.  Bits without a meaning are left out. -/
def ofBits (bits : Nat) : Update where
  geometry := bits.testBit 0
  shadow := bits.testBit 1
  repaint := bits.testBit 2
  action := bits.testBit 3

end Update

end WindowChrome
