import WindowChrome.Fault

/-! # Points, sizes, rectangles and margins -/

namespace WindowChrome

/-- The identifier the window manager knows a window by. -/
abbrev WindowId := UInt32

structure Point where
  x : Int
  y : Int
  deriving DecidableEq, Repr

namespace Point

def add (a b : Point) : Except Fault Point := do
  let x ← Coord.add a.x b.x
  let y ← Coord.add a.y b.y
  return ⟨x, y⟩

def sub (a b : Point) : Except Fault Point := do
  let x ← Coord.sub a.x b.x
  let y ← Coord.sub a.y b.y
  return ⟨x, y⟩

end Point

structure Size where
  width : Int
  height : Int
  deriving DecidableEq, Repr

namespace Size

def square (side : Int) : Size := ⟨side, side⟩

/-- A size is empty unless both its dimensions are positive. -/
def isEmpty (size : Size) : Bool :=
  size.width ≤ 0 || size.height ≤ 0

def area (size : Size) : Nat :=
  if size.isEmpty then 0 else size.width.toNat * size.height.toNat

end Size

structure Rect where
  x : Int
  y : Int
  width : Int
  height : Int
  deriving DecidableEq, Repr

namespace Rect

def zero : Rect := ⟨0, 0, 0, 0⟩

def size (rect : Rect) : Size := ⟨rect.width, rect.height⟩

/-- One past the rightmost column. -/
def right (rect : Rect) : Except Fault Int := Coord.add rect.x rect.width

def bottom (rect : Rect) : Except Fault Int := Coord.add rect.y rect.height

def isEmpty (rect : Rect) : Bool := rect.size.isEmpty

/-- Whether a point lies in the rectangle.  The four edges are compared in the
order left, right, top, bottom, and the first one the point lies beyond
decides, so an edge after it is not computed. -/
def contains (rect : Rect) (point : Point) : Except Fault Bool := do
  if point.x < rect.x then
    return false
  let right ← rect.right
  if right ≤ point.x then
    return false
  if point.y < rect.y then
    return false
  let bottom ← rect.bottom
  return decide (point.y < bottom)

end Rect

structure Margins where
  left : Int
  top : Int
  right : Int
  bottom : Int
  deriving DecidableEq, Repr

namespace Margins

def uniform (width : Int) : Margins := ⟨width, width, width, width⟩

def zero : Margins := uniform 0

def horizontal (margins : Margins) : Except Fault Int :=
  Coord.add margins.left margins.right

end Margins

end WindowChrome
