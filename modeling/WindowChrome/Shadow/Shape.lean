import WindowChrome.Color
import WindowChrome.Property

/-!
# Shapes of shadows

Darkness is compared and hashed as the 64 bits of a double precision number, so
a NaN is found again.
-/

namespace WindowChrome

structure Shape where
  color : Color
  radii : CornerRadii
  /-- The bits of a double precision number. -/
  darkness : UInt64
  border : Int
  deriving Repr

namespace Shape

def agrees (shape other : Shape) : Bool :=
  shape.color == other.color && shape.radii == other.radii &&
    shape.darkness == other.darkness && shape.border == other.border

theorem agrees_iff {shape other : Shape} :
    shape.agrees other = true ↔ shape = other := by
  cases shape
  cases other
  simp [agrees, and_assoc]

instance : DecidableEq Shape := fun _ _ => decidable_of_iff _ agrees_iff

/-- A number that a hasher is fed. -/
inductive Fed where
  | word (value : UInt32)
  | long (value : UInt64)
  | signed (value : Int32)
  deriving DecidableEq, Repr

def fed (shape : Shape) : List Fed :=
  [.word shape.color.bits,
    .signed shape.radii.topLeft, .signed shape.radii.topRight,
    .signed shape.radii.bottomLeft, .signed shape.radii.bottomRight,
    .long shape.darkness, .signed (.ofInt shape.border)]

def widestBorder : Int := 256

def clampRadius (radius : Int32) : Int32 :=
  if radius < 1 then 1
  else if CornerRadii.greatest < radius then CornerRadii.greatest
  else radius

/-- The shape with the given features, radii in `1..128` and the border in
`0..256`. -/
def clamped (color : Color) (radii : CornerRadii) (darkness : UInt64)
    (border : Int) : Shape where
  color
  radii := radii.map clampRadius
  darkness
  border := max 0 (min border widestBorder)

end Shape

end WindowChrome
