import WindowChrome.Geometry
import WindowChrome.Shadow.Bitmap
import WindowChrome.Shadow.Mask
import WindowChrome.Shadow.Shape

/-!
# Drawing shadows and corner masks

A shadow is drawn around a square with rounded corners, which is softened and
then cleared out again so that only the halo remains.
-/

namespace WindowChrome

/-- A shadow: its pixels, how far they reach beyond the window on each side,
and the part of them that is stretched. -/
structure Shadow where
  bitmap : Bitmap
  padding : Margins
  inner : Rect
  deriving DecidableEq, Repr

namespace Shadow

def innerSide : Nat := 100

/-- Corners are laid out for at least this radius. -/
def leastRadius : Nat := 12

def passes : Nat := 3

/-- A square with its top-left corner at `(origin, origin)` whose corners are
rounded. -/
structure RoundedSquare where
  origin : Float32
  side : Float32
  topLeft : Float32
  topRight : Float32
  bottomLeft : Float32
  bottomRight : Float32

/-- Whether a point is within `radius` of a corner's center, if it lies in the
box that the corner rounds. -/
@[inline] def clearOfCorner (inBox : Bool) (dx dy radius : Float32) : Bool :=
  !inBox || decide (dx * dx + dy * dy ≤ radius * radius)

def RoundedSquare.contains (square : RoundedSquare) (x y : Float32) : Bool :=
  let x := x - square.origin
  let y := y - square.origin
  let s := square.side
  if x < 0.0 || y < 0.0 || s ≤ x || s ≤ y then false
  else
    let tl := square.topLeft
    let tr := square.topRight
    let bl := square.bottomLeft
    let br := square.bottomRight
    clearOfCorner (x < tl && y < tl) (x - tl) (y - tl) tl &&
    clearOfCorner (s - tr < x && y < tr) (x - (s - tr)) (y - tr) tr &&
    clearOfCorner (x < bl && s - bl < y) (x - bl) (y - (s - bl)) bl &&
    clearOfCorner (s - br < x && s - br < y) (x - (s - br)) (y - (s - br)) br

def cornerRoom (shape : Shape) : Nat :=
  max leastRadius (min shape.radii.largest CornerRadii.greatest).toInt.toNat

def squareSide (shape : Shape) : Nat := 2 * cornerRoom shape + innerSide

def drawingSide (shape : Shape) : Nat :=
  squareSide shape + 2 * shape.border.toNat

def roundedSquare (shape : Shape) : RoundedSquare where
  origin := Float32.ofNat shape.border.toNat
  side := Float32.ofNat (squareSide shape)
  topLeft := Float32.ofInt shape.radii.topLeft.toInt
  topRight := Float32.ofInt shape.radii.topRight.toInt
  bottomLeft := Float32.ofInt shape.radii.bottomLeft.toInt
  bottomRight := Float32.ofInt shape.radii.bottomRight.toInt

/-- A number brought into the unit interval.  A NaN stays one. -/
def clampUnit (value : Float32) : Float32 :=
  if value < 0.0 then 0.0 else if 1.0 < value then 1.0 else value

/-- The darkness of a shape in single precision.  A negative one, or one that
is not a number, is zero. -/
def opacity (shape : Shape) : Float32 :=
  let darkness := Float.ofBits shape.darkness
  if 0.0 < darkness then darkness.toFloat32 else 0.0

def halo (shape : Shape) : Except Fault (Array Float32) := do
  let side := drawingSide shape
  let border := shape.border.toNat
  let square := roundedSquare shape
  let coverage := Mask.ofFigure side square.contains
  let softened ←
    if border = 0 then pure coverage
    else Mask.soften (max (border / passes) 1) side passes coverage
  let opacity := opacity shape
  return softened.zipWith
    (fun alpha covered => clampUnit (alpha * (1.0 - covered) * opacity)) coverage

def innerRect (shape : Shape) : Rect :=
  let corner := shape.border + cornerRoom shape
  ⟨corner, corner, innerSide, innerSide⟩

def draw (shape : Shape) : Except Fault Shadow := do
  let mask ← halo shape
  let bitmap ← Bitmap.ofMask mask (drawingSide shape) shape.color
  return {
    bitmap
    padding := .uniform shape.border
    inner := innerRect shape }

/-- The shadow of a shape.  A shape in range can be drawn without a fault, so
nothing else is ever looked at. -/
def ofShape (shape : Shape) : Shadow :=
  match draw shape with
  | .ok shadow => shadow
  | .error _ => { bitmap := .blank 0 0, padding := .zero, inner := .zero }

end Shadow

namespace Corner

def radiusFor (radius : Int) : Int := max radius 1

def draw (radius : Int) : Except Fault Bitmap :=
  let side := (radiusFor radius).toNat
  let r := Float32.ofNat side
  let mask := Mask.ofFigure side fun x y =>
    let dx := x - r
    let dy := y - r
    decide (r ≤ x) || decide (r ≤ y) || decide (dx * dx + dy * dy ≤ r * r)
  Bitmap.ofMask mask side .white

end Corner

end WindowChrome
