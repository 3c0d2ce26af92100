import WindowChrome.Color
import WindowChrome.Fault

/-!
# Pixel buffers

A bitmap holds premultiplied pixels row by row, each one word with alpha in the
top byte.  Positions are unsigned 32-bit numbers.
-/

namespace WindowChrome

structure Bitmap where
  width : Nat
  height : Nat
  pixels : Array UInt32
  deriving DecidableEq, Repr

namespace Bitmap

def blank (width height : Nat) : Bitmap where
  width
  height
  pixels := Array.replicate (width * height) 0

def position (bitmap : Bitmap) (x y : Nat) : Except Fault Nat := do
  let row ← Index.mul y bitmap.width
  Index.add row x

def pixel (bitmap : Bitmap) (x y : Nat) : Except Fault (Option UInt32) :=
  if bitmap.width ≤ x || bitmap.height ≤ y then .ok none
  else do
    let position ← bitmap.position x y
    return bitmap.pixels[position]?

/-- The alpha of a pixel, and 0 outside the bitmap. -/
def alpha (bitmap : Bitmap) (x y : Nat) : Except Fault UInt8 := do
  let pixel ← bitmap.pixel x y
  return match pixel with
    | some argb => (argb >>> 24).toUInt8
    | none => 0

def set (bitmap : Bitmap) (x y : Nat) (argb : UInt32) : Except Fault Bitmap := do
  let position ← bitmap.position x y
  if position < bitmap.pixels.size then
    return { bitmap with pixels := bitmap.pixels.setIfInBounds position argb }
  else
    throw (.position position bitmap.pixels.size)

/-- The word with its bits moved up by eight places, those that leave it at the
top coming back in at the bottom. -/
def rotated (argb : UInt32) : UInt32 := argb <<< 8 ||| argb >>> 24

def bigEndian (word : UInt32) : List UInt8 :=
  [(word >>> 24).toUInt8, (word >>> 16).toUInt8, (word >>> 8).toUInt8,
    word.toUInt8]

def rgbaBytes (argb : UInt32) : List UInt8 := bigEndian (rotated argb)

def toRgba (bitmap : Bitmap) : Array UInt8 :=
  bitmap.pixels.foldl (fun bytes argb => (rgbaBytes argb).foldl (·.push ·) bytes)
    (Array.emptyWithCapacity (4 * bitmap.pixels.size))

/-- The whole number nearest to a number, the greater one if it lies halfway
between two.  What is below zero or no number at all counts as zero, and what
is too large for a word as the greatest word. -/
def nearest (value : Float32) : UInt32 :=
  UInt32.ofNatClamp (((value * 2.0).toUInt64.toNat + 1) / 2)

/-- The word of a pixel of a color, covered to the degree `coverage`; nothing
if it is not covered at all.  Each channel is rounded to the nearest level. -/
def shade (color : Color) (coverage : Float32) : Option UInt32 :=
  let alpha := coverage * Color.intensity color.alpha
  if alpha ≤ 0.0 then none
  else
    let level (intensity : Float32) : UInt32 :=
      nearest (intensity * alpha * 255.0)
    some <|
      level 1.0 <<< 24 |||
      level (Color.intensity color.red) <<< 16 |||
      level (Color.intensity color.green) <<< 8 |||
      level (Color.intensity color.blue)

/-- The square bitmap of a color under a mask of coverages given row by row. -/
def ofMask (mask : Array Float32) (side : Nat) (color : Color) :
    Except Fault Bitmap :=
  mask.zipIdx.foldlM (fun bitmap (coverage, index) =>
      match shade color coverage with
      | none => .ok bitmap
      | some argb => bitmap.set (index % side) (index / side) argb)
    (blank side side)

end Bitmap

end WindowChrome
