/-!
# Colors

A color is one 32-bit word: red in the top byte, then green, blue and alpha.
-/

namespace WindowChrome

structure Color where
  bits : UInt32
  deriving DecidableEq, Repr

namespace Color

def ofRgba (red green blue alpha : UInt8) : Color :=
  ⟨red.toUInt32 <<< 24 ||| green.toUInt32 <<< 16 ||| blue.toUInt32 <<< 8 |||
    alpha.toUInt32⟩

def ofRgb (red green blue : UInt8) : Color := ofRgba red green blue 255

def black : Color := ofRgb 0 0 0

def white : Color := ofRgb 255 255 255

def red (color : Color) : UInt8 := (color.bits >>> 24).toUInt8

def green (color : Color) : UInt8 := (color.bits >>> 16).toUInt8

def blue (color : Color) : UInt8 := (color.bits >>> 8).toUInt8

def alpha (color : Color) : UInt8 := color.bits.toUInt8

/-- A component as a proportion of the full intensity, in single precision. -/
def intensity (component : UInt8) : Float32 := component.toFloat32 / 255.0

/-- The text of a color in a color scheme: the three components in decimal,
parted by commas.  Alpha is left out. -/
def text (color : Color) : String :=
  s!"{color.red.toNat},{color.green.toNat},{color.blue.toNat}"

end Color

end WindowChrome
