import WindowChrome.Geometry
import WindowChrome.Text

/-!
# Border sizes and decoration metrics

All lengths are multiples of those at 96 dots per inch.  The multiple is a
whole number.
-/

namespace WindowChrome

inductive BorderSize where
  | none
  | noSides
  | tiny
  | normal
  | large
  | veryLarge
  | huge
  | veryHuge
  | oversized
  deriving DecidableEq, Repr

namespace BorderSize

def all : List BorderSize :=
  [none, noSides, tiny, normal, large, veryLarge, huge, veryHuge, oversized]

def name : BorderSize → String
  | none => "None"
  | noSides => "NoSides"
  | tiny => "Tiny"
  | normal => "Normal"
  | large => "Large"
  | veryLarge => "VeryLarge"
  | huge => "Huge"
  | veryHuge => "VeryHuge"
  | oversized => "Oversized"

def ofName? (name : String) : Option BorderSize :=
  all.find? fun size => size.name == name

/-- The size a text names, blanks around the name not counting.  A text that
names none stands for the normal size. -/
def ofText (text : String) : BorderSize :=
  (ofName? (Text.trim text)).getD normal

def side : BorderSize → Int
  | none | noSides => 0
  | tiny => 1
  | normal => 3
  | large => 4
  | veryLarge => 6
  | huge => 8
  | veryHuge => 10
  | oversized => 14

/-- The width of the bottom border at the base resolution.  Leaving out the
sides keeps a normal bottom border. -/
def bottom : BorderSize → Int
  | noSides => normal.side
  | size => size.side

end BorderSize

structure Metrics where
  scale : Int
  borders : Margins
  buttonWidth : Int
  leftButtonWidth : Int
  buttonMargin : Int
  spacing : Int
  deriving DecidableEq, Repr

namespace Metrics

/-- The multiple of the base lengths at a resolution. -/
def scaleOf (dpi : UInt32) : Int := max (((dpi.toNat + 48) / 96 : Nat) : Int) 1

def ofDpi (dpi : UInt32) : Metrics :=
  let scale := scaleOf dpi
  { scale
    borders := ⟨scale, 38 * scale, scale, scale⟩
    buttonWidth := 30 * scale
    leftButtonWidth := 24 * scale
    buttonMargin := 4 * scale
    spacing := 4 * scale }

def withBorders (metrics : Metrics) (size : BorderSize) : Metrics :=
  { metrics with
    borders := {
      left := size.side * metrics.scale
      top := metrics.borders.top
      right := size.side * metrics.scale
      bottom := size.bottom * metrics.scale } }

end Metrics

end WindowChrome
