import WindowChrome.Color

/-! # Theme palettes -/

namespace WindowChrome

structure Palette where
  frame : Color
  fontActive : Color
  fontInactive : Color
  deriving DecidableEq, Repr

namespace Palette

def dark : Palette where
  frame := .ofRgb 31 32 34
  fontActive := .ofRgb 207 207 207
  fontInactive := .ofRgb 105 105 105

def light : Palette where
  frame := .white
  fontActive := .black
  fontInactive := .ofRgb 105 105 105

def ofTheme (id : Int) : Palette := if id = 1 then dark else light

def font (palette : Palette) (active : Bool) : Color :=
  if active then palette.fontActive else palette.fontInactive

end Palette

end WindowChrome
