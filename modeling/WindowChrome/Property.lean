import WindowChrome.Geometry
import WindowChrome.Keyed

/-! # Properties of client windows -/

namespace WindowChrome

inductive Property where
  | motifHints
  | cornerRadii
  /-- Set on the windows that are given a frame. -/
  | decorated
  deriving DecidableEq, Repr

namespace Property

def all : List Property := [motifHints, cornerRadii, decorated]

def atom : Property → String
  | motifHints => "_MOTIF_WM_HINTS"
  | cornerRadii => "_UNITY_GTK_BORDER_RADIUS"
  | decorated => "_KWIN_UKUI_DECORAION"

def ofAtom? (name : String) : Option Property :=
  all.find? fun property => property.atom == name

end Property

structure MotifHints where
  flags : UInt32
  functions : UInt32
  decorations : UInt32
  inputMode : Int32
  status : UInt32
  deriving DecidableEq, Repr

namespace MotifHints

/-- The flag that makes `decorations` valid. -/
def decorationsValid : UInt32 := 2

/-- The value of `decorations` that asks for a border and nothing else. -/
def borderAlone : UInt32 := 2

/-- The first three words are needed; a missing fourth or fifth is zero. -/
def ofWords? : List UInt32 → Option MotifHints
  | flags :: functions :: decorations :: rest =>
      some {
        flags, functions, decorations
        inputMode := (rest[0]?.getD 0).toInt32
        status := rest[1]?.getD 0 }
  | _ => none

def toWords (hints : MotifHints) : List UInt32 :=
  [hints.flags, hints.functions, hints.decorations, hints.inputMode.toUInt32,
    hints.status]

/-- The client draws its own title bar and only wants a border. -/
def wantsBorderAlone (hints : MotifHints) : Bool :=
  hints.flags &&& decorationsValid != 0 && hints.decorations == borderAlone

end MotifHints

structure CornerRadii where
  topLeft : Int32
  topRight : Int32
  bottomLeft : Int32
  bottomRight : Int32
  deriving DecidableEq, Repr

namespace CornerRadii

def greatest : Int32 := 128

def uniform (radius : Int32) : CornerRadii := ⟨radius, radius, radius, radius⟩

def ofWords? : List UInt32 → Option CornerRadii
  | [topLeft, topRight, bottomLeft, bottomRight] =>
      some ⟨topLeft.toInt32, topRight.toInt32, bottomLeft.toInt32,
        bottomRight.toInt32⟩
  | _ => none

def toWords (radii : CornerRadii) : List UInt32 :=
  [radii.topLeft.toUInt32, radii.topRight.toUInt32, radii.bottomLeft.toUInt32,
    radii.bottomRight.toUInt32]

def map (f : Int32 → Int32) (radii : CornerRadii) : CornerRadii :=
  ⟨f radii.topLeft, f radii.topRight, f radii.bottomLeft, f radii.bottomRight⟩

/-- Puts `fallback` in place of every radius that is not positive or larger
than the greatest. -/
def orEach (radii : CornerRadii) (fallback : Int32) : CornerRadii :=
  radii.map fun radius =>
    if 1 ≤ radius ∧ radius ≤ greatest then radius else fallback

def largest (radii : CornerRadii) : Int32 :=
  max (max (max radii.topLeft radii.topRight) radii.bottomLeft)
    radii.bottomRight

end CornerRadii

abbrev PropertyTable := Keyed (WindowId × Property) (List UInt32)

namespace PropertyTable

def get (table : PropertyTable) (window : WindowId) (property : Property) :
    Option (List UInt32) :=
  table.find? (window, property)

def set (table : PropertyTable) (window : WindowId) (property : Property)
    (words : List UInt32) : PropertyTable :=
  table.insert (window, property) words

def forget (table : PropertyTable) (window : WindowId) : PropertyTable :=
  table.eraseWhere fun key => key.1 == window

def motifHints? (table : PropertyTable) (window : WindowId) :
    Option MotifHints :=
  (table.get window .motifHints).bind MotifHints.ofWords?

def cornerRadii? (table : PropertyTable) (window : WindowId) :
    Option CornerRadii :=
  (table.get window .cornerRadii).bind CornerRadii.ofWords?

end PropertyTable

end WindowChrome
