import WindowChrome.Decoration.Basic

/-! # Backends -/

namespace WindowChrome

namespace Backend

structure Declaration where
  blur : Bool := false
  borderSize : Option String := none
  themes : Bool := false
  theme : Option String := none
  deriving DecidableEq, Repr

structure Profile where
  name : String
  loaded : Bool
  blur : Bool
  borderSize : Option String
  theme : Option String
  deriving DecidableEq, Repr

def Profile.ofDeclaration (name : String) (declaration : Declaration) :
    Profile where
  name
  loaded := true
  blur := declaration.blur
  borderSize := declaration.borderSize
  theme := if declaration.themes then declaration.theme else none

/-- The guest that a backend brings for a window, if any, and the shapes of the
shadows that it asks for in doing so. -/
abbrev Invitation := Look → Window → Commons → Option Guest × List Shape

inductive Make where
  /-- Frames with border widths of their own. -/
  | plain
  /-- Frames with the configured border size. -/
  | sized
  | guests (invite : Invitation)
  | nothing

def Make.still (update : Update) : Make :=
  .guests fun _ window _ => (some (.still window.id update), [])

end Backend

structure Backend where
  declaration : Backend.Declaration := {}
  make : Backend.Make := .plain
  declined : List WindowId := []

namespace Backend

def create (backend : Backend) (look : Look) (window : Window)
    (commons : Commons) : Except Fault (Option Decoration × Commons) :=
  if backend.declined.contains window.id then .ok (none, commons)
  else
    let framed (sized : Bool) := do
      let (frame, commons) ← Frame.fit sized look window commons
      return (some (.framed frame), commons)
    match backend.make with
    | .plain => framed false
    | .sized => framed true
    | .guests invite =>
        let (guest, shapes) := invite look window commons
        .ok (guest.map fun guest => .foreign { guest with window := window.id },
          { commons with shadows := commons.shadows.askedEach shapes })
    | .nothing => .ok (none, commons)

def plainName : String := "org.ukui.kwin.ukui"

def themedName : String := "org.ukui.kwin.aurorae"

def plain : Backend := {}

def themed : Backend where
  declaration := {
    borderSize := some "Normal"
    themes := true
    theme := some "__aurorae__svg__ukui" }
  make := .sized

end Backend

end WindowChrome
