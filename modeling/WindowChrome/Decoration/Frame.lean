import WindowChrome.Button.Pointer
import WindowChrome.Decoration.Event
import WindowChrome.Metrics
import WindowChrome.Palette
import WindowChrome.Shadow.Memo

/-!
# Frames

If the client's motif hints ask for a border alone, a frame only adds a margin
for resizing and a shadow.  Otherwise it has borders, a title bar and buttons.
-/

namespace WindowChrome

structure Look where
  dpi : UInt32 := Session.standardDpi
  themeId : Int := 0
  font : Font := .standard
  theme : Option String := none
  left : List Button.Kind
  right : List Button.Kind
  borderSize : BorderSize := .normal
  deriving DecidableEq, Repr

structure Commons where
  properties : PropertyTable := .empty
  shadows : ShadowMemo := {}
  deriving DecidableEq, Repr

structure Frame where
  /-- The window as it was last heard of. -/
  window : Window
  borderAlone : Bool
  themeId : Int
  theme : Option String
  font : Font
  palette : Palette
  metrics : Metrics
  borders : Margins
  resizeBorders : Margins
  titleBar : Rect
  left : Button.Group
  right : Button.Group
  action : Option Button.Kind
  /-- The client's own corners, as far as they make sense. -/
  clientRadii : CornerRadii
  shadow : Shadow.Drawn
  deriving DecidableEq, Repr

namespace Frame

/-- The margin for resizing.  It is the same at every resolution. -/
def resizeMargin : Int := 10

def chromeRadii : CornerRadii := ⟨6, 6, 3, 3⟩

/-- The radius of a client's corner that is not given or makes no sense. -/
def standardRadius : Int32 := 6

def haloWidth : Int := 30

/-- The darkness of the shadow by focus: 1.0 with it and 0.6 without. -/
def darkness (active : Bool) : UInt64 :=
  if active then 0x3ff0000000000000 else 0x3fe3333333333333

def shapeOf (borderAlone active : Bool) (clientRadii : CornerRadii) : Shape :=
  .clamped .black (if borderAlone then clientRadii else chromeRadii)
    (darkness active) haloWidth

def shape (frame : Frame) : Shape := frame.shadow.subject

def fontColor (frame : Frame) : Color :=
  frame.palette.font frame.window.active

def buttonColors? (frame : Frame) (side : Button.Side) (index : Nat) :
    Option Button.Colors :=
  let group := match side with
    | .left => frame.left
    | .right => frame.right
  group.buttons[index]?.map fun button =>
    button.colors frame.palette.frame frame.fontColor

def width (frame : Frame) : Except Fault Int := do
  let sides ← frame.borders.horizontal
  Coord.add frame.window.width sides

/-- The borders of a frame.  A maximized one keeps only its top. -/
def bordersOf (borderAlone maximized : Bool) (metrics : Metrics) : Margins :=
  if borderAlone then .zero
  else if maximized then ⟨0, metrics.borders.top, 0, 0⟩
  else metrics.borders

def resizeBordersOf (borderAlone maximized : Bool) : Margins :=
  if !borderAlone && maximized then .zero else .uniform resizeMargin

def placeRow (place : Nat → Except Fault Rect) :
    Nat → List Button → Except Fault (List Button)
  | _, [] => .ok []
  | index, button :: rest => do
      let rect ← place index
      let placed ← placeRow place (index + 1) rest
      return { button with rect } :: placed

/-- A square button in a row that starts at `start`, where each button takes
`step`. -/
def placeAt (start step top side : Int) (index : Nat) : Except Fault Rect := do
  let offset ← Coord.mul index step
  let x ← Coord.add start offset
  return ⟨x, top, side, side⟩

def inset (metrics : Metrics) : Except Fault Int :=
  Coord.add metrics.buttonMargin metrics.spacing

def placeLeft (metrics : Metrics) (inset : Int) (buttons : List Button) :
    Except Fault (List Button) :=
  placeRow (fun index => do
      let step ← Coord.add metrics.leftButtonWidth metrics.spacing
      placeAt inset step inset metrics.leftButtonWidth index)
    0 buttons

/-- The room the right buttons take, with the spacing after each. -/
def rightRoom (metrics : Metrics) (count : Nat) : Except Fault Int := do
  let step ← Coord.add metrics.buttonWidth metrics.spacing
  Coord.mul count step

/-- The right buttons in their places, the last one ending at the right edge
but for the spacing. -/
def placeRight (metrics : Metrics) (start : Int) (buttons : List Button) :
    Except Fault (List Button) :=
  placeRow (fun index => do
      let step ← Coord.add metrics.buttonWidth metrics.spacing
      placeAt start step metrics.buttonMargin metrics.buttonWidth index)
    0 buttons

/-- The title bar between the two groups of buttons.  It is empty where they
leave no room for it. -/
def titleBarOf (metrics : Metrics) (inset width height : Int)
    (leftCount rightCount : Nat) : Except Fault Rect := do
  let insets ← Coord.mul inset 2
  let leftRoom ← Coord.mul leftCount metrics.leftButtonWidth
  let x ← Coord.add insets leftRoom
  let room ← Coord.sub width insets
  let room ← Coord.sub room leftRoom
  let room ← Coord.sub room (← rightRoom metrics rightCount)
  return ⟨x, 0, max room 0, height⟩

def layOut (frame : Frame) : Except Fault Frame :=
  if frame.borderAlone then .ok frame
  else do
    let metrics := frame.metrics
    let inset ← inset metrics
    let width ← frame.width
    let left ← placeLeft metrics inset frame.left.buttons
    let room ← rightRoom metrics frame.right.buttons.length
    let start ← Coord.sub width room
    let right ← placeRight metrics start frame.right.buttons
    let titleBar ← titleBarOf metrics inset width frame.borders.top
      frame.left.buttons.length frame.right.buttons.length
    return { frame with
      titleBar
      left := { frame.left with buttons := left }
      right := { frame.right with buttons := right } }

/-- The frame of a window.  With `sized` the side and bottom borders follow
the border size of the look; without, they are as wide as the metrics say.  A
window that gets a title bar is marked as decorated. -/
def fit (sized : Bool) (look : Look) (window : Window) (commons : Commons) :
    Except Fault (Frame × Commons) := do
  let borderAlone := (commons.properties.motifHints? window.id).any
    (·.wantsBorderAlone)
  let clientRadii := ((commons.properties.cornerRadii? window.id).getD
    (.uniform 0)).orEach standardRadius
  let metrics := Metrics.ofDpi look.dpi
  let metrics := if sized then metrics.withBorders look.borderSize else metrics
  let properties :=
    if borderAlone then commons.properties
    else commons.properties.set window.id .decorated [1]
  let group (side : Button.Side) (configured : List Button.Kind) :=
    Button.Group.ofConfigured side (if borderAlone then [] else configured)
      window.capabilities
  let (shadow, shadows) := commons.shadows.get
    (shapeOf borderAlone window.active clientRadii)
  let frame ← layOut {
    window
    borderAlone
    themeId := look.themeId
    theme := look.theme
    font := look.font
    palette := .ofTheme look.themeId
    metrics
    borders := bordersOf borderAlone window.maximized metrics
    resizeBorders := resizeBordersOf borderAlone window.maximized
    titleBar := .zero
    left := group .left look.left
    right := group .right look.right
    action := none
    clientRadii
    shadow }
  return (frame, { properties, shadows })

def renewShadow (frame : Frame) (shadows : ShadowMemo) :
    Update × Frame × ShadowMemo :=
  let (shadow, shadows) := shadows.get
    (shapeOf frame.borderAlone frame.window.active frame.clientRadii)
  ({ shadow := shadow.number != frame.shadow.number },
    { frame with shadow }, shadows)

def relayOut (frame : Frame) : Except Fault (Update × Frame) :=
  if frame.borderAlone then .ok (.nothing, frame)
  else do
    let frame ← frame.layOut
    return ({ geometry := true, repaint := true }, frame)

def hover (frame : Frame) (pointer : Option Point) :
    Except Fault (Update × Frame) := do
  let (leftChanged, left) ← frame.left.hover pointer
  let (rightChanged, right) ← frame.right.hover pointer
  return ({ repaint := leftChanged || rightChanged }, { frame with left, right })

def press (frame : Frame) (point : Point) : Except Fault (Update × Frame) := do
  match ← frame.left.press? point with
  | some left => return ({ repaint := true }, { frame with left })
  | none =>
      match ← frame.right.press? point with
      | some right => return ({ repaint := true }, { frame with right })
      | none => return (.nothing, frame)

def release (frame : Frame) (point : Point) :
    Except Fault (Update × Frame) := do
  let (leftTouched, leftClicked, left) ← frame.left.release point
  let (rightTouched, rightClicked, right) ← frame.right.release point
  let clicked := rightClicked.or leftClicked
  return ({ repaint := leftTouched || rightTouched, action := clicked.isSome },
    { frame with left, right, action := clicked.or frame.action })

def enable (frame : Frame) (capabilities : Capabilities) :
    Except Fault (Update × Frame) :=
  let (leftChanged, left) := frame.left.refresh capabilities
  let (rightChanged, right) := frame.right.refresh capabilities
  let frame := { frame with
    window := { frame.window with capabilities }, left, right }
  if leftChanged || rightChanged then frame.relayOut
  else .ok (.nothing, frame)

def maximize (frame : Frame) (on : Bool) : Except Fault (Update × Frame) :=
  if frame.window.maximized = on then .ok (.nothing, frame)
  else do
    let (update, frame) ← relayOut { frame with
      window := { frame.window with maximized := on }
      borders := bordersOf frame.borderAlone on frame.metrics
      resizeBorders := resizeBordersOf frame.borderAlone on }
    return ({ update with geometry := true }, frame)

/-- Takes in what happened to the window.  Only a change of focus can ask for
another shadow. -/
def handleWindow (frame : Frame) (shadows : ShadowMemo) :
    WindowEvent → Except Fault (Update × Frame × ShadowMemo)
  | .resized width height => do
      let (update, frame) ← relayOut { frame with
        window := { frame.window with width, height } }
      return (update, frame, shadows)
  | .maximized on => do
      let (update, frame) ← frame.maximize on
      return (update, frame, shadows)
  | .activated on =>
      let (update, frame, shadows) := renewShadow
        { frame with window := { frame.window with active := on } } shadows
      .ok ({ update with repaint := true }, frame, shadows)
  | .retitled caption =>
      .ok ({ repaint := !frame.borderAlone },
        { frame with window := { frame.window with caption } }, shadows)
  | .enabled capabilities => do
      let (update, frame) ← frame.enable capabilities
      return (update, frame, shadows)
  | .pointerMoved pointer => do
      let (update, frame) ← frame.hover pointer
      return (update, frame, shadows)
  | .pointerPressed point => do
      let (update, frame) ← frame.press point
      return (update, frame, shadows)
  | .pointerReleased point => do
      let (update, frame) ← frame.release point
      return (update, frame, shadows)

def handle (frame : Frame) (shadows : ShadowMemo) :
    Decoration.Event → Except Fault (Update × Frame × ShadowMemo)
  | .window event => frame.handleWindow shadows event
  | .theme id =>
      let (update, frame, shadows) := renewShadow
        { frame with themeId := id, palette := .ofTheme id } shadows
      .ok ({ update with repaint := true }, frame, shadows)
  | .font font => .ok ({ repaint := true }, { frame with font }, shadows)
  | .layout left right =>
      if frame.borderAlone then .ok (.nothing, frame, shadows)
      else do
        let capabilities := frame.window.capabilities
        let (update, frame) ← relayOut { frame with
          left := .ofConfigured .left left capabilities
          right := .ofConfigured .right right capabilities }
        return (update, frame, shadows)

def takeAction (frame : Frame) : Option Button.Kind × Frame :=
  (frame.action, { frame with action := none })

end Frame

end WindowChrome
