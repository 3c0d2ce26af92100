import WindowChrome.Config.Options
import WindowChrome.Palette
import WindowChrome.Signal.Basic

/-! # Preferences -/

namespace WindowChrome

structure Preferences where
  left : List Button.Kind := Button.standardLeft
  right : List Button.Kind := Button.standardRight
  borderSize : BorderSize := .normal
  borderSizeAuto : Bool := true
  closeOnDoubleClick : Bool := false
  font : Font := .standard
  applicationMenu : Bool := false
  translucent : Bool := true
  manyDesktops : Bool := false
  scale : Int := 1
  themeId : Int := 0
  /-- The font pushed by the session. -/
  pushedFont : Option Font := none
  palette : Palette := .ofTheme 0
  deriving DecidableEq, Repr

namespace Preferences

def fontSize : Int := 15

/-- Screens of at least this height are scaled by two. -/
def tallScreen : Int := 2000

def scaleFor (session : Session) : Int :=
  if tallScreen ≤ session.screenHeight then 2 else 1

def layoutOf (word : Option String) (standard : List Button.Kind) :
    List Button.Kind :=
  (word.map Button.decode).getD standard

/-- The border size: the recommended one or the configured one, and normal if
that one is not given. -/
def borderSizeFrom (store : Config.Store) (recommended : Option String) :
    BorderSize :=
  ((if store.borderSizeAuto then recommended
    else store.borderSizeText?).map BorderSize.ofText).getD .normal

/-- The title font: the pushed one, or the session's family in the scaled
size. -/
def fontFrom (pushed : Option Font) (session : Session) : Font :=
  pushed.getD ⟨session.titleFont.family, fontSize * scaleFor session⟩

/-- The signals for the values in which two preferences differ, in the order
in which they are computed. -/
def differences (before after : Preferences) : List Signal :=
  (if after.left = before.left then [] else [.leftLayout after.left]) ++
  (if after.right = before.right then [] else [.rightLayout after.right]) ++
  (if after.closeOnDoubleClick = before.closeOnDoubleClick then []
    else [.closeOnDoubleClick after.closeOnDoubleClick]) ++
  (if after.borderSize = before.borderSize then []
    else [.borderSize after.borderSize]) ++
  (if after.font = before.font then [] else [.font after.font])

def computed (preferences : Preferences) (store : Config.Store)
    (recommended : Option String) (workspace : Workspace)
    (session : Session) : Preferences :=
  let left := layoutOf store.leftLayout? Button.standardLeft
  let right := layoutOf store.rightLayout? Button.standardRight
  { preferences with
    left
    right
    borderSize := borderSizeFrom store recommended
    borderSizeAuto := store.borderSizeAuto
    closeOnDoubleClick := store.closeOnDoubleClick
    font := fontFrom preferences.pushedFont session
    applicationMenu := (left ++ right).contains .applicationMenu
    translucent := workspace.compositing
    manyDesktops := decide (1 < workspace.desktops)
    scale := scaleFor session }

def recompute (preferences : Preferences) (store : Config.Store)
    (recommended : Option String) (workspace : Workspace)
    (session : Session) : Preferences × List Signal :=
  let after := preferences.computed store recommended workspace session
  (after, differences preferences after ++ [.reconfigured])

/-- Takes in a font pushed by the session, its size not scaled yet. -/
def pushFont (preferences : Preferences) (family : String) (size : Int) :
    Except Fault (Preferences × List Signal) := do
  let pixelSize ← Coord.mul size preferences.scale
  let font : Font := ⟨family, pixelSize⟩
  let after := { preferences with pushedFont := some font, font }
  return (after, differences preferences after)

def colorEntries (palette : Palette) : List (String × String × Color) :=
  [(Config.viewColorsGroup, "BackgroundNormal", palette.frame),
    (Config.viewColorsGroup, "ForegroundNormal", palette.fontActive),
    (Config.windowColorsGroup, "BackgroundNormal", palette.frame),
    (Config.windowColorsGroup, "ForegroundNormal", palette.fontActive),
    (Config.windowColorsGroup, "ForegroundInactive", palette.fontInactive)]

def exportColors (palette : Palette) (store : Config.Store) : Config.Store :=
  ((colorEntries palette).foldl (fun store (group, key, color) =>
      store.write group key color.text)
    store).synced

def changeTheme (preferences : Preferences) (store : Config.Store) (id : Int) :
    Preferences × Config.Store :=
  let palette := Palette.ofTheme id
  ({ preferences with themeId := id, palette }, exportColors palette store)

inductive Key where
  | left
  | right
  | borderSize
  | borderSizeAuto
  | closeOnDoubleClick
  | font
  | applicationMenu
  | translucent
  | manyDesktops
  | scale
  | themeId
  deriving DecidableEq, Repr

def Key.all : List Key :=
  [left, right, borderSize, borderSizeAuto, closeOnDoubleClick, font,
    applicationMenu, translucent, manyDesktops, scale, themeId]

def Key.name : Key → String
  | left => "buttons_left"
  | right => "buttons_right"
  | borderSize => "border_size"
  | borderSizeAuto => "border_size_auto"
  | closeOnDoubleClick => "close_on_double_click_on_menu"
  | font => "font"
  | applicationMenu => "app_menu_enabled"
  | translucent => "alpha_channel_supported"
  | manyDesktops => "on_all_desktops_available"
  | scale => "scale"
  | themeId => "theme_id"

def Key.ofName? (name : String) : Option Key :=
  Key.all.find? fun key => key.name == name

inductive Value where
  | flag (on : Bool)
  | number (value : Int)
  | border (size : BorderSize)
  | layout (kinds : List Button.Kind)
  | font (font : Font)
  deriving DecidableEq, Repr

def Value.text : Value → String
  | .flag on => if on then "true" else "false"
  | .number value => toString value
  | .border size => size.name
  | .layout kinds => ", ".intercalate (kinds.map Button.Kind.name)
  | .font title => title.text

def get (preferences : Preferences) : Key → Value
  | .left => .layout preferences.left
  | .right => .layout preferences.right
  | .borderSize => .border preferences.borderSize
  | .borderSizeAuto => .flag preferences.borderSizeAuto
  | .closeOnDoubleClick => .flag preferences.closeOnDoubleClick
  | .font => .font preferences.font
  | .applicationMenu => .flag preferences.applicationMenu
  | .translucent => .flag preferences.translucent
  | .manyDesktops => .flag preferences.manyDesktops
  | .scale => .number preferences.scale
  | .themeId => .number preferences.themeId

def find? (preferences : Preferences) (name : String) : Option Value :=
  (Key.ofName? name).map preferences.get

def describe? (preferences : Preferences) (name : String) : Option String :=
  (preferences.find? name).map Value.text

end Preferences

end WindowChrome
