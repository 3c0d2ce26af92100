import WindowChrome.Config.Entry

/-! # Options of the decoration layer -/

namespace WindowChrome.Config

def decorationGroup : String := "org.kde.kdecoration2"
def compositingGroup : String := "Compositing"
def effectsGroup : String := "Plugins"
def viewColorsGroup : String := "Colors:View"
def windowColorsGroup : String := "Colors:Window"

def leftLayoutKey : String := "ButtonsOnLeft"
def rightLayoutKey : String := "ButtonsOnRight"

/-- The compositing group's key under which a backend is flagged as one that
hangs. -/
def flagKey (backend : String) : String := s!"{backend}IsUnsafe"

def effectKey (effect : String) : String := s!"{effect}Enabled"

namespace Store

def library (store : Store) (default : String) : String :=
  store.entry decorationGroup "library" default

def theme (store : Store) (default : String) : String :=
  store.entry decorationGroup "theme" default

def switchedOff (store : Store) : Bool :=
  store.entry decorationGroup "NoPlugin" false

def tooltips (store : Store) : Bool :=
  store.entry decorationGroup "ShowToolTips" true

def closeOnDoubleClick (store : Store) : Bool :=
  store.entry decorationGroup "CloseOnDoubleClickOnMenu" false

def borderSizeAuto (store : Store) : Bool :=
  store.entry decorationGroup "BorderSizeAuto" true

def borderSizeText? (store : Store) : Option String :=
  store.read decorationGroup "BorderSize"

def leftLayout? (store : Store) : Option String :=
  store.read decorationGroup leftLayoutKey

def rightLayout? (store : Store) : Option String :=
  store.read decorationGroup rightLayoutKey

def compositor (store : Store) : String :=
  store.entry compositingGroup "Backend" "OpenGL"

def isFlagged (store : Store) (backend : String) : Bool :=
  store.entry compositingGroup (flagKey backend) false

def effectEnabled (store : Store) (effect : String) (default : Bool) : Bool :=
  store.entry effectsGroup (effectKey effect) default

end Store

end WindowChrome.Config
