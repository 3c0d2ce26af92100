import WindowChrome.Window

/-! # Kinds of button and their written form -/

namespace WindowChrome

inductive Button.Kind where
  | menu
  | applicationMenu
  /-- Moves the window between one desktop and all of them. -/
  | onAllDesktops
  | contextHelp
  | minimize
  | maximize
  | close
  | keepAbove
  | keepBelow
  | shade
  deriving DecidableEq, Repr

namespace Button.Kind

def all : List Kind :=
  [menu, applicationMenu, onAllDesktops, contextHelp, minimize, maximize,
    close, keepAbove, keepBelow, shade]

def letter : Kind → Char
  | menu => 'M'
  | applicationMenu => 'N'
  | onAllDesktops => 'S'
  | contextHelp => 'H'
  | minimize => 'I'
  | maximize => 'A'
  | close => 'X'
  | keepAbove => 'F'
  | keepBelow => 'B'
  | shade => 'L'

def ofLetter? (c : Char) : Option Kind :=
  all.find? fun kind => kind.letter == c

def name : Kind → String
  | menu => "Menu"
  | applicationMenu => "ApplicationMenu"
  | onAllDesktops => "OnAllDesktops"
  | contextHelp => "ContextHelp"
  | minimize => "Minimize"
  | maximize => "Maximize"
  | close => "Close"
  | keepAbove => "KeepAbove"
  | keepBelow => "KeepBelow"
  | shade => "Shade"

/-- The capability a button acts on, for those that need one. -/
def requires : Kind → Option Capabilities
  | menu | keepAbove | keepBelow => none
  | applicationMenu => some .hasApplicationMenu
  | onAllDesktops => some .onAllDesktopsAvailable
  | contextHelp => some .providesContextHelp
  | minimize => some .minimizeable
  | maximize => some .maximizeable
  | close => some .closeable
  | shade => some .shadeable

def isVisible (kind : Kind) (capabilities : Capabilities) : Bool :=
  kind.requires.all capabilities.contains

end Button.Kind

namespace Button

def encode (kinds : List Kind) : String :=
  String.ofList (kinds.map Kind.letter)

def decode (word : String) : List Kind :=
  word.toList.filterMap Kind.ofLetter?

def standardLeft : List Kind := [.menu, .onAllDesktops]

def standardRight : List Kind := [.contextHelp, .minimize, .maximize, .close]

end Button

end WindowChrome
