import WindowChrome.Geometry

/-! # Windows and the workspace -/

namespace WindowChrome

/-- What the user may do with a window, as a set of bits.  Bits without a
meaning are kept. -/
structure Capabilities where
  bits : UInt32
  deriving DecidableEq, Repr

namespace Capabilities

def closeable : Capabilities := ⟨1⟩
def minimizeable : Capabilities := ⟨2⟩
def maximizeable : Capabilities := ⟨4⟩
def shadeable : Capabilities := ⟨8⟩
def providesContextHelp : Capabilities := ⟨16⟩
def hasApplicationMenu : Capabilities := ⟨32⟩
def onAllDesktopsAvailable : Capabilities := ⟨64⟩

def contains (capabilities other : Capabilities) : Bool :=
  capabilities.bits &&& other.bits == other.bits

/-- A window can be closed, minimized and maximized unless it says otherwise. -/
def standard : Capabilities := ⟨7⟩

end Capabilities

/-- The attributes of a window that its decoration is derived from.  The width
and height are those of the client, without any decoration. -/
structure Window where
  id : WindowId
  width : Int
  height : Int
  maximized : Bool := false
  active : Bool := false
  caption : String := ""
  capabilities : Capabilities := .standard
  deriving DecidableEq, Repr

structure Workspace where
  /-- The windows in stacking order. -/
  windows : List Window
  desktops : Nat := 1
  compositing : Bool := true
  deriving DecidableEq, Repr

namespace Workspace

def ids (workspace : Workspace) : List WindowId :=
  workspace.windows.map (·.id)

/-- Conditions on a window.  One that is not given holds. -/
structure Query where
  id : Option WindowId := none
  caption : Option String := none
  minWidth : Option Int := none
  capabilities : Option Capabilities := none
  deriving DecidableEq, Repr

def Query.admits (query : Query) (window : Window) : Bool :=
  query.id.all (window.id == ·) &&
  query.caption.all (window.caption == ·) &&
  query.minWidth.all (fun least => decide (least ≤ window.width)) &&
  query.capabilities.all window.capabilities.contains

def find? (workspace : Workspace) (query : Query) : Option Window :=
  workspace.windows.find? query.admits

end Workspace

end WindowChrome
