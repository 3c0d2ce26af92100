import WindowChrome.Support

/-!
# The decorator

The decorator owns the host of the live backend, the preferences, the memos of
drawings and the decorations.  What they report of an event becomes signals,
which are delivered when the event has been dealt with.
-/

namespace WindowChrome

inductive Event where
  | window (id : WindowId) (event : WindowEvent)
  | theme (id : Int)
  /-- The title font changed; its size is not scaled yet. -/
  | font (family : String) (size : Int)
  | dpi (dpi : UInt32)
  /-- What the live backend declares is to be read again. -/
  | declared
  | reconfigured
  deriving DecidableEq, Repr

def Event.window? : Event → Option WindowId
  | .window id _ => some id
  | _ => none

structure Decorator where
  hub : Hub
  host : Host
  preferences : Preferences := {}
  session : Session := {}
  commons : Commons := {}
  corners : CornerMemo := {}
  decorations : Keyed WindowId Decoration := .empty

namespace Decorator

def new (catalog : Catalog) (store : Config.Store)
    (properties : PropertyTable) : Decorator where
  hub := { store }
  host := { catalog }
  commons := { properties }

def look (decorator : Decorator) : Look :=
  decorator.host.look decorator.preferences.left decorator.preferences.right
    decorator.preferences.borderSize

/-- Makes a decoration for a window in place of the one it has, and says
whether the window is decorated then. -/
def decorate (decorator : Decorator) (window : Window) :
    Except Fault (Bool × Decorator) := do
  let (decoration, commons) ←
    decorator.host.create decorator.look window decorator.commons
  let decorator := { decorator with commons }
  match decoration with
  | none =>
      return (false, { decorator with
        decorations := decorator.decorations.erase window.id })
  | some decoration =>
      let signals :=
        (if decoration.shadow?.isSome then [.shadow window.id] else []) ++
          [.repaint window.id]
      return (true, { decorator with
        hub := decorator.hub.emitAll signals
        decorations := decorator.decorations.insert window.id decoration })

def decorateAll (decorator : Decorator) :
    List Window → Except Fault Decorator
  | [] => .ok decorator
  | window :: rest => do
      let (_, decorator) ← decorator.decorate window
      decorateAll decorator rest

def undecorate (decorator : Decorator) (id : WindowId) :
    Option Decoration × Decorator :=
  (decorator.decorations.find? id,
    { decorator with decorations := decorator.decorations.erase id })

/-- The signals for an update of a decoration, and the decoration after its
clicked button has been taken. -/
def report (update : Update) (decoration : Decoration) :
    List Signal × Decoration :=
  let id := decoration.window
  let changes :=
    (if update.shadow then [Signal.shadow id] else []) ++
      (if update.geometry || update.repaint then [Signal.repaint id] else [])
  if update.action then
    let (button, decoration) := decoration.takeAction
    (changes ++ button.toList.map (Signal.clicked id), decoration)
  else (changes, decoration)

def notify (decoration : Decoration) (shadows : ShadowMemo)
    (event : Decoration.Event) :
    Except Fault (List Signal × Decoration × ShadowMemo) := do
  let (update, decoration, shadows) ← decoration.handle shadows event
  let (signals, decoration) := report update decoration
  return (signals, decoration, shadows)

def notifyEach (event : Decoration.Event) (shadows : ShadowMemo) :
    List (WindowId × Decoration) →
      Except Fault (List Signal × List (WindowId × Decoration) × ShadowMemo)
  | [] => .ok ([], [], shadows)
  | (id, decoration) :: rest => do
      let (signals, decoration, shadows) ← notify decoration shadows event
      let (later, others, shadows) ← notifyEach event shadows rest
      return (signals ++ later, (id, decoration) :: others, shadows)

/-- Tells the decoration of a window of an event.  A window that has none is
passed over. -/
def dispatch (decorator : Decorator) (id : WindowId)
    (event : Decoration.Event) : Except Fault Decorator := do
  match decorator.decorations.find? id with
  | none => return decorator
  | some decoration =>
      let (signals, decoration, shadows) ←
        notify decoration decorator.commons.shadows event
      return { decorator with
        hub := decorator.hub.emitAll signals
        commons := { decorator.commons with shadows }
        decorations := decorator.decorations.insert id decoration }

def broadcast (decorator : Decorator) (event : Decoration.Event) :
    Except Fault Decorator := do
  let (signals, entries, shadows) ←
    notifyEach event decorator.commons.shadows decorator.decorations.entries
  return { decorator with
    hub := decorator.hub.emitAll signals
    commons := { decorator.commons with shadows }
    decorations := ⟨entries⟩ }

def broadcastLayout (decorator : Decorator) : Except Fault Decorator :=
  decorator.broadcast
    (.layout decorator.preferences.left decorator.preferences.right)

/-- Computes the preferences again, and says whether the buttons changed. -/
def recompute (decorator : Decorator) (workspace : Workspace) :
    Bool × Decorator :=
  let before := decorator.preferences
  let (preferences, signals) := before.recompute decorator.hub.store
    decorator.host.recommended? workspace decorator.session
  (before.left != preferences.left || before.right != preferences.right,
    { decorator with
      preferences
      hub := decorator.hub.emitAll signals })

def syncFont (decorator : Decorator) : Decorator :=
  { decorator with
    host := decorator.host.changeFont decorator.preferences.font }

def clearDrawings (decorator : Decorator) : Decorator :=
  { decorator with
    commons := { decorator.commons with
      shadows := decorator.commons.shadows.clear }
    corners := decorator.corners.clear }

/-- What decorations depend on of the host besides what is pushed to them. -/
def backendState (decorator : Decorator) :
    Option String × Option String × Mode :=
  (decorator.host.liveName?, decorator.host.theme, decorator.host.mode)

def applyTheme (decorator : Decorator) (id : Int) : Decorator :=
  let (preferences, store) :=
    decorator.preferences.changeTheme decorator.hub.store id
  { decorator with preferences, hub := { decorator.hub with store } }

def flush (decorator : Decorator) : Nat × Decorator :=
  let (count, hub) := decorator.hub.flush
  (count, { decorator with hub })

def start (decorator : Decorator) (session : Session)
    (workspace : Workspace) : Except Fault Decorator := do
  let (host, hub) := decorator.host.start decorator.hub session
  let decorator := applyTheme { decorator with host, hub } session.themeId
  let (_, decorator) := recompute { decorator with session } workspace
  let decorator ← decorator.syncFont.decorateAll workspace.windows
  return decorator.flush.2

def applyPreferences (decorator : Decorator) (workspace : Workspace)
    (before : BorderSize) (layoutChanged : Bool) : Except Fault Decorator :=
  if before != decorator.preferences.borderSize then
    decorator.decorateAll workspace.windows
  else if layoutChanged then decorator.broadcastLayout
  else .ok decorator

/-- Reads the configuration again.  A backend that cannot be loaded leaves the
one before live. -/
def reconfigure (decorator : Decorator) (workspace : Workspace) :
    Except Fault Decorator :=
  let stateBefore := decorator.backendState
  let sizeBefore := decorator.preferences.borderSize
  let (_, host, hub) := decorator.host.reconfigure decorator.hub workspace
  let (layoutChanged, decorator) := recompute { decorator with host, hub }
    workspace
  if stateBefore != decorator.backendState then
    decorator.clearDrawings.decorateAll workspace.windows
  else decorator.applyPreferences workspace sizeBefore layoutChanged

/-- Deals with an event, short of delivering the signals. -/
def respond (decorator : Decorator) (workspace : Workspace) :
    Event → Except Fault Decorator
  | .window id event => decorator.dispatch id (.window event)
  | .theme id =>
      let decorator := { decorator with host := decorator.host.changeTheme id }
      (decorator.applyTheme id).broadcast (.theme id)
  | .font family size => do
      let (preferences, signals) ←
        decorator.preferences.pushFont family size
      let decorator := syncFont { decorator with
        preferences
        hub := decorator.hub.emitAll signals }
      decorator.broadcast (.font preferences.font)
  | .dpi dpi =>
      let decorator := { decorator with
        host := decorator.host.changeDpi dpi
        session := { decorator.session with screenDpi := some dpi } }
      decorator.clearDrawings.decorateAll workspace.windows
  | .declared =>
      let sizeBefore := decorator.preferences.borderSize
      let (layoutChanged, decorator) := decorator.recompute workspace
      decorator.applyPreferences workspace sizeBefore layoutChanged
  | .reconfigured => decorator.reconfigure workspace

def handle (decorator : Decorator) (workspace : Workspace) (event : Event) :
    Except Fault Decorator := do
  let decorator ← decorator.respond workspace event
  return decorator.flush.2

def corner (decorator : Decorator) (radius : Int) :
    Except Fault (Drawing Corner.draw × Decorator) := do
  let (drawing, corners) ← decorator.corners.corner radius
  return (drawing, { decorator with corners })

def supportReport (decorator : Decorator) : String :=
  Support.report decorator.host decorator.preferences

end Decorator

end WindowChrome
