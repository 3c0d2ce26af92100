import WindowChrome.Backend.Catalog
import WindowChrome.LoadGuard

/-!
# The host of the live backend

At the start the host goes down a chain of names and keeps the first backend
that loads.  Later the live backend gives way only to one that has loaded.
Every load is guarded.
-/

namespace WindowChrome

structure Live where
  profile : Backend.Profile
  backend : Backend

structure Host where
  catalog : Catalog
  live : Option Live := none
  off : Bool := false
  tooltips : Bool := true
  theme : Option String := none
  mode : Mode := .none
  dpi : UInt32 := Session.standardDpi
  themeId : Int := 0
  font : Font := .standard

namespace Host

def defaultBackend : String := Backend.plainName

def fallbackBackend : String := Backend.themedName

def liveProfile? (host : Host) : Option Backend.Profile :=
  host.live.map (·.profile)

def liveName? (host : Host) : Option String :=
  host.liveProfile?.map (·.name)

def recommended? (host : Host) : Option String :=
  host.liveProfile?.bind (·.borderSize)

def blur (host : Host) : Bool := host.liveProfile?.any (·.blur)

def setMode (host : Host) (hub : Hub) (mode : Mode) : Host × Hub :=
  if host.mode = mode then (host, hub)
  else ({ host with mode }, hub.emit (.mode mode))

/-- The theme of a backend: none unless it has a default one, and else the
configured one. -/
def themeFor (store : Config.Store) (profile : Backend.Profile) :
    Option String :=
  profile.theme.map store.theme

/-- Loads a backend under guard.  A name that is not in the catalog, or whose
backend is flagged, is refused before anything is written. -/
def loadGuarded (host : Host) (hub : Hub) (name : String) :
    Except LoadError Backend × Host × Hub :=
  match host.catalog.find? name with
  | none => (.error (.unknown name), host, hub)
  | some item =>
      if hub.store.isFlagged name then (.error (.hung name), host, hub)
      else
        let guard : LoadGuard := { backend := name }
        let (guard, hub) := guard.pass .beforeInit hub
        let hub := { hub with
          loads := hub.loads ++ [⟨name, item.supplier.builtIn, hub.store⟩] }
        let (guard, hub) :=
          if item.supplier.hangs then guard.timeOut hub else (guard, hub)
        let (loaded, catalog) := host.catalog.loadItem name item
        let (guard, hub) := guard.pass .afterInit hub
        let hub := guard.close hub
        (loaded, { host with catalog }, hub)

def refreshTheme (host : Host) (hub : Hub) : Bool × Host × Hub :=
  match host.live with
  | none => (false, host, hub)
  | some live =>
      let theme := themeFor hub.store live.profile
      if theme = host.theme then (false, host, hub)
      else (true, { host with theme }, hub.emit (.theme theme))

def install (host : Host) (hub : Hub) (name : String) (backend : Backend) :
    Host × Hub :=
  let profile := Backend.Profile.ofDeclaration name backend.declaration
  let host := { host with
    theme := themeFor hub.store profile
    live := some { profile, backend } }
  let (host, hub) := host.setMode hub .server
  (host, hub.emit .declared)

/-- Changes to the backend of a name.  If it is live already, only its theme
is read again. -/
def switchTo (host : Host) (hub : Hub) (name : String) :
    Except LoadError Unit × Host × Hub :=
  if host.off then (.error .switchedOff, host, hub)
  else if host.liveName? = some name then
    let (_, host, hub) := host.refreshTheme hub
    (.ok (), host, hub)
  else
    match host.loadGuarded hub name with
    | (.error error, host, hub) => (.error error, host, hub)
    | (.ok backend, host, hub) =>
        let (host, hub) := host.install hub name backend
        (.ok (), host, hub)

/-- The names tried at the start, each once. -/
def chain (configured : String) : List String :=
  configured :: [defaultBackend, fallbackBackend].filter (· != configured)

def switchToFirst (host : Host) (hub : Hub) : List String → Host × Hub
  | [] => (host, hub)
  | name :: rest =>
      match host.switchTo hub name with
      | (.ok (), host, hub) => (host, hub)
      | (.error _, host, hub) => switchToFirst host hub rest

/-- Finds out whether decorations are switched off and, if not, which backend
is to be live. -/
def choose (host : Host) (hub : Hub) : Host × Hub :=
  let host := { host with off := hub.store.switchedOff }
  if host.off then host.setMode hub .none
  else
    let (host, hub) := host.switchToFirst hub
      (chain (hub.store.library defaultBackend))
    if host.live.isNone then host.setMode hub .none else (host, hub)

def start (host : Host) (hub : Hub) (session : Session) : Host × Hub :=
  choose { host with
    dpi := session.dpi
    themeId := session.themeId
    font := session.titleFont
    tooltips := hub.store.tooltips } hub

def switchOff (host : Host) (hub : Hub) : Host × Hub :=
  setMode { host with off := true, live := none, theme := none } hub .none

/-- Reads the configuration again and applies what changed.  All windows of
the workspace are asked to be decorated again if decorations were switched on
or off, another backend is live, or its theme changed. -/
def reconfigure (host : Host) (hub : Hub) (workspace : Workspace) :
    Except LoadError Unit × Host × Hub :=
  let host := { host with tooltips := hub.store.tooltips }
  if hub.store.switchedOff != host.off then
    let (host, hub) :=
      if host.off then host.choose hub else host.switchOff hub
    (.ok (), host, hub.redecorateAll workspace)
  else if host.off then (.ok (), host, hub)
  else
    let configured := hub.store.library defaultBackend
    if host.liveName? = some configured then
      let (changed, host, hub) := host.refreshTheme hub
      (.ok (), host, if changed then hub.redecorateAll workspace else hub)
    else
      match host.switchTo hub configured with
      | (.error error, host, hub) => (.error error, host, hub)
      | (.ok (), host, hub) => (.ok (), host, hub.redecorateAll workspace)

def look (host : Host) (left right : List Button.Kind)
    (borderSize : BorderSize) : Look where
  dpi := host.dpi
  themeId := host.themeId
  font := host.font
  theme := host.theme
  left
  right
  borderSize

/-- The decoration of a window, unless decorations are switched off, no
backend is live, or the backend declines. -/
def create (host : Host) (look : Look) (window : Window) (commons : Commons) :
    Except Fault (Option Decoration × Commons) :=
  if host.off then .ok (none, commons)
  else
    match host.live with
    | none => .ok (none, commons)
    | some live => live.backend.create look window commons

def changeTheme (host : Host) (id : Int) : Host := { host with themeId := id }

def changeFont (host : Host) (font : Font) : Host := { host with font }

/-- Takes in another resolution, which is held to the same least value as the
one at the start. -/
def changeDpi (host : Host) (dpi : UInt32) : Host :=
  { host with dpi := Session.dpi { screenDpi := some dpi } }

end Host

end WindowChrome
