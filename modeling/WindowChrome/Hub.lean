import WindowChrome.Config.Options
import WindowChrome.Signal.Basic

/-! # What the parts of the layer share -/

namespace WindowChrome

/-- A load that was run. -/
structure LoadRun where
  name : String
  builtIn : Bool
  store : Config.Store
  deriving DecidableEq, Repr

structure Hub where
  store : Config.Store := {}
  pending : List Signal := []
  delivered : List Signal := []
  loads : List LoadRun := []
  frozen : List String := []
  redecorate : List WindowId := []
  deriving DecidableEq, Repr

namespace Hub

def emit (hub : Hub) (signal : Signal) : Hub :=
  { hub with pending := hub.pending ++ [signal] }

def emitAll (hub : Hub) (signals : List Signal) : Hub :=
  { hub with pending := hub.pending ++ signals }

theorem emitAll_nil (hub : Hub) : hub.emitAll [] = hub := by
  unfold emitAll
  rw [List.append_nil]

theorem emitAll_append (hub : Hub) (signals others : List Signal) :
    hub.emitAll (signals ++ others) =
      (hub.emitAll signals).emitAll others := by
  unfold emitAll
  rw [List.append_assoc]

/-- Delivers the pending signals in order to a listener that only listens,
and counts them. -/
def flush (hub : Hub) : Nat × Hub :=
  (hub.pending.length,
    { hub with pending := [], delivered := hub.delivered ++ hub.pending })

def drain (hub : Hub) : List Signal × Hub :=
  (hub.pending, { hub with pending := [] })

def redecorateAll (hub : Hub) (workspace : Workspace) : Hub :=
  { hub with redecorate := hub.redecorate ++ workspace.ids }

end Hub

end WindowChrome
