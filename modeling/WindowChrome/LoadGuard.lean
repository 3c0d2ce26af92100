import WindowChrome.Hub

/-!
# Guarding loads against hanging

A guard flags its backend before a load and takes the flag back after it.  If
the load takes too long, a worker beside it flags the backend once more and
calls for help.
-/

namespace WindowChrome

/-- The points of a guarded operation that its guard is told of. -/
inductive Checkpoint where
  | beforeInit
  | beforeFrame
  | afterInit
  | afterFrame
  | afterLastFrame
  deriving DecidableEq, Repr

inductive Command where
  | arm
  | disarm
  | quit
  deriving DecidableEq, Repr

inductive Act where
  | flag (on : Bool)
  | sync
  /-- Starts a worker unless there is one. -/
  | start
  | send (command : Command)
  | join
  deriving DecidableEq, Repr

def Checkpoint.acts : Checkpoint → List Act
  | .beforeInit => [.flag true, .sync, .start, .send .arm]
  | .beforeFrame => [.start, .send .arm]
  | .afterInit => [.flag false, .sync, .send .disarm]
  | .afterFrame => [.send .disarm]
  | .afterLastFrame => [.send .quit, .join]

/-- The worker of a guard, with the commands it has not looked at yet. -/
structure Worker where
  armed : Bool := false
  ended : Bool := false
  inbox : List Command := []
  deriving DecidableEq, Repr

namespace Worker

def obey (worker : Worker) : Command → Worker
  | .arm => { worker with armed := true }
  | .disarm => { worker with armed := false }
  | .quit => { worker with ended := true }

def receive? (worker : Worker) : Option Worker :=
  match worker.ended, worker.inbox with
  | false, command :: rest => some (obey { worker with inbox := rest } command)
  | _, _ => none

def settle (worker : Worker) : Worker :=
  worker.inbox.foldl (fun worker command =>
      if worker.ended then worker else worker.obey command)
    { worker with inbox := [] }

/-- A worker gives a load up only while it is armed and has nothing to look
at. -/
def canTimeOut (worker : Worker) : Bool :=
  worker.armed && !worker.ended && worker.inbox.isEmpty

end Worker

structure LoadGuard where
  backend : String
  worker : Option Worker := none
  deriving DecidableEq, Repr

namespace LoadGuard

def writeFlag (guard : LoadGuard) (on : Bool) (store : Config.Store) :
    Config.Store :=
  store.writeEntry Config.compositingGroup (Config.flagKey guard.backend) on

def perform (guard : LoadGuard) (store : Config.Store) :
    Act → LoadGuard × Config.Store
  | .flag on => (guard, guard.writeFlag on store)
  | .sync => (guard, store.synced)
  | .start => ({ guard with worker := some (guard.worker.getD {}) }, store)
  | .send command =>
      ({ guard with worker := guard.worker.map fun worker =>
          { worker with inbox := worker.inbox ++ [command] } }, store)
  | .join => ({ guard with worker := none }, store)

def settled (guard : LoadGuard) : LoadGuard :=
  { guard with worker := guard.worker.map Worker.settle }

def performAll (guard : LoadGuard) (store : Config.Store) :
    List Act → LoadGuard × Config.Store
  | [] => (guard, store)
  | act :: rest =>
      let (guard, store) := guard.perform store act
      performAll guard.settled store rest

def pass (guard : LoadGuard) (checkpoint : Checkpoint) (hub : Hub) :
    LoadGuard × Hub :=
  let (guard, store) := guard.performAll hub.store checkpoint.acts
  (guard, { hub with store })

/-- The worker's time runs out, if it is armed: it flags the backend, calls
for help, and is not armed any more. -/
def timeOut (guard : LoadGuard) (hub : Hub) : LoadGuard × Hub :=
  match guard.worker with
  | some worker =>
      if worker.canTimeOut then
        ({ guard with worker := some { worker with armed := false } },
          { hub with
            store := (guard.writeFlag true hub.store).synced
            frozen := hub.frozen ++ [guard.backend] })
      else (guard, hub)
  | none => (guard, hub)

def isRunning (guard : LoadGuard) : Bool := guard.worker.isSome

def close (guard : LoadGuard) (hub : Hub) : Hub :=
  (guard.pass .afterLastFrame hub).2

end LoadGuard

end WindowChrome
