import WindowChrome.LoadGuard

/-!
# The owner and the worker of a guard side by side

Nothing but the commands they exchange orders what the two do.  The owner can
only wait for a worker that is going to end.
-/

namespace WindowChrome

structure Race where
  guard : LoadGuard
  hub : Hub
  /-- The acts the owner has still to take. -/
  todo : List Act
  deriving DecidableEq, Repr

namespace Race

def act? (race : Race) : Option Race :=
  match race.todo with
  | [] => none
  | act :: rest =>
      if act = .join && race.guard.worker.any (!·.ended) then none
      else
        let (guard, store) := race.guard.perform race.hub.store act
        some { guard, hub := { race.hub with store }, todo := rest }

def receive? (race : Race) : Option Race := do
  let worker ← race.guard.worker
  let worker ← worker.receive?
  return { race with guard := { race.guard with worker := some worker } }

def timeOut? (race : Race) : Option Race :=
  if race.guard.worker.any (·.canTimeOut) then
    let (guard, hub) := race.guard.timeOut race.hub
    some { race with guard, hub }
  else none

inductive Step (race : Race) : Race → Prop where
  | act {next : Race} (hact : race.act? = some next) : Step race next
  | receive {next : Race} (hreceive : race.receive? = some next) :
      Step race next
  | timeOut {next : Race} (htimeOut : race.timeOut? = some next) :
      Step race next

inductive Steps : Race → Race → Prop where
  | refl (race : Race) : Steps race race
  | tail {first middle last : Race} (hsteps : Steps first middle)
      (hstep : Step middle last) : Steps first last

/-- The race in which the owner of a new guard passes checkpoints one after
the other. -/
def ofCheckpoints (backend : String) (hub : Hub)
    (checkpoints : List Checkpoint) : Race where
  guard := { backend }
  hub
  todo := checkpoints.flatMap Checkpoint.acts

end Race

end WindowChrome
