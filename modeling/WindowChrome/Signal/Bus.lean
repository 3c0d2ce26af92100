import WindowChrome.Signal.Basic

/-!
# The signal bus

While a signal is being delivered the listeners are off the bus.  They may
emit, connect and flush meanwhile, and come back in front of those connected
since.
-/

namespace WindowChrome

namespace Bus

/-- What a listener may do with the bus itself. -/
inductive Call where
  | flush
  | drain
  | pending
  deriving DecidableEq, Repr

inductive Answer where
  | flushed (count : Nat)
  | drained (signals : List Signal)
  | waiting (count : Nat)
  deriving DecidableEq, Repr

/-- What a listener does on hearing a signal: it emits, then connects, then
calls, and goes on as `next`. -/
structure Reaction (ι : Type) where
  next : ι
  emits : List Signal := []
  connects : List ι := []
  call : Option Call := none

/-- What happened to a listener. -/
inductive Note (ι : Type) where
  | heard (listener : ι) (signal : Signal)
  | answered (listener : ι) (answer : Answer)

/-- What listeners do on hearing a signal, after all that was noted before. -/
abbrev Reactions (ι : Type) := List (Note ι) → ι → Signal → Reaction ι

end Bus

structure Bus (ι : Type) where
  queue : List Signal := []
  listeners : List ι := []
  notes : List (Bus.Note ι) := []

namespace Bus

variable {ι : Type}

def connect (bus : Bus ι) (listener : ι) : Bus ι :=
  { bus with listeners := bus.listeners ++ [listener] }

def emit (bus : Bus ι) (signal : Signal) : Bus ι :=
  { bus with queue := bus.queue ++ [signal] }

def pending (bus : Bus ι) : Nat := bus.queue.length

def drain (bus : Bus ι) : List Signal × Bus ι :=
  (bus.queue, { bus with queue := [] })

def note (bus : Bus ι) (note : Note ι) : Bus ι :=
  { bus with notes := bus.notes ++ [note] }

/-- Does what a listener calls for, given what flushing does. -/
def serve (flush : Bus ι → Option (Nat × Bus ι)) (bus : Bus ι) :
    Call → Option (Answer × Bus ι)
  | .flush => (flush bus).map fun (count, bus) => (.flushed count, bus)
  | .drain => some (.drained bus.drain.1, bus.drain.2)
  | .pending => some (.waiting bus.pending, bus)

def hear (flush : Bus ι → Option (Nat × Bus ι)) (react : Reactions ι)
    (signal : Signal) (listener : ι) (bus : Bus ι) :
    Option (ι × Bus ι) := do
  let reaction := react bus.notes listener signal
  let bus := bus.note (.heard listener signal)
  let bus := { bus with
    queue := bus.queue ++ reaction.emits
    listeners := bus.listeners ++ reaction.connects }
  match reaction.call with
  | none => return (reaction.next, bus)
  | some call =>
      let (answer, bus) ← bus.serve flush call
      return (reaction.next, bus.note (.answered reaction.next answer))

/-- Lets the listeners of a list hear a signal one after the other, and gives
them as they go on. -/
def deliver (flush : Bus ι → Option (Nat × Bus ι)) (react : Reactions ι)
    (signal : Signal) : List ι → Bus ι → Option (List ι × Bus ι)
  | [], bus => some ([], bus)
  | listener :: rest, bus => do
      let (next, bus) ← hear flush react signal listener bus
      let (others, bus) ← deliver flush react signal rest bus
      return (next :: others, bus)

/-- Delivers signals until the queue is empty, and counts them.  At most
`limit` signals can be delivered, not counting those of nested flushes. -/
def flush (react : Reactions ι) : Nat → Bus ι → Option (Nat × Bus ι)
  | 0, bus => if bus.queue.isEmpty then some (0, bus) else none
  | limit + 1, bus =>
      match bus.queue with
      | [] => some (0, bus)
      | signal :: rest => do
          let (kept, bus) ← deliver (flush react limit) react signal
            bus.listeners { bus with queue := rest, listeners := [] }
          let (count, bus) ← flush react limit
            { bus with listeners := kept ++ bus.listeners }
          return (count + 1, bus)

end Bus

end WindowChrome
