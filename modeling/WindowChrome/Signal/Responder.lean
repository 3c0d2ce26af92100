import WindowChrome.Signal.Bus

/-! # Responders -/

namespace WindowChrome

inductive Responder where
  | mk (name : String) (wants : Signal → Bool) (times : Nat)
      (emits : List Signal) (connects : List Responder)
      (call : Option Bus.Call)
  deriving Inhabited

namespace Responder

def name : Responder → String
  | mk name _ _ _ _ _ => name

def react (responder : Responder) (signal : Signal) : Bus.Reaction Responder :=
  match responder with
  | mk name wants (times + 1) emits connects call =>
      if wants signal then
        { next := mk name wants times emits connects call
          emits, connects, call }
      else { next := responder }
  | _ => { next := responder }

mutual

/-- The number of signals that can come of a responder at most. -/
def weight : Responder → Nat
  | mk _ _ times emits connects _ => times * (emits.length + weightAll connects)

def weightAll : List Responder → Nat
  | [] => 0
  | responder :: rest => responder.weight + weightAll rest

end

def busWeight (bus : Bus Responder) : Nat :=
  bus.queue.length + weightAll bus.listeners

def flush (bus : Bus Responder) : Nat × Bus Responder :=
  (bus.flush (fun _ => react) (busWeight bus)).getD (0, bus)

end Responder

end WindowChrome
