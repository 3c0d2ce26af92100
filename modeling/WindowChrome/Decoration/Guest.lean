import WindowChrome.Decoration.Event
import WindowChrome.Shadow.Memo

/-!
# Guests

A guest is a decoration that somebody else's backend brings along.  It is known
by what it shows and answers after whatever it has gone through, not by a
state.
-/

namespace WindowChrome

namespace Shadow

inductive Resource where
  | drawn (drawing : Drawn)
  | brought (serial : Nat) (shadow : Shadow)

/-- What tells a shadow from any other one. -/
inductive Identity where
  | drawn (number : Nat)
  | brought (serial : Nat)
  deriving DecidableEq, Repr

def Resource.identity : Resource → Identity
  | drawn drawing => .drawn drawing.number
  | brought serial _ => .brought serial

end Shadow

namespace Guest

inductive Occasion where
  | told (event : Decoration.Event) (shadows : ShadowMemo)
  | taken

structure Face where
  borders : Margins := .zero
  resizeBorders : Margins := .zero
  titleBar : Rect := .zero
  shadow? : Option Shadow.Resource := none
  action : Option Button.Kind := none

end Guest

structure Guest where
  window : WindowId
  /-- What will show of the guest after the occasions of a list, the first of
  them first.  What shows of it now is what shows after none. -/
  face : List Guest.Occasion → Guest.Face
  /-- What the guest will answer to an event then, and the shapes of the
  shadows that it will ask the memo for. -/
  answer : List Guest.Occasion → Decoration.Event → ShadowMemo →
    Update × List Shape

namespace Guest

def after (guest : Guest) (occasion : Occasion) : Guest :=
  { guest with
    face := fun later => guest.face (occasion :: later)
    answer := fun later => guest.answer (occasion :: later) }

def handle (guest : Guest) (shadows : ShadowMemo) (event : Decoration.Event) :
    Update × Guest × ShadowMemo :=
  let (update, shapes) := guest.answer [] event shadows
  (update, guest.after (.told event shadows), shadows.askedEach shapes)

def takeAction (guest : Guest) : Option Button.Kind × Guest :=
  ((guest.face []).action, guest.after .taken)

/-- A guest that adds nothing to its window and gives every event the same
answer. -/
def still (window : WindowId) (update : Update) : Guest where
  window
  face _ := {}
  answer _ _ _ := (update, [])

@[simp] theorem after_still (window : WindowId) (update : Update)
    (occasion : Occasion) :
    (still window update).after occasion = still window update := rfl

structure Machine (σ : Type) where
  face : σ → Face
  tell : σ → Decoration.Event → ShadowMemo → σ × Update × List Shape
  take : σ → σ

namespace Machine

variable {σ : Type}

def next (machine : Machine σ) (state : σ) : Occasion → σ
  | .told event shadows => (machine.tell state event shadows).1
  | .taken => machine.take state

def guest (machine : Machine σ) (window : WindowId) (state : σ) : Guest where
  window
  face later := machine.face (later.foldl machine.next state)
  answer later event shadows :=
    (machine.tell (later.foldl machine.next state) event shadows).2

theorem after_guest (machine : Machine σ) (window : WindowId) (state : σ)
    (occasion : Occasion) :
    (machine.guest window state).after occasion =
      machine.guest window (machine.next state occasion) := rfl

theorem handle_guest (machine : Machine σ) (window : WindowId) (state : σ)
    (shadows : ShadowMemo) (event : Decoration.Event) :
    (machine.guest window state).handle shadows event =
      let (state, update, shapes) := machine.tell state event shadows
      (update, machine.guest window state, shadows.askedEach shapes) := rfl

end Machine

end Guest

end WindowChrome
