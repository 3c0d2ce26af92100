import WindowChrome.Decoration.Frame

/-!
# What a frame has been through

One history of a frame, from which the others are read off: the events it was
told of, the frames before each of them, or what a caller has drawn of it.
-/

namespace WindowChrome
namespace Frame

structure Moment where
  frame : Frame
  event : Decoration.Event
  update : Update
  next : Frame

/-- One frame has become another through the moments, the latest first.  At any
time its action may be taken, and the shared drawings may change as `meanwhile`
allows. -/
inductive Past (meanwhile : ShadowMemo → ShadowMemo → Prop) (first : Frame)
    (made : ShadowMemo) : List Moment → Frame → ShadowMemo → Prop
  | refl : Past meanwhile first made [] first made
  | handle {history : List Moment} {frame next : Frame}
      {event : Decoration.Event} {update : Update}
      {shadows later : ShadowMemo}
      (hpast : Past meanwhile first made history frame shadows)
      (hhandle : frame.handle shadows event = .ok (update, next, later)) :
      Past meanwhile first made (⟨frame, event, update, next⟩ :: history) next
        later
  | takeAction {history : List Moment} {frame : Frame} {shadows : ShadowMemo}
      (hpast : Past meanwhile first made history frame shadows) :
      Past meanwhile first made history frame.takeAction.2 shadows
  | share {history : List Moment} {frame : Frame}
      {shadows later : ShadowMemo}
      (hpast : Past meanwhile first made history frame shadows)
      (hshare : meanwhile shadows later) :
      Past meanwhile first made history frame later

def Freely (_ _ : ShadowMemo) : Prop := True

/-- The frame has become another one through events, the latest first. -/
def Follows (first : Frame) (events : List Decoration.Event) (frame : Frame) :
    Prop :=
  ∃ made history shadows, Past Freely first made history frame shadows ∧
    history.map Moment.event = events

namespace Follows

variable {first frame next : Frame} {events : List Decoration.Event}

theorem refl : Follows first [] first := ⟨{}, [], {}, .refl, rfl⟩

theorem handle {event : Decoration.Event} {update : Update}
    {shadows later : ShadowMemo} (hfollows : first.Follows events frame)
    (hhandle : frame.handle shadows event = .ok (update, next, later)) :
    first.Follows (event :: events) next := by
  obtain ⟨made, history, _, hpast, rfl⟩ := hfollows
  exact ⟨made, _, later, (hpast.share trivial).handle hhandle, rfl⟩

end Follows

/-- The frame was made for a window with these properties and has been through
events since. -/
def MadeAmong (sized : Bool) (look : Look) (window : Window)
    (commons : Commons) (events : List Decoration.Event) (frame : Frame) :
    Prop :=
  ∃ first made, fit sized look window commons = .ok (first, made) ∧
    first.Follows events frame

def Undergone (sized : Bool) (look : Look) (window : Window)
    (events : List Decoration.Event) (frame : Frame) : Prop :=
  ∃ commons, MadeAmong sized look window commons events frame

def Reached (frame : Frame) : Prop :=
  ∃ sized look window events, Undergone sized look window events frame

variable {sized : Bool} {look : Look} {window : Window}
  {commons made : Commons} {frame next : Frame}
  {events : List Decoration.Event} {event : Decoration.Event}
  {update : Update} {shadows later : ShadowMemo}

namespace MadeAmong

theorem fit (hfit : Frame.fit sized look window commons = .ok (frame, made)) :
    MadeAmong sized look window commons [] frame :=
  ⟨frame, made, hfit, .refl⟩

theorem handle (hmade : MadeAmong sized look window commons events frame)
    (hhandle : frame.handle shadows event = .ok (update, next, later)) :
    MadeAmong sized look window commons (event :: events) next := by
  obtain ⟨first, made, hfit, hfollows⟩ := hmade
  exact ⟨first, made, hfit, hfollows.handle hhandle⟩

end MadeAmong

namespace Undergone

theorem fit (hfit : Frame.fit sized look window commons = .ok (frame, made)) :
    Undergone sized look window [] frame :=
  ⟨commons, .fit hfit⟩

theorem handle (hundergone : Undergone sized look window events frame)
    (hhandle : frame.handle shadows event = .ok (update, next, later)) :
    Undergone sized look window (event :: events) next := by
  obtain ⟨commons, hmade⟩ := hundergone
  exact ⟨commons, hmade.handle hhandle⟩

end Undergone

namespace Reached

theorem fit (hfit : Frame.fit sized look window commons = .ok (frame, made)) :
    frame.Reached :=
  ⟨sized, look, window, [], .fit hfit⟩

theorem handle (hreached : frame.Reached)
    (hhandle : frame.handle shadows event = .ok (update, next, later)) :
    next.Reached := by
  obtain ⟨sized, look, window, events, hundergone⟩ := hreached
  exact ⟨sized, look, window, _, hundergone.handle hhandle⟩

end Reached

def Chronicled (frame : Frame) (history : List Moment) : Prop :=
  ∃ sized look window commons first made shadows,
    fit sized look window commons = .ok (first, made) ∧
    Past Freely first made.shadows history frame shadows

namespace Chronicled

variable {history : List Moment}

theorem fit (hfit : Frame.fit sized look window commons = .ok (frame, made)) :
    frame.Chronicled [] :=
  ⟨sized, look, window, commons, frame, made, _, hfit, .refl⟩

theorem handle (hchronicled : frame.Chronicled history)
    (hhandle : frame.handle shadows event = .ok (update, next, later)) :
    next.Chronicled (⟨frame, event, update, next⟩ :: history) := by
  obtain ⟨sized, look, window, commons, first, made, _, hfit, hpast⟩ :=
    hchronicled
  exact ⟨sized, look, window, commons, first, made, later, hfit,
    (hpast.share trivial).handle hhandle⟩

theorem takeAction (hchronicled : frame.Chronicled history) :
    frame.takeAction.2.Chronicled history := by
  obtain ⟨sized, look, window, commons, first, made, shadows, hfit, hpast⟩ :=
    hchronicled
  exact ⟨sized, look, window, commons, first, made, shadows, hfit,
    hpast.takeAction⟩

end Chronicled

end Frame
end WindowChrome
