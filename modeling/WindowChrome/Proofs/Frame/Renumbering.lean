import WindowChrome.Proofs.Frame.Shadow
import WindowChrome.Proofs.Shadow.Renumbering

/-!
# What a decoration asks of the shared memo

An event of a window makes a decoration ask for at most one shadow, and which
one depends on the decoration and the event alone.
-/

namespace WindowChrome

namespace Frame

/-- The shadow that an event of the window makes the frame ask for. -/
def asks? (frame : Frame) : WindowEvent → Option Shape
  | .activated on => some (shapeOf frame.borderAlone on frame.clientRadii)
  | _ => none

def renumber (numbers : Equiv.Perm Nat) (frame : Frame) : Frame :=
  { frame with shadow := frame.shadow.renumber numbers }

theorem renumber_eq_self {numbers : Equiv.Perm Nat} {frame : Frame}
    (hfixed : numbers frame.shadow.number = frame.shadow.number) :
    frame.renumber numbers = frame := by
  unfold renumber
  rw [Drawing.renumber_eq_self hfixed]

variable {frame next : Frame} {event : WindowEvent} {update : Update}
  {shadows drawn : ShadowMemo}

theorem handleWindow_of_asks_none (hquiet : frame.asks? event = none)
    (hhandle : frame.handleWindow shadows event = .ok (update, next, drawn)) :
    next.shadow = frame.shadow ∧ drawn = shadows ∧
      ∀ other, frame.handleWindow other event = .ok (update, next, other) := by
  have hhanded : ∀ {handled : Except Fault (Update × Frame)},
      (∀ memo, frame.handleWindow memo event =
        handled.map fun result => (result.1, result.2, memo)) →
      (handled = .ok (update, next) →
        next.shadow = frame.shadow ∧ update.shadow = false) →
      next.shadow = frame.shadow ∧ drawn = shadows ∧
        ∀ other,
          frame.handleWindow other event = .ok (update, next, other) := by
    intro handled hwindow hshadow
    obtain ⟨hhandled, hdrawn⟩ :=
      handled_of_handleWindow (hwindow shadows) hhandle
    refine ⟨(hshadow hhandled).1, hdrawn, fun other => ?_⟩
    rw [hwindow, hhandled]
    rfl
  cases event with
  | activated on => cases hquiet
  | retitled caption =>
      cases hhandle
      exact ⟨rfl, rfl, fun _ => rfl⟩
  | resized width height =>
      exact hhanded (fun _ => rfl) shadow_of_relayOut
  | maximized on => exact hhanded (fun _ => rfl) shadow_of_maximize
  | enabled capabilities => exact hhanded (fun _ => rfl) shadow_of_enable
  | pointerMoved pointer => exact hhanded (fun _ => rfl) shadow_of_hover
  | pointerPressed point => exact hhanded (fun _ => rfl) shadow_of_press
  | pointerReleased point => exact hhanded (fun _ => rfl) shadow_of_release

theorem handleWindow_renumber {numbers : Equiv.Perm Nat} {other : ShadowMemo}
    (hhandle : frame.handleWindow shadows event = .ok (update, next, drawn))
    (hfixed : numbers frame.shadow.number = frame.shadow.number)
    (hanswer : ∀ shape ∈ frame.asks? event,
      (other.get shape).1 = (shadows.get shape).1.renumber numbers) :
    drawn = shadows.asked (frame.asks? event) ∧
      frame.handleWindow other event = .ok (update, next.renumber numbers,
        other.asked (frame.asks? event)) := by
  cases hasks : frame.asks? event with
  | none =>
      obtain ⟨hshadow, hdrawn, hother⟩ :=
        handleWindow_of_asks_none hasks hhandle
      have hsame : next.renumber numbers = next := by
        apply renumber_eq_self
        rw [hshadow]
        exact hfixed
      exact ⟨hdrawn, by rw [hsame]; exact hother other⟩
  | some shape =>
      cases event with
      | activated on =>
          cases hasks
          cases hhandle
          refine ⟨rfl, ?_⟩
          have hnew := hanswer _ rfl
          have htold : ((other.get (shapeOf frame.borderAlone on
                frame.clientRadii)).1.number != frame.shadow.number) =
              ((shadows.get (shapeOf frame.borderAlone on
                frame.clientRadii)).1.number != frame.shadow.number) := by
            rw [hnew, Bool.eq_iff_iff, bne_iff_ne, bne_iff_ne]
            conv_lhs => rw [← hfixed]
            exact numbers.injective.ne_iff
          simp only [handleWindow, renewShadow, htold]
          rw [hnew]
          rfl
      | _ => cases hasks

end Frame

namespace Decoration

def asks? (decoration : Decoration) (event : WindowEvent) : Option Shape :=
  match decoration with
  | framed frame => frame.asks? event
  | foreign _ => none

def renumber (numbers : Equiv.Perm Nat) : Decoration → Decoration
  | framed frame => framed (frame.renumber numbers)
  | foreign guest => foreign guest

def FixedBy (decoration : Decoration) (numbers : Equiv.Perm Nat) : Prop :=
  ∀ frame, decoration = .framed frame →
    numbers frame.shadow.number = frame.shadow.number

variable {decoration next : Decoration} {event : WindowEvent}
  {update : Update} {shadows drawn other : ShadowMemo}
  {numbers : Equiv.Perm Nat}

theorem renumber_eq_self (hfixed : decoration.FixedBy numbers) :
    decoration.renumber numbers = decoration := by
  cases decoration with
  | framed frame =>
      exact congrArg framed (Frame.renumber_eq_self (hfixed _ rfl))
  | foreign guest => rfl

theorem window_renumber (numbers : Equiv.Perm Nat) (decoration : Decoration) :
    (decoration.renumber numbers).window = decoration.window := by
  cases decoration <;> rfl

theorem handle_renumber (hordinary : decoration.Ordinary)
    (hhandle : decoration.handle shadows (.window event) =
      .ok (update, next, drawn))
    (hfixed : decoration.FixedBy numbers)
    (hanswer : ∀ shape ∈ decoration.asks? event,
      (other.get shape).1 = (shadows.get shape).1.renumber numbers) :
    drawn = shadows.asked (decoration.asks? event) ∧
      decoration.handle other (.window event) =
        .ok (update, next.renumber numbers,
          other.asked (decoration.asks? event)) := by
  cases hordinary with
  | framed frame =>
      obtain ⟨handled, rfl, hframe⟩ := framed_of_handle hhandle
      obtain ⟨hdrawn, hother⟩ :=
        Frame.handleWindow_renumber hframe (hfixed _ rfl) hanswer
      refine ⟨hdrawn, ?_⟩
      simp only [handle, Frame.handle, hother]
      rfl
  | still window answer =>
      cases hhandle
      exact ⟨rfl, rfl⟩

/-- The drawing that is the shadow of the decoration was made by the memo, if
the decoration is a frame. -/
def IssuedBy (decoration : Decoration) (shadows : ShadowMemo) : Prop :=
  ∀ frame, decoration = .framed frame → shadows.Issued frame.shadow

theorem HeldBy.issued (hheld : decoration.HeldBy shadows)
    (hshadows : shadows.WellFormed) : decoration.IssuedBy shadows :=
  fun frame hframe => .of_holds hshadows (hheld frame hframe)

theorem IssuedBy.grown (hissued : decoration.IssuedBy shadows)
    (hgrown : shadows.Grown drawn) : decoration.IssuedBy drawn :=
  fun frame hframe => (hissued frame hframe).grown hgrown

theorem IssuedBy.takeAction (hissued : decoration.IssuedBy shadows) :
    decoration.takeAction.2.IssuedBy shadows := by
  cases decoration with
  | framed frame =>
      rintro _ ⟨⟩
      exact hissued frame rfl
  | foreign guest => rintro _ ⟨⟩

theorem IssuedBy.handle {event : Event}
    (hissued : decoration.IssuedBy shadows) (hshadows : shadows.WellFormed)
    (hhandle : decoration.handle shadows event = .ok (update, next, drawn)) :
    next.IssuedBy drawn := by
  cases decoration with
  | framed frame =>
      obtain ⟨handled, rfl, hframe⟩ := framed_of_handle hhandle
      rintro _ ⟨⟩
      exact (Frame.renewed_of_handle hframe).issued hshadows (hissued _ rfl)
  | foreign guest =>
      cases hhandle
      rintro _ ⟨⟩

end Decoration
end WindowChrome
