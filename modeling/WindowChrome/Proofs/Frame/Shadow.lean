import WindowChrome.Decoration.Basic
import WindowChrome.Proofs.Frame.Upkeep

/-! # The shadow of a frame -/

namespace WindowChrome

/-- A shadow was kept, or the memo was asked for another one, and the update
says whether it is another one. -/
inductive Renewed (old : Shadow.Drawn) (shadows : ShadowMemo) :
    Update → Shadow.Drawn → ShadowMemo → Prop
  | kept {update : Update} (hquiet : update.shadow = false) :
      Renewed old shadows update old shadows
  | asked (shape : Shape) {update : Update}
      (htold : update.shadow =
        ((shadows.get shape).1.number != old.number)) :
      Renewed old shadows update (shadows.get shape).1 (shadows.get shape).2

namespace Renewed

variable {old new : Shadow.Drawn} {shadows later : ShadowMemo}
  {update : Update}

theorem grown (hrenewed : Renewed old shadows update new later) :
    shadows.Grown later := by
  cases hrenewed with
  | kept _ => exact .refl
  | asked shape _ => exact Memo.Grown.refl.get shape

theorem holds (hrenewed : Renewed old shadows update new later)
    (hold : shadows.Holds old) : later.Holds new := by
  cases hrenewed with
  | kept _ => exact hold
  | asked shape _ => exact Memo.get_holds shadows shape

theorem issued (hrenewed : Renewed old shadows update new later)
    (hshadows : shadows.WellFormed) (hold : shadows.Issued old) :
    later.Issued new := by
  cases hrenewed with
  | kept _ => exact hold
  | asked shape _ =>
      exact .of_holds ((shadows.answers_get shape).wellFormed hshadows)
        (Memo.get_holds shadows shape)

theorem eq_of_number_eq (hrenewed : Renewed old shadows update new later)
    (hold : shadows.Issued old) (hnumber : new.number = old.number) :
    new = old := by
  cases hrenewed with
  | kept _ => rfl
  | asked shape _ =>
      have hkept := Memo.mem_kept_of_holds (Memo.get_holds shadows shape)
      have hissued := hold.grown (Memo.Grown.refl.get shape)
      exact hissued.eq_of_kept _ hkept hnumber

theorem update_eq (hrenewed : Renewed old shadows update new later) :
    update.shadow = (new.number != old.number) := by
  cases hrenewed with
  | kept hquiet => simp [hquiet]
  | asked shape htold => exact htold

end Renewed

namespace Frame

variable {frame next : Frame} {shadows later : ShadowMemo} {update : Update}

theorem shadow_of_relayOut (hrelayOut : frame.relayOut = .ok (update, next)) :
    next.shadow = frame.shadow ∧ update.shadow = false := by
  refine ⟨shadow_of_layOut (layOut_of_relayOut hrelayOut), ?_⟩
  unfold relayOut at hrelayOut
  split at hrelayOut
  · cases hrelayOut
    rfl
  · simp only [bind_eq_ok_iff] at hrelayOut
    rcases hrelayOut with ⟨placed, _, hresult⟩
    cases hresult
    rfl

theorem shadow_of_maximize {on : Bool}
    (hmaximize : frame.maximize on = .ok (update, next)) :
    next.shadow = frame.shadow ∧ update.shadow = false := by
  rcases maximize_cases hmaximize with ⟨-, rfl, rfl⟩ | ⟨laid, hrelayOut, rfl⟩
  · exact ⟨rfl, rfl⟩
  · have hshadow := shadow_of_relayOut hrelayOut
    exact hshadow

theorem shadow_of_enable {capabilities : Capabilities}
    (henable : frame.enable capabilities = .ok (update, next)) :
    next.shadow = frame.shadow ∧ update.shadow = false := by
  rcases enable_cases henable with hrelayOut | ⟨-, -, rfl, rfl⟩
  · have hshadow := shadow_of_relayOut hrelayOut
    exact hshadow
  · exact ⟨rfl, rfl⟩

theorem shadow_of_hover {pointer : Option Point}
    (hhover : frame.hover pointer = .ok (update, next)) :
    next.shadow = frame.shadow ∧ update.shadow = false := by
  simp only [hover, bind_eq_ok_iff] at hhover
  rcases hhover with ⟨⟨_, left⟩, _, ⟨_, right⟩, _, hresult⟩
  cases hresult
  exact ⟨rfl, rfl⟩

theorem shadow_of_press {point : Point}
    (hpress : frame.press point = .ok (update, next)) :
    next.shadow = frame.shadow ∧ update.shadow = false := by
  simp only [press, bind_eq_ok_iff] at hpress
  rcases hpress with ⟨left, _, hpress⟩
  cases left with
  | some left =>
      cases hpress
      exact ⟨rfl, rfl⟩
  | none =>
      simp only [bind_eq_ok_iff] at hpress
      rcases hpress with ⟨right, _, hpress⟩
      cases right with
      | some right =>
          cases hpress
          exact ⟨rfl, rfl⟩
      | none =>
          cases hpress
          exact ⟨rfl, rfl⟩

theorem shadow_of_release {point : Point}
    (hrelease : frame.release point = .ok (update, next)) :
    next.shadow = frame.shadow ∧ update.shadow = false := by
  simp only [release, bind_eq_ok_iff] at hrelease
  rcases hrelease with ⟨⟨_, _, left⟩, _, ⟨_, _, right⟩, _, hresult⟩
  cases hresult
  exact ⟨rfl, rfl⟩

theorem renewed_of_handleWindow {event : WindowEvent}
    (hhandle : frame.handleWindow shadows event = .ok (update, next, later)) :
    Renewed frame.shadow shadows update next.shadow later := by
  have hkept : ∀ {handled : Except Fault (Update × Frame)},
      frame.handleWindow shadows event =
        handled.map (fun result => (result.1, result.2, shadows)) →
      (handled = .ok (update, next) →
        next.shadow = frame.shadow ∧ update.shadow = false) →
      Renewed frame.shadow shadows update next.shadow later := by
    intro handled hwindow hsame
    obtain ⟨hhandled, hlater⟩ := handled_of_handleWindow hwindow hhandle
    obtain ⟨hshadow, hquiet⟩ := hsame hhandled
    rw [hshadow, hlater]
    exact .kept hquiet
  cases event with
  | resized width height => exact hkept rfl shadow_of_relayOut
  | maximized on => exact hkept rfl shadow_of_maximize
  | activated on =>
      cases hhandle
      exact .asked _ rfl
  | retitled caption =>
      cases hhandle
      exact .kept rfl
  | enabled capabilities => exact hkept rfl shadow_of_enable
  | pointerMoved pointer => exact hkept rfl shadow_of_hover
  | pointerPressed point => exact hkept rfl shadow_of_press
  | pointerReleased point => exact hkept rfl shadow_of_release

theorem renewed_of_handle {event : Decoration.Event}
    (hhandle : frame.handle shadows event = .ok (update, next, later)) :
    Renewed frame.shadow shadows update next.shadow later := by
  cases event with
  | window event => exact renewed_of_handleWindow hhandle
  | theme id =>
      cases hhandle
      exact .asked _ rfl
  | font font =>
      cases hhandle
      exact .kept rfl
  | layout left right =>
      obtain ⟨rfl, ⟨-, rfl, rfl⟩ | ⟨-, hrelayOut⟩⟩ := layout_cases hhandle
      · exact .kept rfl
      · obtain ⟨hshadow, hquiet⟩ := shadow_of_relayOut hrelayOut
        rw [show next.shadow = frame.shadow from hshadow]
        exact .kept hquiet

theorem memo_of_fit {sized : Bool} {look : Look} {window : Window}
    {commons made : Commons}
    (hfit : fit sized look window commons = .ok (frame, made)) :
    commons.shadows.Grown made.shadows ∧
      made.shadows.Holds frame.shadow := by
  rcases fit_commons hfit with ⟨hshadow, hmade⟩
  rw [hshadow, hmade]
  exact ⟨Memo.Grown.refl.get _, Memo.get_holds _ _⟩

end Frame

namespace Decoration

/-- A frame, or a guest that never changes and asks for nothing. -/
inductive Ordinary : Decoration → Prop
  | framed (frame : Frame) : Ordinary (.framed frame)
  | still (window : WindowId) (update : Update) :
      Ordinary (.foreign (.still window update))

/-- The memo holds the shadow of the decoration, if that is a frame.  What
guests do with the drawings they were given is their own affair. -/
def HeldBy (decoration : Decoration) (shadows : ShadowMemo) : Prop :=
  ∀ frame, decoration = .framed frame → shadows.Holds frame.shadow

theorem HeldBy.extended {decoration : Decoration} {shadows later : ShadowMemo}
    (hheld : decoration.HeldBy shadows) (hextends : shadows.Extends later) :
    decoration.HeldBy later :=
  fun frame hframe => hextends _ (hheld frame hframe)

theorem heldBy_framed {frame : Frame} {shadows : ShadowMemo}
    (hholds : shadows.Holds frame.shadow) :
    (framed frame).HeldBy shadows := by
  rintro _ ⟨⟩
  exact hholds

theorem heldBy_foreign (guest : Guest) (shadows : ShadowMemo) :
    (foreign guest).HeldBy shadows := by
  rintro _ ⟨⟩

theorem HeldBy.takeAction {decoration : Decoration} {shadows : ShadowMemo}
    (hheld : decoration.HeldBy shadows) :
    decoration.takeAction.2.HeldBy shadows := by
  cases decoration with
  | framed frame => exact heldBy_framed (hheld frame rfl)
  | foreign guest => exact heldBy_foreign _ shadows

theorem window_takeAction (decoration : Decoration) :
    decoration.takeAction.2.window = decoration.window := by
  cases decoration <;> rfl

def shadowId? (decoration : Decoration) : Option Shadow.Identity :=
  decoration.shadow?.map (·.identity)

variable {decoration next : Decoration} {shadows later : ShadowMemo}
  {event : Event} {update : Update}

theorem memo_of_handle
    (hhandle : decoration.handle shadows event = .ok (update, next, later)) :
    shadows.Grown later ∧ (decoration.HeldBy shadows → next.HeldBy later) := by
  cases decoration with
  | framed frame =>
      rcases framed_of_handle hhandle with ⟨handled, rfl, hframe⟩
      have hrenewed := Frame.renewed_of_handle hframe
      refine ⟨hrenewed.grown, fun hheld => heldBy_framed ?_⟩
      exact hrenewed.holds (hheld frame rfl)
  | foreign guest =>
      cases hhandle
      exact ⟨Memo.Grown.refl.askedEach _, fun _ => heldBy_foreign _ _⟩

theorem heldBy_of_theme {id : Int}
    (hhandle : decoration.handle shadows (.theme id) =
      .ok (update, next, later)) : next.HeldBy later := by
  cases decoration with
  | framed frame =>
      cases hhandle
      exact heldBy_framed (Memo.get_holds _ _)
  | foreign guest =>
      cases hhandle
      exact heldBy_foreign _ _

/-- The decoration says so whenever it has another shadow: its answer to an
event names it, and it is no other one once its clicked button was taken. -/
structure Reports (decoration : Decoration) : Prop where
  answer : ∀ {event shadows update next later},
    decoration.handle shadows event = .ok (update, next, later) →
      next.shadowId? ≠ decoration.shadowId? → update.shadow = true
  taken : ∀ {event shadows update next later},
    decoration.handle shadows event = .ok (update, next, later) →
      next.takeAction.2.shadowId? = next.shadowId?

theorem reports_framed (frame : Frame) : (framed frame).Reports where
  answer := by
    intro event shadows update next later hhandle hother
    rcases framed_of_handle hhandle with ⟨handled, rfl, hframe⟩
    rw [(Frame.renewed_of_handle hframe).update_eq, bne_iff_ne]
    intro hsame
    exact hother
      (congrArg (fun number => some (Shadow.Identity.drawn number)) hsame)
  taken := by
    intro event shadows update next later hhandle
    rcases framed_of_handle hhandle with ⟨handled, rfl, _⟩
    rfl

end Decoration

theorem Decoration.reports_still (window : WindowId) (update : Update) :
    (foreign (.still window update)).Reports where
  answer := by
    rintro event shadows _ _ _ ⟨⟩ hother
    exact absurd rfl hother
  taken := by
    rintro event shadows _ _ _ ⟨⟩
    rfl

theorem Guest.Machine.reports {σ : Type} (machine : Machine σ)
    (htell : ∀ state event shadows,
      let (next, update, _) := machine.tell state event shadows
      (machine.face next).shadow?.map (·.identity) ≠
        (machine.face state).shadow?.map (·.identity) → update.shadow = true)
    (htake : ∀ state, (machine.face (machine.take state)).shadow? =
      (machine.face state).shadow?) (window : WindowId) (state : σ) :
    (Decoration.foreign (machine.guest window state)).Reports where
  answer := by
    rintro event shadows _ _ _ ⟨⟩ hother
    exact htell state event shadows hother
  taken := by
    rintro event shadows _ _ _ ⟨⟩
    exact congrArg (Option.map _) (htake _)

end WindowChrome
