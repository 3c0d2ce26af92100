import WindowChrome.Decoration.Frame
import WindowChrome.Decoration.Guest

/-! # Decorations -/

namespace WindowChrome

inductive Decoration where
  | framed (frame : Frame)
  | foreign (guest : Guest)

namespace Decoration

def window : Decoration → WindowId
  | framed frame => frame.window.id
  | foreign guest => guest.window

def borders : Decoration → Margins
  | framed frame => frame.borders
  | foreign guest => (guest.face []).borders

def resizeBorders : Decoration → Margins
  | framed frame => frame.resizeBorders
  | foreign guest => (guest.face []).resizeBorders

def titleBar : Decoration → Rect
  | framed frame => frame.titleBar
  | foreign guest => (guest.face []).titleBar

def shadow? : Decoration → Option Shadow.Resource
  | framed frame => some (.drawn frame.shadow)
  | foreign guest => (guest.face []).shadow?

def handle (decoration : Decoration) (shadows : ShadowMemo)
    (event : Event) : Except Fault (Update × Decoration × ShadowMemo) :=
  match decoration with
  | framed frame => do
      let (update, frame, shadows) ← frame.handle shadows event
      return (update, framed frame, shadows)
  | foreign guest =>
      let (update, guest, shadows) := guest.handle shadows event
      .ok (update, foreign guest, shadows)

theorem framed_of_handle {frame : Frame} {shadows later : ShadowMemo}
    {event : Event} {update : Update} {next : Decoration}
    (hhandle : (framed frame).handle shadows event =
      .ok (update, next, later)) :
    ∃ handled, next = framed handled ∧
      frame.handle shadows event = .ok (update, handled, later) := by
  simp only [handle, bind_eq_ok_iff] at hhandle
  obtain ⟨⟨_, handled, _⟩, hframe, hresult⟩ := hhandle
  cases hresult
  exact ⟨handled, rfl, hframe⟩

def takeAction : Decoration → Option Button.Kind × Decoration
  | framed frame => (frame.takeAction.1, framed frame.takeAction.2)
  | foreign guest => (guest.takeAction.1, foreign guest.takeAction.2)

end Decoration

end WindowChrome
