import WindowChrome.Hub
import WindowChrome.Preferences

/-! # What a listener can know -/

namespace WindowChrome

def Signal.window? : Signal → Option WindowId
  | .shadow window | .repaint window | .clicked window _ => some window
  | _ => none

/-- The values a listener takes over.  It begins with the standard ones. -/
structure Picture where
  left : List Button.Kind := [.menu, .onAllDesktops]
  right : List Button.Kind := [.contextHelp, .minimize, .maximize, .close]
  borderSize : BorderSize := .normal
  closeOnDoubleClick : Bool := false
  font : Font := .standard
  mode : Mode := .none
  deriving DecidableEq, Repr

namespace Picture

def hear (picture : Picture) : Signal → Picture
  | .leftLayout kinds => { picture with left := kinds }
  | .rightLayout kinds => { picture with right := kinds }
  | .borderSize size => { picture with borderSize := size }
  | .closeOnDoubleClick on => { picture with closeOnDoubleClick := on }
  | .font font => { picture with font }
  | .mode mode => { picture with mode }
  | _ => picture

def Has (picture : Picture) : Signal → Prop
  | .leftLayout kinds => picture.left = kinds
  | .rightLayout kinds => picture.right = kinds
  | .borderSize size => picture.borderSize = size
  | .closeOnDoubleClick on => picture.closeOnDoubleClick = on
  | .font font => picture.font = font
  | .mode mode => picture.mode = mode
  | _ => False

/-- Hearing the signals leads from one picture to another, and none of them
brings a value that the picture has at that moment. -/
def Learns : Picture → List Signal → Picture → Prop
  | picture, [], last => picture = last
  | picture, signal :: rest, last =>
      ¬ picture.Has signal ∧ (picture.hear signal).Learns rest last

variable {picture middle last : Picture} {signals others : List Signal}

theorem hear_of_has {signal : Signal} (hhas : picture.Has signal) :
    picture.hear signal = picture := by
  cases signal <;> cases hhas <;> rfl

theorem Learns.append (hfirst : picture.Learns signals middle)
    (hsecond : middle.Learns others last) :
    picture.Learns (signals ++ others) last := by
  induction signals generalizing picture with
  | nil =>
      rw [show picture = middle from hfirst]
      exact hsecond
  | cons signal rest ih => exact ⟨hfirst.1, ih hfirst.2⟩

theorem learns_of_windows
    (hwindows : ∀ signal ∈ signals, signal.window?.isSome) :
    picture.Learns signals picture := by
  induction signals with
  | nil => rfl
  | cons signal rest ih =>
      have hsignal := hwindows signal List.mem_cons_self
      have hrest := ih fun other hother =>
        hwindows other (List.mem_cons_of_mem _ hother)
      cases signal with
      | shadow window | repaint window | clicked window button =>
          exact ⟨fun hhas => hhas, hrest⟩
      | declared | leftLayout kinds | rightLayout kinds | borderSize size
        | font font | closeOnDoubleClick on | reconfigured | theme name
        | mode mode => cases hsignal

theorem Learns.foldl_eq (hlearns : picture.Learns signals last) :
    signals.foldl hear picture = last ∧
    ∀ earlier signal later, signals = earlier ++ signal :: later →
      ¬ (earlier.foldl hear picture).Has signal := by
  induction signals generalizing picture with
  | nil => exact ⟨hlearns, by simp⟩
  | cons first rest ih =>
      obtain ⟨hfold, hnews⟩ := ih hlearns.2
      refine ⟨hfold, fun earlier signal later hsplit => ?_⟩
      cases earlier with
      | nil =>
          cases hsplit
          exact hlearns.1
      | cons head middle =>
          cases hsplit
          exact hnews middle signal later rfl

/-- Signals were put in the queue that lead from one picture to another.  None
of them is about a window, and nothing was delivered. -/
structure Tells (picture : Picture) (hub : Hub) (next : Picture)
    (later : Hub) : Prop where
  delivered_eq : later.delivered = hub.delivered
  emitted : ∃ signals, later.pending = hub.pending ++ signals ∧
    (∀ signal ∈ signals, signal.window? = none) ∧ picture.Learns signals next

namespace Tells

variable {next : Picture} {hub later : Hub}

theorem of_eq (hpicture : next = picture)
    (hdelivered : later.delivered = hub.delivered)
    (hpending : later.pending = hub.pending) :
    picture.Tells hub next later := by
  refine ⟨hdelivered, [], ?_, by simp, hpicture.symm⟩
  rw [hpending, List.append_nil]

theorem trans {last : Picture} {final : Hub}
    (hfirst : picture.Tells hub next later)
    (hsecond : next.Tells later last final) :
    picture.Tells hub last final := by
  obtain ⟨signals, hpending, hsignals, hlearns⟩ := hfirst.emitted
  obtain ⟨others, hlater, hothers, hlearnsAfter⟩ := hsecond.emitted
  refine ⟨hsecond.delivered_eq.trans hfirst.delivered_eq, signals ++ others,
    ?_, ?_, hlearns.append hlearnsAfter⟩
  · rw [hlater, hpending, List.append_assoc]
  · intro signal hsignal
    rcases List.mem_append.mp hsignal with hmem | hmem
    · exact hsignals signal hmem
    · exact hothers signal hmem

theorem emit {signal : Signal} (hwindow : signal.window? = none)
    (hnews : ¬ picture.Has signal) (hub : Hub) :
    picture.Tells hub (picture.hear signal) (hub.emitAll [signal]) := by
  refine ⟨rfl, [signal], rfl, fun other hother => ?_, hnews, rfl⟩
  rw [List.mem_singleton] at hother
  rw [hother]
  exact hwindow

theorem emit_unless {signal : Signal} {same : Prop} [Decidable same]
    (hwindow : signal.window? = none) (hsame : same ↔ picture.Has signal)
    (hub : Hub) :
    picture.Tells hub (picture.hear signal)
      (hub.emitAll (if same then [] else [signal])) := by
  by_cases hhas : same
  · rw [if_pos hhas, Hub.emitAll_nil]
    exact .of_eq (hear_of_has (hsame.mp hhas)) rfl rfl
  · rw [if_neg hhas]
    exact .emit hwindow (fun hheard => hhas (hsame.mpr hheard)) hub

end Tells

def of (preferences : Preferences) (mode : Mode) : Picture where
  left := preferences.left
  right := preferences.right
  borderSize := preferences.borderSize
  closeOnDoubleClick := preferences.closeOnDoubleClick
  font := preferences.font
  mode

theorem tells_differences (before after : Preferences) (mode : Mode)
    (hub : Hub) :
    (of before mode).Tells hub (of after mode)
      (hub.emitAll (before.differences after)) := by
  have hleft := @Tells.emit_unless (of before mode) (.leftLayout after.left)
    (after.left = before.left) _ rfl eq_comm hub
  have hright := hleft.trans (@Tells.emit_unless _ (.rightLayout after.right)
    (after.right = before.right) _ rfl eq_comm _)
  have hclose := hright.trans (@Tells.emit_unless _
    (.closeOnDoubleClick after.closeOnDoubleClick)
    (after.closeOnDoubleClick = before.closeOnDoubleClick) _ rfl eq_comm _)
  have hsize := hclose.trans (@Tells.emit_unless _ (.borderSize after.borderSize)
    (after.borderSize = before.borderSize) _ rfl eq_comm _)
  have hfont := hsize.trans (@Tells.emit_unless _ (.font after.font)
    (after.font = before.font) _ rfl eq_comm _)
  simp only [← Hub.emitAll_append] at hfont
  exact hfont

end Picture
end WindowChrome
