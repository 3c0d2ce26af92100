import WindowChrome.Proofs.Frame.Clicking

/-!
# What the pointer is over

Buttons are compared with the place of the pointer only when the pointer moves,
so marks can be wrong once buttons were moved or rebuilt.
-/

namespace WindowChrome
namespace Frame

/-- The last move of the pointer went into the button, and the buttons on its
side have not been rebuilt since. -/
def Entered (history : List Moment) (side : Button.Side) (index : Nat) :
    Prop :=
  Lasts history .hovered side index

/-- Where the pointer is, as far as the frame was told.  It may have left. -/
def pointer? : List Moment → Option Point
  | [] => none
  | moment :: earlier =>
      match moment.event with
      | .window (.pointerMoved pointer) => pointer
      | _ => pointer? earlier

def Over (frame : Frame) (history : List Moment) (side : Button.Side)
    (index : Nat) : Prop :=
  ∃ point, pointer? history = some point ∧ frame.Under point side index

/-- Exactly the buttons that the pointer is over are marked as hovered. -/
def Truthful (frame : Frame) (history : List Moment) : Prop :=
  ∀ side index (button : Button),
    (frame.group side).buttons[index]? = some button →
      (button.hovered = true ↔ frame.Over history side index)

structure Hovers (frame : Frame) (history : List Moment)
    (side : Button.Side) (index : Nat) (button : Button) : Prop where
  hovered_iff : button.hovered = true ↔ Entered history side index
  highlighted : Entered history side index → ¬ Held history side index →
    frame.buttonColors? side index =
      some ⟨button.kind.hoveredFill, frame.palette.frame⟩
  plain : ¬ Entered history side index → ¬ Held history side index →
    frame.buttonColors? side index =
      some ⟨frame.palette.frame, frame.fontColor⟩

variable {frame next : Frame} {history : List Moment} {update : Update}
  {shadows later : ShadowMemo} {side : Button.Side} {index : Nat}

theorem Chronicled.hovers (hchronicled : frame.Chronicled history)
    {button : Button}
    (hbutton : (frame.group side).buttons[index]? = some button) :
    frame.Hovers history side index button := by
  have hmarked : ∀ mark, (frame.group side).isMarked mark index = true ↔
      button.has mark = true := by
    simp [Button.Group.isMarked_iff, hbutton]
  have hhovered : button.hovered = true ↔ Entered history side index :=
    (hmarked .hovered).symm.trans (hchronicled.isMarked_iff .hovered side index)
  have hpressed : button.pressed = true ↔ Held history side index :=
    (hmarked .pressed).symm.trans (hchronicled.isMarked_iff .pressed side index)
  have hcolors : frame.buttonColors? side index =
      some (button.colors frame.palette.frame frame.fontColor) := by
    cases side <;> exact congrArg (Option.map _) hbutton
  refine ⟨hhovered, fun hentered hheld => ?_, fun hentered hheld => ?_⟩
  · rw [← hhovered] at hentered
    rw [← hpressed] at hheld
    rw [hcolors, Button.colors, if_neg hheld, if_pos hentered]
  · rw [← hhovered] at hentered
    rw [← hpressed] at hheld
    rw [hcolors, Button.colors, if_neg hheld, if_neg hentered]

theorem pointer?_cons_of_not_moves {moment : Moment}
    (hmoves : ¬ moment.Moves) :
    pointer? (moment :: history) = pointer? history := by
  obtain ⟨before, event, update, after⟩ := moment
  cases event with
  | window event =>
      cases event with
      | pointerMoved pointer => exact absurd ⟨pointer, rfl⟩ hmoves
      | _ => rfl
  | _ => rfl

theorem Entered.exists_pointer (hentered : Entered history side index) :
    ∃ point, pointer? history = some point := by
  obtain ⟨since, ⟨before, event, update, after⟩, earlier, rfl,
    ⟨point, rfl, -⟩, hsince⟩ := hentered
  refine ⟨point, ?_⟩
  induction since with
  | nil => rfl
  | cons moment since ih =>
      rw [List.forall_mem_cons, not_or] at hsince
      exact (pointer?_cons_of_not_moves hsince.1.1).trans (ih hsince.2)

theorem Chronicled.truthful_of_none (hchronicled : frame.Chronicled history)
    (hnone : pointer? history = none) : frame.Truthful history := by
  intro side index button hbutton
  rw [(hchronicled.hovers hbutton).hovered_iff]
  constructor
  · intro hentered
    obtain ⟨point, hpointer⟩ := hentered.exists_pointer
    rw [hnone] at hpointer
    cases hpointer
  · rintro ⟨point, hpointer, -⟩
    rw [hnone] at hpointer
    cases hpointer

theorem Past.rects_of_moves {meanwhile : ShadowMemo → ShadowMemo → Prop}
    {first : Frame} {made : ShadowMemo} {moment : Moment}
    (hpast : Past meanwhile first made (moment :: history) frame shadows)
    (hmoves : moment.Moves) (side : Button.Side) :
    (frame.group side).rects = (moment.frame.group side).rects := by
  generalize hwhole : moment :: history = whole at hpast
  induction hpast with
  | refl => cases hwhole
  | handle hpast hhandle =>
      cases hwhole
      obtain ⟨pointer, rfl⟩ := hmoves
      simp only [Button.Group.rects, buttons_of_hover (hover_of_handle hhandle)]
      rw [List.map_map]
      rfl
  | takeAction _ ih =>
      rw [← ih hwhole]
      cases side <;> rfl
  | share _ _ ih => exact ih hwhole

theorem Chronicled.truthful_of_moves {moment : Moment}
    (hchronicled : frame.Chronicled (moment :: history))
    (hmoves : moment.Moves) : frame.Truthful (moment :: history) := by
  intro side index button hbutton
  have hrects : (frame.group side).rects = (moment.frame.group side).rects := by
    obtain ⟨sized, look, window, commons, first, made, shadows, -, hpast⟩ :=
      hchronicled
    exact hpast.rects_of_moves hmoves side
  rw [(hchronicled.hovers hbutton).hovered_iff, Entered, lasts_cons]
  obtain ⟨before, event, update, after⟩ := moment
  obtain ⟨pointer, rfl⟩ := hmoves
  simp [Moment.Makes, Moment.Clears, Moment.Enters, Moment.Moves, Over, pointer?, Under,
    Button.Group.Under, hrects]

/-- A button is marked as hovered exactly if the pointer has entered it.  So
the marks are right exactly if the buttons under the pointer are those that it
has entered. -/
theorem truthful_iff (hchronicled : frame.Chronicled history) :
    (∀ side index button, (frame.group side).buttons[index]? = some button →
      frame.Hovers history side index button) ∧
    (frame.Truthful history ↔
      ∀ side index, index < (frame.group side).buttons.length →
        (frame.Over history side index ↔ Entered history side index)) ∧
    (pointer? history = none → frame.Truthful history) ∧
    ∀ moment earlier, history = moment :: earlier → moment.Moves →
      frame.Truthful history := by
  refine ⟨fun side index button => hchronicled.hovers, ⟨?_, ?_⟩,
    hchronicled.truthful_of_none, ?_⟩
  · intro htruthful side index hlt
    have hbutton := List.getElem?_eq_getElem hlt
    rw [← htruthful side index _ hbutton,
      (hchronicled.hovers hbutton).hovered_iff]
  · intro hsame side index button hbutton
    obtain ⟨hlt, -⟩ := List.getElem?_eq_some_iff.mp hbutton
    rw [hsame side index hlt, (hchronicled.hovers hbutton).hovered_iff]
  · rintro moment earlier rfl hmoves
    exact hchronicled.truthful_of_moves hmoves

theorem truthful_after_move :
    ∃ (frame : Frame) (history : List Moment),
      frame.Chronicled history ∧
      pointer? history = some ⟨780, 10⟩ ∧
      frame.buttonColors? .right 1 =
        some ⟨Button.Kind.close.hoveredFill, frame.palette.frame⟩ ∧
      frame.Truthful history := by
  obtain ⟨first, made, update, frame, later, hfit, hmove, hcolors⟩ :
      ∃ (first : Frame) (made : Commons) (update : Update) (frame : Frame)
          (later : ShadowMemo),
        fit false { left := [.menu], right := [.minimize, .close] }
          { id := 1, width := 800, height := 600 } {} = .ok (first, made) ∧
        first.handle made.shadows
          (.window (.pointerMoved (some ⟨780, 10⟩))) =
            .ok (update, frame, later) ∧
        frame.buttonColors? .right 1 =
          some ⟨Button.Kind.close.hoveredFill, frame.palette.frame⟩ :=
    ⟨_, _, _, _, _, rfl, by exact rfl, by exact rfl⟩
  have hchronicled := (Chronicled.fit hfit).handle hmove
  exact ⟨frame, _, hchronicled, rfl, hcolors,
    (truthful_iff hchronicled).2.2.2 _ _ rfl ⟨_, rfl⟩⟩

/-- The pointer moves onto the close button, and then the window gets narrower.
-/
theorem not_truthful_after_resize :
    ∃ (frame : Frame) (history : List Moment) (button : Button),
      frame.Chronicled history ∧
      pointer? history = some ⟨780, 10⟩ ∧
      frame.right.buttons[1]? = some button ∧
      button.rect.contains ⟨780, 10⟩ = .ok false ∧
      button.hovered = true ∧
      frame.buttonColors? .right 1 =
        some ⟨Button.Kind.close.hoveredFill, frame.palette.frame⟩ ∧
      ¬ frame.Truthful history := by
  obtain ⟨first, made, update, hovered, drawn, other, frame, later, button,
      hfit, hmove, hresize, hbutton, hrect, hhovered, hcolors⟩ :
      ∃ (first : Frame) (made : Commons) (update : Update) (hovered : Frame)
          (drawn : ShadowMemo) (other : Update) (frame : Frame)
          (later : ShadowMemo) (button : Button),
        fit false { left := [.menu], right := [.minimize, .close] }
          { id := 1, width := 800, height := 600 } {} = .ok (first, made) ∧
        first.handle made.shadows
          (.window (.pointerMoved (some ⟨780, 10⟩))) =
            .ok (update, hovered, drawn) ∧
        hovered.handle drawn (.window (.resized 640 480)) =
          .ok (other, frame, later) ∧
        frame.right.buttons[1]? = some button ∧
        button.rect = ⟨608, 4, 30, 30⟩ ∧
        button.hovered = true ∧
        frame.buttonColors? .right 1 =
          some ⟨Button.Kind.close.hoveredFill, frame.palette.frame⟩ :=
    ⟨_, _, _, _, _, _, _, _, _, rfl, by exact rfl, by exact rfl, by exact rfl,
      by exact rfl, by exact rfl, by exact rfl⟩
  have hchronicled := ((Chronicled.fit hfit).handle hmove).handle hresize
  refine ⟨frame, _, button, hchronicled, rfl, hbutton, ?_, hhovered, hcolors,
    fun htruthful => ?_⟩
  · rw [hrect]
    rfl
  · have hover := (htruthful .right 1 button hbutton).mp hhovered
    obtain ⟨point, hpointer, hunder⟩ := hover
    cases hpointer
    obtain ⟨found, hfound, hcovers⟩ := Button.Group.under_iff.mp hunder
    rw [show (frame.group .right).buttons[1]? = some button from hbutton]
      at hfound
    cases hfound
    rw [hrect] at hcovers
    exact absurd hcovers (by decide)

end Frame
end WindowChrome
