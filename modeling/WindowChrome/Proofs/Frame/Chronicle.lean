import WindowChrome.Proofs.Frame.Pointing
import WindowChrome.Proofs.Frame.Telling

/-!
# What marks say about the past

Only the pointer makes marks, and whatever else happens moves or rebuilds
buttons.  So a mark stands exactly if something made it and nothing since has
undone it.
-/

namespace WindowChrome

/-! ## Marks -/

inductive Button.Mark where
  | hovered
  | pressed

def Button.has (button : Button) : Mark → Bool
  | .hovered => button.hovered
  | .pressed => button.pressed

@[simp] theorem Button.has_hovered (button : Button) :
    button.has .hovered = button.hovered := rfl

@[simp] theorem Button.has_pressed (button : Button) :
    button.has .pressed = button.pressed := rfl

theorem Button.has_moved (button : Button) (rect : Rect) (mark : Mark) :
    Button.has { button with rect } mark = button.has mark := by
  cases mark <;> rfl

theorem Button.has_idle (kind : Kind) (mark : Mark) :
    (idle kind).has mark = false := by
  cases mark <;> rfl

namespace Button.Group

def isMarked (group : Group) (mark : Mark) (index : Nat) : Bool :=
  group.buttons[index]?.any (·.has mark)

variable {group : Group} {mark : Mark}

theorem isMarked_iff {index : Nat} :
    group.isMarked mark index = true ↔
      ∃ button, group.buttons[index]? = some button ∧
        button.has mark = true := by
  simp [isMarked, Option.any_eq_true]

theorem isMarked_map {change : Button → Button} {later : Group}
    (hlater : later.buttons = group.buttons.map change)
    (hchange : ∀ button, (change button).has mark = button.has mark)
    (index : Nat) : later.isMarked mark index = group.isMarked mark index := by
  unfold isMarked
  rw [hlater, List.getElem?_map]
  cases group.buttons[index]? with
  | none => rfl
  | some button => exact hchange button

theorem isMarked_refresh (now : Capabilities) (mark : Mark) (index : Nat) :
    (group.refresh now).2.isMarked mark index = true ↔
      ¬ group.visibleKinds now ≠ group.kinds ∧
        group.isMarked mark index = true := by
  unfold refresh
  by_cases hsame : group.visibleKinds now = group.kinds
  · simp [hsame]
  · have hnew : ((group.visibleKinds now)[index]?.map idle).any (·.has mark) =
        false := by
      cases (group.visibleKinds now)[index]? with
      | none => rfl
      | some kind => exact has_idle kind mark
    simp [hsame, isMarked, hnew]

theorem isMarked_ofConfigured (side : Side) (layout : List Kind)
    (capabilities : Capabilities) (mark : Mark) (index : Nat) :
    (ofConfigured side layout capabilities).isMarked mark index = false := by
  rw [Bool.eq_false_iff]
  intro hmarked
  have hbefore := ((isMarked_refresh capabilities mark index).mp hmarked).2
  simp [isMarked] at hbefore

end Button.Group

def Decoration.Event.OfPointer : Decoration.Event → Prop
  | .window (.pointerMoved _) | .window (.pointerPressed _)
  | .window (.pointerReleased _) => True
  | _ => False

namespace Frame

/-! ## What makes and undoes marks -/

/-- New buttons take the place of those on one side. -/
def Moment.Rebuilds (moment : Moment) (side : Button.Side) : Prop :=
  match moment.event with
  | .window (.enabled capabilities) =>
      (moment.frame.group side).visibleKinds capabilities ≠
        (moment.frame.group side).kinds
  | .layout _ _ => moment.frame.borderAlone = false
  | _ => False

def Moment.Presses (moment : Moment) (side : Button.Side) (index : Nat) :
    Prop :=
  ∃ point, moment.event = .window (.pointerPressed point) ∧
    moment.frame.Hits point side index

def Moment.Releases (moment : Moment) : Prop :=
  ∃ point, moment.event = .window (.pointerReleased point)

def Moment.Moves (moment : Moment) : Prop :=
  ∃ pointer, moment.event = .window (.pointerMoved pointer)

def Moment.Enters (moment : Moment) (side : Button.Side) (index : Nat) :
    Prop :=
  ∃ point, moment.event = .window (.pointerMoved (some point)) ∧
    moment.frame.Under point side index

def Moment.Makes (moment : Moment) : Button.Mark → Button.Side → Nat → Prop
  | .hovered => moment.Enters
  | .pressed => moment.Presses

def Moment.Clears (moment : Moment) : Button.Mark → Prop
  | .hovered => moment.Moves
  | .pressed => moment.Releases

theorem Moment.ofPointer_of_makes {moment : Moment} {mark : Button.Mark}
    {side : Button.Side} {index : Nat}
    (hmakes : moment.Makes mark side index) : moment.event.OfPointer := by
  cases mark with
  | hovered =>
      obtain ⟨point, hmoved, -⟩ := hmakes
      rw [hmoved]
      trivial
  | pressed =>
      obtain ⟨point, hpressed, -⟩ := hmakes
      rw [hpressed]
      trivial

theorem Moment.ofPointer_of_clears {moment : Moment} {mark : Button.Mark}
    (hclears : moment.Clears mark) : moment.event.OfPointer := by
  cases mark with
  | hovered =>
      obtain ⟨pointer, hmoved⟩ := hclears
      rw [hmoved]
      trivial
  | pressed =>
      obtain ⟨point, hreleased⟩ := hclears
      rw [hreleased]
      trivial

/-- Something happened in a history, and nothing since has undone it. -/
def Stands (happened undone : Moment → Prop) (history : List Moment) : Prop :=
  ∃ since moment earlier, history = since ++ moment :: earlier ∧
    happened moment ∧ ∀ later ∈ since, ¬ undone later

section

variable {happened undone : Moment → Prop}

theorem not_stands_nil : ¬ Stands happened undone [] := by
  rintro ⟨since, moment, earlier, hhistory, -⟩
  simp at hhistory

theorem stands_cons {moment : Moment} {history : List Moment} :
    Stands happened undone (moment :: history) ↔
      happened moment ∨ (¬ undone moment ∧ Stands happened undone history) := by
  constructor
  · rintro ⟨since, first, earlier, hhistory, hhappened, hsince⟩
    cases since with
    | nil =>
        cases hhistory
        exact .inl hhappened
    | cons last since =>
        cases hhistory
        rw [List.forall_mem_cons] at hsince
        exact .inr ⟨hsince.1, since, first, earlier, rfl, hhappened, hsince.2⟩
  · rintro (hhappened |
      ⟨hstands, since, first, earlier, rfl, hhappened, hsince⟩)
    · exact ⟨[], moment, history, rfl, hhappened, by simp⟩
    · refine ⟨moment :: since, first, earlier, rfl, hhappened, ?_⟩
      rw [List.forall_mem_cons]
      exact ⟨hstands, hsince⟩

end

/-! ## What other events do to marks -/

variable {frame next : Frame} {update : Update} {shadows later : ShadowMemo}
  {mark : Button.Mark}

theorem isMarked_moveRow {group : Button.Group}
    {rects : List Rect} (hlength : rects.length = group.buttons.length)
    (index : Nat) :
    Button.Group.isMarked
        { group with buttons := moveRow group.buttons rects } mark index =
      group.isMarked mark index := by
  simp only [Button.Group.isMarked, moveRow, List.getElem?_zipWith]
  by_cases hlt : index < group.buttons.length
  · rw [List.getElem?_eq_getElem hlt,
      List.getElem?_eq_getElem (show index < rects.length by omega)]
    exact Button.has_moved _ _ mark
  · rw [List.getElem?_eq_none (Nat.le_of_not_lt hlt)]

theorem isMarked_of_layOut (hlayOut : frame.layOut = .ok next)
    (side : Button.Side) (index : Nat) :
    (next.group side).isMarked mark index =
      (frame.group side).isMarked mark index := by
  cases halone : frame.borderAlone with
  | true =>
      rw [layOut_of_borderAlone halone] at hlayOut
      cases hlayOut
      rfl
  | false =>
      rw [layOut_eq halone, map_eq_ok_iff] at hlayOut
      obtain ⟨found, hfound, rfl⟩ := hlayOut
      obtain ⟨hleft, hright⟩ := length_of_places hfound
      cases side with
      | left => exact isMarked_moveRow hleft index
      | right => exact isMarked_moveRow hright index

theorem isMarked_of_relayOut
    (hrelayOut : frame.relayOut = .ok (update, next)) (side : Button.Side)
    (index : Nat) :
    (next.group side).isMarked mark index =
      (frame.group side).isMarked mark index :=
  isMarked_of_layOut (layOut_of_relayOut hrelayOut) side index

theorem isMarked_of_maximize {on : Bool}
    (hmaximize : frame.maximize on = .ok (update, next)) (side : Button.Side)
    (index : Nat) :
    (next.group side).isMarked mark index =
      (frame.group side).isMarked mark index := by
  rcases maximize_cases hmaximize with ⟨-, -, rfl⟩ | ⟨laid, hrelayOut, -⟩
  · rfl
  · rw [isMarked_of_relayOut hrelayOut]
    cases side <;> rfl

theorem isMarked_of_enable {capabilities : Capabilities}
    (henable : frame.enable capabilities = .ok (update, next))
    (side : Button.Side) (index : Nat) :
    (next.group side).isMarked mark index =
      ((frame.group side).refresh capabilities).2.isMarked mark index := by
  rcases enable_cases henable with hrelayOut | ⟨hleft, hright, -, rfl⟩
  · rw [isMarked_of_relayOut hrelayOut]
    cases side <;> rfl
  · cases side with
    | left => rw [group, group, Button.Group.refresh_eq_self hleft]
    | right => rw [group, group, Button.Group.refresh_eq_self hright]

theorem isMarked_of_handleWindow {event : WindowEvent}
    (hevent : ¬ Decoration.Event.OfPointer (.window event))
    (hhandle : frame.handleWindow shadows event = .ok (update, next, later))
    (side : Button.Side) (index : Nat) :
    (next.group side).isMarked mark index = true ↔
      ¬ Moment.Rebuilds ⟨frame, .window event, update, next⟩ side ∧
        (frame.group side).isMarked mark index = true := by
  cases event with
  | resized width height =>
      obtain ⟨hrelayOut, -⟩ := handled_of_handleWindow rfl hhandle
      rw [isMarked_of_relayOut hrelayOut]
      cases side <;> simp [Moment.Rebuilds, group]
  | maximized on =>
      obtain ⟨hmaximize, -⟩ := handled_of_handleWindow rfl hhandle
      rw [isMarked_of_maximize hmaximize]
      simp [Moment.Rebuilds]
  | activated on =>
      cases hhandle
      cases side <;> simp [Moment.Rebuilds, group]
  | retitled caption =>
      cases hhandle
      cases side <;> simp [Moment.Rebuilds, group]
  | enabled capabilities =>
      obtain ⟨henable, -⟩ := handled_of_handleWindow rfl hhandle
      rw [isMarked_of_enable henable]
      exact Button.Group.isMarked_refresh capabilities mark index
  | pointerMoved pointer => exact absurd trivial hevent
  | pointerPressed point => exact absurd trivial hevent
  | pointerReleased point => exact absurd trivial hevent

/-- Events that do not come of the pointer make no marks.  They leave a group as
it is, apart from its place, or rebuild it. -/
theorem isMarked_of_handle {event : Decoration.Event} (hevent : ¬ event.OfPointer)
    (hhandle : frame.handle shadows event = .ok (update, next, later))
    (side : Button.Side) (index : Nat) :
    (next.group side).isMarked mark index = true ↔
      ¬ Moment.Rebuilds ⟨frame, event, update, next⟩ side ∧
        (frame.group side).isMarked mark index = true := by
  cases event with
  | window event =>
      exact isMarked_of_handleWindow hevent hhandle side index
  | theme id =>
      cases hhandle
      cases side <;> simp [Moment.Rebuilds, group]
  | font font =>
      cases hhandle
      cases side <;> simp [Moment.Rebuilds, group]
  | layout left right =>
      obtain ⟨-, ⟨halone, -, rfl⟩ | ⟨hchrome, hrelayOut⟩⟩ :=
        layout_cases hhandle
      · simp [Moment.Rebuilds, halone]
      · rw [isMarked_of_relayOut hrelayOut]
        have hidle := Button.Group.isMarked_ofConfigured
        cases side <;> simp [Moment.Rebuilds, group, hchrome, hidle]

theorem isMarked_of_fit {sized : Bool} {look : Look} {window : Window}
    {commons made : Commons}
    (hfit : fit sized look window commons = .ok (frame, made))
    (side : Button.Side) (index : Nat) :
    (frame.group side).isMarked mark index = false := by
  rw [fit_eq, map_eq_ok_iff] at hfit
  obtain ⟨placed, hlayOut, hresult⟩ := hfit
  cases hresult
  rw [isMarked_of_layOut hlayOut]
  cases side <;> exact Button.Group.isMarked_ofConfigured _ _ _ _ _

end Frame

/-! ## What the pointer does to marks -/

namespace Button

def hoveredBy (pointer : Option Point) (button : Button) : Button :=
  { button with
    hovered := pointer.any fun point => decide (button.rect.Covers point) }

def letGo (button : Button) : Button := { button with pressed := false }

theorem eq_map_of_hoverEach {pointer : Option Point}
    {buttons marked : List Button} {changed : Bool}
    (hhover : hoverEach pointer buttons = .ok (changed, marked)) :
    marked = buttons.map (hoveredBy pointer) := by
  induction buttons generalizing changed marked with
  | nil =>
      cases hhover
      rfl
  | cons button rest ih =>
      rcases hoverEach_cons_cases hhover with
        ⟨hovered, restChanged, others, hcontains, hnone, hrest, _, hmarked⟩
      have hhovered : hovered = pointer.any fun point =>
          decide (button.rect.Covers point) := by
        cases pointer with
        | none => exact hnone rfl
        | some point => exact Rect.eq_of_contains (hcontains point rfl)
      rw [hmarked, ih hrest, hhovered]
      rfl

theorem eq_map_of_releaseEach {point : Point} {buttons released : List Button}
    {touched : Bool} {clicked : Option Kind}
    (hrelease : releaseEach point buttons = .ok (touched, clicked, released)) :
    released = buttons.map letGo := by
  induction buttons generalizing touched clicked released with
  | nil =>
      cases hrelease
      rfl
  | cons button rest ih =>
      rcases releaseEach_cons_cases hrelease with
        ⟨restTouched, restClicked, others, hrest, hcases⟩
      rcases hcases with ⟨_, _, _, hreleased⟩ | ⟨hpressed, _, _, hreleased⟩
      · rw [hreleased, ih hrest]
        rfl
      · have hsame : button.letGo = button := by
          unfold letGo
          rw [← hpressed]
        rw [hreleased, ih hrest, List.map_cons, hsame]

namespace Group

variable {group : Group}

theorem isPressed_hold {index : Nat} (hlt : index < group.buttons.length)
    (position : Nat) :
    (group.hold index).isMarked .pressed position = true ↔
      position = index ∨ group.isMarked .pressed position = true := by
  simp only [isMarked, hold, List.getElem?_modify]
  by_cases hsame : index = position
  · subst hsame
    simp [hlt]
  · simp [hsame, Ne.symm hsame]

theorem isHovered_hold (index position : Nat) :
    (group.hold index).isMarked .hovered position =
      group.isMarked .hovered position := by
  simp only [isMarked, hold, List.getElem?_modify]
  cases group.buttons[position]? with
  | none => rfl
  | some button => split <;> rfl

theorem Under.lt {point : Point} {index : Nat}
    (hunder : group.Under point index) : index < group.buttons.length := by
  obtain ⟨rect, hrect, -⟩ := hunder
  obtain ⟨hlt, -⟩ := List.getElem?_eq_some_iff.mp hrect
  simpa [rects] using hlt

theorem under_iff {point : Point} {index : Nat} :
    group.Under point index ↔
      ∃ button, group.buttons[index]? = some button ∧
        button.rect.Covers point := by
  simp [Under, rects]

end Group
end Button

namespace Frame

variable {frame next : Frame} {update : Update} {shadows later : ShadowMemo}

theorem hover_of_handle {pointer : Option Point}
    (hhandle : frame.handle shadows (.window (.pointerMoved pointer)) =
      .ok (update, next, later)) : frame.hover pointer = .ok (update, next) :=
  (handled_of_handleWindow rfl
    (show frame.handleWindow shadows (.pointerMoved pointer) = _
      from hhandle)).1

theorem press_of_handle {point : Point}
    (hhandle : frame.handle shadows (.window (.pointerPressed point)) =
      .ok (update, next, later)) : frame.press point = .ok (update, next) :=
  (handled_of_handleWindow rfl
    (show frame.handleWindow shadows (.pointerPressed point) = _
      from hhandle)).1

theorem release_of_handle {point : Point}
    (hhandle : frame.handle shadows (.window (.pointerReleased point)) =
      .ok (update, next, later)) : frame.release point = .ok (update, next) :=
  (handled_of_handleWindow rfl
    (show frame.handleWindow shadows (.pointerReleased point) = _
      from hhandle)).1

theorem buttons_of_hover {pointer : Option Point}
    (hhover : frame.hover pointer = .ok (update, next)) (side : Button.Side) :
    (next.group side).buttons =
      (frame.group side).buttons.map (Button.hoveredBy pointer) := by
  simp only [hover, Button.Group.hover, bind_eq_ok_iff] at hhover
  obtain ⟨⟨_, _⟩, ⟨⟨_, leftButtons⟩, hleft, ⟨⟩⟩, ⟨_, _⟩,
    ⟨⟨_, rightButtons⟩, hright, ⟨⟩⟩, ⟨⟩⟩ := hhover
  cases side with
  | left => exact Button.eq_map_of_hoverEach hleft
  | right => exact Button.eq_map_of_hoverEach hright

theorem buttons_of_release {point : Point}
    (hrelease : frame.release point = .ok (update, next))
    (side : Button.Side) :
    (next.group side).buttons =
      (frame.group side).buttons.map Button.letGo := by
  simp only [release, Button.Group.release, bind_eq_ok_iff] at hrelease
  obtain ⟨⟨_, _, _⟩, ⟨⟨_, _, leftButtons⟩, hleft, ⟨⟩⟩, ⟨_, _, _⟩,
    ⟨⟨_, _, rightButtons⟩, hright, ⟨⟩⟩, ⟨⟩⟩ := hrelease
  cases side with
  | left => exact Button.eq_map_of_releaseEach hleft
  | right => exact Button.eq_map_of_releaseEach hright

theorem isHovered_of_hover {pointer : Option Point}
    (hhover : frame.hover pointer = .ok (update, next)) (side : Button.Side)
    (index : Nat) :
    (next.group side).isMarked .hovered index = true ↔
      ∃ point, pointer = some point ∧ frame.Under point side index := by
  simp only [Under, Button.Group.isMarked_iff, Button.Group.under_iff,
    buttons_of_hover hhover side, List.getElem?_map, Option.map_eq_some_iff]
  constructor
  · rintro ⟨_, ⟨button, hbutton, rfl⟩, hhovered⟩
    simp only [Button.has_hovered, Button.hoveredBy, Option.any_eq_true,
      decide_eq_true_eq] at hhovered
    obtain ⟨point, hpointer, hcovers⟩ := hhovered
    exact ⟨point, hpointer, button, hbutton, hcovers⟩
  · rintro ⟨point, rfl, button, hbutton, hcovers⟩
    exact ⟨_, ⟨button, hbutton, rfl⟩, by simpa [Button.hoveredBy] using hcovers⟩

theorem isPressed_of_hover {pointer : Option Point}
    (hhover : frame.hover pointer = .ok (update, next)) (side : Button.Side)
    (index : Nat) :
    (next.group side).isMarked .pressed index =
      (frame.group side).isMarked .pressed index :=
  Button.Group.isMarked_map (buttons_of_hover hhover side) (fun _ => rfl) index

theorem isHovered_of_release {point : Point}
    (hrelease : frame.release point = .ok (update, next)) (side : Button.Side)
    (index : Nat) :
    (next.group side).isMarked .hovered index =
      (frame.group side).isMarked .hovered index :=
  Button.Group.isMarked_map (buttons_of_release hrelease side) (fun _ => rfl)
    index

theorem pressed_of_release {point : Point}
    (hrelease : frame.release point = .ok (update, next)) (side : Button.Side) :
    ∀ button ∈ (next.group side).buttons, button.pressed = false := by
  intro button hbutton
  rw [buttons_of_release hrelease side, List.mem_map] at hbutton
  obtain ⟨held, -, rfl⟩ := hbutton
  rfl

theorem isPressed_of_release {point : Point}
    (hrelease : frame.release point = .ok (update, next)) (side : Button.Side)
    (index : Nat) : (next.group side).isMarked .pressed index = false := by
  rw [Bool.eq_false_iff]
  intro hmarked
  obtain ⟨button, hbutton, hpressed⟩ := Button.Group.isMarked_iff.mp hmarked
  rw [Button.has_pressed, pressed_of_release hrelease side button
    (List.mem_of_getElem? hbutton)] at hpressed
  cases hpressed

theorem group_hold (frame : Frame) (held side : Button.Side) (index : Nat) :
    (frame.hold held index).group side =
      if held = side then (frame.group side).hold index
      else frame.group side := by
  cases held <;> cases side <;> rfl

theorem isHovered_of_press {point : Point}
    (hpress : frame.press point = .ok (update, next)) (side : Button.Side)
    (index : Nat) :
    (next.group side).isMarked .hovered index =
      (frame.group side).isMarked .hovered index := by
  rcases press_cases hpress with ⟨held, position, -, hnext⟩ | ⟨-, hnext⟩
  · rw [hnext, group_hold]
    split
    · exact Button.Group.isHovered_hold position index
    · rfl
  · rw [hnext]

theorem isPressed_of_press {point : Point}
    (hpress : frame.press point = .ok (update, next)) (side : Button.Side)
    (index : Nat) :
    (next.group side).isMarked .pressed index = true ↔
      frame.Hits point side index ∨
        (frame.group side).isMarked .pressed index = true := by
  rcases press_cases hpress with ⟨held, position, hhits, hnext⟩ | ⟨hnone, hnext⟩
  · have hhit : frame.Hits point side index ↔
        held = side ∧ index = position := by
      constructor
      · intro hother
        exact ⟨(hhits.unique hother).1, (hhits.unique hother).2.symm⟩
      · rintro ⟨rfl, rfl⟩
        exact hhits
    rw [hnext, group_hold, hhit]
    by_cases hside : held = side
    · subst hside
      have hlt := Button.Group.Under.lt hhits.under
      rw [if_pos rfl, Button.Group.isPressed_hold hlt]
      simp
    · simp [hside]
  · have hmissed : ¬ frame.Hits point side index :=
      fun hhits => hnone side index hhits.under
    simp [hnext, hmissed]

theorem isMarked_of_pointer {event : Decoration.Event}
    (hevent : event.OfPointer)
    (hhandle : frame.handle shadows event = .ok (update, next, later))
    (mark : Button.Mark) (side : Button.Side) (index : Nat) :
    (next.group side).isMarked mark index = true ↔
      Moment.Makes ⟨frame, event, update, next⟩ mark side index ∨
        (¬ Moment.Clears ⟨frame, event, update, next⟩ mark ∧
          (frame.group side).isMarked mark index = true) := by
  cases event with
  | window event =>
      cases event with
      | pointerMoved pointer =>
          have hhover := hover_of_handle hhandle
          cases mark with
          | hovered =>
              rw [isHovered_of_hover hhover]
              simp [Moment.Makes, Moment.Clears, Moment.Enters, Moment.Moves]
          | pressed =>
              rw [isPressed_of_hover hhover]
              simp [Moment.Makes, Moment.Clears, Moment.Presses,
                Moment.Releases]
      | pointerPressed point =>
          have hpress := press_of_handle hhandle
          cases mark with
          | hovered =>
              rw [isHovered_of_press hpress]
              simp [Moment.Makes, Moment.Clears, Moment.Enters, Moment.Moves]
          | pressed =>
              rw [isPressed_of_press hpress]
              simp [Moment.Makes, Moment.Clears, Moment.Presses,
                Moment.Releases]
      | pointerReleased point =>
          have hrelease := release_of_handle hhandle
          cases mark with
          | hovered =>
              rw [isHovered_of_release hrelease]
              simp [Moment.Makes, Moment.Clears, Moment.Enters, Moment.Moves]
          | pressed =>
              rw [isPressed_of_release hrelease]
              simp [Moment.Makes, Moment.Clears, Moment.Presses,
                Moment.Releases]
      | _ => exact hevent.elim
  | _ => exact hevent.elim

theorem not_rebuilds_of_pointer {moment : Moment}
    (hevent : moment.event.OfPointer) (side : Button.Side) :
    ¬ moment.Rebuilds side := by
  obtain ⟨before, event, update, after⟩ := moment
  cases event with
  | window event =>
      cases event with
      | enabled capabilities => exact hevent.elim
      | _ => exact id
  | layout left right => exact hevent.elim
  | _ => exact id

/-! ## Where marks come from -/

/-- The mark was made, and since then it was neither cleared nor were the
buttons on its side rebuilt. -/
def Lasts (history : List Moment) (mark : Button.Mark) (side : Button.Side)
    (index : Nat) : Prop :=
  Stands (·.Makes mark side index)
    (fun moment => moment.Clears mark ∨ moment.Rebuilds side) history

theorem lasts_cons {moment : Moment} {history : List Moment}
    {side : Button.Side} {index : Nat} :
    Lasts (moment :: history) mark side index ↔
      moment.Makes mark side index ∨
        (¬ (moment.Clears mark ∨ moment.Rebuilds side) ∧
          Lasts history mark side index) :=
  stands_cons

theorem Past.isMarked_iff {meanwhile : ShadowMemo → ShadowMemo → Prop}
    {first : Frame} {made : ShadowMemo} {history : List Moment}
    (hpast : Past meanwhile first made history frame shadows)
    {mark : Button.Mark} {side : Button.Side} {index : Nat}
    (hfirst : (first.group side).isMarked mark index = false) :
    (frame.group side).isMarked mark index = true ↔
      Lasts history mark side index := by
  induction hpast with
  | refl => simp [hfirst, Lasts, not_stands_nil]
  | @handle history frame next event update _ _ _ hhandle ih =>
      rw [lasts_cons, ← ih]
      by_cases hevent : event.OfPointer
      · have hkept : ¬ Moment.Rebuilds ⟨frame, event, update, next⟩ side :=
          not_rebuilds_of_pointer hevent side
        rw [isMarked_of_pointer hevent hhandle]
        simp [hkept]
      · have hunmade : ¬ Moment.Makes ⟨frame, event, update, next⟩ mark side
            index := mt Moment.ofPointer_of_makes hevent
        have huncleared : ¬ Moment.Clears ⟨frame, event, update, next⟩ mark :=
          mt Moment.ofPointer_of_clears hevent
        rw [isMarked_of_handle hevent hhandle]
        simp [hunmade, huncleared]
  | takeAction _ ih =>
      rw [← ih]
      cases side <;> rfl
  | share _ _ ih => exact ih

theorem Chronicled.isMarked_iff {history : List Moment}
    (hchronicled : frame.Chronicled history) (mark : Button.Mark)
    (side : Button.Side) (index : Nat) :
    (frame.group side).isMarked mark index = true ↔
      Lasts history mark side index := by
  obtain ⟨sized, look, window, commons, first, made, shadows, hfit, hpast⟩ :=
    hchronicled
  exact hpast.isMarked_iff (isMarked_of_fit hfit side index)

end Frame
end WindowChrome
