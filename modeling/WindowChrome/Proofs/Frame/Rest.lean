import WindowChrome.Decoration.Basic

/-! # Frames at rest -/

namespace WindowChrome

def Button.atRest (button : Button) : Button :=
  { button with hovered := false, pressed := false }

def Button.Group.atRest (group : Button.Group) : Button.Group :=
  { group with buttons := group.buttons.map Button.atRest }

/-- The frame without what the pointer did to it, and without the number of
its drawing. -/
def Frame.atRest (frame : Frame) : Frame :=
  { frame with
    left := frame.left.atRest
    right := frame.right.atRest
    action := none
    shadow := frame.shadow.unnumbered }

def Decoration.atRest : Decoration → Decoration
  | .framed frame => .framed frame.atRest
  | .foreign guest => .foreign guest

namespace Button

theorem hoverEach_atRest {pointer : Option Point} {buttons marked : List Button}
    {changed : Bool}
    (hhover : hoverEach pointer buttons = .ok (changed, marked)) :
    marked.map atRest = buttons.map atRest := by
  induction buttons generalizing changed marked with
  | nil =>
      cases hhover
      rfl
  | cons button rest ih =>
      rcases hoverEach_cons_cases hhover with
        ⟨hovered, restChanged, others, _, _, hrest, _, hmarked⟩
      rw [hmarked, List.map_cons, List.map_cons, ih hrest]
      rfl

theorem releaseEach_atRest {point : Point} {buttons released : List Button}
    {touched : Bool} {clicked : Option Kind}
    (hrelease : releaseEach point buttons = .ok (touched, clicked, released)) :
    released.map atRest = buttons.map atRest := by
  induction buttons generalizing touched clicked released with
  | nil =>
      cases hrelease
      rfl
  | cons button rest ih =>
      rcases releaseEach_cons_cases hrelease with
        ⟨restTouched, restClicked, others, hrest, hcases⟩
      have hothers := ih hrest
      rcases hcases with ⟨_, _, _, hreleased⟩ | ⟨_, _, _, hreleased⟩
      · rw [hreleased, List.map_cons, List.map_cons, hothers]
        rfl
      · rw [hreleased, List.map_cons, List.map_cons, hothers]

namespace Group

theorem hover_atRest {group next : Group} {pointer : Option Point}
    {changed : Bool} (hhover : group.hover pointer = .ok (changed, next)) :
    next.atRest = group.atRest := by
  simp only [hover, bind_eq_ok_iff] at hhover
  rcases hhover with ⟨⟨_, buttons⟩, hbuttons, hresult⟩
  cases hresult
  simp only [atRest, hoverEach_atRest hbuttons]

theorem release_atRest {group next : Group} {point : Point} {touched : Bool}
    {clicked : Option Kind}
    (hrelease : group.release point = .ok (touched, clicked, next)) :
    next.atRest = group.atRest := by
  simp only [release, bind_eq_ok_iff] at hrelease
  rcases hrelease with ⟨⟨_, _, buttons⟩, hbuttons, hresult⟩
  cases hresult
  simp only [atRest, releaseEach_atRest hbuttons]

private theorem map_modify_pressed (buttons : List Button) (index : Nat) :
    (buttons.modify index fun button => { button with pressed := true }).map
      Button.atRest = buttons.map Button.atRest := by
  apply List.ext_getElem?
  intro position
  simp only [List.getElem?_map, List.getElem?_modify]
  cases buttons[position]? with
  | none => rfl
  | some button =>
      simp only [Option.map_some]
      split <;> rfl

theorem press?_atRest {group next : Group} {point : Point}
    (hpress : group.press? point = .ok (some next)) :
    next.atRest = group.atRest := by
  simp only [press?, bind_eq_ok_iff] at hpress
  rcases hpress with ⟨position, _, hresult⟩
  cases position with
  | none => cases hresult
  | some index =>
      cases hresult
      simp only [atRest, map_modify_pressed]

end Group
end Button

namespace Frame

theorem hover_atRest {frame next : Frame} {pointer : Option Point}
    {update : Update} (hhover : frame.hover pointer = .ok (update, next)) :
    next.atRest = frame.atRest := by
  simp only [hover, bind_eq_ok_iff] at hhover
  rcases hhover with ⟨⟨_, left⟩, hleft, ⟨_, right⟩, hright, hresult⟩
  cases hresult
  simp only [atRest, Button.Group.hover_atRest hleft,
    Button.Group.hover_atRest hright]

theorem press_atRest {frame next : Frame} {point : Point} {update : Update}
    (hpress : frame.press point = .ok (update, next)) :
    next.atRest = frame.atRest := by
  simp only [press, bind_eq_ok_iff] at hpress
  rcases hpress with ⟨left?, hleft, hpress⟩
  cases left? with
  | some left =>
      cases hpress
      simp only [atRest, Button.Group.press?_atRest hleft]
  | none =>
      simp only [bind_eq_ok_iff] at hpress
      rcases hpress with ⟨right?, hright, hpress⟩
      cases right? with
      | some right =>
          cases hpress
          simp only [atRest, Button.Group.press?_atRest hright]
      | none =>
          cases hpress
          rfl

theorem release_atRest {frame next : Frame} {point : Point} {update : Update}
    (hrelease : frame.release point = .ok (update, next)) :
    next.atRest = frame.atRest := by
  simp only [release, bind_eq_ok_iff] at hrelease
  rcases hrelease with ⟨⟨_, _, left⟩, hleft, ⟨_, _, right⟩, hright, hresult⟩
  cases hresult
  simp only [atRest, Button.Group.release_atRest hleft,
    Button.Group.release_atRest hright]

theorem takeAction_atRest (frame : Frame) :
    frame.takeAction.2.atRest = frame.atRest := rfl

end Frame
end WindowChrome
