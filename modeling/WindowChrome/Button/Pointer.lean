import WindowChrome.Button.Group

/-! # The pointer on a group of buttons -/

namespace WindowChrome.Button

/-- Marks each button by whether it is under the pointer, and says whether a
mark changed.  A pointer that has left is over no button. -/
def hoverEach (pointer : Option Point) :
    List Button → Except Fault (Bool × List Button)
  | [] => .ok (false, [])
  | button :: rest => do
      let hovered ← match pointer with
        | some point => button.rect.contains point
        | none => pure false
      let (changed, marked) ← hoverEach pointer rest
      return (button.hovered != hovered || changed,
        { button with hovered } :: marked)

theorem hoverEach_cons_cases {pointer : Option Point} {button : Button}
    {rest marked : List Button} {changed : Bool}
    (hhover : hoverEach pointer (button :: rest) = .ok (changed, marked)) :
    ∃ hovered restChanged others,
      (∀ point, pointer = some point →
        button.rect.contains point = .ok hovered) ∧
      (pointer = none → hovered = false) ∧
      hoverEach pointer rest = .ok (restChanged, others) ∧
      changed = (button.hovered != hovered || restChanged) ∧
      marked = { button with hovered } :: others := by
  cases pointer with
  | none =>
      simp only [hoverEach, bind_eq_ok_iff] at hhover
      rcases hhover with
        ⟨hovered, hnone, ⟨restChanged, others⟩, hrest, hresult⟩
      cases hnone
      cases hresult
      exact ⟨false, restChanged, others, by simp, fun _ => rfl, hrest, rfl,
        rfl⟩
  | some point =>
      simp only [hoverEach, bind_eq_ok_iff] at hhover
      rcases hhover with
        ⟨hovered, hcontains, ⟨restChanged, others⟩, hrest, hresult⟩
      cases hresult
      refine ⟨hovered, restChanged, others, ?_, by simp, hrest, rfl, rfl⟩
      intro other hother
      cases hother
      exact hcontains

/-- Clears the mark of pressing on each button, and gives whether there was
one and the last button clicked. -/
def releaseEach (point : Point) :
    List Button → Except Fault (Bool × Option Kind × List Button)
  | [] => .ok (false, none, [])
  | button :: rest => do
      if button.pressed then
        let hit ← button.rect.contains point
        let (_, clicked, released) ← releaseEach point rest
        let here := if hit then some button.kind else none
        return (true, clicked.or here, { button with pressed := false } :: released)
      else
        let (touched, clicked, released) ← releaseEach point rest
        return (touched, clicked, button :: released)

theorem releaseEach_cons_cases {point : Point} {button : Button}
    {rest released : List Button} {touched : Bool} {clicked : Option Kind}
    (hrelease : releaseEach point (button :: rest) =
      .ok (touched, clicked, released)) :
    ∃ restTouched restClicked others,
      releaseEach point rest = .ok (restTouched, restClicked, others) ∧
      ((button.pressed = true ∧ touched = true ∧
        (∃ hit, button.rect.contains point = .ok hit ∧
          clicked = restClicked.or (if hit then some button.kind else none)) ∧
        released = { button with pressed := false } :: others) ∨
      (button.pressed = false ∧ touched = restTouched ∧
        clicked = restClicked ∧ released = button :: others)) := by
  simp only [releaseEach] at hrelease
  split at hrelease
  · next hpressed =>
      simp only [bind_eq_ok_iff] at hrelease
      rcases hrelease with
        ⟨hit, hcontains, ⟨restTouched, restClicked, others⟩, hrest, hresult⟩
      cases hresult
      exact ⟨restTouched, restClicked, others, hrest,
        .inl ⟨hpressed, rfl, ⟨hit, hcontains, rfl⟩, rfl⟩⟩
  · next hpressed =>
      simp only [bind_eq_ok_iff] at hrelease
      rcases hrelease with
        ⟨⟨restTouched, restClicked, others⟩, hrest, hresult⟩
      cases hresult
      exact ⟨restTouched, restClicked, others, hrest,
        .inr ⟨Bool.eq_false_iff.mpr hpressed, rfl, rfl, rfl⟩⟩

namespace Group

def hover (group : Group) (pointer : Option Point) :
    Except Fault (Bool × Group) := do
  let (changed, buttons) ← hoverEach pointer group.buttons
  return (changed, { group with buttons })

def press? (group : Group) (point : Point) : Except Fault (Option Group) := do
  let position ← group.buttonAt point
  return position.map fun index =>
    { group with
      buttons := group.buttons.modify index fun button =>
        { button with pressed := true } }

def release (group : Group) (point : Point) :
    Except Fault (Bool × Option Kind × Group) := do
  let (touched, clicked, buttons) ← releaseEach point group.buttons
  return (touched, clicked, { group with buttons })

end Group

end WindowChrome.Button
