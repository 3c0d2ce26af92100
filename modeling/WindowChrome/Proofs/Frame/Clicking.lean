import WindowChrome.Proofs.Frame.Chronicle

/-! # Clicks are presses and releases on one button -/

namespace WindowChrome

namespace Button

/-- Where a release does not fault, it has tested every pressed button. -/
theorem hitBy_iff_of_releaseEach {point : Point}
    {buttons released : List Button} {touched : Bool} {clicked : Option Kind}
    (hrelease : releaseEach point buttons = .ok (touched, clicked, released)) :
    ∀ button ∈ buttons, button.HitBy point ↔
      button.pressed = true ∧ button.rect.Covers point := by
  induction buttons generalizing touched clicked released with
  | nil => simp
  | cons button rest ih =>
      rw [List.forall_mem_cons]
      rcases releaseEach_cons_cases hrelease with
        ⟨restTouched, restClicked, others, hrest, hcases⟩
      refine ⟨?_, ih hrest⟩
      rcases hcases with ⟨_, _, ⟨hit, hcontains, _⟩, _⟩ | ⟨hpressed, _⟩
      · rw [HitBy, hcontains, Rect.eq_of_contains hcontains]
        simp
      · simp [HitBy, hpressed]

end Button

namespace Frame

/-- A press has hit the button since the last release, and the buttons on its
side have not been rebuilt since. -/
def Held (history : List Moment) (side : Button.Side) (index : Nat) : Prop :=
  Lasts history .pressed side index

variable {frame next : Frame} {history : List Moment} {update : Update}
  {shadows later : ShadowMemo} {side : Button.Side} {index : Nat}

def Clickable (frame : Frame) (history : List Moment) (point : Point)
    (side : Button.Side) (index : Nat) : Prop :=
  Held history side index ∧ frame.Under point side index

/-- The position of a button among those of both sides, the left side coming
before the right one. -/
def rank (frame : Frame) : Button.Side → Nat → Nat
  | .left, index => index
  | .right, index => frame.left.buttons.length + index

structure Counts (frame : Frame) (history : List Moment) (point : Point)
    (side : Button.Side) (index : Nat) : Prop where
  clickable : frame.Clickable history point side index
  last : ∀ other position, frame.Clickable history point other position →
    frame.rank other position ≤ frame.rank side index

theorem getElem?_rank {button : Button}
    (hbutton : (frame.group side).buttons[index]? = some button) :
    (frame.left.buttons ++ frame.right.buttons)[frame.rank side index]? =
      some button := by
  cases side with
  | left =>
      obtain ⟨hlt, -⟩ := List.getElem?_eq_some_iff.mp hbutton
      exact (List.getElem?_append_left hlt).trans hbutton
  | right =>
      rw [rank, List.getElem?_append_right (Nat.le_add_right _ _),
        Nat.add_sub_cancel_left]
      exact hbutton

theorem exists_rank {position : Nat} {button : Button}
    (hbutton : (frame.left.buttons ++ frame.right.buttons)[position]? =
      some button) :
    ∃ side index, frame.rank side index = position ∧
      (frame.group side).buttons[index]? = some button := by
  by_cases hlt : position < frame.left.buttons.length
  · rw [List.getElem?_append_left hlt] at hbutton
    exact ⟨.left, position, rfl, hbutton⟩
  · have hle := Nat.le_of_not_lt hlt
    rw [List.getElem?_append_right hle] at hbutton
    exact ⟨.right, _, Nat.add_sub_of_le hle, hbutton⟩

theorem hitBy_iff_of_release {point : Point}
    (hrelease : frame.release point = .ok (update, next)) :
    ∀ button ∈ frame.left.buttons ++ frame.right.buttons,
      button.HitBy point ↔
        button.pressed = true ∧ button.rect.Covers point := by
  simp only [release, Button.Group.release, bind_eq_ok_iff] at hrelease
  obtain ⟨⟨_, _, _⟩, ⟨⟨_, _, _⟩, hleft, -⟩, ⟨_, _, _⟩,
    ⟨⟨_, _, _⟩, hright, -⟩, -⟩ := hrelease
  intro button hbutton
  rcases List.mem_append.mp hbutton with hbutton | hbutton
  · exact Button.hitBy_iff_of_releaseEach hleft button hbutton
  · exact Button.hitBy_iff_of_releaseEach hright button hbutton

theorem Chronicled.clickable_iff (hchronicled : frame.Chronicled history)
    {point : Point} (hrelease : frame.release point = .ok (update, next))
    (side : Button.Side) (index : Nat) :
    frame.Clickable history point side index ↔
      ∃ button, (frame.group side).buttons[index]? = some button ∧
        button.HitBy point := by
  have hhit : ∀ {button},
      (frame.group side).buttons[index]? = some button →
        (button.HitBy point ↔
          button.pressed = true ∧ button.rect.Covers point) := by
    intro button hbutton
    exact hitBy_iff_of_release hrelease button
      (List.mem_of_getElem? (getElem?_rank hbutton))
  simp only [Clickable, Held, ← hchronicled.isMarked_iff, Under,
    Button.Group.isMarked_iff, Button.Group.under_iff, Button.has_pressed]
  constructor
  · rintro ⟨⟨button, hbutton, hpressed⟩, ⟨other, hother, hcovers⟩⟩
    rw [hbutton, Option.some.injEq] at hother
    subst hother
    exact ⟨button, hbutton, (hhit hbutton).mpr ⟨hpressed, hcovers⟩⟩
  · rintro ⟨button, hbutton, hclicked⟩
    obtain ⟨hpressed, hcovers⟩ := (hhit hbutton).mp hclicked
    exact ⟨⟨button, hbutton, hpressed⟩, ⟨button, hbutton, hcovers⟩⟩

structure Clicks (frame : Frame) (history : List Moment)
    (event : Decoration.Event) (update : Update) (next : Frame) : Prop where
  reported_iff : ∀ point, event = .window (.pointerReleased point) →
    (update.action = true ↔
      ∃ side index, frame.Clickable history point side index)
  taken : ∀ point, event = .window (.pointerReleased point) →
    update.action = true → ∃ side index button,
      frame.Counts history point side index ∧
      (frame.group side).buttons[index]? = some button ∧
      next.takeAction.1 = some button.kind
  unpressed : ∀ point, event = .window (.pointerReleased point) →
    ∀ side, ∀ button ∈ (next.group side).buttons, button.pressed = false
  unclicked : update.action = false → next.action = frame.action
  silent : (∀ point, event ≠ .window (.pointerReleased point)) →
    update.action = false

theorem Chronicled.counts_of_clicked (hchronicled : frame.Chronicled history)
    {point : Point} (hrelease : frame.release point = .ok (update, next))
    {button : Button} (hclicked : frame.Clicked point button) :
    ∃ side index, frame.Counts history point side index ∧
      (frame.group side).buttons[index]? = some button := by
  obtain ⟨before, after, hbuttons, hhit, hafter⟩ := hclicked
  have hposition :
      (frame.left.buttons ++ frame.right.buttons)[before.length]? =
        some button := by
    simp [hbuttons]
  obtain ⟨side, index, hrank, hbutton⟩ := exists_rank hposition
  have hclickable := hchronicled.clickable_iff hrelease
  refine ⟨side, index, ⟨(hclickable side index).mpr ⟨button, hbutton, hhit⟩,
    fun other position hother => ?_⟩, hbutton⟩
  obtain ⟨second, hsecond, hhitSecond⟩ := (hclickable other position).mp hother
  have hplace := getElem?_rank hsecond
  rw [hrank]
  by_contra hbeyond
  have hmem : second ∈ after := by
    rw [hbuttons, List.getElem?_append_right (by omega)] at hplace
    obtain ⟨offset, hoffset⟩ : ∃ offset,
        frame.rank other position - before.length = offset + 1 :=
      ⟨_, (Nat.sub_add_cancel (by omega)).symm⟩
    rw [hoffset, List.getElem?_cons_succ] at hplace
    exact List.mem_of_getElem? hplace
  exact hafter second hmem hhitSecond

theorem Chronicled.reported_iff_of_release
    (hchronicled : frame.Chronicled history) {point : Point}
    (hrelease : frame.release point = .ok (update, next)) :
    update.action = true ↔
      ∃ side index, frame.Clickable history point side index := by
  obtain ⟨clicked, htells, hnone, hsome⟩ := tells_of_release hrelease
  rw [htells.action_isSome]
  constructor
  · intro hreported
    obtain ⟨kind, hkind⟩ := Option.isSome_iff_exists.mp hreported
    obtain ⟨button, hbutton, -⟩ := hsome kind hkind
    obtain ⟨side, index, hcounts, -⟩ :=
      hchronicled.counts_of_clicked hrelease hbutton
    exact ⟨side, index, hcounts.clickable⟩
  · rintro ⟨side, index, hclickable⟩
    obtain ⟨button, hbutton, hhit⟩ :=
      (hchronicled.clickable_iff hrelease side index).mp hclickable
    rw [Option.isSome_iff_ne_none]
    intro habsent
    exact hnone habsent button
      (List.mem_of_getElem? (getElem?_rank hbutton)) hhit

theorem Chronicled.taken_of_release
    (hchronicled : frame.Chronicled history) {point : Point}
    (hrelease : frame.release point = .ok (update, next))
    (hreported : update.action = true) :
    ∃ side index button, frame.Counts history point side index ∧
      (frame.group side).buttons[index]? = some button ∧
      next.takeAction.1 = some button.kind := by
  obtain ⟨clicked, htells, -, hsome⟩ := tells_of_release hrelease
  rw [htells.action_isSome] at hreported
  obtain ⟨kind, hkind⟩ := Option.isSome_iff_exists.mp hreported
  obtain ⟨button, hbutton, rfl⟩ := hsome kind hkind
  obtain ⟨side, index, hcounts, hplace⟩ :=
    hchronicled.counts_of_clicked hrelease hbutton
  refine ⟨side, index, button, hcounts, hplace, ?_⟩
  show next.action = some button.kind
  rw [htells.action_eq, hkind]
  rfl

theorem Chronicled.clicks (hchronicled : frame.Chronicled history)
    {event : Decoration.Event}
    (hhandle : frame.handle shadows event = .ok (update, next, later)) :
    frame.Clicks history event update next := by
  obtain ⟨sized, look, window, client, hcurrent⟩ :=
    hchronicled.exists_current
  obtain ⟨clicked, htells, hclicked⟩ := tells_of_handle hcurrent hhandle
  have hnone : update.action = false ↔ clicked = none := by
    rw [htells.action_isSome, Option.isSome_eq_false_iff,
      Option.isNone_iff_eq_none]
  refine
    { reported_iff := ?_
      taken := ?_
      unpressed := ?_
      unclicked := fun hquiet => ?_
      silent := fun hother => ?_ }
  · rintro point rfl
    exact hchronicled.reported_iff_of_release (release_of_handle hhandle)
  · rintro point rfl
    exact hchronicled.taken_of_release (release_of_handle hhandle)
  · rintro point rfl
    exact pressed_of_release (release_of_handle hhandle)
  · rw [htells.action_eq, hnone.mp hquiet]
    rfl
  · rw [hnone, Option.eq_none_iff_forall_ne_some]
    intro kind hkind
    obtain ⟨point, button, hevent, -⟩ := hclicked kind hkind
    exact hother point hevent

end Frame
end WindowChrome
