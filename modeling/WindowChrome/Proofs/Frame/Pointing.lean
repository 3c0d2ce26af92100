import WindowChrome.Proofs.Frame.Current

/-! # The button under a point -/

namespace WindowChrome

namespace Rect

def Covers (rect : Rect) (point : Point) : Prop :=
  rect.x ≤ point.x ∧ point.x < rect.x + rect.width ∧
    rect.y ≤ point.y ∧ point.y < rect.y + rect.height

instance (rect : Rect) (point : Point) : Decidable (rect.Covers point) :=
  inferInstanceAs (Decidable (_ ∧ _ ∧ _ ∧ _))

/-- The rectangle ends at coordinates. -/
structure Bounded (rect : Rect) : Prop where
  right : Coord.Fits (rect.x + rect.width)
  bottom : Coord.Fits (rect.y + rect.height)

theorem Bounded.contains_eq {rect : Rect} (hbounded : rect.Bounded)
    (point : Point) :
    rect.contains point = .ok (decide (rect.Covers point)) := by
  have hright : rect.right = .ok (rect.x + rect.width) :=
    Coord.checked_of_fits .sum hbounded.right
  have hbottom : rect.bottom = .ok (rect.y + rect.height) :=
    Coord.checked_of_fits .sum hbounded.bottom
  simp only [contains, hright, hbottom, bind, Except.bind, pure, Except.pure]
  by_cases hleft : point.x < rect.x
  · have hmiss : ¬ rect.Covers point := by
      unfold Covers
      omega
    simp [hleft, hmiss]
  by_cases hbeyond : rect.x + rect.width ≤ point.x
  · have hmiss : ¬ rect.Covers point := by
      unfold Covers
      omega
    simp [hleft, hbeyond, hmiss]
  by_cases habove : point.y < rect.y
  · have hmiss : ¬ rect.Covers point := by
      unfold Covers
      omega
    simp [hleft, hbeyond, habove, hmiss]
  have hcovers : rect.Covers point ↔ point.y < rect.y + rect.height := by
    unfold Covers
    omega
  simp [hleft, hbeyond, habove, hcovers]

theorem eq_of_contains {rect : Rect} {point : Point} {hit : Bool}
    (hcontains : rect.contains point = .ok hit) :
    hit = decide (rect.Covers point) := by
  have hmissed (hmiss : ¬ rect.Covers point)
      (hresult : (pure false : Except Fault Bool) = .ok hit) :
      hit = decide (rect.Covers point) := by
    cases hresult
    exact (decide_eq_false hmiss).symm
  unfold contains at hcontains
  by_cases hleft : point.x < rect.x
  · simp only [hleft, if_true] at hcontains
    exact hmissed (by unfold Covers; omega) hcontains
  simp only [hleft, if_false, bind_eq_ok_iff, right,
    Coord.add_eq_ok_iff] at hcontains
  obtain ⟨edge, ⟨-, rfl⟩, hcontains⟩ := hcontains
  by_cases hbeyond : rect.x + rect.width ≤ point.x
  · simp only [hbeyond, if_true] at hcontains
    exact hmissed (by unfold Covers; omega) hcontains
  simp only [hbeyond, if_false] at hcontains
  by_cases habove : point.y < rect.y
  · simp only [habove, if_true] at hcontains
    exact hmissed (by unfold Covers; omega) hcontains
  simp only [habove, if_false, bind_eq_ok_iff, bottom,
    Coord.add_eq_ok_iff] at hcontains
  obtain ⟨edge, ⟨-, rfl⟩, hcontains⟩ := hcontains
  cases hcontains
  refine decide_eq_decide.mpr ?_
  unfold Covers
  omega

end Rect

namespace Button.Group

def Under (group : Group) (point : Point) (index : Nat) : Prop :=
  ∃ rect, group.rects[index]? = some rect ∧ rect.Covers point

def hold (group : Group) (index : Nat) : Group :=
  { group with
    buttons := group.buttons.modify index fun button =>
      { button with pressed := true } }

theorem positionFrom_eq {point : Point} {buttons : List Button}
    (hbounded : ∀ rect ∈ buttons.map (·.rect), rect.Bounded) (start : Nat) :
    positionFrom point start buttons =
      .ok (((buttons.map (·.rect)).findIdx? fun rect =>
        decide (rect.Covers point)).map (· + start)) := by
  induction buttons generalizing start with
  | nil => rfl
  | cons button rest ih =>
      have hbutton : button.rect.Bounded := hbounded _ (by simp)
      have hrest : ∀ rect ∈ rest.map (·.rect), rect.Bounded :=
        fun rect hmem => hbounded rect (List.mem_cons_of_mem _ hmem)
      rw [List.map_cons, List.findIdx?_cons]
      simp only [positionFrom, hbutton.contains_eq, ih hrest, bind,
        Except.bind, pure, Except.pure]
      by_cases hcovers : button.rect.Covers point
      · simp [hcovers]
      · simp [hcovers, Function.comp_def, Nat.add_assoc, Nat.add_comm 1]

theorem eq_of_positionFrom {point : Point} {buttons : List Button}
    {start : Nat} {found : Option Nat}
    (hposition : positionFrom point start buttons = .ok found) :
    found = ((buttons.map (·.rect)).findIdx? fun rect =>
      decide (rect.Covers point)).map (· + start) := by
  induction buttons generalizing start with
  | nil =>
      cases hposition
      rfl
  | cons button rest ih =>
      simp only [positionFrom, bind_eq_ok_iff] at hposition
      obtain ⟨hit, hcontains, hposition⟩ := hposition
      have hhit := Rect.eq_of_contains hcontains
      rw [List.map_cons, List.findIdx?_cons, ← hhit]
      cases hit with
      | true =>
          cases hposition
          simp
      | false =>
          rw [ih hposition]
          simp [Function.comp_def, Nat.add_assoc, Nat.add_comm 1]

variable {group : Group} {point : Point}

theorem under_of_buttonAt {index : Nat}
    (hfound : group.buttonAt point = .ok (some index)) :
    group.Under point index ∧
      ∀ earlier, earlier < index → ¬ group.Under point earlier := by
  have hfirst := eq_of_positionFrom hfound
  rw [eq_comm, Option.map_eq_some_iff] at hfirst
  obtain ⟨_, hfirst, rfl⟩ := hfirst
  rw [List.findIdx?_eq_some_iff_getElem] at hfirst
  obtain ⟨hlt, hcovers, hbefore⟩ := hfirst
  refine ⟨⟨_, List.getElem?_eq_getElem hlt, by simpa using hcovers⟩, ?_⟩
  rintro earlier hearlier ⟨rect, hrect, hcovered⟩
  obtain ⟨_, rfl⟩ := List.getElem?_eq_some_iff.mp hrect
  exact hbefore earlier hearlier (decide_eq_true hcovered)

theorem not_under_of_buttonAt (hfound : group.buttonAt point = .ok none)
    (index : Nat) : ¬ group.Under point index := by
  have hnone := eq_of_positionFrom hfound
  rw [eq_comm, Option.map_eq_none_iff, List.findIdx?_eq_none_iff] at hnone
  rintro ⟨rect, hrect, hcovers⟩
  exact of_decide_eq_false (hnone rect (List.mem_of_getElem? hrect)) hcovers

theorem buttonAt_of_under (hbounded : ∀ rect ∈ group.rects, rect.Bounded)
    {index : Nat} (hunder : group.Under point index)
    (hfirst : ∀ earlier, earlier < index → ¬ group.Under point earlier) :
    group.buttonAt point = .ok (some index) := by
  obtain ⟨rect, hrect, hcovers⟩ := hunder
  obtain ⟨hlt, rfl⟩ := List.getElem?_eq_some_iff.mp hrect
  have hfound : (group.rects.findIdx? fun rect =>
      decide (rect.Covers point)) = some index := by
    rw [List.findIdx?_eq_some_iff_getElem]
    refine ⟨hlt, by simpa using hcovers, ?_⟩
    intro earlier hearlier hcovered
    exact hfirst earlier hearlier
      ⟨_, List.getElem?_eq_getElem (by omega), by simpa using hcovered⟩
  rw [buttonAt, positionFrom_eq hbounded]
  exact congrArg (fun position => Except.ok (Option.map (· + 0) position))
    hfound

theorem buttonAt_of_not_under (hbounded : ∀ rect ∈ group.rects, rect.Bounded)
    (hnone : ∀ index, ¬ group.Under point index) :
    group.buttonAt point = .ok none := by
  have hmissed : (group.rects.findIdx? fun rect =>
      decide (rect.Covers point)) = none := by
    rw [List.findIdx?_eq_none_iff]
    intro rect hmem
    obtain ⟨index, hrect⟩ := List.mem_iff_getElem?.mp hmem
    exact decide_eq_false fun hcovers => hnone index ⟨rect, hrect, hcovers⟩
  rw [buttonAt, positionFrom_eq hbounded]
  exact congrArg (fun position => Except.ok (Option.map (· + 0) position))
    hmissed

theorem press?_eq (group : Group) (point : Point) :
    group.press? point =
      (group.buttonAt point).map fun position => position.map group.hold := by
  unfold press?
  cases group.buttonAt point <;> rfl

end Button.Group

namespace Frame

def group (frame : Frame) : Button.Side → Button.Group
  | .left => frame.left
  | .right => frame.right

def hold (frame : Frame) (side : Button.Side) (index : Nat) : Frame :=
  match side with
  | .left => { frame with left := frame.left.hold index }
  | .right => { frame with right := frame.right.hold index }

def Under (frame : Frame) (point : Point) (side : Button.Side)
    (index : Nat) : Prop :=
  (frame.group side).Under point index

/-- A press at the point hits the button: it is the first one there, the left
side coming before the right one. -/
structure Hits (frame : Frame) (point : Point) (side : Button.Side)
    (index : Nat) : Prop where
  under : frame.Under point side index
  first : ∀ earlier, earlier < index → ¬ frame.Under point side earlier
  notLeft : side = .right → ∀ position, ¬ frame.Under point .left position

/-- Any point is in one button at most. -/
def Unambiguous (frame : Frame) : Prop :=
  ∀ point side other index position, frame.Under point side index →
    frame.Under point other position → side = other ∧ index = position

structure Responsive (frame : Frame) : Prop where
  buttonAt_of_under : ∀ point side index, frame.Under point side index →
    (frame.group side).buttonAt point = .ok (some index)
  buttonAt_of_elsewhere : ∀ point side other index,
    frame.Under point side index → other ≠ side →
      (frame.group other).buttonAt point = .ok none
  press_of_under : ∀ point side index, frame.Under point side index →
    frame.press point = .ok ({ repaint := true }, frame.hold side index)
  buttonAt_of_none : ∀ point, (∀ side index, ¬ frame.Under point side index) →
    ∀ side, (frame.group side).buttonAt point = .ok none
  press_of_none : ∀ point, (∀ side index, ¬ frame.Under point side index) →
    frame.press point = .ok (.nothing, frame)

variable {frame : Frame} {point : Point}

theorem Hits.unique {side other : Button.Side} {index position : Nat}
    (hhits : frame.Hits point side index)
    (hother : frame.Hits point other position) :
    side = other ∧ index = position := by
  have hside : side = other := by
    cases side with
    | left =>
        cases other with
        | left => rfl
        | right => exact absurd hhits.under (hother.notLeft rfl index)
    | right =>
        cases other with
        | left => exact absurd hother.under (hhits.notLeft rfl position)
        | right => rfl
  subst hside
  refine ⟨rfl, ?_⟩
  rcases Nat.lt_trichotomy index position with hlt | heq | hgt
  · exact absurd hhits.under (hother.first index hlt)
  · exact heq
  · exact absurd hother.under (hhits.first position hgt)

theorem press_cases {next : Frame} {update : Update}
    (hpress : frame.press point = .ok (update, next)) :
    (∃ side index, frame.Hits point side index ∧
      next = frame.hold side index) ∨
    (∀ side index, ¬ frame.Under point side index) ∧ next = frame := by
  simp only [press, Button.Group.press?_eq, bind_eq_ok_iff,
    map_eq_ok_iff] at hpress
  obtain ⟨_, ⟨onLeft, hleft, rfl⟩, hpress⟩ := hpress
  cases onLeft with
  | some index =>
      cases hpress
      obtain ⟨hunder, hfirst⟩ := Button.Group.under_of_buttonAt hleft
      exact .inl ⟨.left, index, ⟨hunder, hfirst, by simp⟩, rfl⟩
  | none =>
      have hnotLeft := Button.Group.not_under_of_buttonAt hleft
      simp only [Option.map_none, bind_eq_ok_iff, map_eq_ok_iff] at hpress
      obtain ⟨_, ⟨onRight, hright, rfl⟩, hpress⟩ := hpress
      cases onRight with
      | some index =>
          cases hpress
          obtain ⟨hunder, hfirst⟩ := Button.Group.under_of_buttonAt hright
          exact .inl ⟨.right, index, ⟨hunder, hfirst, fun _ => hnotLeft⟩, rfl⟩
      | none =>
          cases hpress
          have hnotRight := Button.Group.not_under_of_buttonAt hright
          refine .inr ⟨fun side => ?_, rfl⟩
          cases side with
          | left => exact hnotLeft
          | right => exact hnotRight

theorem press_eq_hold {side : Button.Side} {index : Nat}
    (hside : (frame.group side).buttonAt point = .ok (some index))
    (hother : ∀ other, other ≠ side →
      (frame.group other).buttonAt point = .ok none) :
    frame.press point = .ok ({ repaint := true }, frame.hold side index) := by
  unfold press
  rw [Button.Group.press?_eq, Button.Group.press?_eq]
  cases side with
  | left =>
      have hleft : frame.left.buttonAt point = .ok (some index) := hside
      rw [hleft]
      rfl
  | right =>
      have hleft : frame.left.buttonAt point = .ok none :=
        hother .left (by decide)
      have hright : frame.right.buttonAt point = .ok (some index) := hside
      rw [hleft, hright]
      rfl

theorem press_eq_self
    (hnone : ∀ side, (frame.group side).buttonAt point = .ok none) :
    frame.press point = .ok (.nothing, frame) := by
  have hleft : frame.left.buttonAt point = .ok none := hnone .left
  have hright : frame.right.buttonAt point = .ok none := hnone .right
  unfold press
  rw [Button.Group.press?_eq, Button.Group.press?_eq, hleft, hright]
  rfl

theorem Unambiguous.responsive (hunambiguous : frame.Unambiguous)
    (hbounded : ∀ side, ∀ rect ∈ (frame.group side).rects, rect.Bounded) :
    frame.Responsive := by
  have hhit : ∀ point side index, frame.Under point side index →
      (frame.group side).buttonAt point = .ok (some index) := by
    intro point side index hunder
    refine Button.Group.buttonAt_of_under (hbounded side) hunder ?_
    intro earlier hearlier hcovered
    obtain ⟨-, hindex⟩ := hunambiguous _ _ _ _ _ hunder hcovered
    omega
  have helsewhere : ∀ point side other index, frame.Under point side index →
      other ≠ side → (frame.group other).buttonAt point = .ok none := by
    intro point side other index hunder hother
    refine Button.Group.buttonAt_of_not_under (hbounded other) ?_
    intro position hcovered
    exact hother (hunambiguous _ _ _ _ _ hcovered hunder).1
  have hnothing : ∀ point, (∀ side index, ¬ frame.Under point side index) →
      ∀ side, (frame.group side).buttonAt point = .ok none :=
    fun point hnone side =>
      Button.Group.buttonAt_of_not_under (hbounded side) (hnone side)
  exact {
    buttonAt_of_under := hhit
    buttonAt_of_elsewhere := helsewhere
    press_of_under := fun point side index hunder =>
      press_eq_hold (hhit point side index hunder)
        fun other => helsewhere point side other index hunder
    buttonAt_of_none := hnothing
    press_of_none := fun point hnone => press_eq_self (hnothing point hnone) }

end Frame
end WindowChrome
