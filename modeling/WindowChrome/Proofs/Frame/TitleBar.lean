import WindowChrome.Proofs.Frame.Layout

/-!
# The title bar and the buttons

The title bar begins where the left buttons would end without the spaces
between them.  Three buttons leave room for the spaces, and from the fourth on
they do not.
-/

namespace WindowChrome

theorem Rect.exists_covered_iff (first second : Rect) :
    (∃ point, first.Covers point ∧ second.Covers point) ↔
      max first.x second.x <
          min (first.x + first.width) (second.x + second.width) ∧
        max first.y second.y <
          min (first.y + first.height) (second.y + second.height) := by
  constructor
  · rintro ⟨point, hfirst, hsecond⟩
    unfold Covers at hfirst hsecond
    omega
  · rintro ⟨hacross, hdown⟩
    refine ⟨⟨max first.x second.x, max first.y second.y⟩, ?_⟩
    simp only [Covers]
    omega

namespace Frame

def TitleBarClear (frame : Frame) : Prop :=
  ∀ point, frame.titleBar.Covers point →
    ∀ side index, ¬ frame.Under point side index

def leftSquare (frame : Frame) (index : Nat) : Rect where
  x := frame.metrics.buttonMargin + frame.metrics.spacing +
    index * (frame.metrics.leftButtonWidth + frame.metrics.spacing)
  y := frame.metrics.buttonMargin + frame.metrics.spacing
  width := frame.metrics.leftButtonWidth
  height := frame.metrics.leftButtonWidth

/-- The position of the first button on the left that ends beyond the
beginning of the title bar.  With three buttons or less it is past the last of
them. -/
def firstCovered (count : Nat) : Nat := (6 * count + 3) / 7

namespace LaidOut

variable {frame : Frame}

theorem getElem?_left_eq_some_iff (hlaid : frame.LaidOut) {index : Nat}
    {rect : Rect} :
    (frame.group .left).rects[index]? = some rect ↔
      index < frame.left.buttons.length ∧ rect = frame.leftSquare index := by
  change frame.left.rects[index]? = some rect ↔ _
  rw [hlaid.left_eq, getElem?_squares_eq_some_iff]
  rfl

theorem not_under_right (hlaid : frame.LaidOut) {point : Point}
    (hcovers : frame.titleBar.Covers point) (index : Nat) :
    ¬ frame.Under point .right index := by
  rintro ⟨rect, hrect, hcovered⟩
  have hstart := (hlaid.mem_right (List.mem_of_getElem? hrect)).1
  unfold Rect.Covers at hcovers hcovered
  have hend := hlaid.titleBar_end (by omega)
  omega

theorem titleBar_x_lt_iff (hlaid : frame.LaidOut) (index : Nat) :
    frame.titleBar.x < (frame.leftSquare index).x +
        (frame.leftSquare index).width ↔
      firstCovered frame.left.buttons.length ≤ index := by
  obtain ⟨hpositive, -, -, hside, hmargin, hspacing, -⟩ := hlaid.scaled
  have hposition : (index : Int) *
      (frame.metrics.leftButtonWidth + frame.metrics.spacing) =
        28 * index * frame.metrics.scale := by
    rw [hside, hspacing]
    grind
  have hroom : (frame.left.buttons.length : Int) *
      frame.metrics.leftButtonWidth =
        24 * frame.left.buttons.length * frame.metrics.scale := by
    rw [hside]
    grind
  have hscale : 24 * frame.left.buttons.length * frame.metrics.scale <
      (28 * index + 16) * frame.metrics.scale ↔
        24 * (frame.left.buttons.length : Int) < 28 * index + 16 :=
    Int.mul_lt_mul_right (by omega)
  rw [Int.add_mul] at hscale
  rw [hlaid.titleBar_eq]
  simp only [exactPlaces, leftSquare]
  rw [hposition, hroom, hside, hmargin, hspacing]
  unfold firstCovered
  omega

theorem leftSquare_x_le (hlaid : frame.LaidOut) {index later : Nat}
    (hle : index ≤ later) :
    (frame.leftSquare index).x ≤ (frame.leftSquare later).x := by
  have hoffset : (index : Int) *
      (frame.metrics.leftButtonWidth + frame.metrics.spacing) ≤
        later * (frame.metrics.leftButtonWidth + frame.metrics.spacing) :=
    Int.mul_le_mul_of_nonneg_right (by omega) hlaid.scaled.leftStep_nonneg
  exact Int.add_le_add_left hoffset _

theorem exists_covered_left_iff (hlaid : frame.LaidOut) (index : Nat) :
    (∃ point, frame.titleBar.Covers point ∧ frame.Under point .left index) ↔
      0 < frame.titleBar.width ∧ index < frame.left.buttons.length ∧
        firstCovered frame.left.buttons.length ≤ index ∧
        (frame.leftSquare index).x <
          frame.titleBar.x + frame.titleBar.width := by
  have hunder : (∃ point, frame.titleBar.Covers point ∧
      frame.Under point .left index) ↔
        index < frame.left.buttons.length ∧
          ∃ point, frame.titleBar.Covers point ∧
            (frame.leftSquare index).Covers point := by
    constructor
    · rintro ⟨point, hcovers, rect, hrect, hcovered⟩
      obtain ⟨hlt, rfl⟩ := hlaid.getElem?_left_eq_some_iff.mp hrect
      exact ⟨hlt, point, hcovers, hcovered⟩
    · rintro ⟨hlt, point, hcovers, hcovered⟩
      exact ⟨point, hcovers, _,
        hlaid.getElem?_left_eq_some_iff.mpr ⟨hlt, rfl⟩, hcovered⟩
  have hedge : frame.titleBar.y = 0 := by
    rw [hlaid.titleBar_eq]
    rfl
  have hheight : frame.titleBar.height = frame.borders.top := by
    rw [hlaid.titleBar_eq]
    rfl
  have htop := hlaid.top_eq
  obtain ⟨hpositive, -, -, hside, hmargin, hspacing, -⟩ := hlaid.scaled
  rw [hunder, Rect.exists_covered_iff, ← hlaid.titleBar_x_lt_iff]
  simp only [leftSquare]
  omega

end LaidOut

/-- The title bar keeps clear of all buttons exactly if it is empty, or there
are at most three buttons on the left, or it ends before the first left button
that it could cover begins. -/
theorem titleBarClear_iff {frame : Frame} (hreached : frame.Reached)
    (hchrome : frame.borderAlone = false) :
    frame.TitleBarClear ↔
      frame.titleBar.width = 0 ∨ frame.left.buttons.length ≤ 3 ∨
        frame.titleBar.x + frame.titleBar.width ≤
          (frame.leftSquare
            (firstCovered frame.left.buttons.length)).x := by
  have hlaid := hreached.laidOut hchrome
  constructor
  · intro hclear
    refine Decidable.byContradiction fun hnot => ?_
    simp only [not_or, Int.not_le, Nat.not_le] at hnot
    obtain ⟨hwidth, hmany, hend⟩ := hnot
    have hroom : 0 ≤ frame.titleBar.width := by
      rw [hlaid.titleBar_eq]
      exact Int.le_max_right _ _
    have hlast : firstCovered frame.left.buttons.length <
        frame.left.buttons.length := by
      unfold firstCovered
      omega
    obtain ⟨point, hcovers, hunder⟩ :=
      (hlaid.exists_covered_left_iff _).mpr
        ⟨by omega, hlast, Nat.le_refl _, hend⟩
    exact hclear point hcovers .left _ hunder
  · intro hkept point hcovers side index hunder
    cases side with
    | right => exact hlaid.not_under_right hcovers index hunder
    | left =>
        obtain ⟨hroom, hlt, hfirst, hstart⟩ :=
          (hlaid.exists_covered_left_iff index).mp ⟨point, hcovers, hunder⟩
        rcases hkept with hwidth | hfew | hend
        · omega
        · unfold firstCovered at hfirst
          omega
        · have hle := hlaid.leftSquare_x_le hfirst
          omega

theorem titleBarClear_of_two_buttons :
    ∃ frame : Frame, frame.Reached ∧ frame.borderAlone = false ∧
      frame.titleBar = ⟨64, 0, 738, 38⟩ ∧ frame.TitleBarClear := by
  have hmade : ∀ {frame : Frame} {later : Commons},
      fit false { left := [.menu, .close], right := [] }
        { id := 1, width := 800, height := 600 } {} = .ok (frame, later) →
      frame.Reached := .fit
  have hframe := hmade (by exact rfl)
  exact ⟨_, hframe, rfl, rfl, (titleBarClear_iff hframe rfl).mpr
    (.inr (.inl (by decide)))⟩

/-- The fourth button on the left reaches four columns into the title bar. -/
theorem not_titleBarClear_of_four_buttons :
    ∃ (frame : Frame) (fourth : Button), frame.Reached ∧
      frame.borderAlone = false ∧ frame.left.buttons[3]? = some fourth ∧
      frame.titleBar.contains ⟨112, 10⟩ = .ok true ∧
      fourth.rect.contains ⟨112, 10⟩ = .ok true ∧ ¬ frame.TitleBarClear := by
  have hmade : ∀ {frame : Frame} {later : Commons},
      fit false
        { left := [.menu, .keepAbove, .keepBelow, .close], right := [] }
        { id := 1, width := 800, height := 600 } {} = .ok (frame, later) →
      frame.Reached := .fit
  have hframe := hmade (by exact rfl)
  refine ⟨_, _, hframe, rfl, rfl, rfl, rfl, fun hclear => ?_⟩
  exact hclear ⟨112, 10⟩ (by decide) .left 3 ⟨_, rfl, by decide⟩

end Frame
end WindowChrome
