import WindowChrome.Proofs.Frame.Pointing
import WindowChrome.Proofs.Frame.Upkeep

/-!
# The layout of a frame

In exact numbers each group of buttons is a row of equal squares, and the title
bar ends where the right row begins.
-/

namespace WindowChrome

/-! ## Lengths -/

structure Metrics.Scaled (metrics : Metrics) : Prop where
  scale_pos : 1 ≤ metrics.scale
  scale_le : metrics.scale ≤ 44739243
  buttonWidth_eq : metrics.buttonWidth = 30 * metrics.scale
  leftButtonWidth_eq : metrics.leftButtonWidth = 24 * metrics.scale
  buttonMargin_eq : metrics.buttonMargin = 4 * metrics.scale
  spacing_eq : metrics.spacing = 4 * metrics.scale
  top_eq : metrics.borders.top = 38 * metrics.scale

theorem Metrics.scaled_ofDpi (dpi : UInt32) : (ofDpi dpi).Scaled where
  scale_pos := Int.le_max_right _ _
  scale_le := by
    have hdpi : dpi.toNat < 4294967296 := dpi.toNat_lt
    have hscale : (dpi.toNat + 48) / 96 ≤ 44739243 := by omega
    simp only [ofDpi, scaleOf]
    omega
  buttonWidth_eq := rfl
  leftButtonWidth_eq := rfl
  buttonMargin_eq := rfl
  spacing_eq := rfl
  top_eq := rfl

theorem Metrics.Scaled.withBorders {metrics : Metrics}
    (hscaled : metrics.Scaled) (size : BorderSize) :
    (metrics.withBorders size).Scaled :=
  { hscaled with }

theorem Metrics.Scaled.leftStep_nonneg {metrics : Metrics}
    (hscaled : metrics.Scaled) :
    0 ≤ metrics.leftButtonWidth + metrics.spacing := by
  have hpositive := hscaled.scale_pos
  rw [hscaled.leftButtonWidth_eq, hscaled.spacing_eq]
  omega

theorem Metrics.Scaled.rightStep_nonneg {metrics : Metrics}
    (hscaled : metrics.Scaled) :
    0 ≤ metrics.buttonWidth + metrics.spacing := by
  have hpositive := hscaled.scale_pos
  rw [hscaled.buttonWidth_eq, hscaled.spacing_eq]
  omega

theorem Frame.metricsFor_scaled (sized : Bool) (look : Look) :
    (metricsFor sized look).Scaled := by
  cases sized with
  | false => exact Metrics.scaled_ofDpi look.dpi
  | true => exact (Metrics.scaled_ofDpi look.dpi).withBorders look.borderSize

/-! ## Rows of squares -/

def squares (start step top side : Int) (count : Nat) : List Rect :=
  (List.range count).map fun index : Nat =>
    ⟨start + index * step, top, side, side⟩

theorem length_squares (start step top side : Int) (count : Nat) :
    (squares start step top side count).length = count := by
  simp [squares]

/-- The rectangles are equal squares on one line, in order and with the same
distance between neighbours. -/
structure Row (side spacing : Int) (rects : List Rect) : Prop where
  square : ∀ rect ∈ rects, rect.width = side ∧ rect.height = side
  level : ∃ top, ∀ rect ∈ rects, rect.y = top
  spaced : rects.IsChain fun rect next =>
    next.x = rect.x + rect.width + spacing

theorem getElem?_squares_eq_some_iff {start step top side : Int}
    {count index : Nat} {rect : Rect} :
    (squares start step top side count)[index]? = some rect ↔
      index < count ∧ rect = ⟨start + index * step, top, side, side⟩ := by
  simp only [squares, List.getElem?_map, Option.map_eq_some_iff,
    List.getElem?_eq_some_iff, List.getElem_range, List.length_range]
  constructor
  · rintro ⟨_, ⟨hlt, rfl⟩, rfl⟩
    exact ⟨hlt, rfl⟩
  · rintro ⟨hlt, rfl⟩
    exact ⟨index, ⟨hlt, rfl⟩, rfl⟩

theorem mem_squares {start step top side : Int} {count : Nat} {rect : Rect} :
    rect ∈ squares start step top side count ↔
      ∃ index < count, rect = ⟨start + index * step, top, side, side⟩ := by
  simp only [List.mem_iff_getElem?, getElem?_squares_eq_some_iff]

theorem row_squares (start top side spacing : Int) (count : Nat) :
    Row side spacing (squares start (side + spacing) top side count) where
  square := by
    intro rect hmem
    obtain ⟨index, -, rfl⟩ := mem_squares.mp hmem
    exact ⟨rfl, rfl⟩
  level := by
    refine ⟨top, fun rect hmem => ?_⟩
    obtain ⟨index, -, rfl⟩ := mem_squares.mp hmem
    rfl
  spaced := by
    rw [List.isChain_iff_getElem]
    intro index hindex
    simp only [squares, List.getElem_map, List.getElem_range]
    rw [Int.natCast_add, Int.add_mul]
    omega

theorem add_step_le {step : Int} (hstep : 0 ≤ step) {index later : Nat}
    (hlt : index < later) : (index : Int) * step + step ≤ later * step := by
  have hle : ((index : Int) + 1) * step ≤ later * step :=
    Int.mul_le_mul_of_nonneg_right (by omega) hstep
  rwa [Int.add_mul, Int.one_mul] at hle

theorem offset_nonneg {step : Int} (hstep : 0 ≤ step) (index : Nat) :
    0 ≤ (index : Int) * step :=
  Int.mul_nonneg (Int.natCast_nonneg index) hstep

theorem eq_of_squares_cover {start step top side : Int} {count : Nat}
    (hside : side ≤ step) (hstep : 0 ≤ step) {point : Point}
    {index other : Nat} {rect second : Rect}
    (hrect : (squares start step top side count)[index]? = some rect)
    (hsecond : (squares start step top side count)[other]? = some second)
    (hcovers : rect.Covers point) (hcovered : second.Covers point) :
    index = other := by
  obtain ⟨-, rfl⟩ := getElem?_squares_eq_some_iff.mp hrect
  obtain ⟨-, rfl⟩ := getElem?_squares_eq_some_iff.mp hsecond
  simp only [Rect.Covers] at hcovers hcovered
  rcases Nat.lt_trichotomy index other with hlt | heq | hgt
  · have hapart := add_step_le hstep hlt
    omega
  · exact heq
  · have hapart := add_step_le hstep hgt
    omega

/-! ## Places in exact numbers -/

namespace Frame

def exactPlaces (metrics : Metrics) (top width : Int)
    (leftCount rightCount : Nat) : Places where
  titleBar := {
    x := (metrics.buttonMargin + metrics.spacing) * 2 +
      leftCount * metrics.leftButtonWidth
    y := 0
    width := max (width - (metrics.buttonMargin + metrics.spacing) * 2 -
      leftCount * metrics.leftButtonWidth -
      rightCount * (metrics.buttonWidth + metrics.spacing)) 0
    height := top }
  left := squares (metrics.buttonMargin + metrics.spacing)
    (metrics.leftButtonWidth + metrics.spacing)
    (metrics.buttonMargin + metrics.spacing) metrics.leftButtonWidth leftCount
  right := squares
    (width - rightCount * (metrics.buttonWidth + metrics.spacing))
    (metrics.buttonWidth + metrics.spacing) metrics.buttonMargin
    metrics.buttonWidth rightCount

theorem eq_map_of_rowPlaces {place : Nat → Except Fault Rect}
    {exact : Nat → Rect}
    (hplace : ∀ index rect, place index = .ok rect → rect = exact index)
    {index count : Nat} {rects : List Rect}
    (hrects : rowPlaces place index count = .ok rects) :
    rects = (List.range' index count).map exact := by
  induction count generalizing index rects with
  | zero =>
      cases hrects
      rfl
  | succ count ih =>
      simp only [rowPlaces, bind_eq_ok_iff] at hrects
      obtain ⟨rect, hrect, others, hothers, hresult⟩ := hrects
      cases hresult
      rw [List.range'_succ, List.map_cons, ← ih hothers,
        ← hplace index rect hrect]

theorem eq_of_placeAt {start step top side : Int} {index : Nat} {rect : Rect}
    (hrect : placeAt start step top side index = .ok rect) :
    rect = ⟨start + index * step, top, side, side⟩ := by
  simp only [placeAt, bind_eq_ok_iff, Coord.mul_eq_ok_iff,
    Coord.add_eq_ok_iff] at hrect
  obtain ⟨offset, ⟨-, rfl⟩, x, ⟨-, rfl⟩, hresult⟩ := hrect
  cases hresult
  rfl

theorem eq_squares_of_rowPlaces {place : Nat → Except Fault Rect}
    {start step top side : Int}
    (hplace : ∀ index rect, place index = .ok rect →
      placeAt start step top side index = .ok rect)
    {count : Nat} {rects : List Rect}
    (hrects : rowPlaces place 0 count = .ok rects) :
    rects = squares start step top side count := by
  rw [squares, List.range_eq_range']
  exact eq_map_of_rowPlaces
    (fun index rect hrect => eq_of_placeAt (hplace index rect hrect)) hrects

theorem left_eq_squares {metrics : Metrics} {inset : Int} {count : Nat}
    {rects : List Rect}
    (hrects : rowPlaces (leftPlace metrics inset) 0 count = .ok rects) :
    rects = squares inset (metrics.leftButtonWidth + metrics.spacing) inset
      metrics.leftButtonWidth count := by
  refine eq_squares_of_rowPlaces ?_ hrects
  intro index rect hrect
  simp only [leftPlace, bind_eq_ok_iff, Coord.add_eq_ok_iff] at hrect
  obtain ⟨step, ⟨-, rfl⟩, hplaced⟩ := hrect
  exact hplaced

theorem right_eq_squares {metrics : Metrics} {start : Int} {count : Nat}
    {rects : List Rect}
    (hrects : rowPlaces (rightPlace metrics start) 0 count = .ok rects) :
    rects = squares start (metrics.buttonWidth + metrics.spacing)
      metrics.buttonMargin metrics.buttonWidth count := by
  refine eq_squares_of_rowPlaces ?_ hrects
  intro index rect hrect
  simp only [rightPlace, bind_eq_ok_iff, Coord.add_eq_ok_iff] at hrect
  obtain ⟨step, ⟨-, rfl⟩, hplaced⟩ := hrect
  exact hplaced

theorem rightRoom_eq_ok_iff {metrics : Metrics} {count : Nat} {room : Int} :
    rightRoom metrics count = .ok room ↔
      Coord.Fits (metrics.buttonWidth + metrics.spacing) ∧
        Coord.Fits (count * (metrics.buttonWidth + metrics.spacing)) ∧
          room = count * (metrics.buttonWidth + metrics.spacing) := by
  simp only [rightRoom, bind_eq_ok_iff, Coord.add_eq_ok_iff,
    Coord.mul_eq_ok_iff]
  constructor
  · rintro ⟨step, ⟨hstep, rfl⟩, hroom⟩
    exact ⟨hstep, hroom⟩
  · rintro ⟨hstep, hroom⟩
    exact ⟨_, ⟨hstep, rfl⟩, hroom⟩

theorem exact_of_places {metrics : Metrics} {borders : Margins}
    {windowWidth : Int} {leftCount rightCount : Nat} {found : Places}
    (hfound : places metrics borders windowWidth leftCount rightCount =
      .ok found) :
    let width := windowWidth + (borders.left + borders.right)
    (borders.horizontal >>= Coord.add windowWidth) = .ok width ∧
      Coord.Fits width ∧
      Coord.Fits
        (width - rightCount * (metrics.buttonWidth + metrics.spacing)) ∧
      found = exactPlaces metrics borders.top width leftCount rightCount := by
  simp only [places, bind_eq_ok_iff] at hfound
  obtain ⟨inset, hinset, sides, hsides, width, hwidth, left, hleft, room,
    hroom, start, hstart, right, hright, titleBar, htitleBar, hresult⟩ :=
    hfound
  have htotal : (borders.horizontal >>= Coord.add windowWidth) =
      .ok width := by
    rw [hsides]
    exact hwidth
  obtain ⟨-, rfl⟩ := Coord.add_eq_ok_iff.mp hinset
  obtain ⟨-, rfl⟩ := Coord.add_eq_ok_iff.mp hsides
  obtain ⟨hwidthFits, rfl⟩ := Coord.add_eq_ok_iff.mp hwidth
  obtain ⟨-, -, rfl⟩ := rightRoom_eq_ok_iff.mp hroom
  obtain ⟨hstartFits, rfl⟩ := Coord.sub_eq_ok_iff.mp hstart
  refine ⟨htotal, hwidthFits, hstartFits, ?_⟩
  simp only [titleBarOf, bind_eq_ok_iff, Coord.mul_eq_ok_iff,
    Coord.add_eq_ok_iff, Coord.sub_eq_ok_iff, rightRoom_eq_ok_iff]
    at htitleBar
  obtain ⟨insets, ⟨-, rfl⟩, leftRoom, ⟨-, rfl⟩, x, ⟨-, rfl⟩, room,
    ⟨-, rfl⟩, room, ⟨-, rfl⟩, rightRoom, ⟨-, -, rfl⟩, room, ⟨-, rfl⟩,
    hbar⟩ := htitleBar
  cases hbar
  cases hresult
  rw [left_eq_squares hleft, right_eq_squares hright]
  rfl

/-! ## Frames that are laid out -/

def exactWidth (frame : Frame) : Int :=
  frame.window.width + (frame.borders.left + frame.borders.right)

def rightStart (frame : Frame) : Int :=
  (frame.right.rects.head?.map (·.x)).getD frame.exactWidth

/-- The title bar and the buttons are at their exact places. -/
structure LaidOut (frame : Frame) : Prop where
  scaled : frame.metrics.Scaled
  borders_eq : frame.borders =
    if frame.window.maximized then ⟨0, frame.metrics.borders.top, 0, 0⟩
    else frame.metrics.borders
  width_eq : frame.width = .ok frame.exactWidth
  width_fits : Coord.Fits frame.exactWidth
  start_fits : Coord.Fits (frame.exactWidth -
    frame.right.buttons.length *
      (frame.metrics.buttonWidth + frame.metrics.spacing))
  places_eq : ⟨frame.titleBar, frame.left.rects, frame.right.rects⟩ =
    exactPlaces frame.metrics frame.borders.top frame.exactWidth
      frame.left.buttons.length frame.right.buttons.length

theorem Current.laidOut {frame : Frame} {sized : Bool} {look : Look}
    {window : Window} {client : Client}
    (hframe : frame.Current sized look window client)
    (hchrome : frame.borderAlone = false) : frame.LaidOut := by
  have hclient : client.borderAlone = false := by
    rw [← hframe.borderAlone_eq, hchrome]
  have hplaced := hframe.placed
  unfold Placed at hplaced
  rw [if_neg (by simp [hchrome])] at hplaced
  obtain ⟨hwidth, hwidthFits, hstartFits, hplaces⟩ := exact_of_places hplaced
  exact {
    scaled := by
      rw [hframe.metrics_eq]
      exact metricsFor_scaled sized look
    borders_eq := by
      rw [hframe.borders_eq, bordersOf, if_neg (by simp [hclient]),
        hframe.window_eq, hframe.metrics_eq]
    width_eq := hwidth
    width_fits := hwidthFits
    start_fits := hstartFits
    places_eq := hplaces }

namespace LaidOut

variable {frame : Frame}

theorem titleBar_eq (hlaid : frame.LaidOut) :
    frame.titleBar = (exactPlaces frame.metrics frame.borders.top
      frame.exactWidth frame.left.buttons.length
      frame.right.buttons.length).titleBar :=
  congrArg Places.titleBar hlaid.places_eq

theorem left_eq (hlaid : frame.LaidOut) :
    frame.left.rects =
      squares (frame.metrics.buttonMargin + frame.metrics.spacing)
        (frame.metrics.leftButtonWidth + frame.metrics.spacing)
        (frame.metrics.buttonMargin + frame.metrics.spacing)
        frame.metrics.leftButtonWidth frame.left.buttons.length :=
  congrArg Places.left hlaid.places_eq

theorem right_eq (hlaid : frame.LaidOut) :
    frame.right.rects =
      squares (frame.exactWidth - frame.right.buttons.length *
          (frame.metrics.buttonWidth + frame.metrics.spacing))
        (frame.metrics.buttonWidth + frame.metrics.spacing)
        frame.metrics.buttonMargin frame.metrics.buttonWidth
        frame.right.buttons.length :=
  congrArg Places.right hlaid.places_eq

theorem top_eq (hlaid : frame.LaidOut) :
    frame.borders.top = 38 * frame.metrics.scale := by
  rw [← hlaid.scaled.top_eq, hlaid.borders_eq]
  split <;> rfl

theorem rightStart_eq (hlaid : frame.LaidOut) :
    frame.rightStart = frame.exactWidth - frame.right.buttons.length *
      (frame.metrics.buttonWidth + frame.metrics.spacing) := by
  unfold rightStart
  rw [hlaid.right_eq]
  cases frame.right.buttons.length with
  | zero => simp [squares]
  | succ count => simp [squares, List.range_succ_eq_map]

/-! ### Where the buttons of a frame are -/

theorem mem_left (hlaid : frame.LaidOut) {rect : Rect}
    (hmem : rect ∈ frame.left.rects) :
    8 * frame.metrics.scale ≤ rect.x ∧
      rect.width = 24 * frame.metrics.scale ∧
      rect.y = 8 * frame.metrics.scale ∧
      rect.height = 24 * frame.metrics.scale := by
  rw [hlaid.left_eq, mem_squares] at hmem
  obtain ⟨index, -, rfl⟩ := hmem
  obtain ⟨-, -, -, hside, hmargin, hspacing, -⟩ := hlaid.scaled
  have hoffset := offset_nonneg hlaid.scaled.leftStep_nonneg index
  refine ⟨?_, hside, ?_, hside⟩ <;> simp only <;> omega

theorem mem_right (hlaid : frame.LaidOut) {rect : Rect}
    (hmem : rect ∈ frame.right.rects) :
    frame.rightStart ≤ rect.x ∧
      rect.x + rect.width + frame.metrics.spacing ≤ frame.exactWidth ∧
      rect.width = 30 * frame.metrics.scale ∧
      rect.y = 4 * frame.metrics.scale ∧
      rect.height = 30 * frame.metrics.scale := by
  rw [hlaid.rightStart_eq]
  rw [hlaid.right_eq, mem_squares] at hmem
  obtain ⟨index, hlt, rfl⟩ := hmem
  obtain ⟨-, -, hside, -, hmargin, hspacing, -⟩ := hlaid.scaled
  have hstep := hlaid.scaled.rightStep_nonneg
  have hoffset := offset_nonneg hstep index
  have hroom := add_step_le hstep hlt
  refine ⟨?_, ?_, hside, hmargin, hside⟩ <;> simp only <;> omega

theorem within (hlaid : frame.LaidOut) (side : Button.Side) :
    ∀ rect ∈ (frame.group side).rects,
      0 ≤ rect.y ∧ rect.y + rect.height ≤ frame.borders.top := by
  intro rect hmem
  have hpositive := hlaid.scaled.scale_pos
  rw [hlaid.top_eq]
  cases side with
  | left =>
      obtain ⟨-, -, htop, hheight⟩ := hlaid.mem_left hmem
      omega
  | right =>
      obtain ⟨-, -, -, htop, hheight⟩ := hlaid.mem_right hmem
      omega

theorem last_right (hlaid : frame.LaidOut) :
    ∀ rect ∈ frame.right.rects.getLast?,
      rect.x + rect.width + frame.metrics.spacing = frame.exactWidth := by
  intro rect hlast
  rw [Option.mem_def, List.getLast?_eq_getElem?, hlaid.right_eq,
    length_squares, getElem?_squares_eq_some_iff] at hlast
  obtain ⟨hlt, rfl⟩ := hlast
  have hpred : ((frame.right.buttons.length - 1 : Nat) : Int) =
      frame.right.buttons.length - 1 := by
    omega
  simp only [hpred, Int.sub_mul]
  omega

theorem titleBar_end (hlaid : frame.LaidOut)
    (hroom : 0 < frame.titleBar.width) :
    frame.titleBar.x + frame.titleBar.width = frame.rightStart := by
  rw [hlaid.titleBar_eq] at hroom ⊢
  rw [hlaid.rightStart_eq]
  simp only [exactPlaces] at hroom ⊢
  omega

/-! ### Points on a frame -/

theorem exists_squares (hlaid : frame.LaidOut) (side : Button.Side) :
    ∃ start step top width count,
      (frame.group side).rects = squares start step top width count ∧
        width ≤ step ∧ 0 ≤ step := by
  have hpositive := hlaid.scaled.scale_pos
  have hspacing := hlaid.scaled.spacing_eq
  cases side with
  | left =>
      exact ⟨_, _, _, _, _, hlaid.left_eq, by omega,
        hlaid.scaled.leftStep_nonneg⟩
  | right =>
      exact ⟨_, _, _, _, _, hlaid.right_eq, by omega,
        hlaid.scaled.rightStep_nonneg⟩

theorem unambiguous (hlaid : frame.LaidOut)
    (hclear : ∀ rect ∈ frame.left.rects,
      rect.x + rect.width ≤ frame.rightStart) : frame.Unambiguous := by
  have hcross : ∀ {point : Point} {index position : Nat},
      frame.Under point .left index → ¬ frame.Under point .right position := by
    rintro point index position ⟨first, hfirst, hcovers⟩
      ⟨second, hsecond, hcovered⟩
    have hend := hclear first (List.mem_of_getElem? hfirst)
    have hstart := (hlaid.mem_right (List.mem_of_getElem? hsecond)).1
    unfold Rect.Covers at hcovers hcovered
    omega
  intro point side other index position hunder hcovered
  have hside : side = other := by
    cases side with
    | left =>
        cases other with
        | left => rfl
        | right => exact absurd hcovered (hcross hunder)
    | right =>
        cases other with
        | left => exact absurd hunder (hcross hcovered)
        | right => rfl
  subst hside
  obtain ⟨start, step, top, width, count, hrects, hwidth, hstep⟩ :=
    hlaid.exists_squares side
  obtain ⟨first, hfirst, hcovers⟩ := hunder
  obtain ⟨second, hsecond, hcovered⟩ := hcovered
  rw [hrects] at hfirst hsecond
  exact ⟨rfl, eq_of_squares_cover hwidth hstep hfirst hsecond hcovers
    hcovered⟩

theorem bounded_left (hlaid : frame.LaidOut) {rect : Rect}
    (hmem : rect ∈ frame.left.rects)
    (hend : rect.x + rect.width ≤ Coord.greatest) : rect.Bounded := by
  have hpositive := hlaid.scaled.scale_pos
  have hscale := hlaid.scaled.scale_le
  obtain ⟨hleft, hside, htop, hheight⟩ := hlaid.mem_left hmem
  unfold Coord.greatest at hend
  constructor <;> unfold Coord.Fits Coord.least Coord.greatest <;> omega

theorem bounded_right (hlaid : frame.LaidOut) {rect : Rect}
    (hmem : rect ∈ frame.right.rects) : rect.Bounded := by
  have hpositive := hlaid.scaled.scale_pos
  have hscale := hlaid.scaled.scale_le
  have hspacing := hlaid.scaled.spacing_eq
  have hstart := hlaid.start_fits
  have hwidth := hlaid.width_fits
  obtain ⟨hleft, hend, hside, htop, hheight⟩ := hlaid.mem_right hmem
  rw [← hlaid.rightStart_eq] at hstart
  unfold Coord.Fits Coord.least Coord.greatest at hstart hwidth
  constructor <;> unfold Coord.Fits Coord.least Coord.greatest <;> omega

theorem bounded (hlaid : frame.LaidOut)
    (hclear : ∀ rect ∈ frame.left.rects,
      rect.x + rect.width ≤ frame.rightStart) (side : Button.Side) :
    ∀ rect ∈ (frame.group side).rects, rect.Bounded := by
  intro rect hmem
  cases side with
  | left =>
      have hstart := hlaid.start_fits
      rw [← hlaid.rightStart_eq] at hstart
      exact hlaid.bounded_left hmem (Int.le_trans (hclear rect hmem) hstart.2)
  | right => exact hlaid.bounded_right hmem

end LaidOut

/-! ## The order on a frame -/

theorem Reached.laidOut {frame : Frame} (hreached : frame.Reached)
    (hchrome : frame.borderAlone = false) : frame.LaidOut := by
  obtain ⟨sized, look, window, client, hframe⟩ := hreached.exists_current
  exact hframe.laidOut hchrome

structure Arranged (frame : Frame) : Prop where
  width_eq : frame.width = .ok frame.exactWidth
  borders_eq : frame.borders =
    if frame.window.maximized then ⟨0, frame.metrics.borders.top, 0, 0⟩
    else frame.metrics.borders
  left_row : Row frame.metrics.leftButtonWidth frame.metrics.spacing
    frame.left.rects
  right_row : Row frame.metrics.buttonWidth frame.metrics.spacing
    frame.right.rects
  within : ∀ side, ∀ rect ∈ (frame.group side).rects,
    0 ≤ rect.y ∧ rect.y + rect.height ≤ frame.borders.top
  last_right : ∀ rect ∈ frame.right.rects.getLast?,
    rect.x + rect.width + frame.metrics.spacing = frame.exactWidth
  titleBar_end : 0 < frame.titleBar.width →
    frame.titleBar.x + frame.titleBar.width = frame.rightStart
  responsive : (∀ rect ∈ frame.left.rects,
      rect.x + rect.width ≤ frame.rightStart) →
    frame.Unambiguous ∧ frame.Responsive

theorem arranged_of_reached {frame : Frame} (hreached : frame.Reached)
    (hchrome : frame.borderAlone = false) : frame.Arranged := by
  have hlaid := hreached.laidOut hchrome
  exact {
    width_eq := hlaid.width_eq
    borders_eq := hlaid.borders_eq
    left_row := by
      rw [hlaid.left_eq]
      exact row_squares _ _ _ _ _
    right_row := by
      rw [hlaid.right_eq]
      exact row_squares _ _ _ _ _
    within := hlaid.within
    last_right := hlaid.last_right
    titleBar_end := hlaid.titleBar_end
    responsive := by
      intro hclear
      have hunambiguous := hlaid.unambiguous hclear
      exact ⟨hunambiguous, hunambiguous.responsive (hlaid.bounded hclear)⟩ }

theorem arranged_when_maximized :
    ∃ frame : Frame, frame.Reached ∧ frame.borderAlone = false ∧
      frame.exactWidth = 800 ∧
      (∀ rect ∈ frame.left.rects, rect.x + rect.width ≤ frame.rightStart) ∧
      frame.Under ⟨20, 20⟩ .left 0 ∧ frame.Arranged := by
  obtain ⟨frame, hreached, hchrome, hwidth, hclear, hunder⟩ :
      ∃ frame : Frame, frame.Reached ∧ frame.borderAlone = false ∧
        frame.exactWidth = 800 ∧
        (∀ rect ∈ frame.left.rects, rect.x + rect.width ≤ frame.rightStart) ∧
        frame.Under ⟨20, 20⟩ .left 0 := by
    have hmade : ∀ {frame : Frame} {later : Commons},
        fit true { left := [.menu], right := [.minimize, .close] }
          { id := 1, width := 800, height := 600 } {} = .ok (frame, later) →
        frame.Reached := .fit
    have hstep : ∀ {frame next : Frame} {event : WindowEvent}
        {update : Update} {later : ShadowMemo}, frame.Reached →
        frame.handle {} (.window event) = .ok (update, next, later) →
        next.Reached := .handle
    have hframe := hstep (hstep (hmade (by exact rfl))
      (show Frame.handle _ _ (.window (.maximized true)) = _ by exact rfl))
      (show Frame.handle _ _ (.window (.pointerMoved (some ⟨20, 20⟩))) = _ by
        exact rfl)
    exact ⟨_, hframe, rfl, rfl, by decide, _, rfl, by decide⟩
  exact ⟨frame, hreached, hchrome, hwidth, hclear, hunder,
    arranged_of_reached hreached hchrome⟩

end Frame
end WindowChrome
