import WindowChrome.Proofs.Frame.Layout
import WindowChrome.Proofs.Shadow.Extent

/-!
# Room for all coordinates

All sums and products lie within the width of the window and a length for each
configured button around zero, so that much room below the greatest coordinate
is enough.
-/

namespace WindowChrome

/-! ## Lengths -/

def Metrics.lengths (metrics : Metrics) : List Int :=
  [metrics.scale, metrics.borders.left, metrics.borders.top,
    metrics.borders.right, metrics.borders.bottom, metrics.buttonWidth,
    metrics.leftButtonWidth, metrics.buttonMargin, metrics.spacing]

theorem BorderSize.side_mem (size : BorderSize) :
    0 ≤ size.side ∧ size.side ≤ 14 := by
  cases size <;> decide

theorem BorderSize.bottom_mem (size : BorderSize) :
    0 ≤ size.bottom ∧ size.bottom ≤ 14 := by
  cases size <;> decide

theorem mul_mem_of_mem {factor scale : Int}
    (hfactor : 0 ≤ factor ∧ factor ≤ 14) (hscale : 0 ≤ scale) :
    0 ≤ factor * scale ∧ factor * scale ≤ 14 * scale :=
  ⟨Int.mul_nonneg hfactor.1 hscale,
    Int.mul_le_mul_of_nonneg_right hfactor.2 hscale⟩

def Metrics.Borders (metrics : Metrics) (width : Int) : Prop :=
  0 ≤ width ∧ width ≤ 14 * metrics.scale

theorem Button.Group.Shows.length_le {group : Button.Group}
    {side : Button.Side} {layout : List Button.Kind}
    {capabilities : Capabilities}
    (hshows : group.Shows side layout capabilities) :
    group.buttons.length ≤ layout.length := by
  rw [← Button.Group.length_kinds, hshows.kinds_eq]
  exact List.length_filter_le _ _

namespace Frame

variable {sized : Bool} {look : Look} {window : Window} {client : Client}

theorem borders_metricsFor (sized : Bool) (look : Look) :
    (metricsFor sized look).Borders (metricsFor sized look).borders.left ∧
    (metricsFor sized look).Borders (metricsFor sized look).borders.right ∧
    (metricsFor sized look).Borders (metricsFor sized look).borders.bottom := by
  have hscale := (Metrics.scaled_ofDpi look.dpi).scale_pos
  have hnonneg : 0 ≤ (Metrics.ofDpi look.dpi).scale := by omega
  cases sized with
  | false =>
      have hborder : (Metrics.ofDpi look.dpi).Borders
          (Metrics.ofDpi look.dpi).scale := by
        unfold Metrics.Borders
        omega
      exact ⟨hborder, hborder, hborder⟩
  | true =>
      exact ⟨mul_mem_of_mem look.borderSize.side_mem hnonneg,
        mul_mem_of_mem look.borderSize.side_mem hnonneg,
        mul_mem_of_mem look.borderSize.bottom_mem hnonneg⟩

theorem fits_metricsFor (sized : Bool) (look : Look) :
    ∀ length ∈ (metricsFor sized look).lengths, Coord.Fits length := by
  obtain ⟨hleft, hright, hbottom⟩ := borders_metricsFor sized look
  obtain ⟨hpositive, hscale, hbutton, hleftButton, hmargin, hspacing, htop⟩ :=
    metricsFor_scaled sized look
  unfold Metrics.Borders at hleft hright hbottom
  simp only [Metrics.lengths, List.forall_mem_cons, List.not_mem_nil,
    false_implies, implies_true, and_true, Coord.Fits, Coord.least,
    Coord.greatest]
  omega

/-! ## The shadow -/

/-- The corner of the part of a shadow that is stretched is added up from a
halo and a radius. -/
theorem fits_innerRect (alone active : Bool) (radii : CornerRadii) :
    Coord.Fits (Shadow.innerRect (shapeOf alone active radii)).x := by
  have hroom := Shadow.cornerRoom_le (shapeOf alone active radii)
  have hcorner : (Shadow.innerRect (shapeOf alone active radii)).x =
      30 + Shadow.cornerRoom (shapeOf alone active radii) := rfl
  rw [hcorner]
  unfold Coord.Fits Coord.least Coord.greatest
  omega

/-! ## Room for the places -/

/-- The width of a window and the lengths of two rows of buttons leave room for
everything that is placed. -/
structure Ample (metrics : Metrics) (borders : Margins) (width : Int)
    (leftCount rightCount : Nat) : Prop where
  scaled : metrics.Scaled
  left : metrics.Borders borders.left
  right : metrics.Borders borders.right
  least_le : -Coord.greatest ≤ width - 38 * (leftCount * metrics.scale +
    rightCount * metrics.scale + 4 * metrics.scale)
  le_greatest : width + 38 * (leftCount * metrics.scale +
    rightCount * metrics.scale + 4 * metrics.scale) ≤ Coord.greatest

theorem exists_rowPlaces {place : Nat → Except Fault Rect}
    {index count : Nat}
    (hplace : ∀ position, position < index + count →
      ∃ rect, place position = .ok rect) :
    ∃ rects, rowPlaces place index count = .ok rects := by
  induction count generalizing index with
  | zero => exact ⟨[], rfl⟩
  | succ count ih =>
      obtain ⟨rect, hrect⟩ := hplace index (by omega)
      have hrest : ∀ position, position < index + 1 + count →
          ∃ rect, place position = .ok rect :=
        fun position hlt => hplace position (by omega)
      obtain ⟨others, hothers⟩ := ih hrest
      refine ⟨rect :: others, ?_⟩
      simp only [rowPlaces, bind_eq_ok_iff]
      exact ⟨rect, hrect, others, hothers, rfl⟩

theorem exists_placeAt {start step top side : Int} {index : Nat}
    (hoffset : Coord.Fits (index * step))
    (hplace : Coord.Fits (start + index * step)) :
    ∃ rect, placeAt start step top side index = .ok rect := by
  simp only [placeAt, bind_eq_ok_iff, Coord.mul_eq_ok_iff, Coord.add_eq_ok_iff]
  exact ⟨_, _, ⟨hoffset, rfl⟩, _, ⟨hplace, rfl⟩, rfl⟩

namespace Ample

variable {metrics : Metrics} {borders : Margins} {width : Int}
  {leftCount rightCount : Nat}
  (hample : Ample metrics borders width leftCount rightCount)

include hample

theorem fits {value : Int}
    (hleast : min width 0 - 38 * (leftCount * metrics.scale +
      rightCount * metrics.scale + 4 * metrics.scale) ≤ value)
    (hgreatest : value ≤ max width 0 + 38 * (leftCount * metrics.scale +
      rightCount * metrics.scale + 4 * metrics.scale)) :
    Coord.Fits value := by
  have hlower := hample.least_le
  have hupper := hample.le_greatest
  have hscale := hample.scaled.scale_pos
  have hleft := offset_nonneg (show 0 ≤ metrics.scale by omega) leftCount
  have hright := offset_nonneg (show 0 ≤ metrics.scale by omega) rightCount
  unfold Coord.Fits Coord.least
  unfold Coord.greatest at *
  omega

theorem leftStep_eq :
    metrics.leftButtonWidth + metrics.spacing = 28 * metrics.scale := by
  have hbutton := hample.scaled.leftButtonWidth_eq
  have hspacing := hample.scaled.spacing_eq
  omega

theorem rightStep_eq :
    metrics.buttonWidth + metrics.spacing = 34 * metrics.scale := by
  have hbutton := hample.scaled.buttonWidth_eq
  have hspacing := hample.scaled.spacing_eq
  omega

theorem nonneg :
    1 ≤ metrics.scale ∧ 0 ≤ (leftCount : Int) * metrics.scale ∧
      0 ≤ (rightCount : Int) * metrics.scale := by
  have hscale := hample.scaled.scale_pos
  exact ⟨hscale, offset_nonneg (by omega) leftCount,
    offset_nonneg (by omega) rightCount⟩

theorem exists_leftPlace {index : Nat} (hlt : index < leftCount) :
    ∃ rect, leftPlace metrics (metrics.buttonMargin + metrics.spacing) index =
      .ok rect := by
  obtain ⟨hscale, hleft, hright⟩ := hample.nonneg
  have hindex := offset_nonneg (show 0 ≤ metrics.scale by omega) index
  have hwithin := add_step_le (show 0 ≤ metrics.scale by omega) hlt
  have hmargin := hample.scaled.buttonMargin_eq
  have hspacing := hample.scaled.spacing_eq
  have hstep : Coord.Fits (metrics.leftButtonWidth + metrics.spacing) := by
    rw [hample.leftStep_eq]
    exact hample.fits (by omega) (by omega)
  have hoffset : Coord.Fits
      (index * (metrics.leftButtonWidth + metrics.spacing)) := by
    rw [hample.leftStep_eq, Int.mul_left_comm]
    exact hample.fits (by omega) (by omega)
  have hplace : Coord.Fits (metrics.buttonMargin + metrics.spacing +
      index * (metrics.leftButtonWidth + metrics.spacing)) := by
    rw [hample.leftStep_eq, Int.mul_left_comm]
    exact hample.fits (by omega) (by omega)
  obtain ⟨rect, hrect⟩ := exists_placeAt hoffset hplace
  simp only [leftPlace, bind_eq_ok_iff, Coord.add_eq_ok_iff]
  exact ⟨rect, _, ⟨hstep, rfl⟩, hrect⟩

theorem exists_rightPlace {index : Nat} (hlt : index < rightCount) :
    ∃ rect, rightPlace metrics (width + (borders.left + borders.right) -
      rightCount * (metrics.buttonWidth + metrics.spacing)) index =
        .ok rect := by
  obtain ⟨hscale, hleft, hright⟩ := hample.nonneg
  have hindex := offset_nonneg (show 0 ≤ metrics.scale by omega) index
  have hwithin := add_step_le (show 0 ≤ metrics.scale by omega) hlt
  obtain ⟨hleftBorder, hleftWidth⟩ := hample.left
  obtain ⟨hrightBorder, hrightWidth⟩ := hample.right
  have hstep : Coord.Fits (metrics.buttonWidth + metrics.spacing) := by
    rw [hample.rightStep_eq]
    exact hample.fits (by omega) (by omega)
  have hoffset : Coord.Fits
      (index * (metrics.buttonWidth + metrics.spacing)) := by
    rw [hample.rightStep_eq, Int.mul_left_comm]
    exact hample.fits (by omega) (by omega)
  have hplace : Coord.Fits (width + (borders.left + borders.right) -
      rightCount * (metrics.buttonWidth + metrics.spacing) +
      index * (metrics.buttonWidth + metrics.spacing)) := by
    rw [hample.rightStep_eq, Int.mul_left_comm (rightCount : Int),
      Int.mul_left_comm (index : Int)]
    exact hample.fits (by omega) (by omega)
  obtain ⟨rect, hrect⟩ := exists_placeAt hoffset hplace
  simp only [rightPlace, bind_eq_ok_iff, Coord.add_eq_ok_iff]
  exact ⟨rect, _, ⟨hstep, rfl⟩, hrect⟩

theorem rightRoom_eq :
    rightRoom metrics rightCount =
      .ok (rightCount * (metrics.buttonWidth + metrics.spacing)) := by
  obtain ⟨hscale, hleft, hright⟩ := hample.nonneg
  rw [rightRoom_eq_ok_iff, hample.rightStep_eq, Int.mul_left_comm]
  exact ⟨hample.fits (by omega) (by omega), hample.fits (by omega) (by omega),
    rfl⟩

theorem exists_titleBar (height : Int) :
    ∃ titleBar, titleBarOf metrics (metrics.buttonMargin + metrics.spacing)
      (width + (borders.left + borders.right)) height leftCount rightCount =
        .ok titleBar := by
  obtain ⟨hscale, hleft, hright⟩ := hample.nonneg
  obtain ⟨hleftBorder, hleftWidth⟩ := hample.left
  obtain ⟨hrightBorder, hrightWidth⟩ := hample.right
  have hmargin := hample.scaled.buttonMargin_eq
  have hspacing := hample.scaled.spacing_eq
  have hleftRoom : (leftCount : Int) * metrics.leftButtonWidth =
      24 * (leftCount * metrics.scale) := by
    rw [hample.scaled.leftButtonWidth_eq, Int.mul_left_comm]
  have hrightRoom : (rightCount : Int) *
      (metrics.buttonWidth + metrics.spacing) =
        34 * (rightCount * metrics.scale) := by
    rw [hample.rightStep_eq, Int.mul_left_comm]
  simp only [titleBarOf, hample.rightRoom_eq, bind_eq_ok_iff,
    Coord.mul_eq_ok_iff, Coord.add_eq_ok_iff, Coord.sub_eq_ok_iff]
  exact ⟨_, _, ⟨hample.fits (by omega) (by omega), rfl⟩,
    _, ⟨hample.fits (by omega) (by omega), rfl⟩,
    _, ⟨hample.fits (by omega) (by omega), rfl⟩,
    _, ⟨hample.fits (by omega) (by omega), rfl⟩,
    _, ⟨hample.fits (by omega) (by omega), rfl⟩,
    _, rfl, _, ⟨hample.fits (by omega) (by omega), rfl⟩, rfl⟩

theorem exists_places :
    ∃ found, places metrics borders width leftCount rightCount =
      .ok found := by
  obtain ⟨hscale, hleft, hright⟩ := hample.nonneg
  obtain ⟨hleftBorder, hleftWidth⟩ := hample.left
  obtain ⟨hrightBorder, hrightWidth⟩ := hample.right
  have hmargin := hample.scaled.buttonMargin_eq
  have hspacing := hample.scaled.spacing_eq
  have hinset : Coord.Fits (metrics.buttonMargin + metrics.spacing) :=
    hample.fits (by omega) (by omega)
  have hsides : Coord.Fits (borders.left + borders.right) :=
    hample.fits (by omega) (by omega)
  have hwidth : Coord.Fits (width + (borders.left + borders.right)) :=
    hample.fits (by omega) (by omega)
  have hstart : Coord.Fits (width + (borders.left + borders.right) -
      rightCount * (metrics.buttonWidth + metrics.spacing)) := by
    rw [hample.rightStep_eq, Int.mul_left_comm]
    exact hample.fits (by omega) (by omega)
  have hleftPlace := fun position (hlt : position < 0 + leftCount) =>
    hample.exists_leftPlace (Nat.zero_add leftCount ▸ hlt)
  have hrightPlace := fun position (hlt : position < 0 + rightCount) =>
    hample.exists_rightPlace (Nat.zero_add rightCount ▸ hlt)
  obtain ⟨leftRow, hleftRow⟩ := exists_rowPlaces hleftPlace
  obtain ⟨rightRow, hrightRow⟩ := exists_rowPlaces hrightPlace
  obtain ⟨titleBar, htitleBar⟩ := hample.exists_titleBar borders.top
  simp only [places, inset, Margins.horizontal, hample.rightRoom_eq,
    bind_eq_ok_iff, Coord.add_eq_ok_iff, Coord.sub_eq_ok_iff]
  exact ⟨_, _, ⟨hinset, rfl⟩, _, ⟨hsides, rfl⟩, _, ⟨hwidth, rfl⟩, leftRow,
    hleftRow, _, rfl, _, ⟨hstart, rfl⟩, rightRow, hrightRow, titleBar,
    htitleBar, rfl⟩

end Ample

/-! ## Headroom -/

/-- The room that a window and a look have to leave. -/
def Headroom (look : Look) (window : Window) : Prop :=
  (window.width.natAbs : Int) + 38 * (Metrics.ofDpi look.dpi).scale *
    ((look.left.length + look.right.length : Nat) + 4) ≤ Coord.greatest

/-- There is room for the layout of a frame, if its client leaves it one. -/
def HasRoom (client : Client) (look : Look) (window : Window) : Prop :=
  client.borderAlone = false → Headroom look window

theorem borders_bordersOf (sized : Bool) (look : Look)
    (alone maximized : Bool) :
    (metricsFor sized look).Borders
        (bordersOf alone maximized (metricsFor sized look)).left ∧
      (metricsFor sized look).Borders
        (bordersOf alone maximized (metricsFor sized look)).right := by
  have hscale := (metricsFor_scaled sized look).scale_pos
  have hzero : (metricsFor sized look).Borders 0 := by
    unfold Metrics.Borders
    omega
  obtain ⟨hleft, hright, -⟩ := borders_metricsFor sized look
  unfold bordersOf
  split
  · exact ⟨hzero, hzero⟩
  · split
    · exact ⟨hzero, hzero⟩
    · exact ⟨hleft, hright⟩

theorem length_layoutFor_le (client : Client) (layout : List Button.Kind) :
    (layoutFor client layout).length ≤ layout.length := by
  unfold layoutFor
  split
  · exact Nat.zero_le _
  · exact Nat.le_refl _

theorem Matches.ample {frame : Frame}
    (hmatches : frame.Matches sized look window client)
    (hroom : Headroom look window) :
    Ample frame.metrics frame.borders frame.window.width
      frame.left.buttons.length frame.right.buttons.length := by
  have hscaled := metricsFor_scaled sized look
  obtain ⟨hleft, hright⟩ := borders_bordersOf sized look client.borderAlone
    window.maximized
  have hscale : (metricsFor sized look).scale =
      (Metrics.ofDpi look.dpi).scale := by
    cases sized <;> rfl
  have hleftCount := Nat.le_trans hmatches.left_shows.length_le
    (length_layoutFor_le client look.left)
  have hrightCount := Nat.le_trans hmatches.right_shows.length_le
    (length_layoutFor_le client look.right)
  have hcounts : ((frame.left.buttons.length : Int) +
      frame.right.buttons.length) * (metricsFor sized look).scale ≤
      ((look.left.length + look.right.length : Nat) : Int) *
        (metricsFor sized look).scale :=
    Int.mul_le_mul_of_nonneg_right (by omega)
      (by have := hscaled.scale_pos; omega)
  have hexpanded : ∀ scale count : Int,
      38 * scale * (count + 4) = 38 * (count * scale + 4 * scale) := by
    intro scale count
    rw [Int.mul_assoc, Int.mul_comm scale, Int.add_mul]
  unfold Headroom at hroom
  rw [← hscale, hexpanded] at hroom
  rw [Int.add_mul] at hcounts
  rw [hmatches.metrics_eq, hmatches.borders_eq, hmatches.window_eq]
  exact ⟨hscaled, hleft, hright, by omega, by omega⟩

theorem Matches.exists_layOut {frame : Frame}
    (hmatches : frame.Matches sized look window client)
    (hroom : HasRoom client look window) :
    ∃ placed, frame.layOut = .ok placed := by
  cases halone : frame.borderAlone with
  | true => exact ⟨frame, layOut_of_borderAlone halone⟩
  | false =>
      have hclient : client.borderAlone = false :=
        hmatches.borderAlone_eq.symm.trans halone
      obtain ⟨found, hfound⟩ := (hmatches.ample (hroom hclient)).exists_places
      exact ⟨_, by rw [layOut_eq halone, hfound]; rfl⟩

theorem Matches.exists_relayOut {frame : Frame}
    (hmatches : frame.Matches sized look window client)
    (hroom : HasRoom client look window) :
    ∃ update placed, frame.relayOut = .ok (update, placed) := by
  obtain ⟨placed, hplaced⟩ := hmatches.exists_layOut hroom
  unfold relayOut
  split
  · exact ⟨_, _, rfl⟩
  · rw [hplaced]
    exact ⟨_, _, rfl⟩

theorem Current.bounded {frame : Frame}
    (hframe : frame.Current sized look window client)
    (hroom : HasRoom client look window) (side : Button.Side) :
    ∀ rect ∈ (frame.group side).rects, rect.Bounded := by
  intro rect hmem
  cases halone : frame.borderAlone with
  | true =>
      have hclient : client.borderAlone = true := by
        rw [← hframe.borderAlone_eq, halone]
      have hnone : (frame.group side).buttons = [] := by
        cases side with
        | left => exact hframe.left_nil hclient
        | right => exact hframe.right_nil hclient
      simp [Button.Group.rects, hnone] at hmem
  | false =>
      have hlaid := hframe.laidOut halone
      cases side with
      | right => exact hlaid.bounded_right hmem
      | left =>
          refine hlaid.bounded_left hmem ?_
          have hclient : client.borderAlone = false :=
            hframe.borderAlone_eq.symm.trans halone
          have hample := hframe.ample (hroom hclient)
          obtain ⟨hscale, hleft, hright⟩ := hample.nonneg
          have hmargin := hample.scaled.buttonMargin_eq
          have hspacing := hample.scaled.spacing_eq
          have hwidth := hample.scaled.leftButtonWidth_eq
          rw [show (frame.group .left).rects = _ from hlaid.left_eq,
            mem_squares] at hmem
          obtain ⟨index, hlt, rfl⟩ := hmem
          have hwithin := add_step_le
            (show 0 ≤ frame.metrics.scale by omega) hlt
          have hindex := offset_nonneg
            (show 0 ≤ frame.metrics.scale by omega) index
          simp only [hample.leftStep_eq, Int.mul_left_comm (index : Int)]
          exact (hample.fits (by omega) (by omega)).2

end Frame

/-! ## The pointer on buttons with room -/

namespace Button

theorem exists_hoverEach (pointer : Option Point) {buttons : List Button}
    (hbounded : ∀ rect ∈ buttons.map (·.rect), rect.Bounded) :
    ∃ changed marked, hoverEach pointer buttons = .ok (changed, marked) := by
  induction buttons with
  | nil => exact ⟨_, _, rfl⟩
  | cons button rest ih =>
      rw [List.map_cons, List.forall_mem_cons] at hbounded
      obtain ⟨changed, marked, hrest⟩ := ih hbounded.2
      cases pointer with
      | none =>
          simp only [hoverEach, hrest]
          exact ⟨_, _, rfl⟩
      | some point =>
          simp only [hoverEach, hbounded.1.contains_eq, hrest]
          exact ⟨_, _, rfl⟩

theorem exists_releaseEach (point : Point) {buttons : List Button}
    (hbounded : ∀ rect ∈ buttons.map (·.rect), rect.Bounded) :
    ∃ touched clicked released,
      releaseEach point buttons = .ok (touched, clicked, released) := by
  induction buttons with
  | nil => exact ⟨_, _, _, rfl⟩
  | cons button rest ih =>
      rw [List.map_cons, List.forall_mem_cons] at hbounded
      obtain ⟨touched, clicked, released, hrest⟩ := ih hbounded.2
      simp only [releaseEach, hbounded.1.contains_eq, hrest]
      split <;> exact ⟨_, _, _, rfl⟩

end Button

namespace Frame

variable {sized : Bool} {look : Look} {window : Window} {client : Client}

section

variable {frame : Frame}
  (hbounded : ∀ side, ∀ rect ∈ (frame.group side).rects, rect.Bounded)

include hbounded

theorem exists_hover (pointer : Option Point) :
    ∃ update next, frame.hover pointer = .ok (update, next) := by
  obtain ⟨_, _, hleft⟩ := Button.exists_hoverEach pointer (hbounded .left)
  obtain ⟨_, _, hright⟩ := Button.exists_hoverEach pointer (hbounded .right)
  simp only [hover, Button.Group.hover]
  rw [show Button.hoverEach pointer frame.left.buttons = _ from hleft,
    show Button.hoverEach pointer frame.right.buttons = _ from hright]
  exact ⟨_, _, rfl⟩

theorem exists_press (point : Point) :
    ∃ update next, frame.press point = .ok (update, next) := by
  have hfound : ∀ side, ∃ found,
      (frame.group side).buttonAt point = .ok found := fun side =>
    ⟨_, Button.Group.positionFrom_eq (hbounded side) 0⟩
  obtain ⟨onLeft, hleft⟩ := hfound .left
  obtain ⟨onRight, hright⟩ := hfound .right
  unfold press
  rw [Button.Group.press?_eq, Button.Group.press?_eq,
    show frame.left.buttonAt point = _ from hleft,
    show frame.right.buttonAt point = _ from hright]
  cases onLeft with
  | some index => exact ⟨_, _, rfl⟩
  | none => cases onRight <;> exact ⟨_, _, rfl⟩

theorem exists_release (point : Point) :
    ∃ update next, frame.release point = .ok (update, next) := by
  obtain ⟨_, _, _, hleft⟩ := Button.exists_releaseEach point (hbounded .left)
  obtain ⟨_, _, _, hright⟩ :=
    Button.exists_releaseEach point (hbounded .right)
  simp only [release, Button.Group.release]
  rw [show Button.releaseEach point frame.left.buttons = _ from hleft,
    show Button.releaseEach point frame.right.buttons = _ from hright]
  exact ⟨_, _, rfl⟩

end

/-! ## Events -/

theorem Current.exists_maximize {frame : Frame}
    (hframe : frame.Current sized look window client)
    (hroom : HasRoom client look window) (on : Bool) :
    ∃ update next, frame.maximize on = .ok (update, next) := by
  obtain ⟨update, placed, hrelayOut⟩ :=
    (hframe.matches_maximized on).exists_relayOut hroom
  unfold Frame.maximize
  split
  · exact ⟨_, _, rfl⟩
  · rw [hrelayOut]
    exact ⟨_, _, rfl⟩

theorem Current.exists_enable {frame : Frame}
    (hframe : frame.Current sized look window client)
    (hroom : HasRoom client look window) (capabilities : Capabilities) :
    ∃ update next, frame.enable capabilities = .ok (update, next) := by
  obtain ⟨update, placed, hrelayOut⟩ :=
    (hframe.matches_enabled capabilities).exists_relayOut hroom
  unfold Frame.enable
  simp only
  split
  · exact ⟨_, _, hrelayOut⟩
  · exact ⟨_, _, rfl⟩

theorem exists_handle_of_handleWindow {frame : Frame} {event : WindowEvent}
    {shadows : ShadowMemo} {changed : Except Fault (Update × Frame)}
    (hhandle : frame.handleWindow shadows event =
      changed >>= fun (update, next) => pure (update, next, shadows))
    (hchanged : ∃ update next, changed = .ok (update, next)) :
    ∃ update next later,
      frame.handle shadows (.window event) = .ok (update, next, later) := by
  obtain ⟨update, next, rfl⟩ := hchanged
  exact ⟨update, next, shadows, hhandle⟩

theorem Current.exists_handle_of_hasRoom {frame : Frame}
    (hframe : frame.Current sized look window client)
    (hroom : HasRoom client look window) {event : Decoration.Event}
    (hafter : HasRoom client (look.afterEvent event)
      (window.afterEvent event))
    (shadows : ShadowMemo) :
    ∃ update next later,
      frame.handle shadows event = .ok (update, next, later) := by
  have hbounded := hframe.bounded hroom
  cases event with
  | window event =>
      cases event with
      | resized width height =>
          exact exists_handle_of_handleWindow rfl
            ((hframe.matches_resized width height).exists_relayOut hafter)
      | maximized on =>
          exact exists_handle_of_handleWindow rfl
            (hframe.exists_maximize hroom on)
      | activated on => exact ⟨_, _, _, rfl⟩
      | retitled caption => exact ⟨_, _, _, rfl⟩
      | enabled capabilities =>
          exact exists_handle_of_handleWindow rfl
            (hframe.exists_enable hroom capabilities)
      | pointerMoved pointer =>
          exact exists_handle_of_handleWindow rfl
            (exists_hover hbounded pointer)
      | pointerPressed point =>
          exact exists_handle_of_handleWindow rfl (exists_press hbounded point)
      | pointerReleased point =>
          exact exists_handle_of_handleWindow rfl
            (exists_release hbounded point)
  | theme id => exact ⟨_, _, _, rfl⟩
  | font font => exact ⟨_, _, _, rfl⟩
  | layout left right =>
      unfold Frame.handle
      simp only
      split
      · exact ⟨_, _, _, rfl⟩
      · next hchrome =>
          obtain ⟨update, placed, hrelayOut⟩ :=
            (hframe.matches_layout (Bool.eq_false_iff.mpr hchrome) left
              right).exists_relayOut hafter
          rw [hrelayOut]
          exact ⟨_, _, _, rfl⟩

theorem Current.exists_handle {frame : Frame}
    (hframe : frame.Current sized look window client)
    (hroom : Headroom look window) {event : Decoration.Event}
    (hafter : Headroom (look.afterEvent event) (window.afterEvent event))
    (shadows : ShadowMemo) :
    ∃ update next later,
      frame.handle shadows event = .ok (update, next, later) :=
  hframe.exists_handle_of_hasRoom (fun _ => hroom) (fun _ => hafter) shadows

/-! ## Histories -/

def Remeasures : Decoration.Event → Prop
  | .window (.resized _ _) | .layout _ _ => True
  | _ => False

/-- Every width and every layout that events bring, the latest first, leaves
room. -/
def Roomy (look : Look) (window : Window) : List Decoration.Event → Prop
  | [] => True
  | event :: earlier => Roomy look window earlier ∧
      (Remeasures event → Headroom (look.afterAll (event :: earlier))
        (window.afterAll (event :: earlier)))

theorem headroom_afterEvent (hroom : Headroom look window)
    {event : Decoration.Event}
    (hevent : Remeasures event →
      Headroom (look.afterEvent event) (window.afterEvent event)) :
    Headroom (look.afterEvent event) (window.afterEvent event) := by
  cases event with
  | window event =>
      cases event with
      | resized width height => exact hevent trivial
      | _ => exact hroom
  | layout left right => exact hevent trivial
  | theme id => exact hroom
  | font font => exact hroom

theorem Roomy.headroom {events : List Decoration.Event}
    (hroomy : Roomy look window events) (hroom : Headroom look window) :
    Headroom (look.afterAll events) (window.afterAll events) := by
  induction events with
  | nil => exact hroom
  | cons event earlier ih => exact headroom_afterEvent (ih hroomy.1) hroomy.2

theorem exists_fit_of_hasRoom (sized : Bool) {commons : Commons}
    (hroom : HasRoom (commons.properties.client window.id) look window) :
    ∃ frame made, fit sized look window commons = .ok (frame, made) := by
  have hmatches : (outline sized look window
      (commons.properties.client window.id)
      (firstDrawing window commons).1).Matches sized look window
        (commons.properties.client window.id) :=
    outline_matches (Memo.subject_get commons.shadows _)
  obtain ⟨placed, hplaced⟩ := hmatches.exists_layOut hroom
  exact ⟨placed, _, by rw [fit_eq, hplaced]; rfl⟩

theorem exists_fit (sized : Bool) (hroom : Headroom look window)
    (commons : Commons) :
    ∃ frame made, fit sized look window commons = .ok (frame, made) :=
  exists_fit_of_hasRoom sized fun _ => hroom

/-- If the width of a window and the length of its configured buttons leave
room below the greatest coordinate, then neither making its frame nor an event
overflows, as long as every other width and layout leaves the same room. -/
theorem exists_handle_of_headroom (sized : Bool)
    (hroom : Headroom look window) :
    (∀ length ∈ (metricsFor sized look).lengths, Coord.Fits length) ∧
    (∀ commons, ∃ frame made,
      fit sized look window commons = .ok (frame, made)) ∧
    ∀ events frame, Undergone sized look window events frame →
      Roomy look window events →
      Coord.Fits (Shadow.innerRect frame.shape).x ∧
      ∀ event, (Remeasures event → Headroom (look.afterAll (event :: events))
          (window.afterAll (event :: events))) →
        ∀ shadows, ∃ update next later,
          frame.handle shadows event = .ok (update, next, later) := by
  refine ⟨fits_metricsFor sized look, exists_fit sized hroom, ?_⟩
  intro events frame hundergone hroomy
  obtain ⟨client, hframe⟩ := hundergone.exists_current
  have hnow := hroomy.headroom hroom
  constructor
  · rw [hframe.shape_eq]
    exact fits_innerRect _ _ _
  · intro event hevent shadows
    exact hframe.exists_handle hnow (headroom_afterEvent hnow hevent) shadows

/-- A window as wide as it can be with one button on either side. -/
theorem exists_handle_at_greatest :
    ∃ (frame : Frame) (update : Update) (next : Frame) (later : ShadowMemo),
      Undergone true { left := [.menu], right := [.close] }
        { id := 1, width := 2147483419, height := 1 }
        [.window (.maximized true)] frame ∧
      frame.handle {} (.window
          (.pointerPressed ⟨Coord.greatest, Coord.least⟩)) =
        .ok (update, next, later) := by
  have hroom : Headroom { left := [.menu], right := [.close] }
      { id := 1, width := 2147483419, height := 1 } := by
    unfold Headroom
    decide
  obtain ⟨-, hfit, hhandle⟩ := exists_handle_of_headroom true hroom
  obtain ⟨first, made, hfirst⟩ := hfit {}
  have hmade := Undergone.fit hfirst
  obtain ⟨-, hmaximize⟩ := hhandle [] first hmade trivial
  obtain ⟨_, frame, _, hframe⟩ :=
    hmaximize (.window (.maximized true)) False.elim {}
  have hundergone := hmade.handle hframe
  obtain ⟨-, hpress⟩ :=
    hhandle _ frame hundergone ⟨trivial, False.elim⟩
  obtain ⟨update, next, later, hnext⟩ := hpress
    (.window (.pointerPressed ⟨Coord.greatest, Coord.least⟩)) False.elim {}
  exact ⟨frame, update, next, later, hundergone, hnext⟩

end Frame
end WindowChrome
