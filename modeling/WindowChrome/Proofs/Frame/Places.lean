import WindowChrome.Decoration.Frame

/-!
# Places on a frame

Where title bar and buttons go depends on the metrics, the borders, the width
of the window and the numbers of buttons alone.
-/

namespace WindowChrome
namespace Frame

structure Places where
  titleBar : Rect
  left : List Rect
  right : List Rect
  deriving DecidableEq, Repr

def rowPlaces (place : Nat → Except Fault Rect) :
    Nat → Nat → Except Fault (List Rect)
  | _, 0 => .ok []
  | index, count + 1 => do
      let rect ← place index
      let others ← rowPlaces place (index + 1) count
      return rect :: others

def moveRow (buttons : List Button) (rects : List Rect) : List Button :=
  List.zipWith (fun button rect => { button with rect }) buttons rects

def leftPlace (metrics : Metrics) (inset : Int) (index : Nat) :
    Except Fault Rect := do
  let step ← Coord.add metrics.leftButtonWidth metrics.spacing
  placeAt inset step inset metrics.leftButtonWidth index

def rightPlace (metrics : Metrics) (start : Int) (index : Nat) :
    Except Fault Rect := do
  let step ← Coord.add metrics.buttonWidth metrics.spacing
  placeAt start step metrics.buttonMargin metrics.buttonWidth index

def places (metrics : Metrics) (borders : Margins) (windowWidth : Int)
    (leftCount rightCount : Nat) : Except Fault Places := do
  let inset ← inset metrics
  let sides ← borders.horizontal
  let width ← Coord.add windowWidth sides
  let left ← rowPlaces (leftPlace metrics inset) 0 leftCount
  let room ← rightRoom metrics rightCount
  let start ← Coord.sub width room
  let right ← rowPlaces (rightPlace metrics start) 0 rightCount
  let titleBar ← titleBarOf metrics inset width borders.top leftCount
    rightCount
  return { titleBar, left, right }

def moveTo (frame : Frame) (places : Places) : Frame :=
  { frame with
    titleBar := places.titleBar
    left := { frame.left with
      buttons := moveRow frame.left.buttons places.left }
    right := { frame.right with
      buttons := moveRow frame.right.buttons places.right } }

theorem length_of_rowPlaces {place : Nat → Except Fault Rect}
    {index count : Nat} {rects : List Rect}
    (hrects : rowPlaces place index count = .ok rects) :
    rects.length = count := by
  induction count generalizing index rects with
  | zero =>
      simp only [rowPlaces, Except.ok.injEq] at hrects
      subst rects
      rfl
  | succ count ih =>
      simp only [rowPlaces, bind_eq_ok_iff] at hrects
      rcases hrects with ⟨rect, _, others, hothers, hresult⟩
      cases hresult
      simp [ih hothers]

theorem length_of_places {metrics : Metrics} {borders : Margins}
    {windowWidth : Int} {leftCount rightCount : Nat} {found : Places}
    (hfound : places metrics borders windowWidth leftCount rightCount =
      .ok found) :
    found.left.length = leftCount ∧ found.right.length = rightCount := by
  simp only [places, bind_eq_ok_iff] at hfound
  rcases hfound with
      ⟨inset, _, sides, _, width, _, left, hleft, room, _, start, _, right,
       hright, titleBar, _, hresult⟩
  cases hresult
  exact ⟨length_of_rowPlaces hleft, length_of_rowPlaces hright⟩

theorem placeRow_eq (place : Nat → Except Fault Rect) (index : Nat)
    (buttons : List Button) :
    placeRow place index buttons =
      (rowPlaces place index buttons.length).map (moveRow buttons) := by
  induction buttons generalizing index with
  | nil => rfl
  | cons button rest ih =>
      simp only [placeRow, List.length_cons, rowPlaces, ih]
      cases place index with
      | error fault => rfl
      | ok rect =>
          cases rowPlaces place (index + 1) rest.length with
          | error fault => rfl
          | ok others => rfl

theorem layOut_of_borderAlone {frame : Frame}
    (halone : frame.borderAlone = true) : frame.layOut = .ok frame := by
  unfold layOut
  rw [if_pos halone]

/-- Laying out a frame with a title bar is moving title bar and buttons to
their places. -/
theorem layOut_eq {frame : Frame} (hchrome : frame.borderAlone = false) :
    frame.layOut =
      (places frame.metrics frame.borders frame.window.width
        frame.left.buttons.length frame.right.buttons.length).map
        frame.moveTo := by
  unfold layOut
  rw [if_neg (by simp [hchrome])]
  simp only [places, Frame.width, placeLeft, placeRight, placeRow_eq, bind_map,
    map_bind, bind_assoc]
  rfl

end Frame
end WindowChrome
