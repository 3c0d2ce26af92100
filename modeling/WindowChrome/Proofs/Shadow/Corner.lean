import WindowChrome.Decorator
import WindowChrome.Proofs.Shadow.Extent
import WindowChrome.Proofs.Shadow.Sharing

/-!
# The extent of corner masks

A corner mask is as wide as whoever asks for it says.  Beyond radii of `2 ^ 16`
it depends on the covered pixels whether their positions can be counted.
-/

namespace WindowChrome

def CornerMemo.mask (memo : CornerMemo) (radius : Int) : Except Fault Bitmap :=
  (memo.corner radius).map (·.1.contents)

namespace Corner

/-- What the corner of a radius covers of its square: the quarter of a disc
around the far corner of the square, and all that lies beyond its center. -/
def figure (side : Nat) (x y : Float32) : Bool :=
  let r := Float32.ofNat side
  let dx := x - r
  let dy := y - r
  decide (r ≤ x) || decide (r ≤ y) || decide (dx * dx + dy * dy ≤ r * r)

def Bounded (mask : Except Fault Bitmap) : Prop :=
  ∃ bitmap side, mask = .ok bitmap ∧ bitmap.IsSquare side ∧
    1 ≤ side ∧ (side : Int) ≤ CornerRadii.greatest.toInt

/-- No covered pixel in a corner of the given side has a position that is too
large. -/
def Countable (side : Nat) : Prop :=
  ∀ x y, x < side → y < side →
    (Bitmap.shade .white (Mask.coverageAt (figure side) x y)).isSome →
    y * side + x < Index.bound

variable {radius : Int}

theorem draw_eq (radius : Int) :
    draw radius = Bitmap.ofMask
      (Mask.ofFigure (max radius 1).toNat (figure (max radius 1).toNat))
      (max radius 1).toNat .white := rfl

theorem addressable_iff (side : Nat) :
    Bitmap.Addressable (Mask.ofFigure side (figure side)) .white ↔
      Countable side := by
  constructor
  · intro hmask x y hx hy
    have hlt := Mask.position_lt hx hy
    have hcolumn : (y * side + x) % side = x := by
      rw [Nat.mul_add_mod', Nat.mod_eq_of_lt hx]
    have hrow : (y * side + x) / side = y := by
      rw [Nat.mul_comm, Nat.mul_add_div (by omega), Nat.div_eq_of_lt hx,
        Nat.add_zero]
    apply hmask (y * side + x)
    simp [Mask.ofFigure, hlt, hcolumn, hrow]
  · intro hcount index coverage hentry hshade
    simp only [Mask.ofFigure, Array.getElem?_map, Array.getElem?_range] at hentry
    split at hentry
    · next hlt =>
        rw [Option.map_some, Option.some.injEq] at hentry
        rcases Mask.mod_div_lt hlt with ⟨hx, hy⟩
        rw [← hentry] at hshade
        have hfits := hcount _ _ hx hy hshade
        rw [Nat.div_add_mod'] at hfits
        exact hfits
    · cases hentry

theorem countable_of_le {side : Nat} (hle : side ≤ 65536) :
    Countable side := by
  intro x y hx hy _
  have hlt := Mask.position_lt hx hy
  have hsquare : side * side ≤ 65536 * 65536 := Nat.mul_le_mul hle hle
  unfold Index.bound
  omega

theorem isSquare_of_draw {bitmap : Bitmap} (hdraw : draw radius = .ok bitmap) :
    bitmap.IsSquare (max radius 1).toNat := by
  rw [draw_eq] at hdraw
  exact (Bitmap.addressable_of_ofMask hdraw).1

theorem exists_draw_iff :
    (∃ bitmap, draw radius = .ok bitmap) ↔
      Countable (max radius 1).toNat := by
  rw [draw_eq, ← addressable_iff]
  constructor
  · intro hdraw
    rcases hdraw with ⟨bitmap, hbitmap⟩
    exact (Bitmap.addressable_of_ofMask hbitmap).2
  · intro hmask
    rcases Bitmap.exists_ofMask_of_addressable
      (Mask.size_ofFigure _ _) hmask with ⟨bitmap, hbitmap, _⟩
    exact ⟨bitmap, hbitmap⟩

theorem bounded_draw_iff :
    Bounded (draw radius) ↔ radius ≤ CornerRadii.greatest.toInt := by
  have hgreatest := CornerRadii.toInt_greatest
  constructor
  · intro hbounded
    rcases hbounded with ⟨bitmap, side, hdraw, hsquare, _, hle⟩
    have hside := (isSquare_of_draw hdraw).width_eq
    rw [hsquare.width_eq] at hside
    omega
  · intro hle
    have hcount : Countable (max radius 1).toNat :=
      countable_of_le (by omega)
    rcases exists_draw_iff.mpr hcount with ⟨bitmap, hdraw⟩
    exact ⟨bitmap, _, hdraw, isSquare_of_draw hdraw, by omega, by omega⟩

theorem draw_radiusFor (radius : Int) :
    draw (radiusFor radius) = draw radius := by
  unfold draw radiusFor
  rw [Int.max_eq_left (Int.le_max_right radius 1)]

theorem mask_eq (memo : CornerMemo) (radius : Int) :
    memo.mask radius = draw radius := by
  rw [← draw_radiusFor radius]
  unfold CornerMemo.mask CornerMemo.corner
  rcases memo.fetch_cases (radiusFor radius) with
    ⟨drawing, later, hfetch, _, hdrawn⟩ | ⟨fault, hfetch, hdraw⟩
  · rw [hfetch, hdrawn]
    rfl
  · rw [hfetch, hdraw]
    rfl

/-- The mask of a radius is a square of an accepted radius exactly if the
radius does not exceed the greatest one.  There is one exactly if the covered
pixels have positions that can be counted, as they do up to a width of `2 ^
16`. -/
theorem bounded_corner_iff (radius : Int) :
    (∀ memo : CornerMemo,
      (Bounded (memo.mask radius) ↔ radius ≤ CornerRadii.greatest.toInt) ∧
      (∀ bitmap, memo.mask radius = .ok bitmap →
        bitmap.IsSquare (max radius 1).toNat) ∧
      ((∃ bitmap, memo.mask radius = .ok bitmap) ↔
        Countable (max radius 1).toNat) ∧
      (radius ≤ 65536 → Countable (max radius 1).toNat)) ∧
    ∀ decorator : Decorator,
      (decorator.corner radius).map (·.1) =
        (decorator.corners.corner radius).map (·.1) := by
  constructor
  · intro memo
    rw [mask_eq]
    exact ⟨bounded_draw_iff, fun bitmap => isSquare_of_draw, exists_draw_iff,
      fun hle => countable_of_le (by omega)⟩
  · intro decorator
    unfold Decorator.corner
    cases decorator.corners.corner radius <;> rfl

theorem bounded_at_greatest_and_below_one :
    Bounded (CornerMemo.mask {} 128) ∧
    Bounded (CornerMemo.mask {} (-5)) := by
  have hgreatest := CornerRadii.toInt_greatest
  constructor
  · rw [((bounded_corner_iff 128).1 {}).1]
    omega
  · rw [((bounded_corner_iff (-5)).1 {}).1]
    omega

/-- The last pixel of a mask with a side of `2 ^ 16 + 1` is covered, but its
position cannot be counted. -/
theorem unbounded_beyond_greatest :
    (∃ bitmap, CornerMemo.mask {} 129 = .ok bitmap ∧
      bitmap.width = 129 ∧ bitmap.pixels.size = 129 * 129) ∧
    ¬ Bounded (CornerMemo.mask {} 129) ∧
    ∀ bitmap, CornerMemo.mask {} 65537 ≠ .ok bitmap := by
  have hgreatest := CornerRadii.toInt_greatest
  simp only [mask_eq]
  refine ⟨?_, ?_, ?_⟩
  · rcases (@exists_draw_iff 129).mpr (countable_of_le (by decide))
      with ⟨bitmap, hdraw⟩
    have hsquare := isSquare_of_draw hdraw
    exact ⟨bitmap, hdraw, hsquare.width_eq, hsquare.size_eq⟩
  · rw [bounded_draw_iff]
    omega
  · intro bitmap hdraw
    have hcount := (@exists_draw_iff 65537).mp ⟨bitmap, hdraw⟩
    have hcovered : (Bitmap.shade .white
        (Mask.coverageAt (figure 65537) 65536 65536)).isSome = true := by
      decide +kernel
    exact absurd (hcount 65536 65536 (by decide) (by decide) hcovered)
      (by decide)

end Corner
end WindowChrome
