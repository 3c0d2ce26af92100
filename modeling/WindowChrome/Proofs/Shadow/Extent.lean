import WindowChrome.Proofs.Property.Words
import WindowChrome.Shadow.Drawing

/-!
# The extent of shadows

No position read while drawing depends on the numbers in a mask, so it is
enough to follow the sizes.
-/

namespace WindowChrome

/-! ## Computations on every entry -/

section Entries

variable {ε α β : Type}

theorem exists_list_mapM (f : α → Except ε β) (P : β → Prop) (xs : List α)
    (hf : ∀ x ∈ xs, ∃ y, f x = .ok y ∧ P y) :
    ∃ ys, xs.mapM f = .ok ys ∧ ys.length = xs.length ∧ ∀ y ∈ ys, P y := by
  induction xs with
  | nil => exact ⟨[], rfl, rfl, by simp⟩
  | cons x xs ih =>
      obtain ⟨hx, hxs⟩ := List.forall_mem_cons.mp hf
      obtain ⟨y, hy, hPy⟩ := hx
      obtain ⟨ys, hys, hlength, hPys⟩ := ih hxs
      refine ⟨y :: ys, ?_, by simp [hlength], ?_⟩
      · simp only [List.mapM_cons, bind_eq_ok_iff]
        exact ⟨y, hy, ys, hys, rfl⟩
      · exact List.forall_mem_cons.mpr ⟨hPy, hPys⟩

theorem exists_mapM (f : α → Except ε β) (P : β → Prop) (xs : Array α)
    (hf : ∀ x ∈ xs, ∃ y, f x = .ok y ∧ P y) :
    ∃ ys, xs.mapM f = .ok ys ∧ ys.size = xs.size ∧ ∀ y ∈ ys, P y := by
  obtain ⟨ys, hys, hlength, hPys⟩ := exists_list_mapM f P xs.toList
    fun x hmem => hf x (Array.mem_toList_iff.mp hmem)
  refine ⟨ys.toArray, ?_, by simpa using hlength, by simpa using hPys⟩
  rw [Array.mapM_eq_mapM_toList, hys]
  rfl

theorem exists_foldlM {f : β → α → Except ε β} {P : β → Prop} {xs : Array α}
    {first : β} (hfirst : P first)
    (hf : ∀ value, P value → ∀ x ∈ xs, ∃ next, f value x = .ok next ∧ P next) :
    ∃ last, xs.foldlM f first = .ok last ∧ P last := by
  have hlist : ∀ (rest : List α), (∀ x ∈ rest, x ∈ xs) → ∀ value, P value →
      ∃ last, rest.foldlM f value = .ok last ∧ P last := by
    intro rest
    induction rest with
    | nil => exact fun _ value hvalue => ⟨value, rfl, hvalue⟩
    | cons x rest ih =>
        intro hmem value hvalue
        obtain ⟨hx, hrest⟩ := List.forall_mem_cons.mp hmem
        obtain ⟨next, hnext, hPnext⟩ := hf value hvalue x hx
        obtain ⟨last, hlast, hPlast⟩ := ih hrest next hPnext
        refine ⟨last, ?_, hPlast⟩
        simp only [List.foldlM_cons, bind_eq_ok_iff]
        exact ⟨next, hnext, hlast⟩
  obtain ⟨last, hlast, hPlast⟩ := hlist xs.toList (by simp) first hfirst
  exact ⟨last, by rw [← Array.foldlM_toList, hlast], hPlast⟩

theorem forall_of_foldlM {f : β → α → Except ε β} {P : β → Prop}
    {Q : α → Prop} {xs : Array α} {first last : β} (hfirst : P first)
    (hf : ∀ value next x, x ∈ xs → P value → f value x = .ok next →
      P next ∧ Q x)
    (hfold : xs.foldlM f first = .ok last) : P last ∧ ∀ x ∈ xs, Q x := by
  have hlist : ∀ (rest : List α), (∀ x ∈ rest, x ∈ xs) → ∀ value, P value →
      rest.foldlM f value = .ok last → P last ∧ ∀ x ∈ rest, Q x := by
    intro rest
    induction rest with
    | nil =>
        intro _ value hvalue hresult
        cases hresult
        exact ⟨hvalue, by simp⟩
    | cons x rest ih =>
        intro hmem value hvalue hresult
        obtain ⟨hx, hrest⟩ := List.forall_mem_cons.mp hmem
        simp only [List.foldlM_cons, bind_eq_ok_iff] at hresult
        obtain ⟨next, hnext, hlast⟩ := hresult
        obtain ⟨hPnext, hQ⟩ := hf value next x hx hvalue hnext
        obtain ⟨hPlast, hQrest⟩ := ih hrest next hPnext hlast
        exact ⟨hPlast, List.forall_mem_cons.mpr ⟨hQ, hQrest⟩⟩
  rw [← Array.foldlM_toList] at hfold
  simpa using hlist xs.toList (by simp) first hfirst hfold

theorem exists_entryAt {entries : Array α} {P : α → Prop} {index : Nat}
    (hentries : ∀ entry ∈ entries, P entry) (hlt : index < entries.size) :
    ∃ entry, entryAt entries index = .ok entry ∧ P entry :=
  ⟨entries[index], entryAt_of_lt hlt, hentries _ (Array.getElem_mem hlt)⟩

end Entries

/-! ## Masks -/

namespace Mask

theorem size_ofFigure (side : Nat) (inside : Float32 → Float32 → Bool) :
    (ofFigure side inside).size = side * side := by
  simp [ofFigure]

theorem size_runningSums (line : Array Float32) :
    (runningSums line).size = line.size + 1 := by
  refine Array.foldl_induction
    (fun count (state : Float32 × Array Float32) =>
      state.2.size = count + 1) rfl ?_
  rintro index ⟨total, sums⟩ hsize
  exact (Array.size_push _).trans (congrArg (· + 1) hsize)

theorem exists_windowMean {sums : Array Float32} {length position : Nat}
    (radius : Nat) (hsize : sums.size = length + 1)
    (hlt : position < length) :
    ∃ mean, windowMean sums length radius position = .ok mean := by
  have hhigh : min (position + radius + 1) length < sums.size := by omega
  have hlow : position - radius < sums.size := by omega
  simp only [windowMean, entryAt_of_lt hhigh, entryAt_of_lt hlow]
  exact ⟨_, rfl⟩

theorem exists_softenLine (radius : Nat) (line : Array Float32) :
    ∃ softened, softenLine radius line = .ok softened ∧
      softened.size = line.size := by
  obtain ⟨softened, hsoftened, hsize, -⟩ :=
    exists_mapM (windowMean (runningSums line) line.size radius)
      (fun _ => True) (Array.range line.size) (by
        intro position hmem
        obtain ⟨mean, hmean⟩ := exists_windowMean radius
          (size_runningSums line) (Array.mem_range.mp hmem)
        exact ⟨mean, hmean, trivial⟩)
  exact ⟨softened, hsoftened, by simpa using hsize⟩

variable {side : Nat} {mask : Array Float32}

theorem row_end_le {y : Nat} (hlt : y < side) :
    y * side + side ≤ side * side := by
  rw [← Nat.succ_mul]
  exact Nat.mul_le_mul_right side hlt

theorem position_lt {x y : Nat} (hx : x < side) (hy : y < side) :
    y * side + x < side * side := by
  have hrow := row_end_le hy
  omega

theorem mod_div_lt {index : Nat} (hlt : index < side * side) :
    index % side < side ∧ index / side < side := by
  have hpos : 0 < side := by
    rcases Nat.eq_zero_or_pos side with rfl | hpos
    · simp at hlt
    · exact hpos
  exact ⟨Nat.mod_lt _ hpos, Nat.div_lt_of_lt_mul hlt⟩

theorem size_row (hsize : mask.size = side * side) {y : Nat}
    (hlt : y < side) : (row mask side y).size = side := by
  have hend := row_end_le hlt
  simp only [row, Array.size_extract, hsize]
  omega

theorem size_flatten {rows : Array (Array Float32)}
    (hrows : ∀ row ∈ rows, row.size = side) :
    rows.flatten.size = rows.size * side := by
  have hsizes : (rows.map Array.size).toList =
      List.replicate rows.size side := by
    refine List.eq_replicate_iff.mpr ⟨by simp, ?_⟩
    simpa using hrows
  rw [Array.size_flatten, ← Array.sum_toList, hsizes, List.sum_replicate_nat]

theorem exists_softenRows (radius : Nat) (hsize : mask.size = side * side) :
    ∃ softened, softenRows radius side mask = .ok softened ∧
      softened.size = side * side := by
  obtain ⟨rows, hrows, hcount, hlengths⟩ :=
    exists_mapM (fun y => softenLine radius (row mask side y))
      (fun line => line.size = side) (Array.range side) (by
        intro y hmem
        obtain ⟨line, hline, hlength⟩ :=
          exists_softenLine radius (row mask side y)
        rw [size_row hsize (Array.mem_range.mp hmem)] at hlength
        exact ⟨line, hline, hlength⟩)
  refine ⟨rows.flatten, ?_, ?_⟩
  · simp only [softenRows, hrows]
    rfl
  · rw [size_flatten hlengths, hcount, Array.size_range]

theorem exists_column (hsize : mask.size = side * side) {x : Nat}
    (hlt : x < side) :
    ∃ found, column mask side x = .ok found ∧ found.size = side := by
  obtain ⟨found, hfound, hcount, -⟩ :=
    exists_mapM (fun y => entryAt mask (y * side + x)) (fun _ => True)
      (Array.range side) (by
        intro y hmem
        have hposition : y * side + x < mask.size := by
          rw [hsize]
          exact position_lt hlt (Array.mem_range.mp hmem)
        exact ⟨_, entryAt_of_lt hposition, trivial⟩)
  exact ⟨found, hfound, by simpa using hcount⟩

theorem exists_softenColumns (radius : Nat)
    (hsize : mask.size = side * side) :
    ∃ softened, softenColumns radius side mask = .ok softened ∧
      softened.size = side * side := by
  obtain ⟨columns, hcolumns, hcount, hlengths⟩ :=
    exists_mapM (fun x => column mask side x >>= softenLine radius)
      (fun line => line.size = side) (Array.range side) (by
        intro x hmem
        obtain ⟨found, hfound, hlength⟩ :=
          exists_column hsize (Array.mem_range.mp hmem)
        obtain ⟨line, hline, hkept⟩ := exists_softenLine radius found
        rw [hfound]
        exact ⟨line, hline, hkept.trans hlength⟩)
  rw [Array.size_range] at hcount
  obtain ⟨softened, hsoftened, hsoftenedSize, -⟩ :=
    exists_mapM (fun index => entryAt columns (index % side) >>=
        fun line => entryAt line (index / side))
      (fun _ => True) (Array.range (side * side)) (by
        intro index hmem
        obtain ⟨hx, hy⟩ := mod_div_lt (Array.mem_range.mp hmem)
        obtain ⟨line, hline, hlength⟩ :=
          exists_entryAt hlengths (Nat.lt_of_lt_of_eq hx hcount.symm)
        rw [hline]
        exact ⟨_, entryAt_of_lt (Nat.lt_of_lt_of_eq hy hlength.symm), trivial⟩)
  refine ⟨softened, ?_, by simpa using hsoftenedSize⟩
  simp only [softenColumns, bind_eq_ok_iff]
  exact ⟨columns, hcolumns, hsoftened⟩

theorem exists_soften (radius passes : Nat) (hsize : mask.size = side * side) :
    ∃ softened, soften radius side passes mask = .ok softened ∧
      softened.size = side * side := by
  induction passes generalizing mask with
  | zero => exact ⟨mask, rfl, hsize⟩
  | succ passes ih =>
      obtain ⟨rows, hrows, hrowsSize⟩ := exists_softenRows radius hsize
      obtain ⟨columns, hcolumns, hcolumnsSize⟩ :=
        exists_softenColumns radius hrowsSize
      obtain ⟨softened, hsoftened, hsoftenedSize⟩ := ih hcolumnsSize
      refine ⟨softened, ?_, hsoftenedSize⟩
      simp only [soften, bind_eq_ok_iff]
      exact ⟨rows, hrows, columns, hcolumns, hsoftened⟩

end Mask

/-! ## Bitmaps -/

namespace Bitmap

structure IsSquare (bitmap : Bitmap) (side : Nat) : Prop where
  width_eq : bitmap.width = side
  height_eq : bitmap.height = side
  size_eq : bitmap.pixels.size = side * side

theorem isSquare_blank (side : Nat) : (blank side side).IsSquare side :=
  ⟨rfl, rfl, by simp [blank]⟩

variable {bitmap : Bitmap} {side : Nat}

theorem IsSquare.position_eq_ok_iff (hbitmap : bitmap.IsSquare side)
    {x y position : Nat} : bitmap.position x y = .ok position ↔
      y * side + x < Index.bound ∧ position = y * side + x := by
  simp only [Bitmap.position, Index.mul, Index.add, bind_eq_ok_iff,
    Index.checked_eq_ok_iff, hbitmap.width_eq]
  constructor
  · rintro ⟨_, ⟨_, rfl⟩, hfits, hresult⟩
    exact ⟨hfits, hresult⟩
  · rintro ⟨hfits, hresult⟩
    exact ⟨_, ⟨by omega, rfl⟩, hfits, hresult⟩

theorem IsSquare.set_eq (hbitmap : bitmap.IsSquare side) {x y : Nat}
    (hx : x < side) (hy : y < side) (hfits : y * side + x < Index.bound)
    (argb : UInt32) :
    bitmap.set x y argb = .ok { bitmap with
      pixels := bitmap.pixels.setIfInBounds (y * side + x) argb } := by
  have hlt := Mask.position_lt hx hy
  have hposition : bitmap.position x y = .ok (y * side + x) := by
    exact hbitmap.position_eq_ok_iff.mpr ⟨hfits, rfl⟩
  have hwithin : y * side + x < bitmap.pixels.size := by
    rw [hbitmap.size_eq]
    exact hlt
  simp only [set, bind_eq_ok_iff]
  exact ⟨_, hposition, if_pos hwithin⟩

theorem IsSquare.exists_set (hbitmap : bitmap.IsSquare side) {x y : Nat}
    (hx : x < side) (hy : y < side) (hfits : y * side + x < Index.bound)
    (argb : UInt32) :
    ∃ next, bitmap.set x y argb = .ok next ∧ next.IsSquare side :=
  ⟨_, hbitmap.set_eq hx hy hfits argb, hbitmap.width_eq, hbitmap.height_eq,
    by simp [hbitmap.size_eq]⟩

theorem IsSquare.of_set (hbitmap : bitmap.IsSquare side) {next : Bitmap}
    {x y : Nat} {argb : UInt32} (hset : bitmap.set x y argb = .ok next) :
    next.IsSquare side ∧ y * side + x < Index.bound := by
  simp only [set, bind_eq_ok_iff] at hset
  obtain ⟨position, hposition, hresult⟩ := hset
  split at hresult
  · cases hresult
    exact ⟨⟨hbitmap.width_eq, hbitmap.height_eq, by simp [hbitmap.size_eq]⟩,
      (hbitmap.position_eq_ok_iff.mp hposition).1⟩
  · cases hresult

def Addressable (mask : Array Float32) (color : Color) : Prop :=
  ∀ index coverage, mask[index]? = some coverage →
    (shade color coverage).isSome → index < Index.bound

theorem addressable_of_size_le {mask : Array Float32}
    (hsize : mask.size ≤ Index.bound) (color : Color) :
    Addressable mask color := by
  intro index coverage hentry _
  obtain ⟨hlt, -⟩ := Array.getElem?_eq_some_iff.mp hentry
  omega

section

variable {mask : Array Float32} {color : Color}

theorem exists_ofMask_of_addressable (hsize : mask.size = side * side)
    (hmask : Addressable mask color) :
    ∃ bitmap, ofMask mask side color = .ok bitmap ∧ bitmap.IsSquare side := by
  refine exists_foldlM (isSquare_blank side) ?_
  rintro bitmap hbitmap ⟨coverage, index⟩ hmem
  have hentry := Array.mk_mem_zipIdx_iff_getElem?.mp hmem
  have hindex : index < side * side := by
    obtain ⟨hlt, -⟩ := Array.getElem?_eq_some_iff.mp hentry
    exact Nat.lt_of_lt_of_eq hlt hsize
  obtain ⟨hx, hy⟩ := Mask.mod_div_lt hindex
  cases hshade : shade color coverage with
  | none => exact ⟨bitmap, by simp only [hshade], hbitmap⟩
  | some argb =>
      have hfits := hmask index coverage hentry (by rw [hshade]; rfl)
      rw [← Nat.div_add_mod' index side] at hfits
      simp only [hshade]
      exact hbitmap.exists_set hx hy hfits argb

theorem addressable_of_ofMask {made : Bitmap}
    (hmade : ofMask mask side color = .ok made) :
    made.IsSquare side ∧ Addressable mask color := by
  have hentries : made.IsSquare side ∧ ∀ entry ∈ mask.zipIdx,
      (shade color entry.1).isSome → entry.2 < Index.bound := by
    refine forall_of_foldlM (P := (IsSquare · side)) (isSquare_blank side) ?_
      hmade
    rintro bitmap next ⟨coverage, index⟩ _ hbitmap hstep
    cases hshade : shade color coverage with
    | none =>
        simp only [hshade] at hstep
        cases hstep
        exact ⟨hbitmap, by simp⟩
    | some argb =>
        simp only [hshade] at hstep
        obtain ⟨hnext, hfits⟩ := hbitmap.of_set hstep
        rw [Nat.div_add_mod'] at hfits
        exact ⟨hnext, fun _ => hfits⟩
  refine ⟨hentries.1, fun index coverage hentry => ?_⟩
  exact hentries.2 (coverage, index)
    (Array.mk_mem_zipIdx_iff_getElem?.mpr hentry)

theorem exists_ofMask (hsize : mask.size = side * side)
    (hbound : side * side ≤ Index.bound) (color : Color) :
    ∃ bitmap, ofMask mask side color = .ok bitmap ∧ bitmap.IsSquare side :=
  exists_ofMask_of_addressable hsize
    (addressable_of_size_le (by omega) color)

end

end Bitmap

/-! ## Shapes -/

theorem toInt_max (a b : Int32) : (max a b).toInt = max a.toInt b.toInt := by
  show (if a ≤ b then b else a).toInt = _
  simp only [Int32.le_iff_toInt_le]
  split <;> omega

theorem toInt_min (a b : Int32) : (min a b).toInt = min a.toInt b.toInt := by
  show (if a ≤ b then a else b).toInt = _
  simp only [Int32.le_iff_toInt_le]
  split <;> omega

namespace CornerRadii

theorem toInt_greatest : greatest.toInt = 128 := by decide

theorem toInt_largest (radii : CornerRadii) :
    radii.largest.toInt = max (max (max radii.topLeft.toInt
      radii.topRight.toInt) radii.bottomLeft.toInt) radii.bottomRight.toInt := by
  simp only [largest, toInt_max]

end CornerRadii

namespace Shape

theorem clampRadius_mem (radius : Int32) :
    1 ≤ (clampRadius radius).toInt ∧ (clampRadius radius).toInt ≤ 128 := by
  have hone : (1 : Int32).toInt = 1 := by decide
  have hgreatest := CornerRadii.toInt_greatest
  simp only [clampRadius, Int32.lt_iff_toInt_lt]
  split
  · omega
  · split <;> omega

theorem clampRadius_eq_self {radius : Int32}
    (hmem : 1 ≤ radius.toInt ∧ radius.toInt ≤ 128) :
    clampRadius radius = radius := by
  have hone : (1 : Int32).toInt = 1 := by decide
  have hgreatest := CornerRadii.toInt_greatest
  have hlow : ¬ radius < 1 := by
    rw [Int32.lt_iff_toInt_lt]
    omega
  have hhigh : ¬ CornerRadii.greatest < radius := by
    rw [Int32.lt_iff_toInt_lt]
    omega
  rw [clampRadius, if_neg hlow, if_neg hhigh]

structure InRange (shape : Shape) : Prop where
  radius_mem : ∀ radius ∈ shape.radii.toList,
    1 ≤ radius.toInt ∧ radius.toInt ≤ 128
  border_nonneg : 0 ≤ shape.border
  border_le : shape.border ≤ 256

theorem inRange_clamped (color : Color) (radii : CornerRadii)
    (darkness : UInt64) (border : Int) :
    (clamped color radii darkness border).InRange := by
  refine ⟨?_, ?_, ?_⟩
  · exact CornerRadii.forall_mem_toList.mpr
      ⟨clampRadius_mem _, clampRadius_mem _, clampRadius_mem _,
        clampRadius_mem _⟩
  · exact Int.le_max_left _ _
  · show max 0 (min border widestBorder) ≤ 256
    unfold widestBorder
    omega

end Shape

/-! ## Shadows -/

def Rect.HasColumn (rect : Rect) (column : Int) : Prop :=
  rect.x ≤ column ∧ column < rect.x + rect.width

def Rect.HasRow (rect : Rect) (row : Int) : Prop :=
  rect.y ≤ row ∧ row < rect.y + rect.height

namespace Shadow

variable {shape : Shape}

theorem cornerRoom_eq_max_min (shape : Shape) :
    cornerRoom shape = max 12 (min shape.radii.largest.toInt 128).toNat := by
  rw [cornerRoom, toInt_min, CornerRadii.toInt_greatest]
  rfl

theorem cornerRoom_le (shape : Shape) : cornerRoom shape ≤ 128 := by
  rw [cornerRoom_eq_max_min]
  omega

theorem cornerRoom_eq (hshape : shape.InRange) :
    cornerRoom shape = max 12 shape.radii.largest.toInt.toNat := by
  have hradii := CornerRadii.forall_mem_toList.mp hshape.radius_mem
  rw [cornerRoom_eq_max_min, CornerRadii.toInt_largest]
  omega

theorem toInt_le_cornerRoom (hshape : shape.InRange) :
    ∀ radius ∈ shape.radii.toList, radius.toInt ≤ cornerRoom shape := by
  rw [cornerRoom_eq hshape, CornerRadii.toInt_largest]
  refine CornerRadii.forall_mem_toList.mpr ?_
  omega

theorem drawingSide_eq (shape : Shape) : drawingSide shape =
    2 * cornerRoom shape + 2 * shape.border.toNat + 100 := by
  unfold drawingSide squareSide innerSide
  omega

theorem drawingSide_le (hshape : shape.InRange) : drawingSide shape ≤ 868 := by
  have hroom := cornerRoom_le shape
  have hborder := hshape.border_le
  rw [drawingSide_eq]
  omega

theorem square_drawingSide_le (hshape : shape.InRange) :
    drawingSide shape * drawingSide shape ≤ Index.bound :=
  Nat.le_trans (Nat.mul_le_mul (drawingSide_le hshape) (drawingSide_le hshape))
    (by decide)

/-- The boxes of a drawing in which the corners of a shape are rounded, those
that `RoundedSquare.contains` tests for, in whole pixels. -/
def cornerBoxes (shape : Shape) : List Rect :=
  let box (x y : Int) (radius : Int32) : Rect :=
    ⟨x, y, radius.toInt, radius.toInt⟩
  let near := shape.border
  let far (radius : Int32) := shape.border + squareSide shape - radius.toInt
  let radii := shape.radii
  [box near near radii.topLeft,
    box (far radii.topRight) near radii.topRight,
    box near (far radii.bottomLeft) radii.bottomLeft,
    box (far radii.bottomRight) (far radii.bottomRight) radii.bottomRight]

theorem innerRect_clear (hshape : shape.InRange) :
    ∀ box ∈ cornerBoxes shape,
      (∀ column, (innerRect shape).HasColumn column → ¬ box.HasColumn column) ∧
      ∀ row, (innerRect shape).HasRow row → ¬ box.HasRow row := by
  have hroom :=
    CornerRadii.forall_mem_toList.mp (toInt_le_cornerRoom hshape)
  simp only [cornerBoxes, List.forall_mem_cons, List.not_mem_nil,
    false_implies, implies_true, and_true, innerRect, Rect.HasColumn,
    Rect.HasRow, squareSide, innerSide]
  refine ⟨?_, ?_, ?_, ?_⟩ <;> constructor <;> intro position <;> omega

theorem exists_halo (shape : Shape) :
    ∃ mask, halo shape = .ok mask ∧
      mask.size = drawingSide shape * drawingSide shape := by
  have hcoverage :=
    Mask.size_ofFigure (drawingSide shape) (roundedSquare shape).contains
  simp only [halo]
  split
  · exact ⟨_, rfl, by simp [hcoverage]⟩
  · obtain ⟨softened, hsoftened, hsize⟩ := Mask.exists_soften
      (max (shape.border.toNat / passes) 1) passes hcoverage
    exact ⟨_, bind_eq_ok_iff.mpr ⟨softened, hsoftened, rfl⟩,
      by simp [hsize, hcoverage]⟩

structure Framed (shadow : Shadow) (shape : Shape) (room : Nat) : Prop where
  square : shadow.bitmap.IsSquare (2 * room + 2 * shape.border.toNat + 100)
  padding_eq : shadow.padding = .uniform shape.border
  inner_eq : shadow.inner =
    ⟨shape.border + room, shape.border + room, 100, 100⟩
  /-- As much is left beyond the inner part as there is before it. -/
  right_eq : shadow.inner.x + shadow.inner.width + (shape.border + room) =
    shadow.bitmap.width
  bottom_eq : shadow.inner.y + shadow.inner.height + (shape.border + room) =
    shadow.bitmap.height
  inside : 0 ≤ shadow.inner.x ∧ 0 ≤ shadow.inner.y ∧
    shadow.inner.x + shadow.inner.width ≤ shadow.bitmap.width ∧
    shadow.inner.y + shadow.inner.height ≤ shadow.bitmap.height
  clear : ∀ box ∈ cornerBoxes shape,
    (∀ column, shadow.inner.HasColumn column → ¬ box.HasColumn column) ∧
    ∀ row, shadow.inner.HasRow row → ¬ box.HasRow row

theorem exists_draw (hshape : shape.InRange) :
    ∃ shadow, draw shape = .ok shadow ∧
      shadow.Framed shape (cornerRoom shape) := by
  obtain ⟨mask, hmask, hsize⟩ := exists_halo shape
  obtain ⟨bitmap, hbitmap, hsquare⟩ := Bitmap.exists_ofMask hsize
    (square_drawingSide_le hshape) shape.color
  have hborder : (shape.border.toNat : Int) = shape.border :=
    Int.toNat_of_nonneg hshape.border_nonneg
  rw [drawingSide_eq] at hsquare
  refine ⟨⟨bitmap, .uniform shape.border, innerRect shape⟩, ?_, ?_⟩
  · simp only [draw, bind_eq_ok_iff]
    exact ⟨mask, hmask, bitmap, hbitmap, rfl⟩
  · exact {
      square := hsquare
      padding_eq := rfl
      inner_eq := rfl
      right_eq := by
        rw [hsquare.width_eq]
        simp only [innerRect, innerSide]
        omega
      bottom_eq := by
        rw [hsquare.height_eq]
        simp only [innerRect, innerSide]
        omega
      inside := by
        rw [hsquare.width_eq, hsquare.height_eq]
        simp only [innerRect, innerSide]
        omega
      clear := innerRect_clear hshape }

theorem ofShape_of_draw {shadow : Shadow} (hdraw : draw shape = .ok shadow) :
    ofShape shape = shadow := by
  unfold ofShape
  rw [hdraw]

theorem draw_eq_ofShape (hshape : shape.InRange) :
    draw shape = .ok (ofShape shape) := by
  rcases exists_draw hshape with ⟨shadow, hdraw, _⟩
  rw [ofShape_of_draw hdraw]
  exact hdraw

/-- Every shape that can be made has a shadow of bounded size, and none of its
parts depends on the numbers computed on the way. -/
theorem draw_bounded (color : Color) (radii : CornerRadii) (darkness : UInt64)
    (border : Int) :
    let shape := Shape.clamped color radii darkness border
    let room := max 12 shape.radii.largest.toInt.toNat
    let side := 2 * room + 2 * shape.border.toNat + 100
    side ≤ 868 ∧
    (∀ radius ∈ shape.radii.toList, 1 ≤ radius.toInt ∧ radius.toInt ≤ room) ∧
    (∀ inside, (Mask.ofFigure side inside).size = side * side) ∧
    (∀ (mask : Array Float32), mask.size = side * side →
      (∀ radius passes, ∃ softened,
        Mask.soften radius side passes mask = .ok softened ∧
          softened.size = side * side) ∧
      ∃ bitmap, Bitmap.ofMask mask side shape.color = .ok bitmap ∧
        bitmap.IsSquare side) ∧
    ∃ shadow, draw shape = .ok shadow ∧ shadow.Framed shape room := by
  intro shape room side
  have hshape : shape.InRange :=
    Shape.inRange_clamped color radii darkness border
  have hroom : cornerRoom shape = room := cornerRoom_eq hshape
  have hside : drawingSide shape = side := by rw [drawingSide_eq, hroom]
  have hle : side ≤ 868 := hside ▸ drawingSide_le hshape
  have hbound : side * side ≤ Index.bound :=
    hside ▸ square_drawingSide_le hshape
  refine ⟨hle, ?_, Mask.size_ofFigure side, ?_, ?_⟩
  · intro radius hmem
    have hwithin := toInt_le_cornerRoom hshape radius hmem
    rw [hroom] at hwithin
    exact ⟨(hshape.radius_mem radius hmem).1, hwithin⟩
  · intro mask hsize
    exact ⟨fun radius passes => Mask.exists_soften radius passes hsize,
      Bitmap.exists_ofMask hsize hbound shape.color⟩
  · rw [← hroom]
    exact exists_draw hshape

end Shadow

end WindowChrome
