import WindowChrome.Property

/-! # Properties and their words -/

namespace WindowChrome

namespace MotifHints

theorem ofWords?_toWords (hints : MotifHints) :
    ofWords? hints.toWords = some hints := by
  simp [toWords, ofWords?]

theorem ofWords?_eq_none_iff {words : List UInt32} :
    ofWords? words = none ↔ words.length < 3 := by
  match words with
  | [] | [_] | [_, _] => simp [ofWords?]
  | _ :: _ :: _ :: _ => simp [ofWords?]

theorem toWords_of_ofWords? {words : List UInt32} {hints : MotifHints}
    (hhints : ofWords? words = some hints) :
    hints.toWords = (words.take 5).rightpad 5 0 := by
  match words with
  | [] | [_] | [_, _] => simp [ofWords?] at hhints
  | flags :: functions :: decorations :: rest =>
      have hzero : (0 : Int32).toUInt32 = 0 := rfl
      simp only [ofWords?, Option.some.injEq] at hhints
      rw [← hhints]
      match rest with
      | [] | [_] | _ :: _ :: _ => simp [toWords, List.rightpad, hzero]

end MotifHints

namespace CornerRadii

theorem ofWords?_toWords (radii : CornerRadii) :
    ofWords? radii.toWords = some radii := by
  simp [toWords, ofWords?]

theorem ofWords?_eq_none_iff {words : List UInt32} :
    ofWords? words = none ↔ words.length ≠ 4 := by
  match words with
  | [] | [_] | [_, _] | [_, _, _] => simp [ofWords?]
  | [_, _, _, _] => simp [ofWords?]
  | _ :: _ :: _ :: _ :: _ :: _ => simp [ofWords?]

theorem toWords_of_ofWords? {words : List UInt32} {radii : CornerRadii}
    (hradii : ofWords? words = some radii) : radii.toWords = words := by
  match words with
  | [] | [_] | [_, _] | [_, _, _] => simp [ofWords?] at hradii
  | [topLeft, topRight, bottomLeft, bottomRight] =>
      simp only [ofWords?, Option.some.injEq] at hradii
      rw [← hradii]
      simp [toWords]
  | _ :: _ :: _ :: _ :: _ :: _ => simp [ofWords?] at hradii

def toList (radii : CornerRadii) : List Int32 :=
  [radii.topLeft, radii.topRight, radii.bottomLeft, radii.bottomRight]

theorem forall_mem_toList {P : Int32 → Prop} {radii : CornerRadii} :
    (∀ radius ∈ radii.toList, P radius) ↔
      P radii.topLeft ∧ P radii.topRight ∧ P radii.bottomLeft ∧
        P radii.bottomRight := by
  simp [toList]

theorem map_eq_self {f : Int32 → Int32} {radii : CornerRadii}
    (hfixed : ∀ radius ∈ radii.toList, f radius = radius) :
    radii.map f = radii := by
  obtain ⟨htopLeft, htopRight, hbottomLeft, hbottomRight⟩ :=
    forall_mem_toList.mp hfixed
  simp only [map, htopLeft, htopRight, hbottomLeft, hbottomRight]

def Accepted (radius : Int32) : Prop := 1 ≤ radius ∧ radius ≤ greatest

instance (radius : Int32) : Decidable (Accepted radius) :=
  inferInstanceAs (Decidable (_ ∧ _))

theorem toList_orEach (radii : CornerRadii) (fallback : Int32) :
    (radii.orEach fallback).toList = radii.toList.map fun radius =>
      if Accepted radius then radius else fallback := rfl

theorem orEach_eq_self {radii : CornerRadii}
    (hradii : ∀ radius ∈ radii.toList, Accepted radius) (fallback : Int32) :
    radii.orEach fallback = radii :=
  map_eq_self fun radius hmem => if_pos (hradii radius hmem)

theorem accepted_of_mem_orEach {fallback : Int32}
    (hfallback : Accepted fallback) (radii : CornerRadii) :
    ∀ radius ∈ (radii.orEach fallback).toList, Accepted radius := by
  rw [toList_orEach]
  intro radius hmem
  rcases List.mem_map.mp hmem with ⟨given, _, hradius⟩
  rw [← hradius]
  split
  · assumption
  · exact hfallback

end CornerRadii

namespace Property

/-- Hints and radii are read back from their words, a list of words that stands
for either is written again as it was, and an accepted fallback leaves accepted
radii only. -/
theorem words_of_properties :
    (∀ hints : MotifHints, MotifHints.ofWords? hints.toWords = some hints) ∧
    (∀ radii : CornerRadii, CornerRadii.ofWords? radii.toWords = some radii) ∧
    (∀ words : List UInt32,
      (MotifHints.ofWords? words = none ↔ words.length < 3) ∧
      ∀ hints, MotifHints.ofWords? words = some hints →
        hints.toWords = (words.take 5).rightpad 5 0) ∧
    (∀ words : List UInt32,
      (CornerRadii.ofWords? words = none ↔ words.length ≠ 4) ∧
      ∀ radii, CornerRadii.ofWords? words = some radii →
        radii.toWords = words) ∧
    ∀ fallback, CornerRadii.Accepted fallback → ∀ radii : CornerRadii,
      (∀ radius ∈ (radii.orEach fallback).toList,
        CornerRadii.Accepted radius) ∧
      (radii.orEach fallback).orEach fallback = radii.orEach fallback ∧
      ∀ (corner : Nat) (radius : Int32),
        radii.toList[corner]? = some radius → CornerRadii.Accepted radius →
          (radii.orEach fallback).toList[corner]? = some radius := by
  refine ⟨MotifHints.ofWords?_toWords, CornerRadii.ofWords?_toWords, ?_, ?_, ?_⟩
  · intro words
    exact ⟨MotifHints.ofWords?_eq_none_iff,
      fun hints => MotifHints.toWords_of_ofWords?⟩
  · intro words
    exact ⟨CornerRadii.ofWords?_eq_none_iff,
      fun radii => CornerRadii.toWords_of_ofWords?⟩
  · intro fallback hfallback radii
    have haccepted := CornerRadii.accepted_of_mem_orEach hfallback radii
    refine ⟨haccepted, CornerRadii.orEach_eq_self haccepted fallback, ?_⟩
    intro corner radius hcorner hradius
    rw [CornerRadii.toList_orEach, List.getElem?_map, hcorner, Option.map_some,
      if_pos hradius]

/-- One radius is zero, one negative, one just too large. -/
theorem words_of_odd_radii :
    CornerRadii.Accepted 6 ∧
    (⟨0, -3, 129, 2⟩ : CornerRadii).orEach 6 = ⟨6, 6, 6, 2⟩ ∧
    ∀ radius ∈ ((⟨0, -3, 129, 2⟩ : CornerRadii).orEach 6).toList,
      CornerRadii.Accepted radius :=
  ⟨by decide, by decide,
    (words_of_properties.2.2.2.2 6 (by decide) ⟨0, -3, 129, 2⟩).1⟩

end Property
end WindowChrome
