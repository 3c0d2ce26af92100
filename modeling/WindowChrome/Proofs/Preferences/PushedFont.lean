import WindowChrome.Proofs.Preferences.Recomputation

/-!
# The scale of a pushed font

A font is scaled when it is pushed, by the scale that the latest computation
before it found, and kept in that size.
-/

namespace WindowChrome
namespace Preferences

inductive Input where
  | sources (sources : Sources)
  | font (family : String) (size : Int)

/-- The preferences came of new ones by what they took in, the latest first. -/
inductive Informed : List Input → Preferences → Prop
  | new : Informed [] {}
  | recompute {earlier : List Input} {preferences : Preferences}
      (hearlier : Informed earlier preferences) (sources : Sources) :
      Informed (.sources sources :: earlier)
        (preferences.recompute sources.store sources.recommended
          sources.workspace sources.session).1
  | pushFont {earlier : List Input} {preferences next : Preferences}
      {family : String} {size : Int} {signals : List Signal}
      (hearlier : Informed earlier preferences)
      (hpush : preferences.pushFont family size = .ok (next, signals)) :
      Informed (.font family size :: earlier) next

/-- The scale that the latest computation found, and one before the first. -/
def scaleAfter : List Input → Int
  | [] => 1
  | .sources sources :: _ => scaleFor sources.session
  | .font _ _ :: earlier => scaleAfter earlier

variable {preferences next other : Preferences} {inputs before : List Input}
  {family : String} {size : Int} {signals : List Signal}

theorem eq_of_pushFont
    (hpush : preferences.pushFont family size = .ok (next, signals)) :
    next = { preferences with
      pushedFont := some ⟨family, size * preferences.scale⟩
      font := ⟨family, size * preferences.scale⟩ } := by
  simp only [pushFont, bind_eq_ok_iff, Coord.mul_eq_ok_iff] at hpush
  rcases hpush with ⟨pixelSize, ⟨-, rfl⟩, hresult⟩
  cases hresult
  rfl

theorem font_computed_of_pushedFont {font : Font}
    (hpushed : preferences.pushedFont = some font) (sources : Sources) :
    (preferences.computed sources.store sources.recommended sources.workspace
      sources.session).font = font := by
  have hprescribed := preferences.prescribed_computed sources.store
    sources.recommended sources.workspace sources.session
  exact hprescribed.font_pushed font hpushed

theorem font_ext_iff {scale present : Int} :
    (⟨family, size * scale⟩ : Font) = ⟨family, size * present⟩ ↔
      size = 0 ∨ scale = present := by
  by_cases hsize : size = 0
  · simp [hsize]
  · simp [hsize, Int.mul_eq_mul_left_iff hsize]

theorem Informed.scale_eq (hinformed : Informed inputs preferences) :
    preferences.scale = scaleAfter inputs := by
  induction hinformed with
  | new => rfl
  | recompute _ sources ih => rfl
  | pushFont _ hpush ih =>
      rw [eq_of_pushFont hpush]
      exact ih

theorem Informed.font_eq {since : List Sources}
    (hinformed : Informed
      (since.map .sources ++ .font family size :: before) preferences) :
    preferences.pushedFont = some ⟨family, size * scaleAfter before⟩ ∧
      preferences.font = ⟨family, size * scaleAfter before⟩ := by
  induction since generalizing preferences with
  | nil =>
      cases hinformed with
      | pushFont hearlier hpush =>
          rw [eq_of_pushFont hpush, hearlier.scale_eq]
          exact ⟨rfl, rfl⟩
  | cons sources rest ih =>
      cases hinformed with
      | recompute hearlier _ =>
          have hpushed := (ih hearlier).1
          exact ⟨hpushed, font_computed_of_pushedFont hpushed sources⟩

theorem font_comm_iff (sources : Sources) {told : List Signal}
    (hpush : preferences.pushFont family size = .ok (next, signals))
    (hother : (preferences.recompute sources.store sources.recommended
      sources.workspace sources.session).1.pushFont family size =
        .ok (other, told)) :
    (next.recompute sources.store sources.recommended sources.workspace
        sources.session).1.font = other.font ↔
      size = 0 ∨ preferences.scale = scaleFor sources.session := by
  have hpushed : next.pushedFont = some ⟨family, size * preferences.scale⟩ := by
    rw [eq_of_pushFont hpush]
  have hfont : (next.recompute sources.store sources.recommended
      sources.workspace sources.session).1.font =
        ⟨family, size * preferences.scale⟩ :=
    font_computed_of_pushedFont hpushed sources
  have hlater : other.font = ⟨family, size * scaleFor sources.session⟩ := by
    rw [eq_of_pushFont hother]
    rfl
  rw [hfont, hlater]
  exact font_ext_iff

/-- The font pushed last stands in the size that it had at the scale of that
time.  It has the present scale exactly if that is the same one, or if the size
is zero. -/
theorem font_scaled_iff (hinformed : Informed inputs preferences) :
    preferences.scale = scaleAfter inputs ∧
    (∀ since before family size,
      inputs = List.map .sources since ++ .font family size :: before →
      preferences.font = ⟨family, size * scaleAfter before⟩ ∧
      (preferences.font = ⟨family, size * preferences.scale⟩ ↔
        size = 0 ∨ scaleAfter before = preferences.scale)) ∧
    ∀ (sources : Sources) family size pushed signals other told,
      preferences.pushFont family size = .ok (pushed, signals) →
      (preferences.recompute sources.store sources.recommended
        sources.workspace sources.session).1.pushFont family size =
          .ok (other, told) →
      ((pushed.recompute sources.store sources.recommended sources.workspace
          sources.session).1.font = other.font ↔
        size = 0 ∨ preferences.scale = scaleFor sources.session) := by
  refine ⟨hinformed.scale_eq, ?_, ?_⟩
  · rintro since before family size rfl
    have hfont := hinformed.font_eq.2
    rw [hfont]
    exact ⟨rfl, font_ext_iff⟩
  · intro sources family size pushed signals other told hpush hother
    exact font_comm_iff sources hpush hother

theorem font_scaled_on_tall_screen :
    let tall : Sources :=
      { store := {}, recommended := none, workspace := { windows := [] }
        session := { screenHeight := 2160 } }
    ∃ preferences,
      Informed [.sources tall, .font "Sans" 11, .sources tall] preferences ∧
      preferences.scale = 2 ∧
      preferences.font = ⟨"Sans", 22⟩ ∧
      preferences.font = ⟨"Sans", 11 * preferences.scale⟩ := by
  intro tall
  have htall := Informed.new.recompute tall
  have hpushed := @Informed.pushFont _ _ _ "Sans" 11 _ htall rfl
  have hinformed := hpushed.recompute tall
  obtain ⟨hscale, hfonts, -⟩ := font_scaled_iff hinformed
  obtain ⟨hfont, hpresent⟩ := hfonts [tall] [.sources tall] "Sans" 11 rfl
  exact ⟨_, hinformed, hscale, hfont, hpresent.mpr (.inr rfl)⟩

/-- A font is heard of before the tall screen it is for. -/
theorem font_stale_on_tall_screen :
    let store : Config.Store := {}
    let workspace : Workspace := { windows := [] }
    let tall : Session := { screenHeight := 2160 }
    ∃ pushed told other heard,
      pushFont {} "Sans" 11 = .ok (pushed, told) ∧
      (recompute {} store none workspace tall).1.pushFont "Sans" 11 =
        .ok (other, heard) ∧
      (pushed.recompute store none workspace tall).1.scale = 2 ∧
      (pushed.recompute store none workspace tall).1.font ≠
        ⟨"Sans", 11 * (pushed.recompute store none workspace tall).1.scale⟩ ∧
      (pushed.recompute store none workspace tall).1.font ≠ other.font := by
  intro store workspace tall
  exact ⟨_, _, _, _, rfl, rfl, by decide, by decide, by decide⟩

end Preferences
end WindowChrome
