import WindowChrome.Preferences

/-!
# Preferences are computed as a whole

A computation overwrites every value but the pushed font.  Earlier values
matter only for the signals.
-/

namespace WindowChrome

namespace Config

theorem read?_getD_eq_not_iff (text : String) (default : Bool) :
    (Entry.read? text).getD default = !default ↔
      text = Entry.written !default := by
  unfold Entry.read? Entry.written instEntryBool Text.readBool?
  by_cases htrue : text = "true"
  · cases default <;> simp [htrue]
  · by_cases hfalse : text = "false"
    · cases default <;> simp [hfalse]
    · cases default <;> simp [htrue, hfalse]

theorem Store.entry_eq_not_iff (store : Store) (group key : String)
    (default : Bool) :
    store.entry group key default = !default ↔
      ∃ text, store.read group key = some text ∧
        Text.trim text = Entry.written !default := by
  unfold Store.entry
  cases store.read group key with
  | none => simp
  | some text =>
      rw [Option.bind_some, read?_getD_eq_not_iff]
      constructor
      · intro hwritten
        exact ⟨text, rfl, hwritten⟩
      · rintro ⟨_, ⟨⟩, hwritten⟩
        exact hwritten

end Config

inductive BorderSize.StandsFor : Option String → BorderSize → Prop where
  | named {text : String} {size : BorderSize}
      (hname : Text.trim text = size.name) : StandsFor (some text) size
  | unknown {text : String}
      (hname : ∀ size : BorderSize, Text.trim text ≠ size.name) :
      StandsFor (some text) .normal
  | absent : StandsFor Option.none .normal

theorem BorderSize.mem_all (size : BorderSize) : size ∈ all := by
  cases size <;> decide

theorem BorderSize.name_of_ofName? {name : String} {size : BorderSize}
    (hfound : ofName? name = some size) : size.name = name := by
  have hname := List.find?_some hfound
  exact beq_iff_eq.mp hname

theorem BorderSize.name_ne_of_ofName? {name : String}
    (hfound : ofName? name = Option.none) (size : BorderSize) :
    size.name ≠ name := by
  intro hname
  have hother := List.find?_eq_none.mp hfound size (mem_all size)
  exact hother (beq_iff_eq.mpr hname)

theorem BorderSize.standsFor_ofText (text? : Option String) :
    StandsFor text? ((text?.map ofText).getD .normal) := by
  cases text? with
  | none => exact .absent
  | some text =>
      rw [Option.map_some, Option.getD_some, ofText]
      cases hfound : ofName? (Text.trim text) with
      | some size => exact .named (name_of_ofName? hfound).symm
      | none => exact .unknown fun size => (name_ne_of_ofName? hfound size).symm

namespace Preferences

open Config (Store)

variable {store : Store} {recommended : Option String}
  {workspace : Workspace} {session : Session}

/-- The preferences have the values that the configuration, a recommendation,
the workspace and the session prescribe. -/
structure Prescribed (preferences : Preferences) (store : Store)
    (recommended : Option String) (workspace : Workspace)
    (session : Session) : Prop where
  left_written : ∀ word, store.leftLayout? = some word →
    preferences.left = Button.decode word
  left_standard : store.leftLayout? = none →
    preferences.left = Button.standardLeft
  right_written : ∀ word, store.rightLayout? = some word →
    preferences.right = Button.decode word
  right_standard : store.rightLayout? = none →
    preferences.right = Button.standardRight
  applicationMenu_iff : preferences.applicationMenu = true ↔
    .applicationMenu ∈ preferences.left ∨ .applicationMenu ∈ preferences.right
  closeOnDoubleClick_iff : preferences.closeOnDoubleClick = true ↔
    ∃ text, store.read Config.decorationGroup "CloseOnDoubleClickOnMenu" =
      some text ∧ Text.trim text = "true"
  borderSizeAuto_iff : preferences.borderSizeAuto = false ↔
    ∃ text, store.read Config.decorationGroup "BorderSizeAuto" = some text ∧
      Text.trim text = "false"
  size_recommended : preferences.borderSizeAuto = true →
    BorderSize.StandsFor recommended preferences.borderSize
  size_configured : preferences.borderSizeAuto = false →
    BorderSize.StandsFor store.borderSizeText? preferences.borderSize
  scale_tall : tallScreen ≤ session.screenHeight → preferences.scale = 2
  scale_low : session.screenHeight < tallScreen → preferences.scale = 1
  font_pushed : ∀ font, preferences.pushedFont = some font →
    preferences.font = font
  font_session : preferences.pushedFont = none →
    preferences.font =
      ⟨session.titleFont.family, fontSize * preferences.scale⟩
  translucent_eq : preferences.translucent = workspace.compositing
  manyDesktops_iff : preferences.manyDesktops = true ↔ 1 < workspace.desktops

theorem layoutOf_cases (word? : Option String) (standard : List Button.Kind) :
    (∀ word, word? = some word →
      layoutOf word? standard = Button.decode word) ∧
    (word? = none → layoutOf word? standard = standard) := by
  refine ⟨?_, ?_⟩
  · rintro word rfl
    rfl
  · rintro rfl
    rfl

theorem borderSizeFrom_standsFor (store : Store)
    (recommended : Option String) :
    (store.borderSizeAuto = true →
      BorderSize.StandsFor recommended (borderSizeFrom store recommended)) ∧
    (store.borderSizeAuto = false →
      BorderSize.StandsFor store.borderSizeText?
        (borderSizeFrom store recommended)) := by
  unfold borderSizeFrom
  refine ⟨fun hauto => ?_, fun hauto => ?_⟩
  · rw [if_pos hauto]
    exact BorderSize.standsFor_ofText recommended
  · rw [if_neg (Bool.eq_false_iff.mp hauto)]
    exact BorderSize.standsFor_ofText store.borderSizeText?

theorem fontFrom_cases (pushed : Option Font) (session : Session) :
    (∀ font, pushed = some font → fontFrom pushed session = font) ∧
    (pushed = none → fontFrom pushed session =
      ⟨session.titleFont.family, fontSize * scaleFor session⟩) := by
  refine ⟨?_, ?_⟩
  · rintro font rfl
    rfl
  · rintro rfl
    rfl

theorem prescribed_computed (preferences : Preferences) (store : Store)
    (recommended : Option String) (workspace : Workspace)
    (session : Session) :
    (preferences.computed store recommended workspace session).Prescribed
      store recommended workspace session := by
  have hleft := layoutOf_cases store.leftLayout? Button.standardLeft
  have hright := layoutOf_cases store.rightLayout? Button.standardRight
  refine
    { left_written := hleft.1
      left_standard := hleft.2
      right_written := hright.1
      right_standard := hright.2
      applicationMenu_iff := ?_
      closeOnDoubleClick_iff := store.entry_eq_not_iff _ _ false
      borderSizeAuto_iff := store.entry_eq_not_iff _ _ true
      size_recommended := ?_
      size_configured := ?_
      scale_tall := fun htall => if_pos htall
      scale_low := fun hlow => if_neg (Int.not_le.mpr hlow)
      font_pushed := ?_
      font_session := ?_
      translucent_eq := rfl
      manyDesktops_iff := decide_eq_true_iff }
  · exact List.contains_iff_mem.trans List.mem_append
  · exact (borderSizeFrom_standsFor store recommended).1
  · exact (borderSizeFrom_standsFor store recommended).2
  · exact (fontFrom_cases preferences.pushedFont session).1
  · exact (fontFrom_cases preferences.pushedFont session).2

theorem get_computed_of_pushedFont {first second : Preferences}
    (hpushed : first.pushedFont = second.pushedFont) (store : Store)
    (recommended : Option String) (workspace : Workspace) (session : Session)
    {key : Key} (hkey : key ≠ .themeId) :
    (first.computed store recommended workspace session).get key =
      (second.computed store recommended workspace session).get key := by
  unfold computed
  rw [hpushed]
  cases key with
  | themeId => exact absurd rfl hkey
  | _ => rfl

theorem computed_computed (preferences : Preferences) (earlier : Store)
    (earlierRecommended : Option String) (earlierWorkspace : Workspace)
    (earlierSession : Session) (store : Store) (recommended : Option String)
    (workspace : Workspace) (session : Session) :
    (preferences.computed earlier earlierRecommended earlierWorkspace
      earlierSession).computed store recommended workspace session =
      preferences.computed store recommended workspace session := rfl

structure Sources where
  store : Store
  recommended : Option String
  workspace : Workspace
  session : Session

def recomputedOver (preferences : Preferences) : List Sources → Preferences
  | [] => preferences
  | sources :: rest =>
      (preferences.recompute sources.store sources.recommended
        sources.workspace sources.session).1.recomputedOver rest

theorem computed_recomputedOver (past : List Sources)
    (preferences : Preferences) (store : Store) (recommended : Option String)
    (workspace : Workspace) (session : Session) :
    (preferences.recomputedOver past).computed store recommended workspace
      session = preferences.computed store recommended workspace session := by
  induction past generalizing preferences with
  | nil => rfl
  | cons sources rest ih =>
      have hrest := ih (preferences.computed sources.store
        sources.recommended sources.workspace sources.session)
      rw [computed_computed] at hrest
      exact hrest

def announcements (preferences : Preferences) : List Signal :=
  [.leftLayout preferences.left, .rightLayout preferences.right,
    .closeOnDoubleClick preferences.closeOnDoubleClick,
    .borderSize preferences.borderSize, .font preferences.font]

/-- Of the values after a computation, the signals bring those that were
different before, in order and once each, and then say that the preferences
were computed. -/
structure Announced (before after : Preferences) (signals : List Signal) :
    Prop where
  ordered : ∃ told, signals = told ++ [.reconfigured] ∧
    told.Sublist after.announcements
  left_iff : .leftLayout after.left ∈ signals ↔ after.left ≠ before.left
  right_iff : .rightLayout after.right ∈ signals ↔ after.right ≠ before.right
  closeOnDoubleClick_iff :
    .closeOnDoubleClick after.closeOnDoubleClick ∈ signals ↔
      after.closeOnDoubleClick ≠ before.closeOnDoubleClick
  borderSize_iff : .borderSize after.borderSize ∈ signals ↔
    after.borderSize ≠ before.borderSize
  font_iff : .font after.font ∈ signals ↔ after.font ≠ before.font

theorem sublist_unless (same : Prop) [Decidable same] (signal : Signal) :
    (if same then [] else [signal]).Sublist [signal] := by
  split
  · exact List.nil_sublist _
  · exact List.Sublist.refl _

theorem announced_differences (before after : Preferences) :
    Announced before after (before.differences after ++ [.reconfigured]) := by
  refine
    { ordered := ⟨_, rfl, ?_⟩
      left_iff := ?_
      right_iff := ?_
      closeOnDoubleClick_iff := ?_
      borderSize_iff := ?_
      font_iff := ?_ }
  · have hleft := sublist_unless (after.left = before.left)
      (.leftLayout after.left)
    have hright := sublist_unless (after.right = before.right)
      (.rightLayout after.right)
    have hclose := sublist_unless
      (after.closeOnDoubleClick = before.closeOnDoubleClick)
      (.closeOnDoubleClick after.closeOnDoubleClick)
    have hsize := sublist_unless (after.borderSize = before.borderSize)
      (.borderSize after.borderSize)
    have hfont := sublist_unless (after.font = before.font) (.font after.font)
    exact (((hleft.append hright).append hclose).append hsize).append hfont
  all_goals simp [differences]

theorem differences_self (preferences : Preferences) :
    preferences.differences preferences = [] := by
  simp [differences]

theorem recompute_of_computed {preferences : Preferences}
    (hcomputed : preferences.computed store recommended workspace session =
      preferences) :
    preferences.recompute store recommended workspace session =
      (preferences, [.reconfigured]) := by
  simp only [recompute, hcomputed, differences_self, List.nil_append]

/-- Two preferences with the same pushed font come out with the same prescribed
values, whatever they were computed from before, and what was different before
is told. -/
theorem recompute_whole {first second : Preferences}
    (hpushed : first.pushedFont = second.pushedFont) (store : Store)
    (recommended : Option String) (workspace : Workspace)
    (session : Session) :
    (∀ past others key, key ≠ .themeId →
      ((first.recomputedOver past).recompute store recommended workspace
          session).1.get key =
        ((second.recomputedOver others).recompute store recommended workspace
          session).1.get key) ∧
    let result := first.recompute store recommended workspace session
    result.1.Prescribed store recommended workspace session ∧
    result.1.pushedFont = first.pushedFont ∧
    first.Announced result.1 result.2 ∧
    result.1.recompute store recommended workspace session =
      (result.1, [.reconfigured]) := by
  refine ⟨fun past others key hkey => ?_, prescribed_computed first _ _ _ _,
    rfl, announced_differences first _, ?_⟩
  · have hvalues := get_computed_of_pushedFont hpushed store recommended
      workspace session hkey
    rw [← computed_recomputedOver past first,
      ← computed_recomputedOver others second] at hvalues
    exact hvalues
  · exact recompute_of_computed (first.computed_computed _ _ _ _ _ _ _ _)

theorem recompute_whole_after_huge :
    let store : Store := .ofEntries
      [((Config.decorationGroup, Config.leftLayoutKey), "M?N"),
        ((Config.decorationGroup, "BorderSizeAuto"), "false"),
        ((Config.decorationGroup, "BorderSize"), " Tiny ")] none
    let before : Preferences :=
      { left := [.shade], borderSize := .huge, closeOnDoubleClick := true,
        font := ⟨"Mono", 30⟩, translucent := false, scale := 2 }
    let result := before.recompute store (some "Large") { windows := [] } {}
    let other := Preferences.recompute {} store (some "Large")
      { windows := [] } {}
    before.pushedFont = Preferences.pushedFont {} ∧
    (∀ key, key ≠ .themeId → result.1.get key = other.1.get key) ∧
    result.1 = {
      left := [.menu, .applicationMenu], borderSize := .tiny,
      borderSizeAuto := false, applicationMenu := true } ∧
    result.2 = [.leftLayout [.menu, .applicationMenu],
      .closeOnDoubleClick false, .borderSize .tiny, .font .standard,
      .reconfigured] ∧
    other.2 = [.leftLayout [.menu, .applicationMenu], .borderSize .tiny,
      .reconfigured] := by
  intro store before result other
  have hpushed : before.pushedFont = Preferences.pushedFont {} := rfl
  have hwhole := recompute_whole hpushed store (some "Large")
    { windows := [] } {}
  exact ⟨rfl, hwhole.1 [] [], by decide, by decide, by decide⟩

end Preferences
end WindowChrome
