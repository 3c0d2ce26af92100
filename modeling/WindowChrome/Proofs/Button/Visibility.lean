import WindowChrome.Proofs.Frame.Current

/-!
# Visible buttons

A group compares the kinds that should be visible with those of its buttons.
These are the visible ones of the latest capabilities, so the comparison finds
every change.
-/

namespace WindowChrome
namespace Button.Group

/-- The buttons may have other places and other marks. -/
structure Touched (group next : Group) : Prop where
  side_eq : next.side = group.side
  configured_eq : next.configured = group.configured
  kinds_eq : next.kinds = group.kinds

/-- The groups of some configured buttons after any updates, each with the
capabilities that came last. -/
inductive Updated (side : Side) (configured : List Kind) :
    Capabilities → Group → Prop
  | new (capabilities : Capabilities) :
      Updated side configured capabilities
        (ofConfigured side configured capabilities)
  | refresh {last : Capabilities} {group : Group}
      (hupdated : Updated side configured last group) (now : Capabilities) :
      Updated side configured now (group.refresh now).2
  | touch {last : Capabilities} {group next : Group}
      (hupdated : Updated side configured last group)
      (htouched : group.Touched next) : Updated side configured last next

variable {group next : Group} {side : Side} {configured : List Kind}
  {last now : Capabilities}

theorem Touched.of_atRest_eq (hrest : next.atRest = group.atRest) :
    group.Touched next := by
  have hside := congrArg Group.side hrest
  have hconfigured := congrArg Group.configured hrest
  exact ⟨hside, hconfigured, kinds_eq_of_atRest_eq hrest⟩

theorem touched_of_hover {pointer : Option Point} {changed : Bool}
    (hhover : group.hover pointer = .ok (changed, next)) :
    group.Touched next :=
  .of_atRest_eq (hover_atRest hhover)

theorem touched_of_press? {point : Point}
    (hpress : group.press? point = .ok (some next)) : group.Touched next :=
  .of_atRest_eq (press?_atRest hpress)

theorem touched_of_release {point : Point} {touched : Bool}
    {clicked : Option Kind}
    (hrelease : group.release point = .ok (touched, clicked, next)) :
    group.Touched next :=
  .of_atRest_eq (release_atRest hrelease)

theorem touched_of_placeRow {place : Nat → Except Fault Rect} {index : Nat}
    {placed : List Button}
    (hplaced : Frame.placeRow place index group.buttons = .ok placed) :
    group.Touched { group with buttons := placed } := by
  rw [Frame.placeRow_eq, map_eq_ok_iff] at hplaced
  obtain ⟨rects, hrects, rfl⟩ := hplaced
  exact ⟨rfl, rfl, Frame.kinds_moveRow (Frame.length_of_rowPlaces hrects)⟩

theorem refresh_changed_iff :
    (group.refresh now).1 = true ↔ group.visibleKinds now ≠ group.kinds := by
  unfold refresh
  by_cases hsame : group.visibleKinds now = group.kinds <;> simp [hsame]

theorem refresh_of_changed (hchanged : (group.refresh now).1 = true) :
    (group.refresh now).2 =
      { group with buttons := (group.visibleKinds now).map idle } := by
  unfold refresh
  rw [if_neg (refresh_changed_iff.mp hchanged)]

theorem Updated.shows (hupdated : Updated side configured last group) :
    group.Shows side configured last := by
  induction hupdated with
  | new capabilities => exact ofConfigured_shows side configured capabilities
  | @refresh last group _ now ih =>
      have hshows := group.refresh_shows now
      rw [ih.side_eq, ih.configured_eq] at hshows
      exact hshows
  | touch _ htouched ih =>
      exact ⟨htouched.side_eq.trans ih.side_eq,
        htouched.configured_eq.trans ih.configured_eq,
        htouched.kinds_eq.trans ih.kinds_eq⟩

theorem Shows.refresh_changed_of_shown
    (hshows : group.Shows side configured last) {kind : Kind}
    (hconfigured : kind ∈ configured) (hhidden : kind.isVisible last = false)
    (hshown : kind.isVisible now = true) : (group.refresh now).1 = true := by
  rw [refresh_changed_iff]
  intro hsame
  have hnow : kind ∈ group.visibleKinds now := by
    rw [visibleKinds, hshows.configured_eq]
    exact List.mem_filter.mpr ⟨hconfigured, hshown⟩
  rw [hsame, hshows.kinds_eq] at hnow
  have hlast := (List.mem_filter.mp hnow).2
  rw [hhidden] at hlast
  cases hlast

/-- The visible kinds are the configured ones that the last capabilities make
visible, in the order in which they are configured.  If the next capabilities
make others visible then all buttons are new, and otherwise the group stays
what it is. -/
theorem visible_of_updated (hupdated : Updated side configured last group) :
    group.side = side ∧ group.configured = configured ∧
    group.kinds = configured.filter (·.isVisible last) ∧
    ∀ now,
      ((group.refresh now).1 = true ↔
        configured.filter (·.isVisible now) ≠ group.kinds) ∧
      ((group.refresh now).1 = true → (group.refresh now).2 =
        { side, configured,
          buttons := (configured.filter (·.isVisible now)).map idle }) ∧
      ((group.refresh now).1 = false → (group.refresh now).2 = group) ∧
      ∀ before kind after, configured = before ++ kind :: after →
        kind.isVisible last = false → kind.isVisible now = true →
        (group.refresh now).1 = true ∧
        (group.refresh now).2.buttons =
          (before.filter (·.isVisible now)).map idle ++
            idle kind :: (after.filter (·.isVisible now)).map idle := by
  have hshows := hupdated.shows
  refine ⟨hshows.side_eq, hshows.configured_eq, hshows.kinds_eq, ?_⟩
  intro now
  have hvisible : group.visibleKinds now =
      configured.filter (·.isVisible now) := by
    rw [visibleKinds, hshows.configured_eq]
  have hnew : (group.refresh now).1 = true → (group.refresh now).2 =
      { side, configured,
        buttons := (configured.filter (·.isVisible now)).map idle } := by
    intro hchanged
    rw [refresh_of_changed hchanged, hvisible, hshows.side_eq,
      hshows.configured_eq]
  refine ⟨?_, hnew, refresh_eq_self, ?_⟩
  · rw [refresh_changed_iff, hvisible]
  · intro before kind after hsplit hhidden hshown
    have hchanged := hshows.refresh_changed_of_shown
      (by simp [hsplit]) hhidden hshown
    refine ⟨hchanged, ?_⟩
    rw [hnew hchanged, hsplit]
    simp [hshown]

theorem visible_after_return :
    ∃ group, Updated .right [.minimize, .close, .minimize] ⟨3⟩ group ∧
      group.buttons.map (·.hovered) = [true, false, false] ∧
      (group.refresh ⟨0x80000001⟩).2.kinds = [.close] ∧
      ((group.refresh ⟨0x80000001⟩).2.refresh ⟨3⟩).1 = true ∧
      ((group.refresh ⟨0x80000001⟩).2.refresh ⟨3⟩).2.buttons =
        [idle .minimize, idle .close, idle .minimize] := by
  let button (kind : Kind) (x : Int) (hovered : Bool) : Button :=
    { kind, rect := ⟨x, 4, 30, 30⟩, hovered }
  let row (hovered : Bool) : List Button :=
    [button .minimize 0 hovered, button .close 30 false,
      button .minimize 60 false]
  let group (hovered : Bool) : Group :=
    ⟨.right, [.minimize, .close, .minimize], row hovered⟩
  have hplace : Frame.placeRow (fun index => .ok ⟨30 * index, 4, 30, 30⟩) 0
      (ofConfigured .right [.minimize, .close, .minimize] ⟨3⟩).buttons =
        .ok (row false) := rfl
  have hhover : (group false).hover (some ⟨10, 10⟩) =
      .ok (true, group true) := rfl
  have hplaced := (Updated.new ⟨3⟩).touch (touched_of_placeRow hplace)
  have hhovered := hplaced.touch (touched_of_hover hhover)
  have hhidden := hhovered.refresh ⟨0x80000001⟩
  obtain ⟨-, -, hkinds, hnow⟩ := visible_of_updated hhidden
  obtain ⟨-, -, -, hshown⟩ := hnow ⟨3⟩
  obtain ⟨hchanged, hbuttons⟩ :=
    hshown [] .minimize [.close, .minimize] rfl (by decide) (by decide)
  exact ⟨_, hhovered, rfl, hkinds, hchanged, hbuttons⟩

end Button.Group
end WindowChrome
