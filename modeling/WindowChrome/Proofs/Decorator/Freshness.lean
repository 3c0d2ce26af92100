import WindowChrome.Proofs.Decorator.Coherence

/-!
# Shadows that outlast a change

A drawing with a number from some moment on was made after it.  A theme is only
told to the decorations, so whatever the memo kept is handed out again.
-/

namespace WindowChrome
namespace Decorator

/-- Every drawing that is kept, and every shadow of a frame, was made since. -/
structure FreshSince (before later : Decorator) : Prop where
  kept : ∀ drawing ∈ later.commons.shadows.kept,
    before.commons.shadows.made ≤ drawing.number
  held : ∀ id frame, later.decorations.find? id = some (.framed frame) →
    before.commons.shadows.made ≤ frame.shadow.number

/-- An event that brings another resolution or theme, or leads to another
backend, theme name or mode. -/
def Refreshes (before later : Decorator) : Event → Prop
  | .dpi _ => True
  | .theme id => before.host.themeId ≠ id
  | .reconfigured => before.backendState ≠ later.backendState
  | _ => False

variable {before ready later : Decorator}

theorem freshSince_iff (hmade : ready.commons.shadows.made =
      before.commons.shadows.made)
    (hready : ready.commons.shadows.WellFormed)
    (hgrown : ready.commons.shadows.Grown later.commons.shadows)
    (hheld : ∀ id, later.HeldAt id) :
    before.FreshSince later ↔ ready.commons.shadows.kept = [] := by
  constructor
  · intro hfresh
    rw [List.eq_nil_iff_forall_not_mem]
    intro drawing hdrawing
    have hsince := hfresh.kept drawing (hgrown.kept_subset hdrawing)
    have hbefore := hready.number_lt drawing hdrawing
    omega
  · intro hnothing
    have hkept : ∀ drawing ∈ later.commons.shadows.kept,
        before.commons.shadows.made ≤ drawing.number := by
      intro drawing hdrawing
      rw [← hmade]
      refine (hgrown.mem_or_made_le hdrawing).resolve_left ?_
      rw [hnothing]
      exact List.not_mem_nil
    refine ⟨hkept, fun id frame hfind => ?_⟩
    exact hkept frame.shadow
      (Memo.mem_kept_of_holds (hheld id _ hfind frame rfl))

/-- This does not need the memo to have held the shadows before. -/
theorem heldAt_of_theme {id : Int}
    (hbroadcast : ready.broadcast (.theme id) = .ok later)
    (other : WindowId) : later.HeldAt other := by
  rcases broadcast_cases hbroadcast with
      ⟨signals, shadows, decorations, hlater, _, _, _, hfind⟩
  subst hlater
  intro next hnext
  rcases hfind other next hnext with
      ⟨decoration, _, given, drawn, told, hnotify, _, hafter, _⟩
  rcases notify_cases hnotify with ⟨update, handled, hhandle, _, hhandled⟩
  have hheld := heldBy_of_handled hhandled (Decoration.heldBy_of_theme hhandle)
  exact hheld.extended hafter.memo_extends

theorem freshSince_of_cleared {workspace : Workspace}
    (hmade : ready.commons.shadows.made = before.commons.shadows.made)
    (hcleared : ready.commons.shadows.kept = [])
    (hcovers : ∀ id ∈ ready.decorations.keys, id ∈ workspace.ids)
    (hdecorate : ready.decorateAll workspace.windows = .ok later) :
    before.FreshSince later := by
  have hready : ready.commons.shadows.WellFormed := by
    constructor <;> simp [hcleared]
  have hcoherent := coherent_of_covered hready hcovers hdecorate
  rcases decorateAll_remade hdecorate with ⟨signals, hremade⟩
  exact (freshSince_iff hmade hready hremade.grown hcoherent.held).mpr hcleared

/-- If an event brings another resolution, backend, theme name or mode then
nothing drawn before is kept or is the shadow of a frame afterwards.  If it
brings a theme then this is so exactly if the memo kept nothing. -/
theorem freshSince_iff_of_run {allowed : Decorator → Operation → Prop}
    {ledger : Ledger} (hrun : Run allowed before ledger)
    {workspace : Workspace} {event : Event}
    (hcovers : before.Covers (.handle workspace event))
    (hhandle : before.handle workspace event = .ok later)
    (hrefreshes : before.Refreshes later event) :
    before.FreshSince later ↔
      ((∃ id, event = .theme id) → before.commons.shadows.kept = []) := by
  rcases handle_cases hhandle with ⟨done, hrespond, hlater⟩
  subst hlater
  have hother : (∀ id, event ≠ .theme id) → before.FreshSince done →
      (before.FreshSince done.flush.2 ↔
        ((∃ id, event = .theme id) → before.commons.shadows.kept = [])) := by
    intro hevent hfresh
    refine ⟨fun _ ⟨id, htheme⟩ => absurd htheme (hevent id), fun _ => ?_⟩
    exact ⟨hfresh.kept, hfresh.held⟩
  cases event with
  | window id event => cases hrefreshes
  | font family size => cases hrefreshes
  | declared => cases hrefreshes
  | theme id =>
      have hwellFormed : (before.themed id).commons.shadows.WellFormed :=
        hrun.memo_wellFormed
      rcases outcome_of_broadcast hrespond with ⟨signals, houtcome⟩
      have hiff : before.FreshSince done ↔ before.commons.shadows.kept = [] :=
        freshSince_iff rfl hwellFormed houtcome.grown
          (heldAt_of_theme hrespond)
      constructor
      · exact fun hfresh _ => hiff.mp ⟨hfresh.kept, hfresh.held⟩
      · intro hkept
        have hfresh := hiff.mpr (hkept ⟨id, rfl⟩)
        exact ⟨hfresh.kept, hfresh.held⟩
  | dpi dpi =>
      refine hother (by simp) ?_
      exact @freshSince_of_cleared before (before.rescaled dpi) done workspace
        rfl rfl hcovers hrespond
  | reconfigured =>
      refine hother (by simp) ?_
      rcases reconfigure_cases hrespond with
        ⟨_, hdecorate⟩ | ⟨hstate, happly⟩
      · exact @freshSince_of_cleared before
          (before.reread workspace).2.clearDrawings done workspace rfl rfl
          hcovers hdecorate
      · have hdone : done.backendState = before.backendState := by
          unfold backendState
          rw [(settings_of_applyPreferences happly).1]
          exact hstate.symm
        exact absurd hdone.symm hrefreshes

theorem freshSince_after_rescale :
    ∃ before ledger later,
      Run (fun _ _ => True) before ledger ∧
      before.handle
        { windows := [{ id := 1, width := 800, height := 600 }] } (.dpi 192) =
          .ok later ∧
      before.decorations.find? 1 ≠ none ∧
      before.FreshSince later := by
  obtain ⟨before, ledger, later, hrun, hcovers, hhandle, hfind⟩ :
      ∃ before ledger later, Run (fun _ _ => True) before ledger ∧
        before.Covers (.handle
          { windows := [{ id := 1, width := 800, height := 600 }] }
          (.dpi 192)) ∧
        before.handle
          { windows := [{ id := 1, width := 800, height := 600 }] }
          (.dpi 192) = .ok later ∧
        (before.decorations.find? 1).isSome :=
    ⟨_, _, _,
      .perform (.start {}
          { windows := [{ id := 1, width := 800, height := 600 }] })
        (.new .standard {} .empty) trivial (by exact rfl),
      by decide, by exact rfl, by exact rfl⟩
  have hfresh := (freshSince_iff_of_run hrun hcovers hhandle trivial).mpr
    (by simp)
  refine ⟨before, ledger, later, hrun, hhandle, fun hnone => ?_, hfresh⟩
  rw [hnone] at hfind
  cases hfind

/-- The shadow drawn before another theme is told is kept, and is the shadow of
the window still. -/
theorem stale_after_theme :
    ∃ before ledger later,
      Run (fun _ _ => True) before ledger ∧
      before.Covers (.handle
        { windows := [{ id := 1, width := 800, height := 600 }] }
        (.theme 1)) ∧
      before.handle
        { windows := [{ id := 1, width := 800, height := 600 }] } (.theme 1) =
          .ok later ∧
      before.Refreshes later (.theme 1) ∧
      ¬ before.FreshSince later := by
  obtain ⟨before, ledger, later, frame, hrun, hcovers, hhandle, hrefreshes,
      hfind, hmade⟩ :
      ∃ before ledger later frame,
        Run (fun _ _ => True) before ledger ∧
        before.Covers (.handle
          { windows := [{ id := 1, width := 800, height := 600 }] }
          (.theme 1)) ∧
        before.handle
          { windows := [{ id := 1, width := 800, height := 600 }] }
          (.theme 1) = .ok later ∧
        before.Refreshes later (.theme 1) ∧
        later.decorations.find? 1 = some (.framed frame) ∧
        frame.shadow.number < before.commons.shadows.made := by
    refine ⟨_, _, _, _,
      .perform (.start {}
          { windows := [{ id := 1, width := 800, height := 600 }] })
        (.new .standard {} .empty) trivial (by exact rfl),
      by decide, by exact rfl, ?_, by exact rfl, ?_⟩
    · exact (by decide : (0 : Int) ≠ 1)
    · exact (by decide : 0 < 1)
  refine ⟨before, ledger, later, hrun, hcovers, hhandle, hrefreshes, ?_⟩
  intro hfresh
  have hsince := hfresh.held 1 frame hfind
  omega

end Decorator
end WindowChrome
