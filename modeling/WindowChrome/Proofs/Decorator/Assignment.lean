import WindowChrome.Proofs.Decorator.Account

/-!
# Shadows assigned to windows

A decoration that stays tells of another shadow by its update, one put in its
place by its own shadow alone.  So a shadow that gives way to none is not told
of.
-/

namespace WindowChrome
namespace Decorator

def Owned (id : WindowId) (decoration : Decoration) : Prop :=
  ∃ backend : Backend, backend.MadeFor id decoration

theorem Makes.owned {host : Host} {look : Look} {window : Window}
    {decoration : Decoration} (hmakes : Makes host look window decoration) :
    Owned window.id decoration := by
  rcases hmakes.madeFor with ⟨live, _, hmade⟩
  exact ⟨live.backend, hmade⟩

theorem Told.owned {id : WindowId} {decoration next : Decoration}
    {shadows drawn : ShadowMemo} {event : Decoration.Event}
    {signals : List Signal}
    (htold : Told event shadows drawn signals decoration next)
    (howned : Owned id decoration) : Owned id next := by
  rcases howned with ⟨backend, hmade⟩
  exact ⟨backend, htold.madeFor hmade⟩

variable {decorator later : Decorator} {ledger : Ledger}
  {allowed : Decorator → Operation → Prop}

theorem Outcome.told_iff {ready : Decorator} {windows : List Window}
    {signals : List Signal} (houtcome : ready.Outcome windows signals later)
    {id : WindowId} {old new : Decoration}
    (hold : ready.decorations.find? id = some old)
    (hnew : later.decorations.find? id = some new)
    (hwindow : new.window = id) (hreports : old.Reports)
    (hother : new.shadowId? ≠ old.shadowId?) :
    .shadow id ∈ signals ↔ (id ∈ windows.map (·.id) →
      ∃ made ∈ ready.madeFor id windows, made.shadow?.isSome) := by
  by_cases hid : id ∈ windows.map (·.id)
  · rw [houtcome.shadowed id hid]
    exact ⟨fun hmade _ => hmade, fun hmade => hmade hid⟩
  · refine ⟨fun _ hmem => absurd hmem hid, fun _ => ?_⟩
    rcases houtcome.told id hid new hnew with ⟨before, hbefore, hcases⟩
    rw [hold] at hbefore
    cases hbefore
    rcases hcases with hsame | ⟨event, htold⟩
    · rw [hsame] at hother
      exact absurd rfl hother
    · have hsignal := htold.shadow hreports hother
      rw [hwindow] at hsignal
      exact hsignal

/-- Let an event give a window another shadow, or take the one it has, and let
the decoration before it be one that reports its shadows.  The signals of the
event tell of it exactly if the window was not decorated again or got a shadow
when it was. -/
theorem shadow_told_iff_of_run (hrun : Run allowed decorator ledger)
    {workspace : Workspace} {event : Event}
    (hhandle : decorator.handle workspace event = .ok later) :
    let windows := decorator.redecorated (.handle workspace event) later
    ∃ ready signals,
      decorator.Ready (.handle workspace event) ready ∧
      later.hub.delivered =
        decorator.hub.delivered ++ decorator.hub.pending ++ signals ∧
      ∀ id old new,
        decorator.decorations.find? id = some old →
        later.decorations.find? id = some new →
        old.Reports → new.shadowId? ≠ old.shadowId? →
          (.shadow id ∈ signals ↔ (id ∈ windows.map (·.id) →
            ∃ made ∈ ready.madeFor id windows, made.shadow?.isSome)) ∧
          (.shadow id ∉ signals →
            id ∈ windows.map (·.id) ∧ new.shadow? = none) ∧
          (workspace.ids.Nodup → id ∈ windows.map (·.id) →
            new.shadow? = none → .shadow id ∉ signals) := by
  intro windows
  have hperformed := performed_of_handle hhandle
  have howned := hperformed.forall_decorations Makes.owned Told.owned
    (hrun.forall_decorations Makes.owned Told.owned)
  have hwindows := redecorated_of_handle decorator later workspace event
  cases hperformed with
  | @turned _ ready done signals hready houtcome =>
      rcases houtcome.eq with ⟨commons, decorations, hdone⟩
      have htelling := hready.telling
      rcases htelling.emitted with ⟨told, hpending, hnoWindow, _⟩
      refine ⟨ready, told ++ signals, hready, ?_, ?_⟩
      · rw [hdone]
        show ready.hub.delivered ++ (ready.hub.pending ++ signals) = _
        rw [htelling.delivered_eq, hpending]
        simp only [List.append_assoc]
      · intro id old new hold hnew hreports hother
        have hearly : .shadow id ∉ told := by
          intro hmem
          have hnone := hnoWindow _ hmem
          cases hnone
        have hmem : .shadow id ∈ told ++ signals ↔ .shadow id ∈ signals := by
          rw [List.mem_append, or_iff_right hearly]
        rw [← hready.decorations_eq] at hold
        rcases howned id new hnew with ⟨backend, hmade⟩
        have htold := houtcome.told_iff hold hnew hmade.window_eq hreports
          hother
        rw [hmem]
        refine ⟨htold, fun huntold => ?_, fun hnodup hid hnone hsignal => ?_⟩
        · rw [htold, Classical.not_imp] at huntold
          rcases huntold with ⟨hid, hshadowless⟩
          rcases houtcome.made id hid new hnew with ⟨_, _, hlast⟩
          refine ⟨hid, Option.eq_none_iff_forall_ne_some.mpr ?_⟩
          intro shadow hshadow
          exact hshadowless ⟨new, hlast, by rw [hshadow]; rfl⟩
        · rcases htold.mp hsignal hid with ⟨made, hmadeFor, hshadow⟩
          have honce : (windows.map (·.id)).Nodup := by
            rcases hwindows with hwindows | hwindows
            · rw [show windows = [] from hwindows]
              exact List.nodup_nil
            · rw [show windows = workspace.windows from hwindows]
              exact hnodup
          have hlast := houtcome.once honce id made hmadeFor
          rw [show done.decorations.find? id = some new from hnew] at hlast
          cases hlast
          rw [hnone] at hshadow
          cases hshadow

/-- The code of a guest that has a shadow as long as its window has the
focus. -/
def spotlight : Guest.Machine Bool where
  face lit :=
    { shadow? :=
        if lit then
          some (.brought 0
            { bitmap := .blank 0 0, padding := .zero, inner := .zero })
        else none }
  tell lit event _ :=
    match event with
    | .window (.activated on) => (on, { shadow := on != lit }, [])
    | _ => (lit, {}, [])
  take lit := lit

def spotlights : Backend where
  make := .guests fun _ window _ =>
    (some (spotlight.guest window.id true), [])

theorem shadow_told_of_spotlight :
    ∃ decorator ledger later new signals,
      Run (fun _ _ => True) decorator ledger ∧
      decorator.handle { windows := [] } (.window 1 (.activated false)) =
        .ok later ∧
      decorator.decorations.find? 1 =
        some (.foreign (spotlight.guest 1 true)) ∧
      later.decorations.find? 1 = some new ∧ new.shadow? = none ∧
      later.hub.delivered =
        decorator.hub.delivered ++ decorator.hub.pending ++ signals ∧
      .shadow 1 ∈ signals := by
  obtain ⟨decorator, ledger, later, hrun, hhandle, hold, hnew⟩ :
      ∃ decorator ledger later,
        Run (fun _ _ => True) decorator ledger ∧
        decorator.handle { windows := [] } (.window 1 (.activated false)) =
          .ok later ∧
        decorator.decorations.find? 1 =
          some (.foreign (spotlight.guest 1 true)) ∧
        later.decorations.find? 1 =
          some (.foreign (spotlight.guest 1 false)) :=
    ⟨_, _, _,
      .perform (.start {}
          { windows := [{ id := 1, width := 800, height := 600 }] })
        (.new (Catalog.standard.register Host.defaultBackend
            { deliver := fun _ => .ok spotlights })
          {} .empty) trivial (by exact rfl),
      by exact rfl, by exact rfl, by exact rfl⟩
  obtain ⟨ready, signals, -, hdelivered, htold⟩ :=
    shadow_told_iff_of_run hrun hhandle
  have hreports : (Decoration.foreign (spotlight.guest 1 true)).Reports := by
    apply Guest.Machine.reports
    · intro lit event shadows
      cases event with
      | window own =>
          cases own with
          | activated on => cases lit <;> cases on <;> simp [spotlight]
          | _ => simp [spotlight]
      | _ => simp [spotlight]
    · intro lit
      rfl
  obtain ⟨hsignal, -, -⟩ := htold 1 _ _ hold hnew hreports (by decide)
  exact ⟨decorator, ledger, later, _, signals, hrun, hhandle, hold, hnew, rfl,
    hdelivered, hsignal.mpr fun hmem => absurd hmem List.not_mem_nil⟩

/-- A backend that adds nothing to windows takes the place of the plain one. -/
theorem shadow_lost_untold :
    ∃ decorator ledger later frame,
      Run (fun _ _ => True) decorator ledger ∧
      decorator.handle
        { windows := [{ id := 1, width := 800, height := 600 }] }
        .reconfigured = .ok later ∧
      decorator.decorations.find? 1 = some (.framed frame) ∧
      later.decorations.find? 1 = some (.foreign (.still 1 .nothing)) ∧
      (Decoration.framed frame).shadowId? = some (.drawn 0) ∧
      (Decoration.foreign (.still 1 .nothing)).shadowId? = none ∧
      (Decoration.framed frame).Reports ∧
      (Decoration.foreign (.still 1 .nothing)).Reports ∧
      later.hub.delivered = decorator.hub.delivered ++
        [.declared, .reconfigured, .repaint 1] := by
  refine ⟨_, _, _, _,
    .perform (.write Config.decorationGroup "library" "bare")
      (.perform (.start {}
          { windows := [{ id := 1, width := 800, height := 600 }] })
        (.new (Catalog.standard.register "bare"
            { deliver := fun _ => .ok { make := .still .nothing } })
          {} .empty) trivial (by exact rfl))
      trivial (by exact rfl),
    by exact rfl, by exact rfl, by exact rfl, by exact rfl, by exact rfl,
    Decoration.reports_framed _, Decoration.reports_still 1 .nothing,
    by exact rfl⟩

end Decorator
end WindowChrome
