import WindowChrome.Proofs.Decorator.Passing

/-!
# Shadows of decorations and the memo

While drawings are let go of, decorations that wait for their turn are not
held.  A workspace that lists every decorated window leaves none waiting.
-/

namespace WindowChrome
namespace Decorator

def HeldAt (decorator : Decorator) (id : WindowId) : Prop :=
  ∀ decoration, decorator.decorations.find? id = some decoration →
    decoration.HeldBy decorator.commons.shadows

structure Coherent (decorator : Decorator) : Prop where
  wellFormed : decorator.commons.shadows.WellFormed
  held : ∀ id, decorator.HeldAt id

variable {decorator later : Decorator}

theorem heldAt_of_not_mem {id : WindowId}
    (hid : id ∉ decorator.decorations.keys) : decorator.HeldAt id := by
  intro decoration hfind
  exact absurd (Keyed.mem_keys_of_find? hfind) hid

theorem Coherent.of_eq {other : Decorator} (hcoherent : decorator.Coherent)
    (hdecorations : other.decorations = decorator.decorations)
    (hshadows : other.commons.shadows = decorator.commons.shadows) :
    other.Coherent := by
  refine ⟨?_, fun id => ?_⟩
  · rw [hshadows]
    exact hcoherent.wellFormed
  · unfold HeldAt
    rw [hdecorations, hshadows]
    exact hcoherent.held id

theorem Outcome.coherent {windows : List Window} {signals : List Signal}
    (houtcome : decorator.Outcome windows signals later)
    (hshadows : decorator.commons.shadows.WellFormed)
    (hheld : ∀ id, id ∉ windows.map (·.id) → decorator.HeldAt id) :
    later.Coherent := by
  refine ⟨houtcome.grown.wellFormed hshadows, fun id next hnext => ?_⟩
  by_cases hid : id ∈ windows.map (·.id)
  · exact (houtcome.made id hid next hnext).2.1
  · rcases houtcome.told id hid next hnext with
        ⟨decoration, hdecoration, hcases⟩
    have hbefore := hheld id hid decoration hdecoration
    rcases hcases with hsame | ⟨event, htold⟩
    · rw [hsame]
      exact hbefore.extended houtcome.grown.memo_extends
    · exact htold.heldBy hbefore

theorem coherent_of_covered {workspace : Workspace}
    (hshadows : decorator.commons.shadows.WellFormed)
    (hcovers : ∀ id ∈ decorator.decorations.keys, id ∈ workspace.ids)
    (hdecorate : decorator.decorateAll workspace.windows = .ok later) :
    later.Coherent := by
  rcases outcome_of_decorateAll hdecorate with ⟨signals, houtcome⟩
  refine houtcome.coherent hshadows fun id hid => ?_
  exact heldAt_of_not_mem fun hmem => hid (hcovers id hmem)

theorem Ready.heldAt {ready : Decorator} {operation : Operation}
    (hready : decorator.Ready operation ready)
    (hcoherent : decorator.Coherent) (hcovers : decorator.Covers operation)
    (hlater : later.backendState = ready.backendState) {id : WindowId}
    (hid : id ∉ (decorator.redecorated operation later).map (·.id)) :
    ready.HeldAt id := by
  cases hready with
  | start session workspace => exact hcoherent.held id
  | window workspace other event => exact hcoherent.held id
  | theme workspace theme => exact hcoherent.held id
  | font workspace family size hpush => exact hcoherent.held id
  | dpi workspace dpi =>
      exact heldAt_of_not_mem fun hmem => hid (hcovers id hmem)
  | declared workspace => exact hcoherent.held id
  | reread workspace hstate => exact hcoherent.held id
  | cleared workspace hstate =>
      have hother : decorator.backendState ≠ later.backendState := by
        rw [hlater]
        exact hstate
      rw [redecorated_of_ne hother] at hid
      exact heldAt_of_not_mem fun hmem => hid (hcovers id hmem)

theorem Coherent.perform {operation : Operation}
    (hcoherent : decorator.Coherent) (hcovers : decorator.Covers operation)
    (hperform : decorator.perform operation = .ok later) :
    later.Coherent := by
  cases performed_of_perform hperform with
  | @turned _ ready done signals hready houtcome =>
      have hdone : done.Coherent := by
        refine houtcome.coherent (hready.memo_wellFormed hcoherent.wellFormed)
          fun id hid => ?_
        exact hready.heldAt hcoherent hcovers houtcome.state_eq hid
      exact hdone.of_eq rfl rfl
  | decorated window hremade =>
      exact hremade.outcome.coherent hcoherent.wellFormed
        fun id _ => hcoherent.held id
  | undecorated id =>
      constructor
      · exact hcoherent.wellFormed
      · intro other found hfound
        exact hcoherent.held other found (Keyed.find?_of_find?_erase hfound)
  | written group key value => exact hcoherent.of_eq rfl rfl
  | spared properties => exact hcoherent.of_eq rfl rfl

theorem Run.coherent {ledger : Ledger}
    (hrun : Run Covers decorator ledger) : decorator.Coherent := by
  induction hrun with
  | new catalog store properties =>
      constructor
      · exact Memo.wellFormed_new
      · intro id decoration hfind
        cases hfind
  | perform operation _ hcovers hperform ih => exact ih.perform hcovers hperform

/-- As long as operations come with workspaces that list every decorated
window, every frame has the drawing that the memo holds under its shape, so two
frames share a drawing exactly if their shadows have the same shape. -/
theorem shadows_held_of_run {ledger : Ledger}
    (hrun : Run Covers decorator ledger) :
    (∀ id frame,
      decorator.decorations.find? id = some (.framed frame) →
        (Decoration.framed frame).shadow? = some (.drawn frame.shadow) ∧
        decorator.commons.shadows.find? frame.shape = some frame.shadow) ∧
    ∀ id other frame otherFrame,
      decorator.decorations.find? id = some (.framed frame) →
      decorator.decorations.find? other = some (.framed otherFrame) →
        (frame.shadow.number = otherFrame.shadow.number ↔
          frame.shape = otherFrame.shape) := by
  have hcoherent := hrun.coherent
  have hholds : ∀ id frame,
      decorator.decorations.find? id = some (.framed frame) →
        decorator.commons.shadows.Holds frame.shadow :=
    fun id frame hfind => hcoherent.held id (.framed frame) hfind _ rfl
  constructor
  · exact fun id frame hfind => ⟨rfl, hholds id frame hfind⟩
  · intro id other frame otherFrame hframe hother
    exact hcoherent.wellFormed.number_eq_iff (hholds id frame hframe)
      (hholds other otherFrame hother)

theorem shadow_shared_after_rescale :
    ∃ decorator ledger frame otherFrame,
      Run Covers decorator ledger ∧
      decorator.decorations.find? 1 = some (.framed frame) ∧
      decorator.decorations.find? 2 = some (.framed otherFrame) ∧
      decorator.commons.shadows.find? frame.shape = some frame.shadow ∧
      frame.shadow.number = otherFrame.shadow.number := by
  obtain ⟨decorator, ledger, frame, otherFrame, hrun, hframe, hother, hshape⟩ :
      ∃ decorator ledger frame otherFrame, Run Covers decorator ledger ∧
        decorator.decorations.find? 1 = some (.framed frame) ∧
        decorator.decorations.find? 2 = some (.framed otherFrame) ∧
        frame.shape = otherFrame.shape := by
    refine ⟨_, _, _, _,
      .perform (.handle ⟨[⟨1, 800, 600, false, false, "", .standard⟩,
          ⟨2, 640, 480, false, false, "", .standard⟩], 1, true⟩ (.dpi 192))
        (.perform (.start {} ⟨[⟨1, 800, 600, false, false, "", .standard⟩,
            ⟨2, 640, 480, false, false, "", .standard⟩], 1, true⟩)
          (.new .standard {} .empty) ?_ (by exact rfl)) ?_ (by exact rfl),
      by exact rfl, by exact rfl, by exact rfl⟩
    · decide
    · decide
  rcases shadows_held_of_run hrun with ⟨hheld, hshared⟩
  exact ⟨decorator, ledger, frame, otherFrame, hrun, hframe, hother,
    (hheld 1 frame hframe).2, (hshared 1 2 _ _ hframe hother).mpr hshape⟩

end Decorator
end WindowChrome
