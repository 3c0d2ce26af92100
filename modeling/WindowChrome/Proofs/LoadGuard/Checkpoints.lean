import WindowChrome.Proofs.Host.Journal
import WindowChrome.Proofs.LoadGuard.Race

/-!
# Checkpoints in any order

Nothing holds the owner of a guard to pairs of checkpoints.  Between two
moments the worker has read all it was sent, so a guard is known by whether its
worker is armed.
-/

namespace WindowChrome

open Config (Request)

namespace LoadGuard

inductive Moment where
  | passed (checkpoint : Checkpoint)
  | timedOut
  deriving DecidableEq, Repr

namespace Moment

def Arms : Moment → Prop
  | passed .beforeInit | passed .beforeFrame => True
  | _ => False

def flag? : Moment → Option Bool
  | passed .beforeInit | timedOut => some true
  | passed .afterInit => some false
  | _ => none

def requests (backend : String) (moment : Moment) : List Request :=
  moment.flag?.elim [] (Request.mark backend)

def leaves (armed? : Option Bool) : Moment → Option Bool
  | passed .beforeInit | passed .beforeFrame => some true
  | passed .afterInit | passed .afterFrame | timedOut =>
      armed?.map fun _ => false
  | passed .afterLastFrame => none

theorem leaves_isSome_iff (armed? : Option Bool) (moment : Moment) :
    (moment.leaves armed?).isSome = true ↔
      moment.Arms ∨
        moment ≠ passed .afterLastFrame ∧ armed?.isSome = true := by
  cases moment with
  | timedOut => simp [leaves, Arms]
  | passed checkpoint => cases checkpoint <;> simp [leaves, Arms]

theorem leaves_eq_some_true_iff (armed? : Option Bool) (moment : Moment) :
    moment.leaves armed? = some true ↔ moment.Arms := by
  cases moment with
  | timedOut => simp [leaves, Arms]
  | passed checkpoint => cases checkpoint <;> simp [leaves, Arms]

end Moment

def canTimeOut (guard : LoadGuard) : Bool :=
  guard.worker.any (·.canTimeOut)

/-- The histories of a new guard, each with the guard and the hub as they are
after it. -/
inductive Watched (backend : String) (first : Hub) :
    List Moment → LoadGuard → Hub → Prop
  | new : Watched backend first [] { backend } first
  | pass {history : List Moment} {guard : LoadGuard} {hub : Hub}
      (hwatched : Watched backend first history guard hub)
      (checkpoint : Checkpoint) :
      Watched backend first (history ++ [.passed checkpoint])
        (guard.pass checkpoint hub).1 (guard.pass checkpoint hub).2
  | timeOut {history : List Moment} {guard : LoadGuard} {hub : Hub}
      (hwatched : Watched backend first history guard hub)
      (hcan : guard.canTimeOut = true) :
      Watched backend first (history ++ [.timedOut])
        (guard.timeOut hub).1 (guard.timeOut hub).2

def resting (backend : String) (armed? : Option Bool) : LoadGuard where
  backend
  worker := armed?.map fun armed => { armed }

theorem isRunning_resting (backend : String) (armed? : Option Bool) :
    (resting backend armed?).isRunning = armed?.isSome := by
  cases armed? <;> rfl

theorem canTimeOut_resting_iff {backend : String} {armed? : Option Bool} :
    (resting backend armed?).canTimeOut = true ↔ armed? = some true := by
  cases armed? <;> simp [resting, canTimeOut, Worker.canTimeOut]

theorem pass_resting (backend : String) (armed? : Option Bool)
    (checkpoint : Checkpoint) (hub : Hub) :
    (resting backend armed?).pass checkpoint hub =
      (resting backend (Moment.leaves armed? (.passed checkpoint)),
        { hub with
          store := hub.store.obeyAll
            (Moment.requests backend (.passed checkpoint)) }) := by
  cases checkpoint <;> cases armed? <;> rfl

theorem timeOut_resting (backend : String) (hub : Hub) :
    (resting backend (some true)).timeOut hub =
      (resting backend (some false),
        { hub with
          store := hub.store.obeyAll (Moment.requests backend .timedOut)
          frozen := hub.frozen ++ [backend] }) := rfl

private theorem concat_cases {history earlier later : List Moment}
    {moment other : Moment}
    (hsplit : history ++ [moment] = earlier ++ other :: later) :
    (history = earlier ∧ moment = other ∧ later = []) ∨
      ∃ before, history = earlier ++ other :: before ∧
        later = before ++ [moment] := by
  rcases List.eq_nil_or_concat later with rfl | ⟨before, last, rfl⟩
  · obtain ⟨hearlier, hlast⟩ := List.append_inj' hsplit rfl
    cases hlast
    exact .inl ⟨hearlier, rfl, rfl⟩
  · rw [List.concat_eq_append, ← List.cons_append, ← List.append_assoc]
      at hsplit
    obtain ⟨hbefore, hlast⟩ := List.append_inj' hsplit rfl
    cases hlast
    exact .inr ⟨before, hbefore, List.concat_eq_append⟩

/-- Something armed the worker after the guard was last told that nothing will
be guarded any more. -/
def Running (history : List Moment) : Prop :=
  ∃ earlier moment since, history = earlier ++ moment :: since ∧
    moment.Arms ∧ .passed .afterLastFrame ∉ since

/-- The last thing that happened armed the worker. -/
def Armed (history : List Moment) : Prop :=
  ∃ earlier moment, history = earlier ++ [moment] ∧ moment.Arms

theorem running_concat_iff {history : List Moment} {moment : Moment} :
    Running (history ++ [moment]) ↔
      moment.Arms ∨ moment ≠ .passed .afterLastFrame ∧ Running history := by
  constructor
  · rintro ⟨earlier, first, since, hsplit, harms, hsince⟩
    rcases concat_cases hsplit with ⟨-, rfl, -⟩ | ⟨before, hbefore, rfl⟩
    · exact .inl harms
    · simp only [List.mem_append, List.mem_singleton, not_or] at hsince
      exact .inr ⟨Ne.symm hsince.2, earlier, first, before, hbefore, harms,
        hsince.1⟩
  · rintro (harms | ⟨hgoesOn, earlier, first, since, rfl, harms, hsince⟩)
    · exact ⟨history, moment, [], rfl, harms, List.not_mem_nil⟩
    · refine ⟨earlier, first, since ++ [moment], by simp, harms, ?_⟩
      simp only [List.mem_append, List.mem_singleton, not_or]
      exact ⟨hsince, Ne.symm hgoesOn⟩

theorem armed_concat_iff {history : List Moment} {moment : Moment} :
    Armed (history ++ [moment]) ↔ moment.Arms := by
  constructor
  · rintro ⟨earlier, last, hsplit, harms⟩
    cases (List.append_inj' hsplit rfl).2
    exact harms
  · intro harms
    exact ⟨history, moment, rfl, harms⟩

/-- The hub after a history that began with `first`: each moment has made its
requests, and help was called for whenever time ran out. -/
def recorded (backend : String) (first : Hub) (history : List Moment) : Hub :=
  { first with
    store := first.store.obeyAll (history.flatMap (Moment.requests backend))
    frozen := first.frozen ++
      List.replicate (history.count .timedOut) backend }

theorem recorded_passed (backend : String) (first : Hub)
    (history : List Moment) (checkpoint : Checkpoint) :
    recorded backend first (history ++ [.passed checkpoint]) =
      { recorded backend first history with
        store := (recorded backend first history).store.obeyAll
          (Moment.requests backend (.passed checkpoint)) } := by
  simp [recorded, Config.Store.obeyAll_append]

theorem recorded_timedOut (backend : String) (first : Hub)
    (history : List Moment) :
    recorded backend first (history ++ [.timedOut]) =
      { recorded backend first history with
        store := (recorded backend first history).store.obeyAll
          (Moment.requests backend .timedOut)
        frozen := (recorded backend first history).frozen ++ [backend] } := by
  simp [recorded, Config.Store.obeyAll_append, List.replicate_succ']

theorem isFlagged_obeyAll (store : Config.Store) (backend : String)
    (moment : Moment) :
    (store.obeyAll (moment.requests backend)).isFlagged backend =
      moment.flag?.getD (store.isFlagged backend) := by
  unfold Moment.requests
  cases moment.flag? with
  | none => rfl
  | some on => exact store.isFlagged_marked backend on

theorem isFlagged_flatMap (store : Config.Store) (backend : String)
    (history : List Moment) :
    (store.obeyAll (history.flatMap (Moment.requests backend))).isFlagged
        backend =
      (history.filterMap Moment.flag?).getLast?.getD
        (store.isFlagged backend) := by
  induction history generalizing store with
  | nil => rfl
  | cons moment rest ih =>
      rw [List.flatMap_cons, Config.Store.obeyAll_append, ih,
        isFlagged_obeyAll]
      cases hflag : moment.flag? with
      | none => rw [List.filterMap_cons_none hflag, Option.getD_none]
      | some on =>
          rw [List.filterMap_cons_some hflag, List.getLast?_cons,
            Option.getD_some, Option.getD_some]

section

variable {backend : String} {first hub : Hub} {history : List Moment}
  {guard : LoadGuard}

theorem Watched.exists_resting
    (hwatched : Watched backend first history guard hub) :
    ∃ armed?, guard = resting backend armed? ∧
      (armed?.isSome = true ↔ Running history) ∧
      (armed? = some true ↔ Armed history) ∧
      hub = recorded backend first history := by
  induction hwatched with
  | new => exact ⟨none, rfl, by simp [Running], by simp [Armed],
      by simp [recorded, Config.Store.obeyAll]⟩
  | pass _ checkpoint ih =>
      obtain ⟨armed?, rfl, hrunning, -, rfl⟩ := ih
      rw [pass_resting]
      refine ⟨_, rfl, ?_, ?_, (recorded_passed _ _ _ _).symm⟩
      · rw [Moment.leaves_isSome_iff, running_concat_iff, hrunning]
      · rw [Moment.leaves_eq_some_true_iff, armed_concat_iff]
  | timeOut _ hcan ih =>
      obtain ⟨armed?, rfl, hrunning, -, rfl⟩ := ih
      cases canTimeOut_resting_iff.mp hcan
      rw [timeOut_resting]
      refine ⟨some false, rfl, ?_, ?_, (recorded_timedOut _ _ _).symm⟩
      · rw [running_concat_iff, ← hrunning]
        simp
      · rw [armed_concat_iff]
        simp [Moment.Arms]

theorem Watched.canTimeOut_iff
    (hwatched : Watched backend first history guard hub) :
    guard.canTimeOut = true ↔ Armed history := by
  obtain ⟨armed?, rfl, -, harmed, -⟩ := hwatched.exists_resting
  rw [canTimeOut_resting_iff, harmed]

theorem Watched.armed_of_timedOut
    (hwatched : Watched backend first history guard hub)
    {earlier later : List Moment}
    (hsplit : history = earlier ++ .timedOut :: later) : Armed earlier := by
  induction hwatched generalizing later with
  | new => simp at hsplit
  | pass _ checkpoint ih =>
      rcases concat_cases hsplit with ⟨-, hmoment, -⟩ | ⟨before, hbefore, -⟩
      · cases hmoment
      · exact ih hbefore
  | timeOut hbefore hcan ih =>
      rcases concat_cases hsplit with ⟨rfl, -, -⟩ | ⟨before, hbefore, -⟩
      · exact hbefore.canTimeOut_iff.mp hcan
      · exact ih hbefore

theorem Armed.exists_arms {other : Moment} {earlier between : List Moment}
    (harmed : Armed (earlier ++ other :: between)) (hother : ¬ other.Arms) :
    ∃ moment ∈ between, moment.Arms := by
  obtain ⟨before, moment, hsplit, harms⟩ := harmed
  rcases concat_cases hsplit.symm with ⟨-, rfl, -⟩ | ⟨between, -, rfl⟩
  · exact absurd harms hother
  · exact ⟨moment, by simp, harms⟩

end

def Moment.acts : Moment → List Act
  | passed checkpoint => checkpoint.acts
  | timedOut => []

theorem steps_pass (backend : String) (armed? : Option Bool)
    (checkpoint : Checkpoint) (hub : Hub) (rest : List Act) :
    Race.Steps ⟨resting backend armed?, hub, checkpoint.acts ++ rest⟩
      ⟨((resting backend armed?).pass checkpoint hub).1,
        ((resting backend armed?).pass checkpoint hub).2, rest⟩ := by
  have hrefl := Race.Steps.refl
    ⟨resting backend armed?, hub, checkpoint.acts ++ rest⟩
  cases armed? with
  | none =>
      cases checkpoint with
      | beforeInit =>
          exact hrefl.act rfl |>.act rfl |>.act rfl |>.act rfl |>.receive rfl
      | beforeFrame => exact hrefl.act rfl |>.act rfl |>.receive rfl
      | afterInit => exact hrefl.act rfl |>.act rfl |>.act rfl
      | afterFrame => exact hrefl.act rfl
      | afterLastFrame => exact hrefl.act rfl |>.act rfl
  | some armed =>
      cases checkpoint with
      | beforeInit =>
          exact hrefl.act rfl |>.act rfl |>.act rfl |>.act rfl |>.receive rfl
      | beforeFrame => exact hrefl.act rfl |>.act rfl |>.receive rfl
      | afterInit => exact hrefl.act rfl |>.act rfl |>.act rfl |>.receive rfl
      | afterFrame => exact hrefl.act rfl |>.receive rfl
      | afterLastFrame => exact hrefl.act rfl |>.receive rfl |>.act rfl

section

variable {backend : String} {first hub : Hub} {history : List Moment}
  {guard : LoadGuard}

theorem Watched.steps (hwatched : Watched backend first history guard hub)
    (rest : List Act) :
    Race.Steps ⟨{ backend }, first, history.flatMap Moment.acts ++ rest⟩
      ⟨guard, hub, rest⟩ := by
  induction hwatched generalizing rest with
  | new => exact .refl _
  | pass hbefore checkpoint ih =>
      obtain ⟨armed?, rfl, -⟩ := hbefore.exists_resting
      rw [List.flatMap_append, List.append_assoc]
      refine (ih _).trans ?_
      simpa [Moment.acts] using steps_pass backend armed? checkpoint _ rest
  | timeOut hbefore hcan ih =>
      rw [List.flatMap_append, List.append_assoc]
      refine (ih rest).timeOut ?_
      unfold canTimeOut at hcan
      simp [Race.timeOut?, hcan]

/-- After any history the worker runs exactly if something has armed it since
nothing was to be guarded any more, and its time can run out exactly if the
last thing that happened armed it.  Flag, requests and calls for help are those
of the moments of the history. -/
theorem record_of_watched
    (hwatched : Watched backend first history guard hub) :
    (guard.isRunning = true ↔
      ∃ earlier moment since, history = earlier ++ moment :: since ∧
        moment.Arms ∧ .passed .afterLastFrame ∉ since) ∧
    (guard.canTimeOut = true ↔
      ∃ earlier moment, history = earlier ++ [moment] ∧ moment.Arms) ∧
    hub.store.journal = first.store.journal ++
      history.flatMap (Moment.requests backend) ∧
    hub.store.isFlagged backend =
      (history.filterMap Moment.flag?).getLast?.getD
        (first.store.isFlagged backend) ∧
    hub = { first with
      store := first.store.obeyAll (history.flatMap (Moment.requests backend))
      frozen := first.frozen ++
        List.replicate (history.count .timedOut) backend } ∧
    (∀ earlier later, history = earlier ++ .timedOut :: later →
      ∃ before moment, earlier = before ++ [moment] ∧ moment.Arms) ∧
    (∀ earlier between later, history =
        earlier ++ .passed .afterLastFrame :: between ++ .timedOut :: later →
      ∃ moment ∈ between, moment.Arms) ∧
    Race.Steps ⟨{ backend }, first, history.flatMap Moment.acts⟩
      ⟨guard, hub, []⟩ := by
  obtain ⟨armed?, hguard, hrunning, harmed, hhub⟩ := hwatched.exists_resting
  refine ⟨?_, hwatched.canTimeOut_iff, ?_, ?_, hhub, ?_, ?_, ?_⟩
  · rw [hguard, isRunning_resting]
    exact hrunning
  · rw [hhub]
    exact Config.Store.journal_obeyAll _ _
  · rw [hhub]
    exact isFlagged_flatMap first.store backend history
  · intro earlier later hsplit
    exact hwatched.armed_of_timedOut hsplit
  · intro earlier between later hsplit
    exact (hwatched.armed_of_timedOut hsplit).exists_arms (by simp [Moment.Arms])
  · simpa using hwatched.steps []

theorem record_after_two_timeOuts :
    ∃ guard hub, Watched "slow" {}
        [.passed .beforeInit, .timedOut, .passed .afterInit,
          .passed .afterLastFrame, .passed .beforeFrame, .timedOut] guard hub ∧
      guard.isRunning = true ∧ guard.canTimeOut = false ∧
      hub.store.journal = Request.mark "slow" true ++
        Request.mark "slow" true ++ Request.mark "slow" false ++
        Request.mark "slow" true ∧
      hub.store.isFlagged "slow" = true ∧ hub.frozen = ["slow", "slow"] := by
  have hwatched := (@Watched.new "slow" {})
    |>.pass .beforeInit |>.timeOut rfl |>.pass .afterInit
    |>.pass .afterLastFrame |>.pass .beforeFrame |>.timeOut rfl
  obtain ⟨hrunning, -, hjournal, hflag, hhub, -⟩ := record_of_watched hwatched
  refine ⟨_, _, hwatched, ?_, rfl, hjournal, hflag, congrArg Hub.frozen hhub⟩
  apply hrunning.mpr
  exact ⟨[.passed .beforeInit, .timedOut, .passed .afterInit,
    .passed .afterLastFrame], .passed .beforeFrame, [.timedOut], rfl, trivial,
    by decide⟩

end

end LoadGuard
end WindowChrome
