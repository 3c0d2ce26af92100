import WindowChrome.LoadGuard.Race
import WindowChrome.Proofs.Host.Load

/-!
# The end of a load against the end of its time

The owner takes the flag back before it disarms the worker, whose time may run
out in between.  That is the only way for a load that has ended to be flagged.
-/

namespace WindowChrome

/-! ## Resting workers -/

namespace Worker

def Rests (worker : Worker) : Prop :=
  worker.settle.ended = true ∨ worker.settle.armed = false

theorem settle_send (worker : Worker) (command : Command) :
    settle { worker with inbox := worker.inbox ++ [command] } =
      if worker.settle.ended then worker.settle
      else worker.settle.obey command := by
  unfold settle
  rw [List.foldl_append]
  rfl

theorem rests_disarm (worker : Worker) :
    Rests { worker with inbox := worker.inbox ++ [.disarm] } := by
  unfold Rests
  rw [settle_send]
  split
  · next hended => exact .inl hended
  · exact .inr rfl

theorem Rests.quit {worker : Worker} (hrests : worker.Rests) :
    Rests { worker with inbox := worker.inbox ++ [.quit] } := by
  unfold Rests
  rw [settle_send]
  split
  · exact hrests
  · exact .inl rfl

theorem settle_of_ended {worker : Worker} (hended : worker.ended = true) :
    worker.settle.ended = true := by
  unfold settle
  generalize worker.inbox = commands
  have hstay : ∀ (commands : List Command) (worker : Worker),
      worker.ended = true →
      (commands.foldl (fun worker command =>
        if worker.ended then worker else worker.obey command)
        worker).ended = true := by
    intro commands
    induction commands with
    | nil => exact fun _ hended => hended
    | cons command rest ih =>
        intro worker hended
        rw [List.foldl_cons, if_pos hended]
        exact ih worker hended
  exact hstay commands _ hended

theorem Rests.receive {worker next : Worker} (hrests : worker.Rests)
    (hreceive : worker.receive? = some next) : next.Rests := by
  obtain ⟨armed, ended, inbox⟩ := worker
  cases ended with
  | true => cases hreceive
  | false =>
      cases inbox with
      | nil => cases hreceive
      | cons command rest =>
          simp only [receive?, Option.some.injEq] at hreceive
          subst next
          cases command with
          | arm => exact hrests
          | disarm => exact hrests
          | quit => exact .inl (settle_of_ended rfl)

theorem Rests.canTimeOut_eq {worker : Worker} (hrests : worker.Rests) :
    worker.canTimeOut = false := by
  obtain ⟨armed, ended, inbox⟩ := worker
  cases inbox with
  | cons command rest => simp [canTimeOut]
  | nil =>
      rcases hrests with hended | harmed
      · have : ended = true := hended
        simp [canTimeOut, this]
      · have : armed = false := harmed
        simp [canTimeOut, this]

end Worker

/-! ## What an owner does -/

def Followed (first second : Act) : List Act → Prop
  | [] => True
  | act :: rest => (act = first → second ∈ rest) ∧ Followed first second rest

namespace Race

theorem act?_cases {race next : Race} (hact : race.act? = some next) :
    ∃ act, race.todo = act :: next.todo ∧
      next.guard = (race.guard.perform race.hub.store act).1 ∧
      next.hub = { race.hub with
        store := (race.guard.perform race.hub.store act).2 } := by
  unfold act? at hact
  split at hact
  · cases hact
  · next act rest htodo =>
      split at hact
      · cases hact
      · cases hact
        exact ⟨act, htodo, rfl, rfl⟩

theorem receive?_cases {race next : Race}
    (hreceive : race.receive? = some next) :
    ∃ worker read, race.guard.worker = some worker ∧
      worker.receive? = some read ∧
      next = { race with guard := { race.guard with worker := some read } } := by
  simp only [receive?, Option.bind_eq_bind, Option.bind_eq_some_iff] at hreceive
  obtain ⟨worker, hworker, read, hread, hnext⟩ := hreceive
  exact ⟨worker, read, hworker, hread, (Option.some.inj hnext).symm⟩

theorem timeOut?_cases {race next : Race}
    (htimeOut : race.timeOut? = some next) :
    ∃ worker, race.guard.worker = some worker ∧ worker.canTimeOut = true ∧
      next = { race with
        guard := { race.guard with
          worker := some { worker with armed := false } }
        hub := { race.hub with
          store := (race.guard.writeFlag true race.hub.store).synced
          frozen := race.hub.frozen ++ [race.guard.backend] } } := by
  cases hworker : race.guard.worker with
  | none => simp [timeOut?, hworker] at htimeOut
  | some worker =>
      cases hcan : worker.canTimeOut with
      | false => simp [timeOut?, hworker, hcan] at htimeOut
      | true =>
          refine ⟨worker, rfl, hcan, ?_⟩
          simpa [timeOut?, LoadGuard.timeOut, hworker, hcan] using
            htimeOut.symm

/-! ## Flags -/

def flagged (race : Race) : Bool :=
  race.hub.store.isFlagged race.guard.backend

theorem isFlagged_writeFlag (guard : LoadGuard) (on : Bool)
    (store : Config.Store) :
    (guard.writeFlag on store).isFlagged guard.backend = on :=
  store.isFlagged_marked guard.backend on

theorem flagged_of_timeOut? {race next : Race}
    (htimeOut : race.timeOut? = some next) : next.flagged = true := by
  obtain ⟨worker, -, -, rfl⟩ := timeOut?_cases htimeOut
  exact isFlagged_writeFlag race.guard true race.hub.store

theorem flagged_of_act? {race next : Race} {act : Act}
    (hguard : next.guard = (race.guard.perform race.hub.store act).1)
    (hhub : next.hub = { race.hub with
      store := (race.guard.perform race.hub.store act).2 }) :
    next.flagged = match act with
      | .flag on => on
      | _ => race.flagged := by
  unfold flagged
  rw [hguard, hhub]
  cases act with
  | flag on => exact isFlagged_writeFlag race.guard on race.hub.store
  | sync => rfl
  | start => rfl
  | send command => rfl
  | join => rfl

def Cleared (race : Race) : Prop := .flag false ∉ race.todo

/-- The owner will not clear the flag any more, and has not disarmed the
worker for the last time. -/
def Exposed (race : Race) : Prop :=
  race.Cleared ∧ .send .disarm ∈ race.todo

/-- The owner's program and the worker are in order: what is still to be
armed will be disarmed, what is still to be flagged will be cleared, and a
worker that has been disarmed for the last time rests. -/
structure Orderly (race : Race) : Prop where
  arms : Followed (.send .arm) (.send .disarm) race.todo
  flags : Followed (.flag true) (.flag false) race.todo
  rests : .send .disarm ∉ race.todo →
    ∀ worker, race.guard.worker = some worker → worker.Rests

theorem Orderly.act {race next : Race} (horderly : race.Orderly)
    (hact : race.act? = some next) : next.Orderly := by
  obtain ⟨act, htodo, hguard, -⟩ := act?_cases hact
  have harms := horderly.arms
  have hflags := horderly.flags
  rw [htodo] at harms hflags
  refine ⟨harms.2, hflags.2, fun hsent worker hworker => ?_⟩
  by_cases hdisarm : act = .send .disarm
  · rw [hguard, hdisarm] at hworker
    simp only [LoadGuard.perform, Option.map_eq_some_iff] at hworker
    obtain ⟨before, -, rfl⟩ := hworker
    exact before.rests_disarm
  · have hbefore := horderly.rests (by
      rw [htodo, List.mem_cons, not_or]
      exact ⟨fun hsame => hdisarm hsame.symm, hsent⟩)
    rw [hguard] at hworker
    cases act with
    | flag on => exact hbefore worker hworker
    | sync => exact hbefore worker hworker
    | join => cases hworker
    | start =>
        simp only [LoadGuard.perform, Option.some.injEq] at hworker
        subst worker
        cases hold : race.guard.worker with
        | none => exact .inr rfl
        | some old => exact hbefore old hold
    | send command =>
        simp only [LoadGuard.perform, Option.map_eq_some_iff] at hworker
        obtain ⟨before, hold, rfl⟩ := hworker
        cases command with
        | arm => exact absurd (harms.1 rfl) hsent
        | disarm => exact absurd rfl hdisarm
        | quit => exact (hbefore before hold).quit

theorem Orderly.disarm_mem {race next : Race} (horderly : race.Orderly)
    (htimeOut : race.timeOut? = some next) :
    .send .disarm ∈ race.todo := by
  obtain ⟨worker, hworker, hcan, -⟩ := timeOut?_cases htimeOut
  refine Decidable.byContradiction fun hsent => ?_
  have hrests := horderly.rests hsent worker hworker
  rw [hrests.canTimeOut_eq] at hcan
  cases hcan

theorem Orderly.step {race next : Race} (horderly : race.Orderly)
    (hstep : Step race next) : next.Orderly := by
  cases hstep with
  | act hact => exact horderly.act hact
  | receive hreceive =>
      obtain ⟨worker, read, hworker, hread, rfl⟩ := receive?_cases hreceive
      refine ⟨horderly.arms, horderly.flags, fun hsent later hlater => ?_⟩
      cases hlater
      exact (horderly.rests hsent worker hworker).receive hread
  | timeOut htimeOut =>
      have hdisarm := horderly.disarm_mem htimeOut
      obtain ⟨worker, -, -, rfl⟩ := timeOut?_cases htimeOut
      exact ⟨horderly.arms, horderly.flags,
        fun hsent => absurd hdisarm hsent⟩

theorem Orderly.steps {first last : Race} (horderly : first.Orderly)
    (hsteps : Steps first last) : last.Orderly := by
  induction hsteps with
  | refl => exact horderly
  | tail _ hstep ih => exact ih.step hstep

/-! ## Runs -/

theorem backend_of_steps {first last : Race} (hsteps : Steps first last) :
    last.guard.backend = first.guard.backend := by
  induction hsteps with
  | refl => rfl
  | tail _ hstep ih =>
      refine Eq.trans ?_ ih
      cases hstep with
      | act hact =>
          obtain ⟨act, -, hguard, -⟩ := act?_cases hact
          rw [hguard]
          cases act <;> rfl
      | receive hreceive =>
          obtain ⟨worker, read, -, -, rfl⟩ := receive?_cases hreceive
          rfl
      | timeOut htimeOut =>
          obtain ⟨worker, -, -, rfl⟩ := timeOut?_cases htimeOut
          rfl

theorem flagged_of_steps {first last : Race} (hsteps : Steps first last)
    (hcleared : first.Cleared) (hflagged : first.flagged = true) :
    last.Cleared ∧ last.flagged = true := by
  induction hsteps with
  | refl => exact ⟨hcleared, hflagged⟩
  | tail _ hstep ih =>
      cases hstep with
      | act hact =>
          obtain ⟨act, htodo, hguard, hhub⟩ := act?_cases hact
          have hbefore := ih.1
          rw [Cleared, htodo, List.mem_cons, not_or] at hbefore
          refine ⟨hbefore.2, ?_⟩
          rw [flagged_of_act? hguard hhub]
          cases act with
          | flag on =>
              cases on with
              | true => rfl
              | false => exact absurd rfl hbefore.1
          | sync => exact ih.2
          | start => exact ih.2
          | send command => exact ih.2
          | join => exact ih.2
      | receive hreceive =>
          obtain ⟨worker, read, -, -, rfl⟩ := receive?_cases hreceive
          exact ih
      | timeOut htimeOut =>
          have hflagged := flagged_of_timeOut? htimeOut
          obtain ⟨worker, -, -, rfl⟩ := timeOut?_cases htimeOut
          exact ⟨ih.1, hflagged⟩

/-- On the way from one race to another the worker's time runs out in a race
of a kind. -/
def GivesUp (kind : Race → Prop) (first last : Race) : Prop :=
  ∃ race next, Steps first race ∧ kind race ∧
    race.timeOut? = some next ∧ Steps next last

theorem GivesUp.tail {kind : Race → Prop} {first middle last : Race}
    (hgivesUp : GivesUp kind first middle) (hstep : Step middle last) :
    GivesUp kind first last := by
  obtain ⟨race, next, hrace, hkind, htimeOut, hnext⟩ := hgivesUp
  exact ⟨race, next, hrace, hkind, htimeOut, hnext.tail hstep⟩

variable {first last : Race}

theorem Orderly.givesUp_of_flagged (horderly : first.Orderly)
    (hpending : ¬ first.Cleared) (hsteps : Steps first last)
    (hcleared : last.Cleared) (hflagged : last.flagged = true) :
    GivesUp Exposed first last := by
  induction hsteps with
  | refl => exact absurd hcleared hpending
  | tail hsteps hstep ih =>
      next middle last =>
      have hmiddle := horderly.steps hsteps
      cases hstep with
      | act hact =>
          obtain ⟨act, htodo, hguard, hhub⟩ := act?_cases hact
          have hkept := flagged_of_act? hguard hhub
          have hflags := hmiddle.flags
          rw [htodo] at hflags
          have hother : ∀ on, act ≠ .flag on := by
            rintro on rfl
            cases on with
            | true => exact hcleared (hflags.1 rfl)
            | false =>
                rw [hflagged] at hkept
                cases hkept
          have hbefore : middle.Cleared := by
            rw [Cleared, htodo, List.mem_cons, not_or]
            exact ⟨fun hsame => hother false hsame.symm, hcleared⟩
          have hstill : middle.flagged = true := by
            rw [hflagged] at hkept
            cases act with
            | flag on => exact absurd rfl (hother on)
            | sync => exact hkept.symm
            | start => exact hkept.symm
            | send command => exact hkept.symm
            | join => exact hkept.symm
          exact (ih hbefore hstill).tail (.act hact)
      | receive hreceive =>
          have hstep : Step middle last := .receive hreceive
          obtain ⟨worker, read, -, -, rfl⟩ := receive?_cases hreceive
          exact (ih hcleared hflagged).tail hstep
      | timeOut htimeOut =>
          have hdisarm := hmiddle.disarm_mem htimeOut
          refine ⟨middle, last, hsteps, ⟨?_, hdisarm⟩, htimeOut, .refl last⟩
          obtain ⟨worker, -, -, rfl⟩ := timeOut?_cases htimeOut
          exact hcleared

theorem flagged_of_givesUp (hgivesUp : GivesUp Cleared first last) :
    last.flagged = true := by
  obtain ⟨race, next, -, hcleared, htimeOut, hnext⟩ := hgivesUp
  refine (flagged_of_steps hnext ?_ (flagged_of_timeOut? htimeOut)).2
  obtain ⟨worker, -, -, rfl⟩ := timeOut?_cases htimeOut
  exact hcleared

theorem Orderly.givesUp_cleared_iff (horderly : first.Orderly) :
    GivesUp Cleared first last ↔ GivesUp Exposed first last := by
  constructor
  · rintro ⟨race, next, hrace, hcleared, htimeOut, hnext⟩
    have hdisarm := (horderly.steps hrace).disarm_mem htimeOut
    exact ⟨race, next, hrace, ⟨hcleared, hdisarm⟩, htimeOut, hnext⟩
  · rintro ⟨race, next, hrace, hexposed, htimeOut, hnext⟩
    exact ⟨race, next, hrace, hexposed.1, htimeOut, hnext⟩

/-! ## The end of a load -/

def ofLoad (backend : String) (hub : Hub) : Race :=
  ofCheckpoints backend hub [.beforeInit, .afterInit, .afterLastFrame]

theorem orderly_ofLoad (backend : String) (hub : Hub) :
    (ofLoad backend hub).Orderly where
  arms := by
    simp [ofLoad, ofCheckpoints, Checkpoint.acts, Followed]
  flags := by
    simp [ofLoad, ofCheckpoints, Checkpoint.acts, Followed]
  rests := by
    intro _ worker hworker
    cases hworker

/-- When the owner of a guarded load has come to its end, the backend is not
flagged, and the worker has not given up since the flag was cleared, exactly if
its time did not run out between the clearing of the flag and the disarming. -/
theorem unflagged_iff_not_givesUp {backend : String} {hub : Hub} {last : Race}
    (hsteps : Steps (ofLoad backend hub) last) (hdone : last.todo = []) :
    (last.hub.store.isFlagged backend = false ↔
      ¬ GivesUp Exposed (ofLoad backend hub) last) ∧
    (¬ GivesUp Cleared (ofLoad backend hub) last ↔
      ¬ GivesUp Exposed (ofLoad backend hub) last) := by
  have horderly := orderly_ofLoad backend hub
  have hiff : GivesUp Cleared (ofLoad backend hub) last ↔
      GivesUp Exposed (ofLoad backend hub) last :=
    horderly.givesUp_cleared_iff
  have hbackend : last.guard.backend = backend := backend_of_steps hsteps
  have hflagged : last.hub.store.isFlagged backend = last.flagged := by
    rw [flagged, hbackend]
  refine ⟨?_, not_congr hiff⟩
  rw [hflagged]
  constructor
  · intro hunflagged hgivesUp
    rw [flagged_of_givesUp (hiff.mpr hgivesUp)] at hunflagged
    cases hunflagged
  · intro hnever
    refine Bool.eq_false_iff.mpr fun hset => hnever ?_
    refine horderly.givesUp_of_flagged ?_ hsteps ?_ hset
    · simp [Cleared, ofLoad, ofCheckpoints, Checkpoint.acts]
    · rw [Cleared, hdone]
      exact List.not_mem_nil

section

variable {first middle last : Race}

theorem Steps.act (hsteps : Steps first middle)
    (hact : middle.act? = some last) : Steps first last :=
  hsteps.tail (.act hact)

theorem Steps.receive (hsteps : Steps first middle)
    (hreceive : middle.receive? = some last) : Steps first last :=
  hsteps.tail (.receive hreceive)

theorem Steps.timeOut (hsteps : Steps first middle)
    (htimeOut : middle.timeOut? = some last) : Steps first last :=
  hsteps.tail (.timeOut htimeOut)

theorem Steps.trans (hsteps : Steps first middle) (hlater : Steps middle last) :
    Steps first last := by
  induction hlater with
  | refl => exact hsteps
  | tail _ hstep ih => exact ih.tail hstep

end

theorem unflagged_after_slow_load :
    ∃ last, Steps (ofLoad "slow" {}) last ∧ last.todo = [] ∧
      last.hub.frozen = ["slow"] ∧
      last.hub.store.isFlagged "slow" = false ∧
      ¬ GivesUp Cleared (ofLoad "slow" {}) last := by
  obtain ⟨last, hsteps, hdone, hfrozen, hunflagged⟩ :
      ∃ last, Steps (ofLoad "slow" {}) last ∧ last.todo = [] ∧
        last.hub.frozen = ["slow"] ∧
        last.hub.store.isFlagged "slow" = false :=
    ⟨_, (Steps.refl _).act rfl |>.act rfl |>.act rfl |>.act rfl
      |>.receive rfl |>.timeOut rfl |>.act rfl |>.act rfl |>.act rfl
      |>.act rfl |>.receive rfl |>.receive rfl |>.act rfl,
      rfl, rfl, by decide⟩
  obtain ⟨hflag, hgivesUp⟩ := unflagged_iff_not_givesUp hsteps hdone
  exact ⟨last, hsteps, hdone, hfrozen, hunflagged,
    hgivesUp.mpr (hflag.mp hunflagged)⟩

/-- The time of a load runs out when its flag is cleared and its worker still
armed. -/
theorem flagged_after_late_timeOut :
    ∃ last, Steps (ofLoad "slow" {}) last ∧ last.todo = [] ∧
      last.guard.worker = none ∧
      last.hub.store.isFlagged "slow" = true ∧
      GivesUp Cleared (ofLoad "slow" {}) last := by
  obtain ⟨race, next, last, hrace, hcleared, htimeOut, hnext, hdone, hworker,
      hflagged⟩ : ∃ race next last,
        Steps (ofLoad "slow" {}) race ∧ .flag false ∉ race.todo ∧
        race.timeOut? = some next ∧ Steps next last ∧ last.todo = [] ∧
        last.guard.worker = none ∧
        last.hub.store.isFlagged "slow" = true :=
    ⟨_, _, _, (Steps.refl _).act rfl |>.act rfl |>.act rfl |>.act rfl
      |>.receive rfl |>.act rfl, by decide, rfl,
      (Steps.refl _).act rfl |>.act rfl |>.act rfl |>.receive rfl
      |>.receive rfl |>.act rfl, rfl, rfl, by decide⟩
  exact ⟨last, (hrace.timeOut htimeOut).trans hnext, hdone, hworker, hflagged,
    race, next, hrace, hcleared, htimeOut, hnext⟩

end Race
end WindowChrome
