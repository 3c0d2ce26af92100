import WindowChrome.Proofs.Host.Lasting

/-!
# Backends that hang are not loaded again

A flag that was set when guarded loads began is none of theirs and outlasts
them all.
-/

namespace WindowChrome

open Config (Store)

/-- Guarded loads, one after the other, took the configuration from one state
to another. -/
inductive LoadRun.AllGuarded : Store → List LoadRun → Store → Prop
  | nil (store : Store) : AllGuarded store [] store
  | cons {before middle after : Store} {run : LoadRun} {runs : List LoadRun}
      (hrun : run.Guarded before middle)
      (hrest : AllGuarded middle runs after) :
      AllGuarded before (run :: runs) after

namespace LoadRun.AllGuarded

variable {before middle after : Store} {runs others : List LoadRun}

theorem append (hfirst : AllGuarded before runs middle)
    (hsecond : AllGuarded middle others after) :
    AllGuarded before (runs ++ others) after := by
  induction hfirst with
  | nil store => exact hsecond
  | cons hrun _ ih => exact .cons hrun (ih hsecond)

theorem spared {name : String} (hruns : AllGuarded before runs after)
    (hflagged : before.isFlagged name = true) :
    (∀ run ∈ runs, run.name ≠ name) ∧
      after.read Config.compositingGroup (Config.flagKey name) =
        before.read Config.compositingGroup (Config.flagKey name) := by
  induction hruns with
  | nil store => exact ⟨by simp, rfl⟩
  | @cons before middle after run runs hrun hrest ih =>
      have hother : run.name ≠ name := by
        intro hsame
        have hunflagged := hrun.unflagged
        rw [hsame, hflagged] at hunflagged
        cases hunflagged
      have hread := hrun.alike.read_flag_eq (Ne.symm hother)
      obtain ⟨hrestNames, hrestRead⟩ :=
        ih ((Store.isFlagged_of_read_eq hread).trans hflagged)
      constructor
      · intro other hmem
        rcases List.mem_cons.mp hmem with hhead | htail
        · rw [hhead]
          exact hother
        · exact hrestNames other htail
      · exact hrestRead.trans hread

theorem flagged_of_mem {run : LoadRun} (hruns : AllGuarded before runs after)
    (hmem : run ∈ runs) : run.store.isFlagged run.name = true := by
  induction hruns with
  | nil store => cases hmem
  | cons hrun _ ih =>
      rcases List.mem_cons.mp hmem with hhead | htail
      · rw [hhead]
        exact hrun.flagged
      · exact ih htail

theorem alikeIn {group : String} (hruns : AllGuarded before runs after)
    (hgroup : group ≠ Config.compositingGroup) :
    before.AlikeIn group after := by
  induction hruns with
  | nil store => exact .refl store group
  | cons hrun _ ih => exact (hrun.alike.alikeIn hgroup).trans ih

end LoadRun.AllGuarded

namespace Hub

def LoadsOnly (hub later : Hub) : Prop :=
  ∃ runs, later.loads = hub.loads ++ runs ∧
    LoadRun.AllGuarded hub.store runs later.store

/-- A backend was not loaded, and its flag was left alone. -/
structure PassedOver (hub : Hub) (name : String) (later : Hub) : Prop where
  loads : ∃ runs, later.loads = hub.loads ++ runs ∧
    ∀ run ∈ runs, run.name ≠ name
  read_flag_eq :
    later.store.read Config.compositingGroup (Config.flagKey name) =
      hub.store.read Config.compositingGroup (Config.flagKey name)

variable {hub middle later : Hub}

theorem LoadsOnly.of_eq (hstore : later.store = hub.store)
    (hloads : later.loads = hub.loads) : hub.LoadsOnly later := by
  refine ⟨[], by simp [hloads], ?_⟩
  rw [hstore]
  exact .nil hub.store

theorem LoadsOnly.trans (hfirst : hub.LoadsOnly middle)
    (hsecond : middle.LoadsOnly later) : hub.LoadsOnly later := by
  obtain ⟨runs, hloads, hruns⟩ := hfirst
  obtain ⟨others, hotherLoads, hothers⟩ := hsecond
  refine ⟨runs ++ others, ?_, hruns.append hothers⟩
  rw [hotherLoads, hloads, List.append_assoc]

theorem LoadsOnly.passedOver {name : String} (honly : hub.LoadsOnly later)
    (hflagged : hub.store.isFlagged name = true) :
    hub.PassedOver name later := by
  obtain ⟨runs, hloads, hruns⟩ := honly
  obtain ⟨hnames, hread⟩ := hruns.spared hflagged
  exact ⟨⟨runs, hloads, hnames⟩, hread⟩

theorem LoadsOnly.alikeIn {group : String} (honly : hub.LoadsOnly later)
    (hgroup : group ≠ Config.compositingGroup) :
    hub.store.AlikeIn group later.store := by
  obtain ⟨_, _, hruns⟩ := honly
  exact hruns.alikeIn hgroup

theorem PassedOver.trans {name : String} (hfirst : hub.PassedOver name middle)
    (hsecond : middle.PassedOver name later) : hub.PassedOver name later := by
  obtain ⟨⟨runs, hloads, hnames⟩, hread⟩ := hfirst
  obtain ⟨⟨others, hotherLoads, hotherNames⟩, hotherRead⟩ := hsecond
  refine ⟨⟨runs ++ others, ?_, ?_⟩, hotherRead.trans hread⟩
  · rw [hotherLoads, hloads, List.append_assoc]
  · intro run hmem
    rcases List.mem_append.mp hmem with hmem | hmem
    · exact hnames run hmem
    · exact hotherNames run hmem

end Hub

namespace Host

section

variable {host next : Host} {hub later : Hub}

theorem Switched.loadsOnly {name : String} {result : Except LoadError Unit}
    (hswitched : host.Switched hub name result next later) :
    hub.LoadsOnly later := by
  cases hswitched with
  | off hoff => exact .of_eq rfl rfl
  | same live hon hlive hname => exact .of_eq rfl rfl
  | unknown hon hother hfind => exact .of_eq rfl rfl
  | flagged item hon hother hfind hflagged => exact .of_eq rfl rfl
  | failed item run store frozen error hon hother hfind hname hguarded hload =>
      exact ⟨[run], rfl, .cons hguarded (.nil store)⟩
  | loaded item run store frozen backend hon hother hfind hname hguarded
      hload =>
      exact ⟨[run], rfl, .cons hguarded (.nil store)⟩

theorem lasting_loadsOnly (hub : Hub) :
    Lasting fun _ later => hub.LoadsOnly later where
  switched honly hswitched := honly.trans hswitched.loadsOnly
  adjusted honly hadjusted :=
    honly.trans (.of_eq hadjusted.store_eq hadjusted.loads_eq)

theorem perform_loadsOnly (host : Host) (hub : Hub) {operation : Operation}
    (hhost : ∀ group key value, operation ≠ .write group key value) :
    hub.LoadsOnly (host.perform hub operation).2 :=
  (lasting_loadsOnly hub).perform (.of_eq rfl rfl) hhost

theorem perform_passedOver {name : String} {operation : Operation}
    (hflagged : hub.store.isFlagged name = true)
    (hspares : ∀ value, operation ≠
      .write Config.compositingGroup (Config.flagKey name) value) :
    hub.PassedOver name (host.perform hub operation).2 := by
  by_cases hwrite : ∃ group key value, operation = .write group key value
  · obtain ⟨group, key, value, hoperation⟩ := hwrite
    subst hoperation
    refine ⟨⟨[], by simp [perform], by simp⟩, ?_⟩
    simp only [perform]
    rw [Store.read_write, if_neg]
    intro hsame
    cases hsame
    exact hspares value rfl
  · apply (perform_loadsOnly host hub ?_).passedOver hflagged
    intro group key value hoperation
    exact hwrite ⟨group, key, value, hoperation⟩

theorem after_passedOver {catalog : Catalog} {store : Store} {name : String}
    {operations : List Operation} (hflagged : store.isFlagged name = true)
    (hspares : ∀ value, Operation.write Config.compositingGroup
      (Config.flagKey name) value ∉ operations) :
    Hub.PassedOver { store } name (after catalog store operations).2 := by
  induction operations with
  | nil => exact ⟨⟨[], rfl, by simp⟩, rfl⟩
  | cons operation earlier ih =>
      have hearlier := ih fun value hmem =>
        hspares value (List.mem_cons_of_mem _ hmem)
      have hstill : (after catalog store earlier).2.store.isFlagged name =
          true :=
        (Store.isFlagged_of_read_eq hearlier.read_flag_eq).trans hflagged
      apply hearlier.trans
      apply perform_passedOver hstill
      intro value hoperation
      exact hspares value (hoperation ▸ List.mem_cons_self)

theorem flagged_of_loaded {catalog : Catalog} {store : Store}
    {operations : List Operation} {run : LoadRun}
    (hmem : run ∈ (after catalog store operations).2.loads) :
    run.store.isFlagged run.name = true := by
  induction operations with
  | nil => cases hmem
  | cons operation earlier ih =>
      by_cases hwrite : ∃ group key value, operation = .write group key value
      · obtain ⟨group, key, value, hoperation⟩ := hwrite
        subst hoperation
        exact ih hmem
      · have hhost : ∀ group key value, operation ≠ .write group key value :=
          fun group key value hoperation =>
            hwrite ⟨group, key, value, hoperation⟩
        obtain ⟨runs, hloads, hruns⟩ := perform_loadsOnly
          (after catalog store earlier).1 (after catalog store earlier).2 hhost
        have hlater : run ∈ (after catalog store earlier).2.loads ++ runs := by
          rw [← hloads]
          exact hmem
        rcases List.mem_append.mp hlater with hearlier | hnew
        · exact ih hearlier
        · exact hruns.flagged_of_mem hnew

theorem Descent.without {names : List String} {name : String}
    (hdescent : host.Descent hub names next later)
    (hnot : host.catalog.admits hub.store name = false) :
    host.Descent hub (names.filter (· != name)) next later := by
  have hfilter : ∀ others : List String,
      (others.filter (· != name)).filter (host.catalog.admits hub.store) =
        others.filter (host.catalog.admits hub.store) := by
    intro others
    rw [List.filter_filter]
    apply List.filter_congr
    intro other _
    by_cases hsame : other = name
    · simp [hsame, hnot]
    · simp [hsame]
  cases hdescent with
  | found skipped rest found backend runs hnames hskipped hoffers hloads
      hruns hinstalled =>
      have hother : found ≠ name := by
        intro hsame
        have hadmits := hoffers.admits
        rw [hsame, hnot] at hadmits
        cases hadmits
      refine .found (skipped.filter (· != name)) (rest.filter (· != name))
        found backend runs ?_ ?_ hoffers hloads ?_ hinstalled
      · rw [hnames, List.filter_append, List.filter_cons]
        simp [hother]
      · intro other hmem
        exact hskipped other (List.mem_filter.mp hmem).1
      · rw [hruns, hfilter]
  | exhausted runs hnone hloads hruns hlive htheme hmode hpending =>
      refine .exhausted runs (fun other hmem => ?_) hloads ?_ hlive htheme
        hmode hpending
      · exact hnone other (List.mem_filter.mp hmem).1
      · rw [hruns, hfilter]

end

/-- Every load is run under guard.  If the process ends during one, a host made
on the configuration as it is at that moment never loads that backend, unless
something else writes its flag. -/
theorem quarantined_after_crash (catalog : Catalog) (store : Store)
    (operations : List Operation) :
    (∀ operation : Operation,
      (∀ group key value, operation ≠ .write group key value) →
      (after catalog store operations).2.LoadsOnly
        (after catalog store (operation :: operations)).2 ∧
      ∀ name,
        (after catalog store operations).2.store.isFlagged name = true →
        (after catalog store operations).2.PassedOver name
          (after catalog store (operation :: operations)).2) ∧
    ∀ run ∈ (after catalog store operations).2.loads,
      ∀ (registry : Catalog) (left : Store),
      (∀ group key, left.read group key = run.store.read group key) →
      left.isFlagged run.name = true ∧
      (∀ later : List Operation,
        (∀ value, Operation.write Config.compositingGroup
          (Config.flagKey run.name) value ∉ later) →
        Hub.PassedOver { store := left } run.name
          (after registry left later).2) ∧
      (left.switchedOff = false → ∀ session,
        Descent { catalog := registry } { store := left }
          ([left.library defaultBackend, defaultBackend,
            fallbackBackend].eraseDups.filter (· != run.name))
          (Host.start { catalog := registry } { store := left } session).1
          (Host.start { catalog := registry } { store := left } session).2) := by
  constructor
  · intro operation hhost
    have honly := perform_loadsOnly (after catalog store operations).1
      (after catalog store operations).2 hhost
    exact ⟨honly, fun name => honly.passedOver⟩
  · intro run hmem registry left hleft
    have hflagged : left.isFlagged run.name = true := by
      rw [Store.isFlagged_of_read_eq (hleft _ _)]
      exact flagged_of_loaded hmem
    refine ⟨hflagged, fun later => after_passedOver hflagged, ?_⟩
    intro hon session
    rw [← chain_eq_eraseDups]
    apply (start_descent rfl hon session).without
    simp [Catalog.admits, hflagged]

theorem default_quarantined_after_crash :
    ∃ run ∈ (after .standard {} [.start {}]).2.loads,
      run.name = defaultBackend ∧ run.store.isFlagged defaultBackend = true ∧
      (after .standard run.store
        [.switchTo defaultBackend, .start {}]).1.liveName? =
          some fallbackBackend ∧
      Hub.PassedOver { store := run.store } defaultBackend
        (after .standard run.store
          [.switchTo defaultBackend, .start {}]).2 := by
  obtain ⟨run, hmem, hrun⟩ :
      ∃ run ∈ (after .standard {} [.start {}]).2.loads,
        run = ⟨defaultBackend, true, Store.marked {} defaultBackend true⟩ :=
    ⟨_, List.mem_cons_self, rfl⟩
  have hquarantined := (quarantined_after_crash .standard {} [.start {}]).2
    run hmem .standard run.store fun _ _ => rfl
  subst hrun
  refine ⟨_, hmem, rfl, hquarantined.1, by rfl, ?_⟩
  apply hquarantined.2.1
  intro value
  simp

end Host
end WindowChrome
