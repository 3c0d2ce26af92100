import WindowChrome.Proofs.Host.Change
import WindowChrome.Proofs.Host.Load

/-! # Changing the backend, all or nothing -/

namespace WindowChrome
namespace Host

open Config (Store)

def modeSignals (host : Host) (mode : Mode) : List Signal :=
  if host.mode = mode then [] else [.mode mode]

def themeSignals (host : Host) (theme : Option String) : List Signal :=
  if theme = host.theme then [] else [.theme theme]

theorem setMode_snd (host : Host) (hub : Hub) (mode : Mode) :
    (host.setMode hub mode).2 =
      { hub with pending := hub.pending ++ host.modeSignals mode } := by
  unfold setMode modeSignals
  split
  · simp
  · rfl

theorem refreshTheme_of_live {host : Host} {live : Live}
    (hlive : host.live = some live) (hub : Hub) :
    (host.refreshTheme hub).2 =
      ({ host with theme := themeFor hub.store live.profile },
        { hub with pending :=
            hub.pending ++ host.themeSignals (themeFor hub.store live.profile) }) := by
  unfold refreshTheme themeSignals
  rw [hlive]
  simp only
  by_cases hsame : themeFor hub.store live.profile = host.theme
  · rw [if_pos hsame, if_pos hsame, List.append_nil, hsame, ← hlive]
  · rw [if_neg hsame, if_neg hsame]
    rfl

theorem themeFor_eq {before after : Store}
    (halike : before.AlikeIn Config.decorationGroup after)
    (profile : Backend.Profile) :
    themeFor after profile = themeFor before profile := by
  unfold themeFor
  rw [halike.theme_eq]

structure Installed (host : Host) (hub : Hub) (name : String)
    (backend : Backend) (next : Host) (later : Hub) : Prop where
  live_eq : next.live =
    some { profile := .ofDeclaration name backend.declaration, backend }
  theme_eq : next.theme =
    themeFor hub.store (.ofDeclaration name backend.declaration)
  mode_eq : next.mode = .server
  pending_eq : later.pending =
    hub.pending ++ (host.modeSignals .server ++ [.declared])

section

variable {host : Host} {hub : Hub} {name : String}

theorem exists_live_of_liveName? (hname : host.liveName? = some name) :
    ∃ live, host.live = some live ∧ live.profile.name = name := by
  unfold liveName? liveProfile? at hname
  cases hlive : host.live with
  | none =>
      rw [hlive] at hname
      cases hname
  | some live =>
      rw [hlive] at hname
      exact ⟨live, rfl, Option.some.inj hname⟩

theorem switchTo_of_off (hoff : host.off = true) :
    host.switchTo hub name = (.error .switchedOff, host, hub) := by
  unfold switchTo
  rw [if_pos hoff]

theorem switchTo_of_live {live : Live} (hon : host.off = false)
    (hlive : host.live = some live) (hname : live.profile.name = name) :
    host.switchTo hub name =
      (.ok (), { host with theme := themeFor hub.store live.profile },
        { hub with pending :=
            hub.pending ++ host.themeSignals (themeFor hub.store live.profile) }) := by
  have hsame : host.liveName? = some name := by
    rw [liveName?_of_live hlive, hname]
  have hrefresh := refreshTheme_of_live hlive hub
  unfold switchTo
  rw [if_neg (by simp [hon]), if_pos hsame, ← hrefresh]

theorem switchTo_of_refused {next : Host} {later : Hub} {error : LoadError}
    (hon : host.off = false) (hother : host.liveName? ≠ some name)
    (hload : host.loadGuarded hub name = (.error error, next, later)) :
    host.switchTo hub name = (.error error, next, later) := by
  unfold switchTo
  rw [if_neg (by simp [hon]), if_neg hother, hload]

theorem switchTo_of_delivered {next : Host} {later : Hub} {backend : Backend}
    (hon : host.off = false) (hother : host.liveName? ≠ some name)
    (hload : host.loadGuarded hub name = (.ok backend, next, later)) :
    host.switchTo hub name = (.ok (), next.install later name backend) := by
  unfold switchTo
  rw [if_neg (by simp [hon]), if_neg hother, hload]

theorem switchTo_of_unknown (hon : host.off = false)
    (hother : host.liveName? ≠ some name)
    (hfind : host.catalog.find? name = none) :
    host.switchTo hub name = (.error (.unknown name), host, hub) :=
  switchTo_of_refused hon hother (loadGuarded_of_unknown hfind)

theorem switchTo_of_flagged {item : Catalog.Item} (hon : host.off = false)
    (hother : host.liveName? ≠ some name)
    (hfind : host.catalog.find? name = some item)
    (hflagged : hub.store.isFlagged name = true) :
    host.switchTo hub name = (.error (.hung name), host, hub) :=
  switchTo_of_refused hon hother (loadGuarded_of_flagged hfind hflagged)

inductive Switched (host : Host) (hub : Hub) (name : String) :
    Except LoadError Unit → Host → Hub → Prop
  | off (hoff : host.off = true) :
      Switched host hub name (.error .switchedOff) host hub
  | same (live : Live) (hon : host.off = false)
      (hlive : host.live = some live) (hname : live.profile.name = name) :
      Switched host hub name (.ok ())
        { host with theme := themeFor hub.store live.profile }
        { hub with pending := hub.pending ++
            host.themeSignals (themeFor hub.store live.profile) }
  | unknown (hon : host.off = false) (hother : host.liveName? ≠ some name)
      (hfind : host.catalog.find? name = none) :
      Switched host hub name (.error (.unknown name)) host hub
  | flagged (item : Catalog.Item) (hon : host.off = false)
      (hother : host.liveName? ≠ some name)
      (hfind : host.catalog.find? name = some item)
      (hflagged : hub.store.isFlagged name = true) :
      Switched host hub name (.error (.hung name)) host hub
  | failed (item : Catalog.Item) (run : LoadRun) (store : Store)
      (frozen : List String) (error : LoadError) (hon : host.off = false)
      (hother : host.liveName? ≠ some name)
      (hfind : host.catalog.find? name = some item) (hname : run.name = name)
      (hguarded : run.Guarded hub.store store)
      (hload : (host.catalog.load name).1 = .error error) :
      Switched host hub name (.error error)
        { host with catalog := (host.catalog.load name).2 }
        { hub with store, frozen, loads := hub.loads ++ [run] }
  | loaded (item : Catalog.Item) (run : LoadRun) (store : Store)
      (frozen : List String) (backend : Backend) (hon : host.off = false)
      (hother : host.liveName? ≠ some name)
      (hfind : host.catalog.find? name = some item) (hname : run.name = name)
      (hguarded : run.Guarded hub.store store)
      (hload : (host.catalog.load name).1 = .ok backend) :
      Switched host hub name (.ok ())
        { host with
          catalog := (host.catalog.load name).2
          live := some {
            profile := .ofDeclaration name backend.declaration, backend }
          theme := themeFor hub.store (.ofDeclaration name backend.declaration)
          mode := .server }
        { hub with
          store, frozen
          loads := hub.loads ++ [run]
          pending :=
            hub.pending ++ (host.modeSignals .server ++ [.declared]) }

theorem install_snd (host : Host) (hub : Hub) (name : String)
    (backend : Backend) :
    (host.install hub name backend).2 =
      { hub with pending :=
          hub.pending ++ (host.modeSignals .server ++ [.declared]) } := by
  simp only [install, setMode_snd, Hub.emit, List.append_assoc]
  rfl

theorem switched_of_unflagged {item : Catalog.Item} (hon : host.off = false)
    (hother : host.liveName? ≠ some name)
    (hfind : host.catalog.find? name = some item)
    (hunflagged : hub.store.isFlagged name = false) :
    host.Switched hub name (host.switchTo hub name).1
      (host.switchTo hub name).2.1 (host.switchTo hub name).2.2 := by
  obtain ⟨run, store, frozen, hname, hguarded, hguardedLoad⟩ :=
    loadGuarded_of_unflagged hfind hunflagged
  cases hload : (host.catalog.load name).1 with
  | error error =>
      rw [hload] at hguardedLoad
      rw [switchTo_of_refused hon hother hguardedLoad]
      exact .failed item run store frozen error hon hother hfind hname
        hguarded hload
  | ok backend =>
      have halike : hub.store.AlikeIn Config.decorationGroup store :=
        hguarded.alike.alikeIn Config.decorationGroup_ne
      rw [hload] at hguardedLoad
      rw [switchTo_of_delivered hon hother hguardedLoad]
      simp only [install_fst, install_snd, themeFor_eq halike]
      exact .loaded item run store frozen backend hon hother hfind hname
        hguarded hload

theorem switchTo_switched (host : Host) (hub : Hub) (name : String) :
    host.Switched hub name (host.switchTo hub name).1
      (host.switchTo hub name).2.1 (host.switchTo hub name).2.2 := by
  cases hoff : host.off with
  | true =>
      rw [switchTo_of_off hoff]
      exact .off hoff
  | false =>
      by_cases hsame : host.liveName? = some name
      · obtain ⟨live, hlive, hname⟩ := exists_live_of_liveName? hsame
        rw [switchTo_of_live hoff hlive hname]
        exact .same live hoff hlive hname
      · cases hfind : host.catalog.find? name with
        | none =>
            rw [switchTo_of_unknown hoff hsame hfind]
            exact .unknown hoff hsame hfind
        | some item =>
            cases hflagged : hub.store.isFlagged name with
            | true =>
                rw [switchTo_of_flagged hoff hsame hfind hflagged]
                exact .flagged item hoff hsame hfind hflagged
            | false => exact switched_of_unflagged hoff hsame hfind hflagged

/-- Nothing came of a change: the host is as it was, apart from the count of
loads and from tooltips, no signal and no request was added, and at most the
flag of the backend reads otherwise. -/
structure Unmoved (host : Host) (hub : Hub) (name : String) (next : Host)
    (later : Hub) : Prop where
  host_eq : next =
    { host with catalog := next.catalog, tooltips := next.tooltips }
  pending_eq : later.pending = hub.pending
  redecorate_eq : later.redecorate = hub.redecorate
  alike : hub.store.AlikeBut name later.store

theorem Unmoved.refl (host : Host) (hub : Hub) (name : String) :
    host.Unmoved hub name host hub :=
  ⟨rfl, rfl, rfl, .refl hub.store name⟩

theorem Switched.unmoved {error : LoadError} {next : Host} {later : Hub}
    (hswitched : host.Switched hub name (.error error) next later) :
    host.Unmoved hub name next later := by
  cases hswitched with
  | off hoff => exact .refl host hub name
  | unknown hon hother hfind => exact .refl host hub name
  | flagged item hon hother hfind hflagged => exact .refl host hub name
  | failed item run store frozen error hon hother hfind hname hguarded hload =>
      subst hname
      exact ⟨rfl, rfl, rfl, hguarded.alike⟩

theorem unmoved_of_switchTo {error : LoadError}
    (herror : (host.switchTo hub name).1 = .error error) :
    host.Unmoved hub name (host.switchTo hub name).2.1
      (host.switchTo hub name).2.2 := by
  have hswitched := host.switchTo_switched hub name
  rw [herror] at hswitched
  exact hswitched.unmoved

theorem Reconfigured.unmoved {workspace : Workspace} {error : LoadError}
    {next : Host} {later : Hub}
    (hreconfigured :
      host.Reconfigured hub workspace (.error error) next later) :
    host.Unmoved hub (hub.store.library defaultBackend) next later := by
  cases hreconfigured with
  | refused error hstore hon hother hresult =>
      obtain ⟨hhost, hpending, hredecorate, halike⟩ :=
        unmoved_of_switchTo hresult
      exact ⟨hhost, hpending, hredecorate, halike⟩

theorem unmoved_of_reconfigure {workspace : Workspace} {error : LoadError}
    (herror : (host.reconfigure hub workspace).1 = .error error) :
    host.Unmoved hub (hub.store.library defaultBackend)
      (host.reconfigure hub workspace).2.1
      (host.reconfigure hub workspace).2.2 := by
  have hreconfigured := host.reconfigure_reconfigured hub workspace
  rw [herror] at hreconfigured
  exact hreconfigured.unmoved

theorem switchTo_loads {item : Catalog.Item} (hon : host.off = false)
    (hother : host.liveName? ≠ some name)
    (hfind : host.catalog.find? name = some item)
    (hunflagged : hub.store.isFlagged name = false) :
    (∃ run, (host.switchTo hub name).2.2.loads = hub.loads ++ [run] ∧
      run.name = name ∧
      run.Guarded hub.store (host.switchTo hub name).2.2.store) ∧
    (∀ error, (host.switchTo hub name).1 = .error error ↔
      (host.catalog.load name).1 = .error error) ∧
    ∀ backend, (host.catalog.load name).1 = .ok backend →
      host.Installed hub name backend (host.switchTo hub name).2.1
        (host.switchTo hub name).2.2 := by
  have hswitched := host.switchTo_switched hub name
  generalize host.switchTo hub name = outcome at hswitched ⊢
  obtain ⟨result, next, later⟩ := outcome
  simp only at hswitched ⊢
  cases hswitched with
  | off hoff =>
      rw [hon] at hoff
      cases hoff
  | same live hon hlive hname =>
      apply absurd _ hother
      rw [liveName?_of_live hlive, hname]
  | unknown hon hother hnone =>
      rw [hfind] at hnone
      cases hnone
  | flagged item hon hother hfind hflagged =>
      rw [hunflagged] at hflagged
      cases hflagged
  | failed item run store frozen error hon hother hfind hname hguarded hload =>
      rw [hload]
      refine ⟨⟨run, rfl, hname, hguarded⟩, fun other => ?_, fun backend hok => ?_⟩
      · simp
      · cases hok
  | loaded item run store frozen backend hon hother hfind hname hguarded
      hload =>
      rw [hload]
      refine ⟨⟨run, rfl, hname, hguarded⟩, fun other => ?_, fun other hok => ?_⟩
      · simp
      · cases hok
        exact ⟨rfl, rfl, rfl, rfl⟩

end

/-- A change of the backend that fails leaves the host, its signals and
requests as they were, and nothing of the configuration but the flag of the
backend that was tried reads otherwise.  One that succeeds comes of one load,
or of none if the backend is live already. -/
theorem swap_all_or_nothing (host : Host) (hub : Hub) (name : String) :
    (∀ error, (host.switchTo hub name).1 = .error error →
      host.Unmoved hub name (host.switchTo hub name).2.1
        (host.switchTo hub name).2.2) ∧
    (∀ workspace error,
      (host.reconfigure hub workspace).1 = .error error →
      host.Unmoved hub (hub.store.library defaultBackend)
        (host.reconfigure hub workspace).2.1
        (host.reconfigure hub workspace).2.2) ∧
    (host.off = true →
      host.switchTo hub name = (.error .switchedOff, host, hub)) ∧
    (host.off = false → host.liveName? ≠ some name →
      (host.catalog.find? name = none →
        host.switchTo hub name = (.error (.unknown name), host, hub)) ∧
      ∀ item, host.catalog.find? name = some item →
        (hub.store.isFlagged name = true →
          host.switchTo hub name = (.error (.hung name), host, hub)) ∧
        (hub.store.isFlagged name = false →
          (∃ run, (host.switchTo hub name).2.2.loads = hub.loads ++ [run] ∧
            run.name = name) ∧
          (∀ error, (host.switchTo hub name).1 = .error error ↔
            (host.catalog.load name).1 = .error error) ∧
          ∀ backend, (host.catalog.load name).1 = .ok backend →
            host.Installed hub name backend (host.switchTo hub name).2.1
              (host.switchTo hub name).2.2)) ∧
    (host.off = false → ∀ live, host.live = some live →
      live.profile.name = name →
      host.switchTo hub name =
        (.ok (), { host with theme := themeFor hub.store live.profile },
          { hub with pending := hub.pending ++
              host.themeSignals (themeFor hub.store live.profile) })) := by
  refine ⟨fun error => unmoved_of_switchTo,
    fun workspace error => unmoved_of_reconfigure, switchTo_of_off, ?_,
    fun hon live => switchTo_of_live hon⟩
  intro hon hother
  refine ⟨switchTo_of_unknown hon hother, fun item hfind => ?_⟩
  refine ⟨switchTo_of_flagged hon hother hfind, fun hunflagged => ?_⟩
  obtain ⟨⟨run, hloads, hname, _⟩, herror, hinstalled⟩ :=
    switchTo_loads hon hother hfind hunflagged
  exact ⟨⟨run, hloads, hname⟩, herror, hinstalled⟩

theorem unmoved_by_failing_supplier :
    let supplier : Supplier :=
      { deliver := fun _ => .error (.failed "glass" "no driver") }
    let catalog := Catalog.register .standard "glass" supplier
    let started := Host.start { catalog } {} {}
    started.1.liveName? = some defaultBackend ∧
    (started.1.switchTo started.2 "glass").1 =
      .error (.failed "glass" "no driver") ∧
    started.1.Unmoved started.2 "glass"
      (started.1.switchTo started.2 "glass").2.1
      (started.1.switchTo started.2 "glass").2.2 := by
  intro supplier catalog started
  have hresult : (started.1.switchTo started.2 "glass").1 =
      .error (.failed "glass" "no driver") := by rfl
  refine ⟨by rfl, hresult, ?_⟩
  exact (swap_all_or_nothing started.1 started.2 "glass").1 _ hresult

end Host
end WindowChrome
