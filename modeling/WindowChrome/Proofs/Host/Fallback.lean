import WindowChrome.Proofs.Host.Swap

/-!
# Going down the chain

Loads on the way change flags and counts for their own names only, and no name
comes twice, so the backend that is found can be told from the state before.
-/

namespace WindowChrome

open Config (Store)

namespace Catalog

def admits (catalog : Catalog) (store : Store) (name : String) : Bool :=
  catalog.contains name && !store.isFlagged name

/-- The backend of the name is not flagged, and its supplier delivers it. -/
def Offers (catalog : Catalog) (store : Store) (name : String)
    (backend : Backend) : Prop :=
  store.isFlagged name = false ∧ (catalog.load name).1 = .ok backend

variable {catalog later : Catalog} {store after : Store} {name : String}

theorem admits_of_find? {item : Item} (hfind : catalog.find? name = some item)
    (hunflagged : store.isFlagged name = false) :
    catalog.admits store name = true := by
  simp [admits, Keyed.contains, hfind, hunflagged]

theorem Offers.admits {backend : Backend}
    (hoffers : catalog.Offers store name backend) :
    catalog.admits store name = true := by
  obtain ⟨item, hfind, _⟩ := exists_find?_of_load hoffers.2
  exact admits_of_find? hfind hoffers.1

theorem admits_eq (hfind : later.find? name = catalog.find? name)
    (hflag : after.isFlagged name = store.isFlagged name) :
    later.admits after name = catalog.admits store name := by
  unfold Catalog.admits Keyed.contains
  rw [hfind, hflag]

theorem offers_iff {backend : Backend}
    (hfind : later.find? name = catalog.find? name)
    (hflag : after.isFlagged name = store.isFlagged name) :
    later.Offers after name backend ↔ catalog.Offers store name backend := by
  unfold Offers
  rw [hflag, load_fst_of_find?_eq hfind]

end Catalog

namespace Host

/-! ## Passing a name over -/

/-- A name was passed over: its backend could not be had, and the host is left
as it was but for the count of its loads and its flag. -/
structure Passed (host : Host) (hub : Hub) (name : String)
    (runs : List LoadRun) (next : Host) (later : Hub) : Prop where
  not_offered : ∀ backend, ¬ host.catalog.Offers hub.store name backend
  host_eq : next = { host with catalog := next.catalog }
  pending_eq : later.pending = hub.pending
  loads_eq : later.loads = hub.loads ++ runs
  runs_eq : runs.map (·.name) = [name].filter (host.catalog.admits hub.store)
  find?_eq : ∀ other, other ≠ name →
    next.catalog.find? other = host.catalog.find? other
  alike : hub.store.AlikeBut name later.store

section

variable {host next last : Host} {hub later final : Hub} {name : String}
  {names : List String} {runs : List LoadRun}

theorem Passed.of_refused (hnot : host.catalog.admits hub.store name = false) :
    host.Passed hub name [] host hub where
  not_offered backend hoffers := by
    rw [hoffers.admits] at hnot
    cases hnot
  host_eq := rfl
  pending_eq := rfl
  loads_eq := by simp
  runs_eq := by simp [hnot]
  find?_eq _ _ := rfl
  alike := .refl hub.store name

theorem Switched.passed {error : LoadError} (hon : host.off = false)
    (hswitched : host.Switched hub name (.error error) next later) :
    ∃ runs, host.Passed hub name runs next later := by
  cases hswitched with
  | off hoff =>
      rw [hon] at hoff
      cases hoff
  | unknown hon hother hfind =>
      refine ⟨[], .of_refused ?_⟩
      simp [Catalog.admits, Keyed.contains, hfind]
  | flagged item hon hother hfind hflagged =>
      refine ⟨[], .of_refused ?_⟩
      simp [Catalog.admits, hflagged]
  | failed item run store frozen error hon hother hfind hname hguarded hload =>
      subst hname
      have hadmits := Catalog.admits_of_find? hfind hguarded.unflagged
      refine ⟨[run], ?_, rfl, rfl, rfl, ?_, ?_, hguarded.alike⟩
      · intro backend hoffers
        have hdelivered := hoffers.2
        rw [hload] at hdelivered
        cases hdelivered
      · simp [hadmits]
      · exact fun other => Catalog.find?_load_of_ne

theorem Passed.admits_eq (hpassed : host.Passed hub name runs next later)
    {other : String} (hother : other ≠ name) :
    next.catalog.admits later.store other =
      host.catalog.admits hub.store other :=
  Catalog.admits_eq (hpassed.find?_eq other hother)
    (Store.isFlagged_of_read_eq (hpassed.alike.read_flag_eq hother))

theorem Passed.offers_iff (hpassed : host.Passed hub name runs next later)
    {other : String} (hother : other ≠ name) {backend : Backend} :
    next.catalog.Offers later.store other backend ↔
      host.catalog.Offers hub.store other backend :=
  Catalog.offers_iff (hpassed.find?_eq other hother)
    (Store.isFlagged_of_read_eq (hpassed.alike.read_flag_eq hother))

theorem Passed.mode_eq (hpassed : host.Passed hub name runs next later) :
    next.mode = host.mode := by
  rw [hpassed.host_eq]

theorem Passed.modeSignals_eq (hpassed : host.Passed hub name runs next later)
    (mode : Mode) : next.modeSignals mode = host.modeSignals mode := by
  unfold modeSignals
  rw [hpassed.mode_eq]

theorem Passed.installed (hpassed : host.Passed hub name runs next later)
    {other : String} {backend : Backend}
    (hinstalled : next.Installed later other backend last final) :
    host.Installed hub other backend last final where
  live_eq := hinstalled.live_eq
  theme_eq := by
    have halike : hub.store.AlikeIn Config.decorationGroup later.store :=
      hpassed.alike.alikeIn Config.decorationGroup_ne
    rw [hinstalled.theme_eq, themeFor_eq halike]
  mode_eq := hinstalled.mode_eq
  pending_eq := by
    rw [hinstalled.pending_eq, hpassed.pending_eq, hpassed.modeSignals_eq]

/-! ## Going down a list -/

/-- What comes of going down a list of names without a live backend, told from
the state before. -/
inductive Descent (host : Host) (hub : Hub) (names : List String)
    (next : Host) (later : Hub) : Prop
  /-- The first backend that can be had is live.  The suppliers asked are those
  of the names before it that are admitted, and its own. -/
  | found (skipped rest : List String) (name : String) (backend : Backend)
      (runs : List LoadRun) (hnames : names = skipped ++ name :: rest)
      (hskipped : ∀ other ∈ skipped, ∀ backend,
        ¬ host.catalog.Offers hub.store other backend)
      (hoffers : host.catalog.Offers hub.store name backend)
      (hloads : later.loads = hub.loads ++ runs)
      (hruns : runs.map (·.name) =
        skipped.filter (host.catalog.admits hub.store) ++ [name])
      (hinstalled : host.Installed hub name backend next later)
  /-- None can be had, and the supplier of every admitted name was asked. -/
  | exhausted (runs : List LoadRun)
      (hnames : ∀ name ∈ names, ∀ backend,
        ¬ host.catalog.Offers hub.store name backend)
      (hloads : later.loads = hub.loads ++ runs)
      (hruns : runs.map (·.name) =
        names.filter (host.catalog.admits hub.store))
      (hlive : next.live = none)
      (htheme : next.theme = host.theme)
      (hmode : next.mode = .none)
      (hpending : later.pending = hub.pending ++ host.modeSignals .none)

theorem Passed.descent (hpassed : host.Passed hub name runs next later)
    (hname : name ∉ names) (hdescent : next.Descent later names last final) :
    host.Descent hub (name :: names) last final := by
  have hne : ∀ other ∈ names, other ≠ name := by
    intro other hmem hsame
    exact hname (hsame ▸ hmem)
  have hjudged : ∀ others : List String, (∀ other ∈ others, other ∈ names) →
      others.filter (next.catalog.admits later.store) =
        others.filter (host.catalog.admits hub.store) := by
    intro others hothers
    apply List.filter_congr
    intro other hmem
    exact hpassed.admits_eq (hne other (hothers other hmem))
  have hdenied : ∀ others : List String, (∀ other ∈ others, other ∈ names) →
      (∀ other ∈ others, ∀ backend,
        ¬ next.catalog.Offers later.store other backend) →
      ∀ other ∈ name :: others, ∀ backend,
        ¬ host.catalog.Offers hub.store other backend := by
    intro others hothers hnone other hmem backend hoffers
    rcases List.mem_cons.mp hmem with hsame | hmem
    · subst hsame
      exact hpassed.not_offered backend hoffers
    · have hother := hne other (hothers other hmem)
      exact hnone other hmem backend ((hpassed.offers_iff hother).mpr hoffers)
  cases hdescent with
  | found skipped rest found backend runsLater hnames hskipped hoffers hloads
      hruns hinstalled =>
      have hskippedMem : ∀ other ∈ skipped, other ∈ names := by
        intro other hmem
        rw [hnames]
        exact List.mem_append_left _ hmem
      have hfoundMem : found ∈ names := by
        rw [hnames]
        simp
      refine .found (name :: skipped) rest found backend (runs ++ runsLater)
        (by rw [hnames]; rfl) (hdenied skipped hskippedMem hskipped)
        ((hpassed.offers_iff (hne found hfoundMem)).mp hoffers) ?_ ?_
        (hpassed.installed hinstalled)
      · rw [hloads, hpassed.loads_eq, List.append_assoc]
      · rw [List.map_append, hpassed.runs_eq, hruns, hjudged _ hskippedMem,
          ← List.append_assoc, ← List.filter_append]
        rfl
  | exhausted runsLater hnone hloads hruns hlive htheme hmode hpending =>
      refine .exhausted (runs ++ runsLater)
        (hdenied names (fun _ hmem => hmem) hnone) ?_ ?_ hlive ?_ hmode ?_
      · rw [hloads, hpassed.loads_eq, List.append_assoc]
      · rw [List.map_append, hpassed.runs_eq, hruns,
          hjudged names fun _ hmem => hmem, ← List.filter_append]
        rfl
      · rw [htheme, hpassed.host_eq]
      · rw [hpending, hpassed.pending_eq, hpassed.modeSignals_eq]

/-! ## The host at its choice -/

theorem switchToFirst_of_ok
    (hresult : (host.switchTo hub name).1 = .ok ()) :
    host.switchToFirst hub (name :: names) = (host.switchTo hub name).2 := by
  unfold switchToFirst
  cases hswitch : host.switchTo hub name with
  | mk result rest =>
      rw [hswitch] at hresult
      simp only at hresult
      subst hresult
      rfl

theorem switchToFirst_of_error {error : LoadError}
    (hresult : (host.switchTo hub name).1 = .error error) :
    host.switchToFirst hub (name :: names) =
      (host.switchTo hub name).2.1.switchToFirst (host.switchTo hub name).2.2
        names := by
  rw [switchToFirst]
  cases hswitch : host.switchTo hub name with
  | mk result rest =>
      rw [hswitch] at hresult
      simp only at hresult
      subst hresult
      rfl

def settle (host : Host) (hub : Hub) (names : List String) : Host × Hub :=
  let (host, hub) := host.switchToFirst hub names
  if host.live.isNone then host.setMode hub .none else (host, hub)

theorem choose_of_on (hstore : hub.store.switchedOff = false) :
    host.choose hub = settle { host with off := false } hub
      (chain (hub.store.library defaultBackend)) := by
  unfold choose
  simp only [hstore, Bool.false_eq_true, if_false]
  rfl

theorem settle_descent (hon : host.off = false) (hlive : host.live = none)
    (hnames : names.Nodup) :
    host.Descent hub names (host.settle hub names).1
      (host.settle hub names).2 := by
  induction names generalizing host hub with
  | nil =>
      have hsettle : host.settle hub [] = host.setMode hub .none := by
        unfold settle switchToFirst
        simp [hlive]
      rw [hsettle, setMode_fst, setMode_snd]
      exact .exhausted [] (by simp) (by simp) rfl hlive rfl rfl rfl
  | cons name rest ih =>
      have hunnamed : name ∉ rest := (List.nodup_cons.mp hnames).1
      have hswitched := host.switchTo_switched hub name
      cases hresult : (host.switchTo hub name).1 with
      | error error =>
          rw [hresult] at hswitched
          obtain ⟨runs, hpassed⟩ := hswitched.passed hon
          unfold settle
          rw [switchToFirst_of_error hresult]
          apply hpassed.descent hunnamed
          apply ih
          · rw [hpassed.host_eq]
            exact hon
          · rw [hpassed.host_eq]
            exact hlive
          · exact (List.nodup_cons.mp hnames).2
      | ok _ =>
          rw [hresult] at hswitched
          unfold settle
          rw [switchToFirst_of_ok hresult]
          generalize host.switchTo hub name = outcome at hswitched ⊢
          obtain ⟨result, next, later⟩ := outcome
          simp only at hswitched ⊢
          cases hswitched with
          | same live hon hsome hname =>
              rw [hlive] at hsome
              cases hsome
          | loaded item run store frozen backend hon hother hfind hname
              hguarded hload =>
              subst hname
              exact .found [] rest run.name backend [run] rfl (by simp)
                ⟨hguarded.unflagged, hload⟩ rfl rfl ⟨rfl, rfl, rfl, rfl⟩

theorem Descent.of_eq {other : Host} {told : Hub}
    (hdescent : other.Descent hub names next later)
    (hcatalog : other.catalog = host.catalog) (htheme : other.theme = host.theme)
    (hmode : other.mode = host.mode) (hloads : told.loads = later.loads)
    (hpending : told.pending = later.pending) :
    host.Descent hub names next told := by
  have hsignals : ∀ mode, other.modeSignals mode = host.modeSignals mode := by
    intro mode
    unfold modeSignals
    rw [hmode]
  cases hdescent with
  | found skipped rest name backend runs hnames hskipped hoffers hruns
      hrunNames hinstalled =>
      rw [hcatalog] at hskipped hoffers hrunNames
      refine .found skipped rest name backend runs hnames hskipped hoffers
        (hloads.trans hruns) hrunNames ?_
      refine ⟨hinstalled.live_eq, hinstalled.theme_eq, hinstalled.mode_eq, ?_⟩
      rw [hpending, hinstalled.pending_eq, hsignals]
  | exhausted runs hnone hruns hrunNames hlive hsame hlast hsent =>
      rw [hcatalog] at hnone hrunNames
      refine .exhausted runs hnone (hloads.trans hruns) hrunNames hlive
        (hsame.trans htheme) hlast ?_
      rw [hpending, hsent, hsignals]

end

/-! ## The chain -/

theorem chain_eq_eraseDups (configured : String) :
    chain configured =
      [configured, defaultBackend, fallbackBackend].eraseDups := by
  have hne : fallbackBackend ≠ defaultBackend := by decide
  have hnil : ([] : List String).eraseDups = [] := rfl
  unfold chain
  by_cases hdefault : defaultBackend = configured
  · subst hdefault
    simp [List.eraseDups_cons, hne, hnil]
  · by_cases hfallback : fallbackBackend = configured
    · subst hfallback
      simp [List.eraseDups_cons, hne.symm, hnil]
    · simp [List.eraseDups_cons, hdefault, hfallback, hne, hnil]

theorem nodup_chain (configured : String) : (chain configured).Nodup := by
  have hnames : [defaultBackend, fallbackBackend].Nodup := by decide
  unfold chain
  rw [List.nodup_cons]
  constructor
  · simp
  · exact hnames.filter _

theorem choose_descent (host : Host) (hub : Hub) (hlive : host.live = none)
    (hstore : hub.store.switchedOff = false) :
    host.Descent hub (chain (hub.store.library defaultBackend))
      (host.choose hub).1 (host.choose hub).2 := by
  have hdescent := @settle_descent { host with off := false } hub _ rfl hlive
    (nodup_chain (hub.store.library defaultBackend))
  rw [choose_of_on hstore]
  exact hdescent.of_eq rfl rfl rfl rfl rfl

theorem start_descent {host : Host} {hub : Hub} (hlive : host.live = none)
    (hstore : hub.store.switchedOff = false) (session : Session) :
    host.Descent hub (chain (hub.store.library defaultBackend))
      (host.start hub session).1 (host.start hub session).2 := by
  have hdescent := choose_descent { host with
    dpi := session.dpi
    themeId := session.themeId
    font := session.titleFont
    tooltips := hub.store.tooltips } hub hlive hstore
  exact hdescent.of_eq rfl rfl rfl rfl rfl

theorem reconfigure_descent {host : Host} {hub : Hub}
    (hlive : host.live = none) (hoff : host.off = true)
    (hstore : hub.store.switchedOff = false) (workspace : Workspace) :
    (host.reconfigure hub workspace).1 = .ok () ∧
    host.Descent hub (chain (hub.store.library defaultBackend))
      (host.reconfigure hub workspace).2.1
      (host.reconfigure hub workspace).2.2 := by
  have hdescent := choose_descent (host.shown hub.store) hub hlive hstore
  have hreconfigured := host.reconfigure_reconfigured hub workspace
  generalize host.reconfigure hub workspace = outcome at hreconfigured ⊢
  obtain ⟨result, next, later⟩ := outcome
  simp only at hreconfigured ⊢
  cases hreconfigured with
  | on _ _ => exact ⟨rfl, hdescent.of_eq rfl rfl rfl rfl rfl⟩
  | off habsurd _ =>
      rw [hstore] at habsurd
      cases habsurd
  | stillOff habsurd _ =>
      rw [hstore] at habsurd
      cases habsurd
  | refreshed _ hon _ =>
      rw [hoff] at hon
      cases hon
  | refused _ _ hon _ _ =>
      rw [hoff] at hon
      cases hon
  | switched _ hon _ _ =>
      rw [hoff] at hon
      cases hon

/-- Without a live backend, a start goes down the configured name, the default
and the fallback, and so does switching decorations on.  The first of them that
is known, not flagged and delivered is live then, and no supplier after it is
asked. -/
theorem first_of_chain_live (host : Host) (hub : Hub)
    (hlive : host.live = none) (hstore : hub.store.switchedOff = false) :
    let names := [hub.store.library defaultBackend, defaultBackend,
      fallbackBackend].eraseDups
    names.Nodup ∧
    (∀ session, host.Descent hub names (host.start hub session).1
      (host.start hub session).2) ∧
    (host.off = true → ∀ workspace,
      (host.reconfigure hub workspace).1 = .ok () ∧
      host.Descent hub names (host.reconfigure hub workspace).2.1
        (host.reconfigure hub workspace).2.2) := by
  intro names
  have hnames : names = chain (hub.store.library defaultBackend) :=
    (chain_eq_eraseDups _).symm
  rw [hnames]
  refine ⟨nodup_chain _, start_descent hlive hstore, fun hoff workspace => ?_⟩
  exact reconfigure_descent hlive hoff hstore workspace

/-- The configured backend fails and the default one is flagged. -/
theorem fallback_live_after_failure :
    let supplier : Supplier :=
      { deliver := fun _ => .error (.failed "glass" "no driver") }
    let host : Host := { catalog := .register .standard "glass" supplier }
    let store : Store := .ofEntries
      [((Config.decorationGroup, "library"), "glass"),
        ((Config.compositingGroup, Config.flagKey defaultBackend), "true")]
      none
    let hub : Hub := { store }
    host.live = none ∧ hub.store.switchedOff = false ∧
    host.Descent hub ["glass", defaultBackend, fallbackBackend]
      (host.start hub {}).1 (host.start hub {}).2 ∧
    (host.start hub {}).1.liveName? = some fallbackBackend ∧
    (host.start hub {}).1.theme = some "__aurorae__svg__ukui" ∧
    (host.start hub {}).2.loads.map (·.name) = ["glass", fallbackBackend] := by
  intro supplier host store hub
  have hstore : hub.store.switchedOff = false := by decide
  have hnames : [hub.store.library defaultBackend, defaultBackend,
      fallbackBackend].eraseDups =
        ["glass", defaultBackend, fallbackBackend] := by decide
  have hdescent := (first_of_chain_live host hub rfl hstore).2.1 {}
  rw [hnames] at hdescent
  exact ⟨rfl, hstore, hdescent, by rfl, by rfl, by rfl⟩

end Host
end WindowChrome
