import WindowChrome.Proofs.Host.Agreement
import WindowChrome.Proofs.Host.Fallback
import WindowChrome.Proofs.Host.Telling

/-! # Properties that last -/

namespace WindowChrome
namespace Host

/-- A host and its hub were adjusted: the live backend is the one before or
gone, catalog, configuration and loads are as they were, and the signals tell
of it. -/
structure Adjusted (host : Host) (hub : Hub) (next : Host) (later : Hub) :
    Prop where
  telling : host.Telling hub next later
  catalog_eq : next.catalog = host.catalog
  live_eq : next.live = host.live ∨ next.live = none
  store_eq : later.store = hub.store
  loads_eq : later.loads = hub.loads

structure Upheld (property : Host → Hub → Prop) : Prop where
  switchTo : ∀ {host : Host} {hub : Hub}, property host hub →
    ∀ name, property (host.switchTo hub name).2.1 (host.switchTo hub name).2.2
  adjusted : ∀ {host next : Host} {hub later : Hub},
    property host hub → host.Adjusted hub next later → property next later

/-- A property that outlasts adjustments and for which it is enough to know
what a change of the backend comes to. -/
structure Lasting (property : Host → Hub → Prop) : Prop where
  switched : ∀ {host next : Host} {hub later : Hub} {name : String}
    {result : Except LoadError Unit},
    property host hub → host.Switched hub name result next later →
      property next later
  adjusted : ∀ {host next : Host} {hub later : Hub},
    property host hub → host.Adjusted hub next later → property next later

variable {property : Host → Hub → Prop} {host : Host} {hub : Hub}

namespace Adjusted

theorem of_eq {next : Host} (hcatalog : next.catalog = host.catalog)
    (hlive : next.live = host.live) (hmode : next.mode = host.mode) :
    host.Adjusted hub next hub :=
  ⟨.of_eq hmode rfl rfl, hcatalog, .inl hlive, rfl, rfl⟩

theorem redecorateAll (host : Host) (hub : Hub) (workspace : Workspace) :
    host.Adjusted hub host (hub.redecorateAll workspace) :=
  ⟨.of_eq rfl rfl rfl, rfl, .inl rfl, rfl, rfl⟩

theorem setMode (host : Host) (hub : Hub) (mode : Mode) :
    host.Adjusted hub (host.setMode hub mode).1 (host.setMode hub mode).2 := by
  have htelling := Telling.setMode host hub mode
  rw [setMode_fst, setMode_snd] at htelling ⊢
  exact ⟨htelling, rfl, .inl rfl, rfl, rfl⟩

theorem refreshTheme (host : Host) (hub : Hub) :
    host.Adjusted hub (host.refreshTheme hub).2.1
      (host.refreshTheme hub).2.2 := by
  have htelling := Telling.refreshTheme host hub
  cases hlive : host.live with
  | none =>
      unfold Host.refreshTheme at htelling ⊢
      rw [hlive] at htelling ⊢
      exact ⟨htelling, rfl, .inl rfl, rfl, rfl⟩
  | some live =>
      rw [refreshTheme_of_live hlive] at htelling ⊢
      exact ⟨htelling, rfl, .inl rfl, rfl, rfl⟩

end Adjusted

namespace Upheld

variable (hupheld : Upheld property)

include hupheld

theorem switchToFirst (hproperty : property host hub) (names : List String) :
    property (host.switchToFirst hub names).1
      (host.switchToFirst hub names).2 := by
  induction names generalizing host hub with
  | nil => exact hproperty
  | cons name rest ih =>
      have hhead := hupheld.switchTo hproperty name
      cases hresult : (host.switchTo hub name).1 with
      | ok _ =>
          rw [switchToFirst_of_ok hresult]
          exact hhead
      | error error =>
          rw [switchToFirst_of_error hresult]
          exact ih hhead

theorem choose (hproperty : property host hub) :
    property (host.choose hub).1 (host.choose hub).2 := by
  have hset : ∀ off, property { host with off } hub := fun off =>
    hupheld.adjusted hproperty (.of_eq rfl rfl rfl)
  cases hstore : hub.store.switchedOff with
  | true =>
      unfold Host.choose
      simp only [hstore, if_true]
      exact hupheld.adjusted (hset true) (.setMode _ hub .none)
  | false =>
      have hfirst := hupheld.switchToFirst (hset false)
        (chain (hub.store.library defaultBackend))
      rw [choose_of_on hstore]
      unfold settle
      simp only
      split
      · exact hupheld.adjusted hfirst (.setMode _ _ .none)
      · exact hfirst

theorem start (hproperty : property host hub) (session : Session) :
    property (host.start hub session).1 (host.start hub session).2 := by
  apply hupheld.choose
  exact hupheld.adjusted hproperty (.of_eq rfl rfl rfl)

theorem reconfigure (hproperty : property host hub) (workspace : Workspace) :
    property (host.reconfigure hub workspace).2.1
      (host.reconfigure hub workspace).2.2 := by
  have hshown : property (host.shown hub.store) hub :=
    hupheld.adjusted hproperty (.of_eq rfl rfl rfl)
  have hask : ∀ {asking : Host} {asked : Hub}, property asking asked →
      property asking (asked.redecorateAll workspace) :=
    fun hasking => hupheld.adjusted hasking (.redecorateAll _ _ workspace)
  have hreconfigured := host.reconfigure_reconfigured hub workspace
  generalize host.reconfigure hub workspace = outcome at hreconfigured ⊢
  obtain ⟨result, next, later⟩ := outcome
  simp only at hreconfigured ⊢
  cases hreconfigured with
  | on hstore hoff => exact hask (hupheld.choose hshown)
  | off hstore hon =>
      have hdropped : property { host.shown hub.store with
          off := true, live := none, theme := none } hub :=
        hupheld.adjusted hshown ⟨.of_eq rfl rfl rfl, rfl, .inr rfl, rfl, rfl⟩
      exact hask (hupheld.adjusted hdropped (.setMode _ hub .none))
  | stillOff hstore hoff => exact hshown
  | refreshed hstore hon hsame =>
      have hrefreshed :=
        hupheld.adjusted hshown (.refreshTheme (host.shown hub.store) hub)
      split
      · exact hask hrefreshed
      · exact hrefreshed
  | refused error hstore hon hother hresult =>
      exact hupheld.switchTo hshown _
  | switched hstore hon hother hresult =>
      exact hask (hupheld.switchTo hshown _)

theorem perform (hproperty : property host hub) {operation : Operation}
    (hhost : ∀ group key value, operation ≠ .write group key value) :
    property (host.perform hub operation).1
      (host.perform hub operation).2 := by
  cases operation with
  | start session => exact hupheld.start hproperty session
  | switchTo name => exact hupheld.switchTo hproperty name
  | reconfigure workspace => exact hupheld.reconfigure hproperty workspace
  | changeTheme id => exact hupheld.adjusted hproperty (.of_eq rfl rfl rfl)
  | changeFont font => exact hupheld.adjusted hproperty (.of_eq rfl rfl rfl)
  | changeDpi dpi => exact hupheld.adjusted hproperty (.of_eq rfl rfl rfl)
  | write group key value => exact absurd rfl (hhost group key value)

end Upheld

namespace Lasting

theorem upheld (hlasting : Lasting property) : Upheld property where
  switchTo hproperty name :=
    hlasting.switched hproperty (switchTo_switched _ _ name)
  adjusted := hlasting.adjusted

variable (hlasting : Lasting property)

include hlasting

theorem start (hproperty : property host hub) (session : Session) :
    property (host.start hub session).1 (host.start hub session).2 :=
  hlasting.upheld.start hproperty session

theorem reconfigure (hproperty : property host hub) (workspace : Workspace) :
    property (host.reconfigure hub workspace).2.1
      (host.reconfigure hub workspace).2.2 :=
  hlasting.upheld.reconfigure hproperty workspace

theorem perform (hproperty : property host hub) {operation : Operation}
    (hhost : ∀ group key value, operation ≠ .write group key value) :
    property (host.perform hub operation).1
      (host.perform hub operation).2 :=
  hlasting.upheld.perform hproperty hhost

end Lasting

theorem lasting_telling (host : Host) (hub : Hub) :
    Lasting (host.Telling hub) where
  switched htelling hswitched := htelling.trans hswitched.telling
  adjusted htelling hadjusted := htelling.trans hadjusted.telling

end Host
end WindowChrome
