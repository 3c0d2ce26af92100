import WindowChrome.Host

/-!
# What operations do to the live backend

The live backend stays, with its theme read again, or another one takes its
place, or decorations are off.
-/

namespace WindowChrome

/-- Two backends can differ in what they make of some window, so telling them
apart is not a matter of computing. -/
noncomputable instance : DecidableEq Live := Classical.typeDecidableEq Live

namespace Host

inductive Change (host : Host) : Host → Prop
  /-- The backend stays, and if there is one its theme is read again. -/
  | keep (catalog : Catalog) (theme : Option String)
      (htheme : host.live = none → theme = host.theme) :
      Change host { host with catalog, theme }
  | install (catalog : Catalog) (theme : Option String) (live : Live)
      (hoff : host.off = false)
      (hother : host.liveName? ≠ some live.profile.name) :
      Change host { host with
        catalog := catalog, theme := theme, live := some live
        mode := .server }

theorem setMode_fst (host : Host) (hub : Hub) (mode : Mode) :
    (host.setMode hub mode).1 = { host with mode } := by
  unfold setMode
  split
  · next hsame =>
      subst hsame
      rfl
  · rfl

theorem loadGuarded_host (host : Host) (hub : Hub) (name : String) :
    ∃ catalog, (host.loadGuarded hub name).2.1 = { host with catalog } := by
  unfold loadGuarded
  cases host.catalog.find? name with
  | none => exact ⟨host.catalog, rfl⟩
  | some item =>
      by_cases hflagged : hub.store.isFlagged name
      · simp only [hflagged, if_true]
        exact ⟨host.catalog, rfl⟩
      · simp only [hflagged, Bool.false_eq_true, if_false]
        exact ⟨_, rfl⟩

theorem install_fst (host : Host) (hub : Hub) (name : String)
    (backend : Backend) :
    (host.install hub name backend).1 =
      { host with
        theme := themeFor hub.store
          (.ofDeclaration name backend.declaration)
        live := some {
          profile := .ofDeclaration name backend.declaration, backend }
        mode := .server } :=
  setMode_fst _ hub .server

theorem refreshTheme_change (host : Host) (hub : Hub) :
    host.Change (host.refreshTheme hub).2.1 := by
  rcases host with ⟨catalog, live, off, tooltips, theme, mode, dpi, themeId,
    font⟩
  cases live with
  | none => exact .keep catalog theme fun _ => rfl
  | some live =>
      unfold refreshTheme
      simp only
      by_cases hsame : themeFor hub.store live.profile = theme
      · rw [if_pos hsame]
        exact .keep catalog theme fun _ => rfl
      · rw [if_neg hsame]
        refine .keep catalog (themeFor hub.store live.profile) fun hnone => ?_
        cases hnone

theorem switchTo_cases (host : Host) (hub : Hub) (name : String) :
    (∃ error catalog,
      (host.switchTo hub name).1 = .error error ∧
      (host.switchTo hub name).2.1 = { host with catalog }) ∨
    ((host.switchTo hub name).1 = .ok () ∧
      host.Change (host.switchTo hub name).2.1) := by
  unfold switchTo
  by_cases hoff : host.off
  · rw [if_pos hoff]
    exact .inl ⟨.switchedOff, host.catalog, rfl, rfl⟩
  · rw [if_neg hoff]
    by_cases hlive : host.liveName? = some name
    · rw [if_pos hlive]
      exact .inr ⟨rfl, host.refreshTheme_change hub⟩
    · rw [if_neg hlive]
      rcases host.loadGuarded_host hub name with ⟨catalog, hhost⟩
      cases hload : host.loadGuarded hub name with
      | mk loaded rest =>
          rcases rest with ⟨loadedHost, loadedHub⟩
          have hloaded : loadedHost = { host with catalog } := by
            rw [← hhost, hload]
          subst hloaded
          cases loaded with
          | error error => exact .inl ⟨error, catalog, rfl, rfl⟩
          | ok backend =>
              simp only [install_fst]
              refine .inr ⟨trivial, ?_⟩
              exact .install catalog _
                { profile := .ofDeclaration name backend.declaration, backend }
                (Bool.eq_false_iff.mpr hoff) hlive

theorem switchTo_change (host : Host) (hub : Hub) (name : String) :
    host.Change (host.switchTo hub name).2.1 := by
  rcases host.switchTo_cases hub name with ⟨_, catalog, _, hhost⟩ | ⟨_, hchange⟩
  · rw [hhost]
    exact .keep catalog host.theme fun _ => rfl
  · exact hchange

theorem Change.of_counted {host next : Host} {catalog : Catalog}
    (hchange : ({ host with catalog } : Host).Change next) :
    host.Change next := by
  cases hchange with
  | keep later theme htheme => exact .keep later theme htheme
  | install later theme live hoff hother =>
      exact .install later theme live hoff hother

theorem switchToFirst_change (host : Host) (hub : Hub) (names : List String) :
    host.Change (host.switchToFirst hub names).1 := by
  induction names generalizing host hub with
  | nil => exact .keep host.catalog host.theme fun _ => rfl
  | cons name rest ih =>
      have hcases := host.switchTo_cases hub name
      unfold switchToFirst
      cases hswitch : host.switchTo hub name with
      | mk result next =>
          rw [hswitch] at hcases
          rcases hcases with ⟨error, catalog, hresult, hnext⟩ | ⟨hresult, hchange⟩
          · simp only at hresult hnext
            subst result
            have hrest := ih next.1 next.2
            rw [hnext] at hrest
            simp only [hnext]
            exact hrest.of_counted
          · simp only at hresult
            subst result
            exact hchange

theorem choose_fst (host : Host) (hub : Hub) :
    (hub.store.switchedOff = true ∧
      (host.choose hub).1 = { host with off := true, mode := .none }) ∨
    (hub.store.switchedOff = false ∧ ∃ next,
      ({ host with off := false } : Host).Change next ∧
      (host.choose hub).1 =
        if next.live.isNone then { next with mode := .none } else next) := by
  unfold choose
  cases hoff : hub.store.switchedOff with
  | true => exact .inl ⟨rfl, setMode_fst _ hub .none⟩
  | false =>
      refine .inr ⟨rfl, _, switchToFirst_change _ hub
        (chain (hub.store.library defaultBackend)), ?_⟩
      simp only [Bool.false_eq_true, if_false]
      split
      · exact setMode_fst _ _ .none
      · rfl

def shown (host : Host) (store : Config.Store) : Host :=
  { host with tooltips := store.tooltips }

inductive Reconfigured (host : Host) (hub : Hub) (workspace : Workspace) :
    Except LoadError Unit → Host → Hub → Prop
  | on (hstore : hub.store.switchedOff = false) (hoff : host.off = true) :
      Reconfigured host hub workspace (.ok ())
        ((host.shown hub.store).choose hub).1
        (((host.shown hub.store).choose hub).2.redecorateAll workspace)
  | off (hstore : hub.store.switchedOff = true) (hon : host.off = false) :
      Reconfigured host hub workspace (.ok ())
        ((host.shown hub.store).switchOff hub).1
        (((host.shown hub.store).switchOff hub).2.redecorateAll workspace)
  | stillOff (hstore : hub.store.switchedOff = true) (hoff : host.off = true) :
      Reconfigured host hub workspace (.ok ()) (host.shown hub.store) hub
  | refreshed (hstore : hub.store.switchedOff = false)
      (hon : host.off = false)
      (hsame : host.liveName? = some (hub.store.library defaultBackend)) :
      Reconfigured host hub workspace (.ok ())
        ((host.shown hub.store).refreshTheme hub).2.1
        (if ((host.shown hub.store).refreshTheme hub).1 then
          ((host.shown hub.store).refreshTheme hub).2.2.redecorateAll workspace
        else ((host.shown hub.store).refreshTheme hub).2.2)
  | refused (error : LoadError) (hstore : hub.store.switchedOff = false)
      (hon : host.off = false)
      (hother : host.liveName? ≠ some (hub.store.library defaultBackend))
      (hresult : ((host.shown hub.store).switchTo hub
        (hub.store.library defaultBackend)).1 = .error error) :
      Reconfigured host hub workspace (.error error)
        ((host.shown hub.store).switchTo hub
          (hub.store.library defaultBackend)).2.1
        ((host.shown hub.store).switchTo hub
          (hub.store.library defaultBackend)).2.2
  | switched (hstore : hub.store.switchedOff = false) (hon : host.off = false)
      (hother : host.liveName? ≠ some (hub.store.library defaultBackend))
      (hresult : ((host.shown hub.store).switchTo hub
        (hub.store.library defaultBackend)).1 = .ok ()) :
      Reconfigured host hub workspace (.ok ())
        ((host.shown hub.store).switchTo hub
          (hub.store.library defaultBackend)).2.1
        (((host.shown hub.store).switchTo hub
          (hub.store.library defaultBackend)).2.2.redecorateAll workspace)

theorem reconfigured_of_other {host : Host} {hub : Hub}
    (hstore : hub.store.switchedOff = false) (hon : host.off = false)
    (hother : host.liveName? ≠ some (hub.store.library defaultBackend))
    (workspace : Workspace) :
    host.Reconfigured hub workspace (host.reconfigure hub workspace).1
      (host.reconfigure hub workspace).2.1
      (host.reconfigure hub workspace).2.2 := by
  have hotherShown : ({ host with tooltips := hub.store.tooltips } :
      Host).liveName? ≠ some (hub.store.library defaultBackend) := hother
  have hrefused := @Reconfigured.refused host hub workspace
  have hswitched := @Reconfigured.switched host hub workspace
  unfold shown at hrefused hswitched
  unfold reconfigure
  simp only [hstore]
  rw [if_neg (by simp [hon]), if_neg (by simp [hon]), if_neg hotherShown]
  cases hresult : ({ host with tooltips := hub.store.tooltips } :
      Host).switchTo hub (hub.store.library defaultBackend) with
  | mk result next =>
      rw [hresult] at hrefused hswitched
      cases result with
      | error error => exact hrefused error hstore hon hother rfl
      | ok _ => exact hswitched hstore hon hother rfl

theorem reconfigure_reconfigured (host : Host) (hub : Hub)
    (workspace : Workspace) :
    host.Reconfigured hub workspace (host.reconfigure hub workspace).1
      (host.reconfigure hub workspace).2.1
      (host.reconfigure hub workspace).2.2 := by
  cases hstore : hub.store.switchedOff with
  | true =>
      cases hoff : host.off with
      | true =>
          have hstill := @Reconfigured.stillOff host hub workspace hstore hoff
          unfold reconfigure
          simp only [hstore]
          rw [if_neg (by simp [hoff]), if_pos hoff]
          exact hstill
      | false =>
          have hswitchedOff := @Reconfigured.off host hub workspace hstore hoff
          unfold reconfigure
          simp only [hstore]
          rw [if_pos (by simp [hoff]), if_neg (by simp [hoff])]
          exact hswitchedOff
  | false =>
      cases hoff : host.off with
      | true =>
          have hswitchedOn := @Reconfigured.on host hub workspace hstore hoff
          unfold reconfigure
          simp only [hstore]
          rw [if_pos (by simp [hoff]), if_pos hoff]
          exact hswitchedOn
      | false =>
          by_cases hsame : host.liveName? =
              some (hub.store.library defaultBackend)
          · have hrefreshed :=
              @Reconfigured.refreshed host hub workspace hstore hoff hsame
            have hsameShown : ({ host with tooltips := hub.store.tooltips } :
                Host).liveName? = some (hub.store.library defaultBackend) :=
              hsame
            unfold reconfigure
            simp only [hstore]
            rw [if_neg (by simp [hoff]), if_neg (by simp [hoff]),
              if_pos hsameShown]
            exact hrefreshed
          · exact reconfigured_of_other hstore hoff hsame workspace

theorem reconfigure_host {host shown : Host} {hub : Hub}
    (hshown : shown = { host with tooltips := hub.store.tooltips })
    (workspace : Workspace) :
    (hub.store.switchedOff = false ∧ shown.off = true ∧
      (host.reconfigure hub workspace).2.1 = (shown.choose hub).1) ∨
    (hub.store.switchedOff = true ∧ shown.off = false ∧
      (host.reconfigure hub workspace).2.1 = (shown.switchOff hub).1) ∨
    (hub.store.switchedOff = true ∧ shown.off = true ∧
      (host.reconfigure hub workspace).2.1 = shown) ∨
    (hub.store.switchedOff = false ∧ shown.off = false ∧
      shown.Change (host.reconfigure hub workspace).2.1) := by
  have hreconfigured := host.reconfigure_reconfigured hub workspace
  have hsame : shown = host.shown hub.store := hshown
  have hoffSame : shown.off = host.off := by rw [hshown]
  generalize host.reconfigure hub workspace = outcome at hreconfigured ⊢
  obtain ⟨result, next, later⟩ := outcome
  simp only at hreconfigured ⊢
  rw [hoffSame, hsame]
  cases hreconfigured with
  | on hstore hoff => exact .inl ⟨hstore, hoff, rfl⟩
  | off hstore hon => exact .inr (.inl ⟨hstore, hon, rfl⟩)
  | stillOff hstore hoff => exact .inr (.inr (.inl ⟨hstore, hoff, rfl⟩))
  | refreshed hstore hon hlive =>
      exact .inr (.inr (.inr ⟨hstore, hon, refreshTheme_change _ hub⟩))
  | refused error hstore hon hother hresult =>
      exact .inr (.inr (.inr ⟨hstore, hon, switchTo_change _ hub _⟩))
  | switched hstore hon hother hresult =>
      exact .inr (.inr (.inr ⟨hstore, hon, switchTo_change _ hub _⟩))

def facts (host : Host) : UInt32 × Int × Font :=
  (host.dpi, host.themeId, host.font)

theorem Change.facts_eq {host next : Host} (hchange : host.Change next) :
    next.facts = host.facts := by
  cases hchange with
  | keep catalog theme htheme => rfl
  | install catalog theme live hoff hother => rfl

theorem choose_facts (host : Host) (hub : Hub) :
    (host.choose hub).1.facts = host.facts := by
  rcases host.choose_fst hub with ⟨_, hnext⟩ | ⟨_, next, hchange, hnext⟩
  · rw [hnext]
    rfl
  · rw [hnext]
    split
    · exact hchange.facts_eq
    · exact hchange.facts_eq

theorem start_facts (host : Host) (hub : Hub) (session : Session) :
    (host.start hub session).1.facts =
      (session.dpi, session.themeId, session.titleFont) :=
  choose_facts _ hub

theorem switchOff_fst (host : Host) (hub : Hub) :
    (host.switchOff hub).1 =
      { host with off := true, live := none, theme := none, mode := .none } :=
  setMode_fst _ hub .none

theorem reconfigure_facts (host : Host) (hub : Hub) (workspace : Workspace) :
    (host.reconfigure hub workspace).2.1.facts = host.facts := by
  rcases @reconfigure_host host _ hub rfl workspace with
    ⟨_, _, hnext⟩ | ⟨_, _, hnext⟩ | ⟨_, _, hnext⟩ | ⟨_, _, hchange⟩
  · rw [hnext]
    exact choose_facts _ hub
  · rw [hnext, switchOff_fst]
    rfl
  · rw [hnext]
    rfl
  · exact hchange.facts_eq

theorem Change.liveName?_eq_iff {host next : Host} (hchange : host.Change next) :
    next.liveName? = host.liveName? ↔ next.live = host.live := by
  cases hchange with
  | keep catalog theme htheme => exact ⟨fun _ => rfl, fun _ => rfl⟩
  | install catalog theme live hoff hother =>
      constructor
      · intro hname
        exact absurd hname.symm hother
      · intro hlive
        unfold liveName? liveProfile?
        rw [hlive]

theorem Change.off_eq {host next : Host} (hchange : host.Change next) :
    next.off = host.off := by
  cases hchange with
  | keep catalog theme htheme => rfl
  | install catalog theme live hoff hother => rfl

theorem liveProfile?_of_live {host : Host} {live : Live}
    (hlive : host.live = some live) :
    host.liveProfile? = some live.profile := by
  unfold liveProfile?
  rw [hlive]
  rfl

theorem liveProfile?_of_unloaded {host : Host} (hlive : host.live = none) :
    host.liveProfile? = none := by
  unfold liveProfile?
  rw [hlive]
  rfl

theorem liveName?_of_live {host : Host} {live : Live}
    (hlive : host.live = some live) :
    host.liveName? = some live.profile.name := by
  unfold liveName?
  rw [liveProfile?_of_live hlive]
  rfl

theorem live_eq_none_iff {host : Host} :
    host.live = none ↔ host.liveName? = none := by
  unfold liveName? liveProfile?
  simp only [Option.map_eq_none_iff]

theorem choose_live_eq {host : Host} {hub : Hub}
    (hname : (host.choose hub).1.liveName? = host.liveName?) :
    (host.choose hub).1.live = host.live := by
  rcases host.choose_fst hub with ⟨_, hnext⟩ | ⟨_, next, hchange, hnext⟩
  · rw [hnext]
  · have hsame : (host.choose hub).1.live = next.live := by
      rw [hnext]
      split <;> rfl
    rw [hsame]
    refine hchange.liveName?_eq_iff.mp ?_
    unfold liveName? liveProfile? at hname ⊢
    rw [← hsame]
    exact hname

theorem reconfigure_live_eq {host : Host} {hub : Hub} {workspace : Workspace}
    (hname : (host.reconfigure hub workspace).2.1.liveName? =
      host.liveName?) :
    (host.reconfigure hub workspace).2.1.live = host.live := by
  rcases @reconfigure_host host _ hub rfl workspace with
    ⟨_, _, hnext⟩ | ⟨_, _, hnext⟩ | ⟨_, _, hnext⟩ | ⟨_, _, hchange⟩
  · rw [hnext] at hname ⊢
    exact choose_live_eq hname
  · rw [hnext, switchOff_fst] at hname ⊢
    exact (live_eq_none_iff.mpr hname.symm).symm
  · rw [hnext]
  · exact hchange.liveName?_eq_iff.mp hname

theorem live_of_reconfigure {host : Host} {hub : Hub} {workspace : Workspace}
    {live : Live} (hoff : host.off = false) (hlive : host.live = some live)
    (hname : (host.reconfigure hub workspace).2.1.liveName? =
      host.liveName?) :
    (host.reconfigure hub workspace).2.1.off = false ∧
      (host.reconfigure hub workspace).2.1.live = some live := by
  rcases @reconfigure_host host _ hub rfl workspace with
    ⟨_, habsurd, _⟩ | ⟨_, _, hnext⟩ | ⟨_, habsurd, _⟩ | ⟨_, _, hchange⟩
  · rw [show host.off = true from habsurd] at hoff
    cases hoff
  · rw [hnext, switchOff_fst, liveName?_of_live hlive] at hname
    cases hname
  · rw [show host.off = true from habsurd] at hoff
    cases hoff
  · have hsame := hchange.liveName?_eq_iff.mp hname
    exact ⟨hchange.off_eq.trans hoff, hsame.trans hlive⟩

end Host
end WindowChrome
