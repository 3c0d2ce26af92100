import WindowChrome.Proofs.Host.Quarantine
import WindowChrome.Proofs.Host.Supply

/-!
# Applying a configuration

A host that has applied its configuration finds nothing left to do in it,
unless another backend than the live one is configured.
-/

namespace WindowChrome
namespace Host

open Config (Store)

/-- Decorations made before may look otherwise now: they were switched on or
off, or another backend is live, or its theme is another one. -/
def Altered (host next : Host) : Prop :=
  next.off ≠ host.off ∨ next.live ≠ host.live ∨ next.theme ≠ host.theme

noncomputable instance (host next : Host) : Decidable (host.Altered next) :=
  inferInstanceAs (Decidable (_ ∨ _ ∨ _))

/-- A host has applied its configuration, and asked for the windows of a
workspace to be decorated again exactly if there is something to see of it. -/
structure Applied (host : Host) (hub : Hub) (workspace : Workspace)
    (next : Host) (later : Hub) : Prop where
  heeds : next.Heeds later.store next.liveProfile?
  liveName?_eq : host.off = false → next.off = false →
    next.liveName? = some (later.store.library defaultBackend)
  redecorate_eq : later.redecorate =
    hub.redecorate ++ if host.Altered next then workspace.ids else []

variable {catalog : Catalog} {host next : Host} {hub later : Hub}
  {workspace : Workspace} {name : String}

theorem Agrees.heeds {store : Store} (hagrees : host.Agrees)
    (htheme : host.theme = host.liveProfile?.bind (themeFor store))
    (hoff : host.off = store.switchedOff)
    (htooltips : host.tooltips = store.tooltips) :
    host.Heeds store host.liveProfile? := by
  refine ⟨rfl, htheme, ?_, hoff, htooltips⟩
  have hsome : host.liveName?.isSome = host.liveProfile?.isSome := by
    unfold liveName?
    rw [Option.isSome_map]
  rw [← hsome]
  cases hmode : host.mode with
  | server => rw [if_pos (hagrees.mode_iff.mp hmode)]
  | none =>
      rw [if_neg]
      intro hlive
      have hserver := hagrees.mode_iff.mpr hlive
      rw [hmode] at hserver
      cases hserver

theorem Heeds.of_alikeIn {before after : Store}
    {profile? : Option Backend.Profile} (hheeds : host.Heeds before profile?)
    (halike : before.AlikeIn Config.decorationGroup after) :
    host.Heeds after profile? where
  profile_eq := hheeds.profile_eq
  theme_eq := by
    have htheme : themeFor after = themeFor before :=
      funext fun profile => themeFor_eq halike profile
    rw [htheme]
    exact hheeds.theme_eq
  mode_eq := hheeds.mode_eq
  off_eq := by
    have hoff : after.switchedOff = before.switchedOff :=
      halike.entry_eq "NoPlugin" false
    rw [hoff]
    exact hheeds.off_eq
  tooltips_eq := by
    have htooltips : after.tooltips = before.tooltips :=
      halike.entry_eq "ShowToolTips" true
    rw [htooltips]
    exact hheeds.tooltips_eq

theorem Installed.theme_resolved {backend : Backend}
    (hinstalled : host.Installed hub name backend next later) :
    next.theme = next.liveProfile?.bind (themeFor hub.store) := by
  rw [liveProfile?_of_live hinstalled.live_eq]
  exact hinstalled.theme_eq

theorem Descent.theme_resolved {names : List String}
    (hdescent : host.Descent hub names next later)
    (htheme : host.theme = none) :
    next.theme = next.liveProfile?.bind (themeFor hub.store) := by
  cases hdescent with
  | found _ _ _ _ _ _ _ _ _ _ hinstalled => exact hinstalled.theme_resolved
  | exhausted _ _ _ _ hlive hsame _ _ =>
      rw [liveProfile?_of_unloaded hlive, hsame]
      exact htheme

theorem refreshTheme_resolved {live : Live} (hlive : host.live = some live) :
    (host.refreshTheme hub).2.1.theme =
      (host.refreshTheme hub).2.1.liveProfile?.bind (themeFor hub.store) := by
  rw [refreshTheme_of_live hlive]
  have hsame : ({ host with theme := themeFor hub.store live.profile } :
      Host).live = some live := hlive
  rw [liveProfile?_of_live hsame]
  rfl

theorem switchTo_resolved (hresult : (host.switchTo hub name).1 = .ok ()) :
    (host.switchTo hub name).2.1.theme =
      (host.switchTo hub name).2.1.liveProfile?.bind (themeFor hub.store) ∧
    (host.switchTo hub name).2.1.liveName? = some name := by
  have hswitched := host.switchTo_switched hub name
  rw [hresult] at hswitched
  generalize host.switchTo hub name = outcome at hswitched ⊢
  obtain ⟨result, next, later⟩ := outcome
  simp only at hswitched ⊢
  cases hswitched with
  | same live hon hlive hname =>
      unfold liveName? liveProfile?
      simp [hlive, hname]
  | loaded item run store frozen backend hon hother hfind hname hguarded
      hload => exact ⟨rfl, rfl⟩

theorem Reconfigured.heeds (hagrees : host.Agrees) (hnext : next.Agrees)
    (hreconfigured : host.Reconfigured hub workspace (.ok ()) next later) :
    next.Heeds hub.store next.liveProfile? := by
  have hnone : host.off = true →
      host.theme = none ∧ host.live = none := fun hoff =>
    ⟨hagrees.theme_of_off hoff, live_of_liveName? (hagrees.live_of_off hoff)⟩
  cases hreconfigured with
  | on hstore hoff =>
      obtain ⟨hoffEq, htooltips⟩ := (host.shown hub.store).choose_off hub
      have hdescent := (host.shown hub.store).choose_descent hub
        (hnone hoff).2 hstore
      exact hnext.heeds (hdescent.theme_resolved (hnone hoff).1) hoffEq
        htooltips
  | off hstore hon =>
      refine hnext.heeds ?_ ?_ ?_
      · rw [switchOff_fst]
        rfl
      · rw [switchOff_fst, hstore]
      · rw [switchOff_fst]
        rfl
  | stillOff hstore hoff =>
      have hlive : (host.shown hub.store).live = none := (hnone hoff).2
      refine hnext.heeds ?_ (hoff.trans hstore.symm) rfl
      rw [liveProfile?_of_unloaded hlive]
      exact (hnone hoff).1
  | refreshed hstore hon hsame =>
      obtain ⟨live, hlive, _⟩ := exists_live_of_liveName? hsame
      have hchange := (host.shown hub.store).refreshTheme_change hub
      exact hnext.heeds (refreshTheme_resolved hlive)
        (hchange.off_eq.trans (hon.trans hstore.symm)) hchange.tooltips_eq
  | switched hstore hon hother hresult =>
      have hchange := (host.shown hub.store).switchTo_change hub
        (hub.store.library defaultBackend)
      exact hnext.heeds (switchTo_resolved hresult).1
        (hchange.off_eq.trans (hon.trans hstore.symm)) hchange.tooltips_eq

theorem Reconfigured.liveName?_eq
    (hreconfigured : host.Reconfigured hub workspace (.ok ()) next later)
    (hon : host.off = false) (hnext : next.off = false) :
    next.liveName? = some (hub.store.library defaultBackend) := by
  cases hreconfigured with
  | on _ hoff =>
      rw [hon] at hoff
      cases hoff
  | off _ _ =>
      rw [switchOff_fst] at hnext
      cases hnext
  | stillOff _ hoff =>
      rw [hon] at hoff
      cases hoff
  | refreshed _ _ hsame =>
      obtain ⟨live, hlive, _⟩ := exists_live_of_liveName? hsame
      rw [@refreshTheme_of_live (host.shown hub.store) live hlive]
      exact hsame
  | switched _ _ _ hresult => exact (switchTo_resolved hresult).2

theorem Switched.redecorate_eq {result : Except LoadError Unit}
    (hswitched : host.Switched hub name result next later) :
    later.redecorate = hub.redecorate := by
  cases hswitched <;> rfl

theorem redecorate_setMode (host : Host) (hub : Hub) (mode : Mode) :
    (host.setMode hub mode).2.redecorate = hub.redecorate := by
  rw [setMode_snd]

theorem redecorate_refreshTheme {live : Live}
    (hlive : host.live = some live) (hub : Hub) :
    (host.refreshTheme hub).2.2.redecorate = hub.redecorate := by
  rw [refreshTheme_of_live hlive]

theorem redecorate_switchToFirst (host : Host) (hub : Hub)
    (names : List String) :
    (host.switchToFirst hub names).2.redecorate = hub.redecorate := by
  induction names generalizing host hub with
  | nil => rfl
  | cons name rest ih =>
      have hhead := (host.switchTo_switched hub name).redecorate_eq
      cases hresult : (host.switchTo hub name).1 with
      | ok _ =>
          rw [switchToFirst_of_ok hresult]
          exact hhead
      | error error =>
          rw [switchToFirst_of_error hresult, ih]
          exact hhead

theorem redecorate_choose (host : Host) (hub : Hub) :
    (host.choose hub).2.redecorate = hub.redecorate := by
  cases hstore : hub.store.switchedOff with
  | true =>
      unfold choose
      simp only [hstore, if_true]
      exact redecorate_setMode _ hub .none
  | false =>
      rw [choose_of_on hstore]
      unfold settle
      simp only
      split
      · rw [redecorate_setMode, redecorate_switchToFirst]
      · exact redecorate_switchToFirst _ hub _

theorem refreshTheme_fst_iff {live : Live} (hlive : host.live = some live)
    (hub : Hub) :
    (host.refreshTheme hub).1 = true ↔
      (host.refreshTheme hub).2.1.theme ≠ host.theme := by
  unfold refreshTheme
  rw [hlive]
  simp only
  split
  · simp
  · next hother => simpa using hother

theorem altered_refreshTheme_iff {store : Store} {live : Live}
    (hlive : host.live = some live) (hub : Hub) :
    host.Altered ((host.shown store).refreshTheme hub).2.1 ↔
      ((host.shown store).refreshTheme hub).1 = true := by
  have hshown : (host.shown store).live = some live := hlive
  rw [refreshTheme_fst_iff hshown]
  rw [refreshTheme_of_live hshown]
  unfold Altered shown
  simp

theorem Reconfigured.redecorate_eq
    (hreconfigured : host.Reconfigured hub workspace (.ok ()) next later) :
    later.redecorate =
      hub.redecorate ++ if host.Altered next then workspace.ids else [] := by
  cases hreconfigured with
  | on hstore hoff =>
      have haltered : host.Altered
          ((host.shown hub.store).choose hub).1 := by
        left
        rw [((host.shown hub.store).choose_off hub).1, hstore, hoff]
        decide
      rw [if_pos haltered]
      simp only [Hub.redecorateAll, redecorate_choose]
  | off hstore hon =>
      have haltered : host.Altered
          ((host.shown hub.store).switchOff hub).1 := by
        left
        rw [switchOff_fst, hon]
        simp
      rw [if_pos haltered]
      simp only [Hub.redecorateAll, switchOff, redecorate_setMode]
  | stillOff hstore hoff =>
      have hsame : ¬ host.Altered (host.shown hub.store) := by
        simp [Altered, shown]
      rw [if_neg hsame, List.append_nil]
  | refreshed hstore hon hsame =>
      obtain ⟨live, hlive, _⟩ := exists_live_of_liveName? hsame
      have hshown : (host.shown hub.store).live = some live := hlive
      have hasked := redecorate_refreshTheme hshown hub
      simp only [altered_refreshTheme_iff hlive]
      split
      · simp only [Hub.redecorateAll, hasked]
      · rw [List.append_nil, hasked]
  | switched hstore hon hother hresult =>
      have haltered : host.Altered ((host.shown hub.store).switchTo hub
          (hub.store.library defaultBackend)).2.1 := by
        right
        left
        intro hlive
        apply hother
        rw [← (switchTo_resolved hresult).2]
        unfold liveName? liveProfile?
        rw [hlive]
      rw [if_pos haltered]
      simp only [Hub.redecorateAll,
        (switchTo_switched _ hub _).redecorate_eq]

theorem alikeIn_of_reconfigure (host : Host) (hub : Hub)
    (workspace : Workspace) :
    hub.store.AlikeIn Config.decorationGroup
      (host.reconfigure hub workspace).2.2.store := by
  have honly := @perform_loadsOnly host hub (.reconfigure workspace)
    fun _ _ _ hwrite => by cases hwrite
  exact honly.alikeIn Config.decorationGroup_ne

theorem InOrder.applied (hinOrder : host.InOrder catalog)
    (hresult : host.reconfigure hub workspace = (.ok (), next, later)) :
    host.Applied hub workspace next later := by
  have hnext : (host.reconfigure hub workspace).2.1.InOrder catalog :=
    @InOrder.perform catalog host hinOrder hub (.reconfigure workspace)
      fun _ hstart => by cases hstart
  have halike := host.alikeIn_of_reconfigure hub workspace
  have hreconfigured := host.reconfigure_reconfigured hub workspace
  rw [hresult] at hnext halike hreconfigured
  simp only at hnext halike hreconfigured
  have hlibrary : later.store.library defaultBackend =
      hub.store.library defaultBackend :=
    halike.entry_eq "library" defaultBackend
  refine ⟨?_, fun hon hnextOn => ?_, hreconfigured.redecorate_eq⟩
  · exact (hreconfigured.heeds hinOrder.agrees hnext.agrees).of_alikeIn halike
  · rw [hlibrary]
    exact hreconfigured.liveName?_eq hon hnextOn

theorem Heeds.reconfigure_eq {profile? : Option Backend.Profile}
    (hheeds : host.Heeds hub.store profile?)
    (hlive : host.liveName? = some (hub.store.library defaultBackend) ∨
      host.off = true) (workspace : Workspace) :
    host.reconfigure hub workspace = (.ok (), host, hub) := by
  have hshown : ({ host with tooltips := hub.store.tooltips } : Host) =
      host := by
    rw [← hheeds.tooltips_eq]
  have hread : (hub.store.switchedOff != host.off) = false := by
    rw [hheeds.off_eq]
    simp
  unfold reconfigure
  simp only [hshown, hread, Bool.false_eq_true, if_false]
  by_cases hoff : host.off = true
  · rw [if_pos hoff]
  · have hname := hlive.resolve_right hoff
    obtain ⟨live, hsome, _⟩ := exists_live_of_liveName? hname
    have htheme : themeFor hub.store live.profile = host.theme := by
      rw [hheeds.theme_eq, ← hheeds.profile_eq, liveProfile?_of_live hsome]
      rfl
    have hrefresh : host.refreshTheme hub = (false, host, hub) := by
      unfold refreshTheme
      rw [hsome]
      simp only [htheme, if_true]
    rw [if_neg hoff, if_pos hname, hrefresh]
    rfl

theorem inOrder_after {operations : List Operation}
    (honce : ∀ operation ∈ operations, ∀ session,
      operation ≠ .start session) (catalog : Catalog) (store : Store)
    (session : Session) :
    (after catalog store (operations ++ [.start session])).1.InOrder
      catalog := by
  induction operations with
  | nil => exact inOrder_start catalog { store } session
  | cons operation earlier ih =>
      have hearlier := ih fun other hmem =>
        honce other (List.mem_cons_of_mem _ hmem)
      exact hearlier.perform _ (honce operation List.mem_cons_self)

/-- Where a host that was started once reads the configuration again without an
error, it has applied it, and doing so once more changes nothing. -/
theorem applied_once {operations : List Operation}
    (honce : ∀ operation ∈ operations, ∀ session,
      operation ≠ .start session) (catalog : Catalog) (store : Store)
    (session : Session) (workspace : Workspace) :
    let reached := after catalog store (operations ++ [.start session])
    ∀ next later,
      reached.1.reconfigure reached.2 workspace = (.ok (), next, later) →
      reached.1.Applied reached.2 workspace next later ∧
      (next.liveName? = some (later.store.library defaultBackend) ∨
        next.off = true →
        ∀ again, next.reconfigure later again = (.ok (), next, later)) := by
  intro reached next later hresult
  have hinOrder := inOrder_after honce catalog store session
  have happlied := hinOrder.applied hresult
  exact ⟨happlied, fun hlive again =>
    happlied.heeds.reconfigure_eq hlive again⟩

theorem applied_once_after_swap :
    let operations : List Operation :=
      [.write Config.decorationGroup "library" fallbackBackend]
    let workspace : Workspace :=
      { windows := [{ id := 7, width := 800, height := 600 },
          { id := 3, width := 640, height := 480 }] }
    let reached := after .standard {} (operations ++ [.start {}])
    ∃ next later,
      reached.1.liveName? = some defaultBackend ∧
      reached.1.reconfigure reached.2 workspace = (.ok (), next, later) ∧
      reached.1.Applied reached.2 workspace next later ∧
      next.liveName? = some fallbackBackend ∧
      later.redecorate = [7, 3] ∧
      next.reconfigure later workspace = (.ok (), next, later) := by
  intro operations workspace reached
  have honce : ∀ operation ∈ operations, ∀ session,
      operation ≠ .start session := by
    intro operation hmem session hstart
    rw [hstart] at hmem
    simp [operations] at hmem
  obtain ⟨next, later, hresult, hlive, hlibrary, hasked⟩ : ∃ next later,
      reached.1.reconfigure reached.2 workspace = (.ok (), next, later) ∧
      next.liveName? = some fallbackBackend ∧
      later.store.library defaultBackend = fallbackBackend ∧
      later.redecorate = [7, 3] :=
    ⟨_, _, rfl, by rfl, by rfl, by rfl⟩
  obtain ⟨happlied, hagain⟩ :=
    applied_once honce .standard {} {} workspace next later hresult
  have hconfigured :
      next.liveName? = some (later.store.library defaultBackend) := by
    rw [hlive, hlibrary]
  exact ⟨next, later, by rfl, hresult, happlied, hlive, hasked,
    hagain (.inl hconfigured) workspace⟩

end Host
end WindowChrome
