import WindowChrome.Proofs.Host.Lasting

/-!
# What the configuration asks for

A catalog keeps its suppliers whatever is loaded, so if a supplier always
delivers the same it makes no difference when the live backend was loaded.
-/

namespace WindowChrome

open Config (Store)

namespace Catalog

def supplier? (catalog : Catalog) (name : String) : Option Supplier :=
  (catalog.find? name).map (·.supplier)

/-- Every load of the name delivers a backend, and always with the same
declaration. -/
def Provides (catalog : Catalog) (name : String)
    (declaration : Backend.Declaration) : Prop :=
  ∃ supplier, catalog.supplier? name = some supplier ∧
    ∀ count, ∃ backend, supplier.deliver count = .ok backend ∧
      backend.declaration = declaration

variable {catalog other : Catalog} {name : String}

theorem supplier?_of_find? {item : Item}
    (hfind : catalog.find? name = some item) :
    catalog.supplier? name = some item.supplier := by
  unfold supplier?
  rw [hfind]
  rfl

theorem supplier?_load (catalog : Catalog) (loaded name : String) :
    (catalog.load loaded).2.supplier? name = catalog.supplier? name := by
  by_cases hname : name = loaded
  · subst hname
    cases hfind : catalog.find? name with
    | none =>
        unfold load
        rw [hfind]
    | some item =>
        rw [load_of_find? hfind, supplier?_of_find? hfind]
        unfold supplier? loadItem
        simp only
        rw [Keyed.find?_insert, if_pos rfl]
        rfl
  · unfold supplier?
    rw [find?_load_of_ne hname]

theorem Provides.of_eq {declaration : Backend.Declaration}
    (hprovides : catalog.Provides name declaration)
    (hsupplier : other.supplier? name = catalog.supplier? name) :
    other.Provides name declaration := by
  obtain ⟨supplier, hfound, hdelivers⟩ := hprovides
  exact ⟨supplier, hsupplier.trans hfound, hdelivers⟩

theorem Provides.exists_offers {declaration : Backend.Declaration}
    {store : Store} (hprovides : catalog.Provides name declaration)
    (hunflagged : store.isFlagged name = false) :
    ∃ item backend, catalog.find? name = some item ∧
      catalog.Offers store name backend ∧
      backend.declaration = declaration := by
  obtain ⟨supplier, hsupplier, hdelivers⟩ := hprovides
  obtain ⟨item, hfind, hitem⟩ := Option.map_eq_some_iff.mp hsupplier
  obtain ⟨backend, hdelivered, hdeclaration⟩ := hdelivers item.loads
  refine ⟨item, backend, hfind, ⟨hunflagged, ?_⟩, hdeclaration⟩
  rw [load_of_find? hfind]
  unfold loadItem
  rw [hitem]
  exact hdelivered

theorem Provides.declaration_eq {declaration : Backend.Declaration}
    (hprovides : catalog.Provides name declaration) {supplier : Supplier}
    {count : Nat} {backend : Backend}
    (hsupplier : catalog.supplier? name = some supplier)
    (hdelivered : supplier.deliver count = .ok backend) :
    backend.declaration = declaration := by
  obtain ⟨known, hknown, hdelivers⟩ := hprovides
  rw [hsupplier] at hknown
  cases hknown
  obtain ⟨other, hother, hdeclaration⟩ := hdelivers count
  rw [hdelivered] at hother
  cases hother
  exact hdeclaration

end Catalog

namespace Host

/-! ## Where the live backend comes from -/

structure Supplied (catalog : Catalog) (host : Host) : Prop where
  supplier_eq : ∀ name,
    host.catalog.supplier? name = catalog.supplier? name
  live_from : ∀ live, host.live = some live → ∃ supplier count,
    catalog.supplier? live.profile.name = some supplier ∧
    supplier.deliver count = .ok live.backend ∧
    live.profile =
      .ofDeclaration live.profile.name live.backend.declaration

variable {catalog : Catalog} {host next : Host} {hub later : Hub}
  {name : String}

theorem Supplied.switched {result : Except LoadError Unit}
    (hsupplied : host.Supplied catalog)
    (hswitched : host.Switched hub name result next later) :
    next.Supplied catalog := by
  have hcounted : ∀ other, (host.catalog.load name).2.supplier? other =
      catalog.supplier? other := by
    intro other
    rw [Catalog.supplier?_load]
    exact hsupplied.supplier_eq other
  cases hswitched with
  | off hoff => exact hsupplied
  | same live hon hlive hname =>
      exact ⟨hsupplied.supplier_eq, hsupplied.live_from⟩
  | unknown hon hother hfind => exact hsupplied
  | flagged item hon hother hfind hflagged => exact hsupplied
  | failed item run store frozen error hon hother hfind hname hguarded hload =>
      exact ⟨hcounted, hsupplied.live_from⟩
  | loaded item run store frozen backend hon hother hfind hname hguarded
      hload =>
      refine ⟨hcounted, fun live hlive => ?_⟩
      cases hlive
      obtain ⟨found, hfound, hdelivered⟩ := Catalog.exists_find?_of_load hload
      have hsupplier := Catalog.supplier?_of_find? hfound
      rw [hsupplied.supplier_eq] at hsupplier
      exact ⟨found.supplier, found.loads, hsupplier, hdelivered, rfl⟩

theorem lasting_supplied (catalog : Catalog) :
    Lasting fun host _ => host.Supplied catalog where
  switched hsupplied hswitched := hsupplied.switched hswitched
  adjusted hsupplied hadjusted := by
    constructor
    · rw [hadjusted.catalog_eq]
      exact hsupplied.supplier_eq
    · intro live hlive
      rcases hadjusted.live_eq with hsame | hnone
      · exact hsupplied.live_from live (hsame.symm.trans hlive)
      · rw [hnone] at hlive
        cases hlive

/-! ## Heeding the configuration -/

/-- What a configuration asks for: that decorations are off, or a profile that
the configured backend is sure to have. -/
inductive Asks (catalog : Catalog) (store : Store) :
    Option Backend.Profile → Prop
  | nothing (hoff : store.switchedOff = true) : Asks catalog store none
  | backend (declaration : Backend.Declaration)
      (hon : store.switchedOff = false)
      (hunflagged :
        store.isFlagged (store.library defaultBackend) = false)
      (hprovides :
        catalog.Provides (store.library defaultBackend) declaration) :
      Asks catalog store
        (some (.ofDeclaration (store.library defaultBackend) declaration))

/-- A host with a given profile or without one, and with all the rest as a
configuration says. -/
structure Heeds (host : Host) (store : Store)
    (profile? : Option Backend.Profile) : Prop where
  profile_eq : host.liveProfile? = profile?
  theme_eq : host.theme = profile?.bind (themeFor store)
  mode_eq : host.mode = if profile?.isSome then .server else .none
  off_eq : host.off = store.switchedOff
  tooltips_eq : host.tooltips = store.tooltips

theorem Heeds.recommended_eq {store : Store}
    {profile? : Option Backend.Profile} (hheeds : host.Heeds store profile?) :
    host.recommended? = profile?.bind (·.borderSize) := by
  unfold recommended?
  rw [hheeds.profile_eq]

theorem Asks.of_eq {other : Catalog} {store : Store}
    {profile? : Option Backend.Profile} (hasks : Asks catalog store profile?)
    (hsupplier : ∀ name, other.supplier? name = catalog.supplier? name) :
    Asks other store profile? := by
  cases hasks with
  | nothing hoff => exact .nothing hoff
  | backend declaration hon hunflagged hprovides =>
      exact .backend declaration hon hunflagged (hprovides.of_eq (hsupplier _))

theorem Asks.of_alikeIn {store left : Store}
    {profile? : Option Backend.Profile} (hasks : Asks catalog store profile?)
    (hleft : ∀ group, store.AlikeIn group left) :
    Asks catalog left profile? := by
  have hoffEq : left.switchedOff = store.switchedOff :=
    (hleft _).entry_eq "NoPlugin" false
  have hlibrary : left.library defaultBackend =
      store.library defaultBackend :=
    (hleft _).entry_eq "library" defaultBackend
  cases hasks with
  | nothing hoff => exact .nothing (hoffEq.trans hoff)
  | backend declaration hon hunflagged hprovides =>
      rw [← hlibrary] at hunflagged hprovides ⊢
      have hflagEq : left.isFlagged (left.library defaultBackend) =
          store.isFlagged (left.library defaultBackend) :=
        (hleft _).entry_eq (Config.flagKey _) false
      exact .backend declaration (hoffEq.trans hon)
        (hflagEq.trans hunflagged) hprovides

theorem Asks.eq_none {store : Store} {profile? : Option Backend.Profile}
    (hasks : Asks catalog store profile?) (hoff : store.switchedOff = true) :
    profile? = none := by
  cases hasks with
  | nothing _ => rfl
  | backend declaration hon _ _ =>
      rw [hoff] at hon
      cases hon

theorem Asks.exists_declaration {store : Store}
    {profile? : Option Backend.Profile} (hasks : Asks catalog store profile?)
    (hon : store.switchedOff = false) :
    ∃ declaration,
      store.isFlagged (store.library defaultBackend) = false ∧
      catalog.Provides (store.library defaultBackend) declaration ∧
      profile? =
        some (.ofDeclaration (store.library defaultBackend) declaration) := by
  cases hasks with
  | nothing hoff =>
      rw [hon] at hoff
      cases hoff
  | backend declaration _ hunflagged hprovides =>
      exact ⟨declaration, hunflagged, hprovides, rfl⟩

theorem Change.tooltips_eq (hchange : host.Change next) :
    next.tooltips = host.tooltips := by
  cases hchange with
  | keep catalog theme htheme => rfl
  | install catalog theme live hoff hother => rfl

theorem choose_off (host : Host) (hub : Hub) :
    (host.choose hub).1.off = hub.store.switchedOff ∧
      (host.choose hub).1.tooltips = host.tooltips := by
  rcases host.choose_fst hub with ⟨hoff, hnext⟩ | ⟨hon, next, hchange, hnext⟩
  · rw [hnext, hoff]
    exact ⟨rfl, rfl⟩
  · rw [hnext, hon]
    split
    · exact ⟨hchange.off_eq, hchange.tooltips_eq⟩
    · exact ⟨hchange.off_eq, hchange.tooltips_eq⟩

theorem heeds_of_nothing {store : Store} (hlive : host.live = none)
    (htheme : host.theme = none) (hmode : host.mode = .none)
    (hoff : host.off = store.switchedOff)
    (htooltips : host.tooltips = store.tooltips) : host.Heeds store none := by
  exact ⟨liveProfile?_of_unloaded hlive, htheme, hmode, hoff, htooltips⟩

theorem Installed.heeds {backend : Backend}
    (hinstalled : host.Installed hub name backend next later)
    (hoff : next.off = hub.store.switchedOff)
    (htooltips : next.tooltips = hub.store.tooltips) :
    next.Heeds hub.store (some (.ofDeclaration name backend.declaration)) := by
  exact ⟨liveProfile?_of_live hinstalled.live_eq, hinstalled.theme_eq,
    hinstalled.mode_eq, hoff, htooltips⟩

theorem Descent.installed_head {names : List String} {backend : Backend}
    (hdescent : host.Descent hub (name :: names) next later)
    (hoffers : host.catalog.Offers hub.store name backend) :
    host.Installed hub name backend next later := by
  cases hdescent with
  | exhausted runs hnone hloads hruns hlive htheme hmode hpending =>
      exact absurd hoffers (hnone name List.mem_cons_self backend)
  | found skipped rest found other runs hnames hskipped hfound hloads hruns
      hinstalled =>
      cases skipped with
      | nil =>
          cases hnames
          have hsame := hoffers.2.symm.trans hfound.2
          cases hsame
          exact hinstalled
      | cons first skipped =>
          cases hnames
          exact absurd hoffers (hskipped name List.mem_cons_self backend)

theorem choose_heeds {profile? : Option Backend.Profile}
    (hasks : Asks host.catalog hub.store profile?) (hlive : host.live = none)
    (htheme : host.theme = none) (htooltips : host.tooltips = hub.store.tooltips) :
    (host.choose hub).1.Heeds hub.store profile? := by
  obtain ⟨hoffEq, htooltipsEq⟩ := host.choose_off hub
  have htooltipsEq := htooltipsEq.trans htooltips
  cases hasks with
  | nothing hoff =>
      rcases host.choose_fst hub with ⟨_, hnext⟩ | ⟨hon, _⟩
      · rw [hnext] at hoffEq htooltipsEq ⊢
        exact heeds_of_nothing hlive htheme rfl hoffEq htooltipsEq
      · rw [hoff] at hon
        cases hon
  | backend declaration hon hunflagged hprovides =>
      obtain ⟨item, backend, _, hoffers, hdeclaration⟩ :=
        hprovides.exists_offers hunflagged
      have hinstalled := (choose_descent host hub hlive hon).installed_head
        hoffers
      subst hdeclaration
      exact hinstalled.heeds hoffEq htooltipsEq

theorem start_heeds {profile? : Option Backend.Profile}
    (hasks : Asks host.catalog hub.store profile?) (hlive : host.live = none)
    (htheme : host.theme = none) (session : Session) :
    (host.start hub session).1.Heeds hub.store profile? := by
  have hheeds : (choose { host with
      dpi := session.dpi
      themeId := session.themeId
      font := session.titleFont
      tooltips := hub.store.tooltips } hub).1.Heeds hub.store profile? :=
    choose_heeds hasks hlive htheme rfl
  exact hheeds

theorem live_of_liveName? (hname : host.liveName? = none) :
    host.live = none := by
  have hsome := host.isSome_liveName?
  rw [hname] at hsome
  exact Option.isNone_iff_eq_none.mp (by simpa using hsome.symm)

theorem Agrees.mode_of_unloaded (hagrees : host.Agrees)
    (hname : host.liveName? = none) : host.mode = .none := by
  cases hmode : host.mode with
  | none => rfl
  | server =>
      have hlive := hagrees.mode_iff.mp hmode
      rw [hname] at hlive
      cases hlive

theorem refreshTheme_heeds {declaration : Backend.Declaration}
    (hsupplied : host.Supplied catalog) (hagrees : host.Agrees)
    (hprovides :
      catalog.Provides (hub.store.library defaultBackend) declaration)
    (hsame : host.liveName? = some (hub.store.library defaultBackend))
    (hoff : host.off = hub.store.switchedOff)
    (htooltips : host.tooltips = hub.store.tooltips) :
    (host.refreshTheme hub).2.1.Heeds hub.store
      (some (.ofDeclaration (hub.store.library defaultBackend) declaration)) := by
  obtain ⟨live, hlive, hname⟩ := exists_live_of_liveName? hsame
  obtain ⟨supplier, count, hsupplier, hdelivered, hprofile⟩ :=
    hsupplied.live_from live hlive
  have hmode : host.mode = .server := by
    apply hagrees.mode_iff.mpr
    rw [hsame]
    rfl
  rw [hname] at hsupplier hprofile
  rw [hprovides.declaration_eq hsupplier hdelivered] at hprofile
  rw [refreshTheme_of_live hlive, hprofile]
  refine ⟨?_, rfl, hmode, hoff, htooltips⟩
  unfold liveProfile?
  simp [hlive, hprofile]

theorem switchTo_heeds {declaration : Backend.Declaration}
    (hon : host.off = false) (hother : host.liveName? ≠ some name)
    (hunflagged : hub.store.isFlagged name = false)
    (hprovides : host.catalog.Provides name declaration)
    (hoff : host.off = hub.store.switchedOff)
    (htooltips : host.tooltips = hub.store.tooltips) :
    (∀ error, (host.switchTo hub name).1 ≠ .error error) ∧
      (host.switchTo hub name).2.1.Heeds hub.store
        (some (.ofDeclaration name declaration)) := by
  obtain ⟨item, backend, hfind, hoffers, hdeclaration⟩ :=
    hprovides.exists_offers hunflagged
  obtain ⟨_, hfails, hinstalls⟩ := switchTo_loads hon hother hfind hunflagged
  have hchange := host.switchTo_change hub name
  subst hdeclaration
  constructor
  · intro error hresult
    have hfailed := (hfails error).mp hresult
    rw [hoffers.2] at hfailed
    cases hfailed
  · exact (hinstalls backend hoffers.2).heeds (hchange.off_eq.trans hoff)
      (hchange.tooltips_eq.trans htooltips)

theorem reconfigure_heeds {profile? : Option Backend.Profile}
    (hasks : Asks catalog hub.store profile?)
    (hsupplied : host.Supplied catalog) (hagrees : host.Agrees)
    (workspace : Workspace) :
    (host.reconfigure hub workspace).2.1.Heeds hub.store profile? := by
  have hheld : Asks (host.shown hub.store).catalog hub.store profile? :=
    hasks.of_eq hsupplied.supplier_eq
  have hreconfigured := host.reconfigure_reconfigured hub workspace
  generalize host.reconfigure hub workspace = outcome at hreconfigured ⊢
  obtain ⟨result, next, later⟩ := outcome
  simp only at hreconfigured ⊢
  cases hreconfigured with
  | on hstore hoff =>
      exact choose_heeds hheld (live_of_liveName? (hagrees.live_of_off hoff))
        (hagrees.theme_of_off hoff) rfl
  | off hstore hon =>
      rw [hasks.eq_none hstore, switchOff_fst]
      exact heeds_of_nothing rfl rfl rfl hstore.symm rfl
  | stillOff hstore hoff =>
      have hname := hagrees.live_of_off hoff
      rw [hasks.eq_none hstore]
      exact heeds_of_nothing (live_of_liveName? hname)
        (hagrees.theme_of_off hoff) (hagrees.mode_of_unloaded hname)
        (hoff.trans hstore.symm) rfl
  | refreshed hstore hon hsame =>
      rcases hasks.exists_declaration hstore with
        ⟨declaration, _, hprovides, hprofile⟩
      have hshown : (host.shown hub.store).Supplied catalog :=
        ⟨hsupplied.supplier_eq, hsupplied.live_from⟩
      have hshownAgrees : (host.shown hub.store).Agrees :=
        ⟨hagrees.mode_iff, hagrees.live_of_off, hagrees.theme_of_off⟩
      rw [hprofile]
      exact refreshTheme_heeds hshown hshownAgrees hprovides hsame
        (hon.trans hstore.symm) rfl
  | refused error hstore hon hother hresult =>
      rcases hheld.exists_declaration hstore with
        ⟨declaration, hunflagged, hprovides, _⟩
      have hheeds := @switchTo_heeds (host.shown hub.store) hub _ _ hon
        hother hunflagged hprovides (hon.trans hstore.symm) rfl
      exact absurd hresult (hheeds.1 error)
  | switched hstore hon hother hresult =>
      rcases hheld.exists_declaration hstore with
        ⟨declaration, hunflagged, hprovides, hprofile⟩
      have hheeds := @switchTo_heeds (host.shown hub.store) hub _ _ hon
        hother hunflagged hprovides (hon.trans hstore.symm) rfl
      rw [hprofile]
      exact hheeds.2

/-! ## From the start on -/

/-- What holds of a host from its first start on, as long as there is no
other. -/
structure InOrder (catalog : Catalog) (host : Host) : Prop where
  sound : host.Sound
  not_adrift : ¬ host.Adrift
  supplied : host.Supplied catalog

theorem InOrder.agrees (hinOrder : host.InOrder catalog) : host.Agrees :=
  hinOrder.sound.agrees_iff.mpr hinOrder.not_adrift

theorem InOrder.perform (hinOrder : host.InOrder catalog) (hub : Hub)
    {operation : Operation}
    (hlater : ∀ session, operation ≠ .start session) :
    (host.perform hub operation).1.InOrder catalog := by
  refine ⟨hinOrder.sound.perform hub operation, ?_, ?_⟩
  · intro hadrift
    exact hinOrder.not_adrift ((perform_adrift_iff hlater host hub).mp hadrift).1
  · by_cases hwrite : ∃ group key value, operation = .write group key value
    · obtain ⟨group, key, value, hoperation⟩ := hwrite
      rw [hoperation]
      exact hinOrder.supplied
    · apply @Lasting.perform _ host hub (lasting_supplied catalog)
        hinOrder.supplied
      intro group key value hoperation
      exact hwrite ⟨group, key, value, hoperation⟩

theorem inOrder_start (catalog : Catalog) (hub : Hub) (session : Session) :
    (Host.start { catalog } hub session).1.InOrder catalog := by
  have hnew : ¬ ({ catalog } : Host).liveName?.isSome := Bool.false_ne_true
  have hsound : ({ catalog } : Host).Sound := by
    refine ⟨fun hmode => ?_, fun _ => rfl⟩
    cases hmode
  have hsupplied : ({ catalog } : Host).Supplied catalog := by
    refine ⟨fun _ => rfl, fun live hlive => ?_⟩
    cases hlive
  refine ⟨hsound.perform hub (.start session), ?_, ?_⟩
  · intro hadrift
    rcases (start_adrift_iff _ hub session).mp hadrift with
      ⟨_, hlive⟩ | ⟨⟨hlive, _⟩, _⟩
    · exact hnew hlive
    · exact hnew hlive
  · exact @Lasting.start _ _ hub (lasting_supplied catalog) hsupplied session

end Host
end WindowChrome
