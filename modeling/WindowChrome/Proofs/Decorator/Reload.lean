import WindowChrome.Proofs.Decorator.Passing
import WindowChrome.Proofs.Host.Quarantine
import WindowChrome.Proofs.Host.Supply

/-!
# Reading the configuration again is like starting again

The live backend is the configured one whichever way that came about, and
preferences are computed from configuration, backend, workspace and screen,
which do not remember.
-/

namespace WindowChrome

open Config (Store)

namespace Preferences

/-- The same preferences but for what the session pushes, the font and the
theme. -/
def AlikeButPushed (preferences other : Preferences) : Prop :=
  ∃ font themeId pushedFont palette,
    other = { preferences with font, themeId, pushedFont, palette }

theorem computed_of_alikeIn {before after : Store}
    (halike : before.AlikeIn Config.decorationGroup after)
    (preferences : Preferences) (recommended : Option String)
    (workspace : Workspace) (session : Session) :
    preferences.computed after recommended workspace session =
      preferences.computed before recommended workspace session := by
  have hleft : after.leftLayout? = before.leftLayout? := halike _
  have hright : after.rightLayout? = before.rightLayout? := halike _
  have hauto : after.borderSizeAuto = before.borderSizeAuto :=
    halike.entry_eq "BorderSizeAuto" true
  have htext : after.borderSizeText? = before.borderSizeText? := halike _
  have hclose : after.closeOnDoubleClick = before.closeOnDoubleClick :=
    halike.entry_eq "CloseOnDoubleClickOnMenu" false
  unfold computed borderSizeFrom
  rw [hleft, hright, hauto, htext, hclose]

theorem computed_alikeButPushed (preferences other : Preferences)
    (store : Store) (recommended : Option String) (workspace : Workspace)
    {session otherSession : Session}
    (hheight : session.screenHeight = otherSession.screenHeight) :
    (preferences.computed store recommended workspace session).AlikeButPushed
      (other.computed store recommended workspace otherSession) := by
  have hscale : scaleFor otherSession = scaleFor session := by
    unfold scaleFor
    rw [hheight]
  refine ⟨(other.computed store recommended workspace otherSession).font,
    other.themeId, other.pushedFont, other.palette, ?_⟩
  unfold computed
  rw [hscale]

theorem alikeIn_writes {group : String}
    {entries : List (String × String × Color)}
    (hgroups : ∀ entry ∈ entries, entry.1 ≠ group) (store : Store) :
    store.AlikeIn group (entries.foldl (fun store (group, key, color) =>
      store.write group key color.text) store) := by
  induction entries generalizing store with
  | nil => exact .refl store group
  | cons entry rest ih =>
      have hrest := ih (fun other hmem =>
        hgroups other (List.mem_cons_of_mem _ hmem))
        (store.write entry.1 entry.2.1 entry.2.2.text)
      refine .trans (fun key => ?_) hrest
      rw [Store.read_write, if_neg]
      intro hsame
      exact hgroups entry List.mem_cons_self (congrArg Prod.fst hsame)

theorem group_of_colorEntries {palette : Palette}
    {entry : String × String × Color} (hmem : entry ∈ colorEntries palette) :
    entry.1 = Config.viewColorsGroup ∨ entry.1 = Config.windowColorsGroup := by
  simp only [colorEntries, List.mem_cons, List.not_mem_nil, or_false] at hmem
  rcases hmem with hentry | hentry | hentry | hentry | hentry <;> simp [hentry]

theorem alikeIn_exportColors (palette : Palette) (store : Store) :
    store.AlikeIn Config.decorationGroup (exportColors palette store) := by
  have hgroups : ∀ entry ∈ colorEntries palette,
      entry.1 ≠ Config.decorationGroup := by
    intro entry hmem
    rcases group_of_colorEntries hmem with hgroup | hgroup
    · rw [hgroup]
      decide
    · rw [hgroup]
      decide
  exact alikeIn_writes hgroups store

end Preferences

namespace Decorator

variable {catalog registry : Catalog} {store : Store} {session : Session}
  {decorator later : Decorator}

def configured (decorator : Decorator) (store : Store) : Decorator :=
  { decorator with hub := { decorator.hub with store } }

theorem start_eq {workspace : Workspace}
    (hstart : decorator.start session workspace = .ok later) :
    later.host = (decorator.prepared session workspace).host ∧
      later.preferences = (decorator.prepared session workspace).preferences ∧
      later.session = session := by
  rcases start_cases hstart with ⟨done, hdecorate, hlater⟩
  rcases decorateAll_eq hdecorate with ⟨hub, commons, decorations, hdone⟩
  rw [hlater, hdone]
  exact ⟨rfl, rfl, rfl⟩

theorem reconfigured_eq {workspace : Workspace}
    (hhandle : decorator.handle workspace .reconfigured = .ok later) :
    later.host = (decorator.reread workspace).2.host ∧
      later.preferences = (decorator.reread workspace).2.preferences ∧
      later.session = decorator.session := by
  rcases handle_cases hhandle with ⟨done, hrespond, hlater⟩
  rw [hlater]
  rcases reconfigure_cases hrespond with ⟨_, hdecorate⟩ | ⟨_, happly⟩
  · rcases decorateAll_eq hdecorate with ⟨hub, commons, decorations, hdone⟩
    rw [hdone]
    exact ⟨rfl, rfl, rfl⟩
  · rcases applyPreferences_eq happly with ⟨hub, commons, decorations, hdone⟩
    rw [hdone]
    exact ⟨rfl, rfl, rfl⟩

/-- A decorator was led to another by an operation that comes down to at most
one of its host, and its screen is as high as before. -/
structure HostStep (decorator later : Decorator) : Prop where
  host : later.host = decorator.host ∨ ∃ operation : Host.Operation,
    (∀ session, operation ≠ .start session) ∧
    later.host = (decorator.host.perform decorator.hub operation).1
  screenHeight_eq :
    later.session.screenHeight = decorator.session.screenHeight

theorem Ready.hostStep {ready : Decorator} {operation : Operation}
    (hready : decorator.Ready operation ready)
    (hlater : ∀ session workspace, operation ≠ .start session workspace) :
    decorator.HostStep ready := by
  cases hready with
  | start session workspace => exact absurd rfl (hlater session workspace)
  | window workspace id event => exact ⟨.inl rfl, rfl⟩
  | theme workspace id => exact ⟨.inr ⟨.changeTheme id, by simp, rfl⟩, rfl⟩
  | @font workspace family size preferences signals hpush =>
      exact ⟨.inr ⟨.changeFont preferences.font, by simp, rfl⟩, rfl⟩
  | dpi workspace dpi => exact ⟨.inr ⟨.changeDpi dpi, by simp, rfl⟩, rfl⟩
  | declared workspace => exact ⟨.inl rfl, rfl⟩
  | reread workspace hstate =>
      exact ⟨.inr ⟨.reconfigure workspace, by simp, rfl⟩, rfl⟩
  | cleared workspace hstate =>
      exact ⟨.inr ⟨.reconfigure workspace, by simp, rfl⟩, rfl⟩

theorem hostStep_of_perform {operation : Operation}
    (hlater : ∀ session workspace, operation ≠ .start session workspace)
    (hperform : decorator.perform operation = .ok later) :
    decorator.HostStep later := by
  cases performed_of_perform hperform with
  | turned hready houtcome =>
      rcases houtcome.eq with ⟨commons, decorations, hdone⟩
      rw [hdone]
      have hstep := hready.hostStep hlater
      exact ⟨hstep.host, hstep.screenHeight_eq⟩
  | decorated window hremade =>
      rcases hremade.eq with ⟨commons, decorations, hdone⟩
      rw [hdone]
      exact ⟨.inl rfl, rfl⟩
  | undecorated id => exact ⟨.inl rfl, rfl⟩
  | written group key value => exact ⟨.inl rfl, rfl⟩
  | spared properties => exact ⟨.inl rfl, rfl⟩

/-- The decorators that come of one start, of whatever is asked of them
afterwards, and of changes to the configuration from outside. -/
inductive StartedOnce (catalog : Catalog) (session : Session) :
    Decorator → Prop
  | start {store : Store} {properties : PropertyTable} {workspace : Workspace}
      {decorator : Decorator}
      (hstart : (Decorator.new catalog store properties).start session
        workspace = .ok decorator) :
      StartedOnce catalog session decorator
  | perform {decorator later : Decorator} {operation : Operation}
      (hstarted : StartedOnce catalog session decorator)
      (hlater : ∀ session workspace, operation ≠ .start session workspace)
      (hperform : decorator.perform operation = .ok later) :
      StartedOnce catalog session later
  | configured {decorator : Decorator}
      (hstarted : StartedOnce catalog session decorator) (store : Store) :
      StartedOnce catalog session (decorator.configured store)

theorem StartedOnce.inOrder
    (hstarted : StartedOnce catalog session decorator) :
    decorator.host.InOrder catalog ∧
      decorator.session.screenHeight = session.screenHeight := by
  induction hstarted with
  | @start store properties workspace decorator hstart =>
      obtain ⟨hhost, _, hsession⟩ := start_eq hstart
      have hinOrder := Host.inOrder_start catalog { store } session
      have hfonted := @Host.InOrder.perform catalog _ hinOrder { store }
        (.changeFont ((Decorator.new catalog store properties).prepared
          session workspace).preferences.font) (by simp)
      rw [hhost, hsession]
      exact ⟨hfonted, rfl⟩
  | perform hstarted hlater hperform ih =>
      obtain ⟨hhost, hheight⟩ := hostStep_of_perform hlater hperform
      refine ⟨?_, hheight.trans ih.2⟩
      rcases hhost with hsame | ⟨asked, hasked, hhost⟩
      · rw [hsame]
        exact ih.1
      · rw [hhost]
        exact ih.1.perform _ hasked
  | configured hstarted store ih => exact ih

/-- Decorators that do not differ in what the configuration decides. -/
structure ConfiguredAlike (decorator other : Decorator) : Prop where
  profile_eq : decorator.host.liveProfile? = other.host.liveProfile?
  theme_eq : decorator.host.theme = other.host.theme
  mode_eq : decorator.host.mode = other.host.mode
  off_eq : decorator.host.off = other.host.off
  tooltips_eq : decorator.host.tooltips = other.host.tooltips
  preferences : decorator.preferences.AlikeButPushed other.preferences

/-- What a decorator is like after a start or after it read the configuration
again: the host heeds the configuration, and the preferences are computed from
it and from what the host says. -/
structure Settled (decorator : Decorator) (store : Store)
    (profile? : Option Backend.Profile) (workspace : Workspace)
    (height : Int) : Prop where
  heeds : decorator.host.Heeds store profile?
  computed : ∃ (preferences : Preferences) (session : Session),
    session.screenHeight = height ∧
    decorator.preferences = preferences.computed store
      (profile?.bind (·.borderSize)) workspace session

theorem Settled.alike {other : Decorator} {left : Store}
    {profile? : Option Backend.Profile} {workspace : Workspace} {height : Int}
    (hsettled : decorator.Settled store profile? workspace height)
    (hother : other.Settled left profile? workspace height)
    (halike : store.AlikeIn Config.decorationGroup left) :
    decorator.ConfiguredAlike other := by
  obtain ⟨preferences, facts, hheight, hcomputed⟩ := hsettled.computed
  obtain ⟨others, otherFacts, hotherHeight, hotherComputed⟩ := hother.computed
  have hheeds := hsettled.heeds
  have hotherHeeds := hother.heeds
  refine ⟨?_, ?_, ?_, ?_, ?_, ?_⟩
  · rw [hheeds.profile_eq, hotherHeeds.profile_eq]
  · have htheme : ∀ profile, Host.themeFor left profile =
        Host.themeFor store profile := by
      intro profile
      unfold Host.themeFor
      rw [halike.theme_eq]
    rw [hheeds.theme_eq, hotherHeeds.theme_eq, funext htheme]
  · rw [hheeds.mode_eq, hotherHeeds.mode_eq]
  · rw [hheeds.off_eq, hotherHeeds.off_eq]
    exact (halike.entry_eq "NoPlugin" false).symm
  · rw [hheeds.tooltips_eq, hotherHeeds.tooltips_eq]
    exact (halike.entry_eq "ShowToolTips" true).symm
  · rw [hcomputed, hotherComputed, Preferences.computed_of_alikeIn halike]
    exact Preferences.computed_alikeButPushed _ _ _ _ _
      (hheight.trans hotherHeight.symm)

theorem settled_of_start {properties : PropertyTable}
    {profile? : Option Backend.Profile} {workspace : Workspace}
    (hasks : Host.Asks catalog store profile?)
    (hstart : (Decorator.new catalog store properties).start session
      workspace = .ok later) :
    later.Settled store profile? workspace session.screenHeight := by
  obtain ⟨hhost, hpreferences, hsession⟩ := start_eq hstart
  have hheeds : (Host.start { catalog } { store } session).1.Heeds store
      profile? :=
    Host.start_heeds hasks rfl rfl session
  have honly : Hub.LoadsOnly { store }
      (Host.start { catalog } { store } session).2 :=
    (Host.lasting_loadsOnly { store }).start (.of_eq rfl rfl) session
  have halike := (honly.alikeIn Config.decorationGroup_ne).trans
    (Preferences.alikeIn_exportColors (.ofTheme session.themeId) _)
  constructor
  · rw [hhost]
    exact ⟨hheeds.profile_eq, hheeds.theme_eq, hheeds.mode_eq, hheeds.off_eq,
      hheeds.tooltips_eq⟩
  · rw [hpreferences, ← hheeds.recommended_eq]
    exact ⟨_, session, rfl,
      Preferences.computed_of_alikeIn halike _ _ _ session⟩

theorem settled_of_reconfigured {profile? : Option Backend.Profile}
    {workspace : Workspace} (hinOrder : decorator.host.InOrder catalog)
    (hasks : Host.Asks catalog decorator.hub.store profile?)
    (hhandle : decorator.handle workspace .reconfigured = .ok later) :
    later.Settled decorator.hub.store profile? workspace
      decorator.session.screenHeight := by
  obtain ⟨hhost, hpreferences, hsession⟩ := reconfigured_eq hhandle
  have hheeds := Host.reconfigure_heeds hasks hinOrder.supplied
    hinOrder.agrees workspace
  have honly : decorator.hub.LoadsOnly
      (decorator.host.reconfigure decorator.hub workspace).2.2 :=
    (Host.lasting_loadsOnly decorator.hub).reconfigure (.of_eq rfl rfl)
      workspace
  constructor
  · rw [hhost]
    exact hheeds
  · rw [hpreferences, ← hheeds.recommended_eq]
    exact ⟨_, decorator.session, rfl, Preferences.computed_of_alikeIn
      (honly.alikeIn Config.decorationGroup_ne) _ _ _ decorator.session⟩

/-- A decorator that was started once and reads the configuration again does
not differ, in what the configuration decides, from one that is started on it,
if decorations are off or the configured backend is not flagged and always
delivers with the same declaration. -/
theorem reload_alike_restart {left : Store} {properties : PropertyTable}
    {workspace : Workspace} {fresh : Decorator}
    (hstarted : StartedOnce catalog session decorator)
    (hready : decorator.hub.store.switchedOff = true ∨
      decorator.hub.store.isFlagged
        (decorator.hub.store.library Host.defaultBackend) = false ∧
      ∃ declaration, catalog.Provides
        (decorator.hub.store.library Host.defaultBackend) declaration)
    (hsuppliers : ∀ name, registry.supplier? name = catalog.supplier? name)
    (hleft : ∀ group, decorator.hub.store.AlikeIn group left)
    (hreload : decorator.handle workspace .reconfigured = .ok later)
    (hfresh : (Decorator.new registry left properties).start session
      workspace = .ok fresh) :
    later.ConfiguredAlike fresh := by
  obtain ⟨hinOrder, hheight⟩ := hstarted.inOrder
  obtain ⟨profile?, hasks⟩ :
      ∃ profile?, Host.Asks catalog decorator.hub.store profile? := by
    cases hoff : decorator.hub.store.switchedOff with
    | true => exact ⟨_, .nothing hoff⟩
    | false =>
        rw [hoff] at hready
        rcases hready with habsurd | ⟨hunflagged, declaration, hprovides⟩
        · cases habsurd
        · exact ⟨_, .backend declaration hoff hunflagged hprovides⟩
  have hleftAsks : Host.Asks registry left profile? :=
    (hasks.of_alikeIn hleft).of_eq hsuppliers
  have hsettled := settled_of_reconfigured hinOrder hasks hreload
  rw [hheight] at hsettled
  exact hsettled.alike (settled_of_start hleftAsks hfresh) (hleft _)

theorem reload_alike_restart_after_theme :
    ∃ decorator later fresh,
      StartedOnce .standard {} decorator ∧
      decorator.host.liveName? = some Host.defaultBackend ∧
      decorator.preferences.themeId = 1 ∧
      decorator.handle { windows := [] } .reconfigured = .ok later ∧
      (Decorator.new .standard { entries := decorator.hub.store.entries }
        .empty).start {} { windows := [] } = .ok fresh ∧
      later.host.liveName? = some Host.fallbackBackend ∧
      later.ConfiguredAlike fresh := by
  obtain ⟨started, themed, decorator, later, fresh, hstart, htheme, hwrite,
      hlive, hthemeId, hlibrary, hunflagged, hreload, hfresh, hlaterLive⟩ :
      ∃ started themed decorator later fresh,
        (Decorator.new .standard {} .empty).start {} { windows := [] } =
          .ok started ∧
        started.perform (.handle { windows := [] } (.theme 1)) = .ok themed ∧
        themed.perform (.write Config.decorationGroup "library"
          Host.fallbackBackend) = .ok decorator ∧
        decorator.host.liveName? = some Host.defaultBackend ∧
        decorator.preferences.themeId = 1 ∧
        decorator.hub.store.library Host.defaultBackend =
          Host.fallbackBackend ∧
        decorator.hub.store.isFlagged Host.fallbackBackend = false ∧
        decorator.handle { windows := [] } .reconfigured = .ok later ∧
        (Decorator.new .standard { entries := decorator.hub.store.entries }
          .empty).start {} { windows := [] } = .ok fresh ∧
        later.host.liveName? = some Host.fallbackBackend :=
    ⟨_, _, _, _, _, rfl, rfl, rfl, rfl, rfl, by decide, by decide, rfl, rfl,
      rfl⟩
  have hstarted : StartedOnce .standard {} decorator :=
    .perform (.perform (.start hstart) (by simp) htheme) (by simp) hwrite
  have hprovides : Catalog.Provides .standard
      (decorator.hub.store.library Host.defaultBackend)
      Backend.themed.declaration := by
    rw [hlibrary]
    exact ⟨Catalog.builtIn .themed, rfl, fun _ => ⟨.themed, rfl, rfl⟩⟩
  have hleft : ∀ group, decorator.hub.store.AlikeIn group
      { entries := decorator.hub.store.entries } := fun _ _ => rfl
  rw [← hlibrary] at hunflagged
  exact ⟨decorator, later, fresh, hstarted, hlive, hthemeId, hreload, hfresh,
    hlaterLive, reload_alike_restart hstarted (.inr ⟨hunflagged, _, hprovides⟩)
      (fun _ => rfl) hleft hreload hfresh⟩

end Decorator
end WindowChrome
