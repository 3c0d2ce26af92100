import WindowChrome.Proofs.Backend.Made
import WindowChrome.Proofs.Decorator.Passing
import WindowChrome.Proofs.Host.Change

/-!
# Decorations that are never stale

Host, preferences and session agree on fonts and themes, and each decoration is
kept for the current look.  While an operation goes on it is kept for the look
before.
-/

namespace WindowChrome
namespace Decorator

/-- The decoration of a window is one that the live backend would make for a
look from what was last said of the window. -/
def KeptAt (decorator : Decorator) (look : Look) (ledger : Ledger)
    (id : WindowId) : Prop :=
  ∀ decoration, decorator.decorations.find? id = some decoration →
    decorator.host.off = false ∧ ∃ live window,
      decorator.host.live = some live ∧ ledger.find? id = some window ∧
      window.id = id ∧
      live.backend.Made look window (decorator.commons.properties.client id)
        decoration

structure InStep (decorator : Decorator) : Prop where
  font_eq : decorator.host.font = decorator.preferences.font
  themeId_eq : decorator.host.themeId = decorator.preferences.themeId
  font_from : decorator.preferences.font =
    Preferences.fontFrom decorator.preferences.pushedFont decorator.session

theorem InStep.of_eq {decorator other : Decorator}
    (hinStep : decorator.InStep) (hhost : other.host = decorator.host)
    (hpreferences : other.preferences = decorator.preferences)
    (hsession : other.session = decorator.session) : other.InStep := by
  constructor
  · rw [hhost, hpreferences]
    exact hinStep.font_eq
  · rw [hhost, hpreferences]
    exact hinStep.themeId_eq
  · rw [hpreferences, hsession]
    exact hinStep.font_from

structure Upkept (decorator : Decorator) (ledger : Ledger) : Prop
    extends decorator.InStep where
  kept : ∀ id, decorator.KeptAt decorator.look ledger id

variable {decorator later : Decorator} {ledger : Ledger} {look : Look}

theorem keptAt_of_not_mem {id : WindowId}
    (hid : id ∉ decorator.decorations.keys) :
    decorator.KeptAt look ledger id := by
  intro decoration hfind
  exact absurd (Keyed.mem_keys_of_find? hfind) hid

/-! ## Host, preferences and session -/

theorem pushed_of_pushFont {preferences after : Preferences}
    {family : String} {size : Int} {signals : List Signal}
    (hpush : preferences.pushFont family size = .ok (after, signals)) :
    ∃ font, after = { preferences with pushedFont := some font, font } := by
  simp only [Preferences.pushFont, bind_eq_ok_iff] at hpush
  rcases hpush with ⟨pixelSize, _, hresult⟩
  cases hresult
  exact ⟨_, rfl⟩

theorem facts_reread (decorator : Decorator) (workspace : Workspace) :
    (decorator.reread workspace).2.host.facts = decorator.host.facts :=
  decorator.host.reconfigure_facts decorator.hub workspace

theorem inStep_reread (hinStep : decorator.InStep) (workspace : Workspace) :
    (decorator.reread workspace).2.InStep := by
  have hfacts := decorator.facts_reread workspace
  have hfont : (decorator.reread workspace).2.host.font =
      decorator.host.font := congrArg (fun facts => facts.2.2) hfacts
  have hthemeId : (decorator.reread workspace).2.host.themeId =
      decorator.host.themeId := congrArg (fun facts => facts.2.1) hfacts
  refine ⟨?_, ?_, rfl⟩
  · exact hfont.trans (hinStep.font_eq.trans hinStep.font_from)
  · exact hthemeId.trans hinStep.themeId_eq

theorem Ready.inStep {operation : Operation} {ready : Decorator}
    (hready : decorator.Ready operation ready) (hinStep : decorator.InStep) :
    ready.InStep := by
  cases hready with
  | start session workspace =>
      have hfacts := decorator.host.start_facts decorator.hub session
      exact ⟨rfl, congrArg (fun facts => facts.2.1) hfacts, rfl⟩
  | window workspace id event => exact hinStep
  | theme workspace id => exact ⟨hinStep.font_eq, rfl, hinStep.font_from⟩
  | font workspace family size hpush =>
      rcases pushed_of_pushFont hpush with ⟨font, hpreferences⟩
      subst hpreferences
      exact ⟨rfl, hinStep.themeId_eq, rfl⟩
  | dpi workspace dpi =>
      exact ⟨hinStep.font_eq, hinStep.themeId_eq, hinStep.font_from⟩
  | declared workspace =>
      exact ⟨hinStep.font_eq.trans hinStep.font_from, hinStep.themeId_eq, rfl⟩
  | reread workspace hstate => exact inStep_reread hinStep workspace
  | cleared workspace hstate =>
      exact (inStep_reread hinStep workspace).of_eq rfl rfl rfl

theorem inStep_new (catalog : Catalog) (store : Config.Store)
    (properties : PropertyTable) :
    (Decorator.new catalog store properties).InStep := ⟨rfl, rfl, rfl⟩

theorem Run.inStep {allowed : Decorator → Operation → Prop}
    (hrun : Run allowed decorator ledger) : decorator.InStep := by
  induction hrun with
  | new catalog store properties => exact inStep_new catalog store properties
  | perform operation _ _ hperform ih =>
      cases performed_of_perform hperform with
      | turned hready houtcome =>
          rcases houtcome.eq with ⟨commons, decorations, hdone⟩
          rw [hdone]
          exact (hready.inStep ih).of_eq rfl rfl rfl
      | decorated window hremade =>
          rcases hremade.eq with ⟨commons, decorations, hlater⟩
          rw [hlater]
          exact ih.of_eq rfl rfl rfl
      | undecorated id => exact ih.of_eq rfl rfl rfl
      | written group key value => exact ih.of_eq rfl rfl rfl
      | spared properties => exact ih.of_eq rfl rfl rfl

/-! ## Decorating -/

theorem client_of_host_create {host : Host} {window : Window}
    {commons made : Commons} {decoration : Option Decoration}
    (hcreate : host.create look window commons = .ok (decoration, made))
    (id : WindowId) :
    made.properties.client id = commons.properties.client id := by
  rcases host_create_cases hcreate with
    ⟨_, hmade, _⟩ | ⟨live, _, _, hbackend⟩
  · rw [hmade]
  · exact Backend.client_of_create hbackend id

theorem keptAt_of_decorate {window : Window} {decorated : Bool}
    (hdecorate : decorator.decorate window = .ok (decorated, later))
    {id : WindowId}
    (hkept : id ≠ window.id → decorator.KeptAt decorator.look ledger id) :
    later.KeptAt decorator.look (ledger.insert window.id window) id := by
  rcases decorate_cases hdecorate with
      ⟨decoration, commons, decorations, hcreate, hlater, _, _, hfind⟩
  have hclient := client_of_host_create hcreate
  subst hlater
  intro found hfound
  have hcases := (hfind id).symm.trans hfound
  simp only [hclient, Keyed.find?_insert]
  by_cases hid : window.id = id
  · rw [if_pos hid] at hcases ⊢
    subst decoration
    rcases host_create_cases hcreate with
      ⟨habsurd, _⟩ | ⟨live, hoff, hlive, hbackend⟩
    · cases habsurd
    · have hmade := Backend.made_of_create hbackend
      rw [hid] at hmade
      exact ⟨hoff, live, window, hlive, rfl, hid, hmade⟩
  · rw [if_neg hid] at hcases ⊢
    exact hkept (Ne.symm hid) found hcases

theorem keptAt_of_decorateAll {windows : List Window}
    (hkept : ∀ id, id ∉ windows.map (·.id) →
      decorator.KeptAt decorator.look ledger id)
    (hdecorate : decorator.decorateAll windows = .ok later) (id : WindowId) :
    later.KeptAt decorator.look (ledger.deliver windows) id := by
  induction windows generalizing decorator ledger with
  | nil =>
      cases hdecorate
      exact hkept id (by simp)
  | cons window rest ih =>
      simp only [decorateAll, bind_eq_ok_iff] at hdecorate
      rcases hdecorate with ⟨⟨decorated, next⟩, hwindow, hrest⟩
      have hlook : next.look = decorator.look := by
        rcases decorate_cases hwindow with
            ⟨_, commons, decorations, _, hnext, _⟩
        subst hnext
        rfl
      rw [← hlook]
      refine ih (fun other hwaiting => ?_) hrest
      rw [hlook]
      refine keptAt_of_decorate hwindow fun hother => hkept other ?_
      rw [List.map_cons, List.mem_cons]
      rintro (hsame | hmem)
      · exact hother hsame
      · exact hwaiting hmem

theorem upkept_of_decorateAll {windows : List Window}
    (hinStep : decorator.InStep)
    (hkept : ∀ id, id ∉ windows.map (·.id) →
      decorator.KeptAt decorator.look ledger id)
    (hdecorate : decorator.decorateAll windows = .ok later) :
    later.Upkept (ledger.deliver windows) := by
  have hlater := keptAt_of_decorateAll hkept hdecorate
  rcases decorateAll_eq hdecorate with ⟨hub, commons, decorations, heq⟩
  subst heq
  exact ⟨hinStep.of_eq rfl rfl rfl, hlater⟩

theorem upkept_of_covered {workspace : Workspace} (hinStep : decorator.InStep)
    (hcovers : ∀ id ∈ decorator.decorations.keys, id ∈ workspace.ids)
    (hdecorate : decorator.decorateAll workspace.windows = .ok later) :
    later.Upkept (ledger.deliver workspace.windows) := by
  refine upkept_of_decorateAll hinStep (fun id hid => ?_) hdecorate
  exact keptAt_of_not_mem fun hmem => hid (hcovers id hmem)

/-! ## Telling decorations of events -/

theorem upkept_of_broadcast {event : Decoration.Event}
    (hinStep : decorator.InStep)
    (hlook : decorator.look = look.afterEvent event)
    (hshared : ∀ window : Window, window.afterEvent event = window)
    (hkept : ∀ id, decorator.KeptAt look ledger id)
    (hbroadcast : decorator.broadcast event = .ok later) :
    later.Upkept ledger := by
  rcases broadcast_cases hbroadcast with
      ⟨signals, shadows, decorations, hlater, _, _, _, hfind⟩
  subst hlater
  constructor
  · exact hinStep.of_eq rfl rfl rfl
  · intro id next hnext
    rcases hfind id next hnext with
        ⟨decoration, hdecoration, before, after, told, hnotify, _⟩
    rcases hkept id decoration hdecoration with
        ⟨hoff, live, window, hlive, hledger, hid, hmade⟩
    have hmadeNext := made_of_notify hmade hnotify
    rw [hshared, ← hlook] at hmadeNext
    exact ⟨hoff, live, window, hlive, hledger, hid, hmadeNext⟩

theorem Upkept.dispatch {id : WindowId} {event : WindowEvent}
    (hupkept : decorator.Upkept ledger)
    (hdispatch : decorator.dispatch id (.window event) = .ok later) :
    later.Upkept (ledger.tell id event) := by
  rcases dispatch_cases hdispatch with ⟨hnone, hlater⟩ |
    ⟨decoration, next, signals, shadows, hfind, hnotify, hlater⟩
  · subst hlater
    constructor
    · exact hupkept.toInStep
    · intro other found hfound
      have hother : id ≠ other := by
        intro hsame
        rw [hsame, hfound] at hnone
        cases hnone
      rw [Ledger.find?_tell_of_ne hother]
      exact hupkept.kept other found hfound
  · rcases hupkept.kept id decoration hfind with
        ⟨hoff, live, window, hlive, hledger, hid, hmade⟩
    have hmadeNext := made_of_notify hmade hnotify
    subst hlater
    constructor
    · exact hupkept.toInStep.of_eq rfl rfl rfl
    · intro other found hfound
      have hcases := (Keyed.find?_insert decorator.decorations id other
        next).symm.trans hfound
      by_cases hother : id = other
      · rw [if_pos hother] at hcases
        cases hcases
        subst hother
        refine ⟨hoff, live, window.after event, hlive,
          Ledger.find?_tell event hledger, ?_, hmadeNext⟩
        exact (window.id_after event).trans hid
      · rw [if_neg hother] at hcases
        rw [Ledger.find?_tell_of_ne hother]
        exact hupkept.kept other found hcases

/-! ## Preferences that changed -/

theorem upkept_of_applyPreferences {workspace : Workspace}
    {layoutChanged : Bool} (hinStep : decorator.InStep)
    (hlook : decorator.look = { look with
      left := decorator.preferences.left
      right := decorator.preferences.right
      borderSize := decorator.preferences.borderSize })
    (hlayout : layoutChanged = (look.left != decorator.preferences.left ||
      look.right != decorator.preferences.right))
    (hcovers : ∀ id ∈ decorator.decorations.keys, id ∈ workspace.ids)
    (hkept : ∀ id, decorator.KeptAt look ledger id)
    (happly : decorator.applyPreferences workspace look.borderSize
      layoutChanged = .ok later) :
    later.Upkept (ledger.deliver
      (if look.borderSize = later.preferences.borderSize then []
        else workspace.windows)) := by
  rw [(settings_of_applyPreferences happly).2]
  rcases applyPreferences_cases happly with
    ⟨hsize, hdecorate⟩ | ⟨hsize, ⟨_, hbroadcast⟩ | ⟨hchanged, hlater⟩⟩
  · rw [if_neg hsize]
    exact upkept_of_covered hinStep hcovers hdecorate
  · rw [if_pos hsize]
    have htold : decorator.look = look.afterEvent
        (.layout decorator.preferences.left decorator.preferences.right) := by
      rw [← hsize] at hlook
      exact hlook
    exact upkept_of_broadcast hinStep htold (fun _ => rfl) hkept hbroadcast
  · subst hlater
    rw [if_pos hsize]
    have hsame : look.left = later.preferences.left ∧
        look.right = later.preferences.right := by
      rw [hchanged] at hlayout
      simpa using hlayout.symm
    rw [← hsize, ← hsame.1, ← hsame.2] at hlook
    constructor
    · exact hinStep
    · rw [hlook]
      exact hkept

theorem Upkept.declared {workspace : Workspace}
    (hupkept : decorator.Upkept ledger)
    (hcovers : ∀ id ∈ decorator.decorations.keys, id ∈ workspace.ids)
    (hrespond : decorator.respond workspace .declared = .ok later) :
    later.Upkept (ledger.deliver
      (if decorator.preferences.borderSize = later.preferences.borderSize
        then [] else workspace.windows)) := by
  have hinStep : (decorator.recompute workspace).2.InStep :=
    (Ready.declared workspace).inStep hupkept.toInStep
  have hkept : ∀ id, (decorator.recompute workspace).2.KeptAt decorator.look
      ledger id := hupkept.kept
  exact upkept_of_applyPreferences hinStep rfl rfl hcovers hkept hrespond

/-! ## The configuration read again -/

theorem Upkept.keptAt_reread {workspace : Workspace}
    (hupkept : decorator.Upkept ledger)
    (hname : (decorator.reread workspace).2.host.liveName? =
      decorator.host.liveName?) (id : WindowId) :
    (decorator.reread workspace).2.KeptAt decorator.look ledger id := by
  intro decoration hfind
  rcases hupkept.kept id decoration hfind with
      ⟨hoff, live, window, hlive, hledger, hid, hmade⟩
  rcases Host.live_of_reconfigure hoff hlive hname with ⟨hlaterOff, hlaterLive⟩
  exact ⟨hlaterOff, live, window, hlaterLive, hledger, hid, hmade⟩

theorem Upkept.reconfigured {workspace : Workspace}
    (hupkept : decorator.Upkept ledger)
    (hcovers : ∀ id ∈ decorator.decorations.keys, id ∈ workspace.ids)
    (hrespond : decorator.respond workspace .reconfigured = .ok later) :
    later.Upkept (ledger.deliver
      (if decorator.backendState = later.backendState ∧
          decorator.preferences.borderSize = later.preferences.borderSize
        then [] else workspace.windows)) := by
  have hinStep := inStep_reread hupkept.toInStep workspace
  rcases reconfigure_cases hrespond with ⟨hstate, hdecorate⟩ | ⟨hstate, happly⟩
  · have hlater : later.backendState =
        (decorator.reread workspace).2.backendState := by
      rcases decorateAll_eq hdecorate with ⟨hub, commons, decorations, heq⟩
      rw [heq]
      rfl
    rw [hlater, if_neg fun hsame => hstate hsame.1]
    have hcleared : (decorator.reread workspace).2.clearDrawings.InStep :=
      hinStep.of_eq rfl rfl rfl
    exact upkept_of_covered hcleared hcovers hdecorate
  · have hlater : later.backendState = decorator.backendState := by
      unfold backendState
      rw [(settings_of_applyPreferences happly).1]
      exact hstate.symm
    have hname : (decorator.reread workspace).2.host.liveName? =
        decorator.host.liveName? :=
      congrArg (fun state => state.1) hstate.symm
    have htheme : (decorator.reread workspace).2.host.theme =
        decorator.host.theme :=
      congrArg (fun state => state.2.1) hstate.symm
    have hlook : (decorator.reread workspace).2.look = { decorator.look with
        left := (decorator.reread workspace).2.preferences.left
        right := (decorator.reread workspace).2.preferences.right
        borderSize :=
          (decorator.reread workspace).2.preferences.borderSize } := by
      have hfacts := decorator.facts_reread workspace
      simp only [Host.facts, Prod.mk.injEq] at hfacts
      unfold look Host.look
      rw [hfacts.1, hfacts.2.1, hfacts.2.2, htheme]
    have happlied := upkept_of_applyPreferences hinStep hlook rfl hcovers
      (hupkept.keptAt_reread hname) happly
    rw [hlater]
    simp only [true_and]
    exact happlied

/-! ## Runs -/

theorem Upkept.respond {workspace : Workspace} {event : Event}
    (hupkept : decorator.Upkept ledger)
    (hcovers : decorator.Covers (.handle workspace event))
    (hrespond : decorator.respond workspace event = .ok later) :
    later.Upkept (record ledger decorator (.handle workspace event) later) := by
  cases event with
  | window id event => exact hupkept.dispatch hrespond
  | theme id =>
      have hinStep : (decorator.themed id).InStep :=
        (Ready.theme workspace id).inStep hupkept.toInStep
      have hkept : ∀ other, (decorator.themed id).KeptAt decorator.look ledger
          other := hupkept.kept
      exact upkept_of_broadcast hinStep rfl (fun _ => rfl) hkept hrespond
  | font family size =>
      rcases font_cases hrespond with ⟨preferences, signals, hpush, hbroadcast⟩
      have hinStep := (Ready.font workspace family size hpush).inStep
        hupkept.toInStep
      rcases pushed_of_pushFont hpush with ⟨font, hpreferences⟩
      subst hpreferences
      have hkept : ∀ id, (decorator.refonted { decorator.preferences with
          pushedFont := some font, font } signals).KeptAt decorator.look
            ledger id := hupkept.kept
      exact upkept_of_broadcast hinStep rfl (fun _ => rfl) hkept hbroadcast
  | dpi dpi =>
      have hinStep : (decorator.rescaled dpi).InStep :=
        (Ready.dpi workspace dpi).inStep hupkept.toInStep
      exact upkept_of_covered hinStep hcovers hrespond
  | declared => exact hupkept.declared hcovers hrespond
  | reconfigured => exact hupkept.reconfigured hcovers hrespond

theorem client_of_spared {properties : PropertyTable} {id : WindowId}
    (hspares : decorator.Spares (.setProperties properties))
    (hid : id ∈ decorator.decorations.keys) :
    properties.client id = decorator.commons.properties.client id := by
  unfold PropertyTable.client PropertyTable.motifHints?
    PropertyTable.cornerRadii?
  rw [hspares id hid .motifHints, hspares id hid .cornerRadii]

theorem Upkept.perform {operation : Operation}
    (hupkept : decorator.Upkept ledger)
    (hcovers : decorator.Covers operation)
    (hspares : decorator.Spares operation)
    (hperform : decorator.perform operation = .ok later) :
    later.Upkept (record ledger decorator operation later) := by
  cases operation with
  | start session workspace =>
      rcases start_cases hperform with ⟨done, hdecorate, hlater⟩
      subst hlater
      have hinStep := (Ready.start session workspace).inStep hupkept.toInStep
      have hdone : done.Upkept (ledger.deliver workspace.windows) :=
        upkept_of_covered hinStep hcovers hdecorate
      exact ⟨hdone.toInStep.of_eq rfl rfl rfl, hdone.kept⟩
  | handle workspace event =>
      rcases handle_cases hperform with ⟨done, hrespond, hlater⟩
      subst hlater
      have hdone := hupkept.respond hcovers hrespond
      exact ⟨hdone.toInStep.of_eq rfl rfl rfl, hdone.kept⟩
  | decorate window =>
      have hdecorate := (decorator.map_decorate window).symm.trans hperform
      exact upkept_of_decorateAll hupkept.toInStep
        (fun id _ => hupkept.kept id) hdecorate
  | undecorate id =>
      cases hperform
      constructor
      · exact hupkept.toInStep.of_eq rfl rfl rfl
      · intro other found hfound
        exact hupkept.kept other found (Keyed.find?_of_find?_erase hfound)
  | write group key value =>
      cases hperform
      exact ⟨hupkept.toInStep.of_eq rfl rfl rfl, hupkept.kept⟩
  | setProperties properties =>
      cases hperform
      constructor
      · exact hupkept.toInStep.of_eq rfl rfl rfl
      · intro id decoration hfind
        rcases hupkept.kept id decoration hfind with
            ⟨hoff, live, window, hlive, hledger, hid, hmade⟩
        rw [← client_of_spared hspares (Keyed.mem_keys_of_find? hfind)] at hmade
        exact ⟨hoff, live, window, hlive, hledger, hid, hmade⟩

theorem upkept_new (catalog : Catalog) (store : Config.Store)
    (properties : PropertyTable) :
    (Decorator.new catalog store properties).Upkept .empty := by
  constructor
  · exact inStep_new catalog store properties
  · intro id decoration hfind
    cases hfind

theorem Run.upkept {ledger : Ledger}
    (hrun : Run Orderly decorator ledger) : decorator.Upkept ledger := by
  induction hrun with
  | new catalog store properties => exact upkept_new catalog store properties
  | perform operation _ hallowed hperform ih =>
      exact ih.perform hallowed.1 hallowed.2 hperform

/-- As long as operations come with workspaces that list every decorated window
and leave the properties of decorated windows alone, every decoration is the
one that the live backend would make now for the window as it was last heard
of. -/
theorem atRest_eq_created_of_run
    (hrun : Run Orderly decorator ledger) :
    decorator.host.font = decorator.preferences.font ∧
    decorator.host.themeId = decorator.preferences.themeId ∧
    ∀ id decoration, decorator.decorations.find? id = some decoration →
      (∀ guest live, decoration = .foreign guest →
        decorator.host.live = some live → live.backend.make.Ordinary) →
      ∃ window fresh made,
        ledger.find? id = some window ∧ window.id = id ∧
        decorator.host.create decorator.look window decorator.commons =
          .ok (some fresh, made) ∧
        decoration.atRest = fresh.atRest := by
  have hupkept := hrun.upkept
  refine ⟨hupkept.font_eq, hupkept.themeId_eq, ?_⟩
  intro id decoration hfind hordinary
  rcases hupkept.kept id decoration hfind with
      ⟨hoff, live, window, hlive, hledger, hid, hmade⟩
  have hclient := congrArg decorator.commons.properties.client hid
  rcases hmade.exists_create (fun guest hguest =>
    hordinary guest live hguest hlive) hclient with
      ⟨fresh, made, hcreate, hrest⟩
  refine ⟨window, fresh, made, hledger, hid, ?_, hrest⟩
  unfold Host.create
  rw [hoff, hlive]
  exact hcreate

theorem atRest_eq_created_after_theme :
    ∃ decorator ledger decoration fresh made,
      Run Orderly decorator ledger ∧
      decorator.decorations.find? 1 = some decoration ∧
      ledger.find? 1 =
        some { id := 1, width := 800, height := 600, maximized := true } ∧
      decorator.host.create decorator.look
        { id := 1, width := 800, height := 600, maximized := true }
        decorator.commons = .ok (some fresh, made) ∧
      decoration.atRest = fresh.atRest := by
  obtain ⟨decorator, ledger, frame, hrun, hfind, hledger⟩ :
      ∃ decorator ledger frame, Run Orderly decorator ledger ∧
        decorator.decorations.find? 1 = some (.framed frame) ∧
        ledger.find? 1 = some
          { id := 1, width := 800, height := 600, maximized := true } := by
    refine ⟨_, _, _,
      .perform (.handle
          { windows := [{ id := 1, width := 800, height := 600 }] } (.theme 1))
        (.perform (.handle
            { windows := [{ id := 1, width := 800, height := 600 }] }
            (.window 1 (.maximized true)))
          (.perform (.start {}
              { windows := [{ id := 1, width := 800, height := 600 }] })
            (.new .standard {} .empty)
            ⟨?_, trivial⟩ (by exact rfl))
          ⟨?_, trivial⟩ (by exact rfl))
        ⟨?_, trivial⟩ (by exact rfl),
      rfl, rfl⟩
    · decide
    · decide
    · decide
  rcases atRest_eq_created_of_run hrun with ⟨_, _, hcreated⟩
  rcases hcreated 1 _ hfind (by simp) with
      ⟨window, fresh, made, hfound, _, hcreate, hrest⟩
  rw [hledger] at hfound
  cases hfound
  exact ⟨decorator, ledger, _, fresh, made, hrun, hfind, hledger,
    hcreate, hrest⟩

end Decorator
end WindowChrome
