import WindowChrome.Proofs.Decorator.Decorating
import WindowChrome.Proofs.Decorator.Run

/-!
# From what is asked to the decorations

A start and every event work in two parts: first everything but the decorations
takes in what happened, then at most one thing is done to the decorations.
-/

namespace WindowChrome
namespace Decorator

/-- The decorator between the two parts of an operation. -/
inductive Ready (decorator : Decorator) : Operation → Decorator → Prop
  | start (session : Session) (workspace : Workspace) :
      Ready decorator (.start session workspace)
        (decorator.prepared session workspace)
  | window (workspace : Workspace) (id : WindowId) (event : WindowEvent) :
      Ready decorator (.handle workspace (.window id event)) decorator
  | theme (workspace : Workspace) (id : Int) :
      Ready decorator (.handle workspace (.theme id)) (decorator.themed id)
  | font (workspace : Workspace) (family : String) (size : Int)
      {preferences : Preferences} {signals : List Signal}
      (hpush : decorator.preferences.pushFont family size =
        .ok (preferences, signals)) :
      Ready decorator (.handle workspace (.font family size))
        (decorator.refonted preferences signals)
  | dpi (workspace : Workspace) (dpi : UInt32) :
      Ready decorator (.handle workspace (.dpi dpi)) (decorator.rescaled dpi)
  | declared (workspace : Workspace) :
      Ready decorator (.handle workspace .declared)
        (decorator.recompute workspace).2
  | reread (workspace : Workspace)
      (hstate : decorator.backendState =
        (decorator.reread workspace).2.backendState) :
      Ready decorator (.handle workspace .reconfigured)
        (decorator.reread workspace).2
  | cleared (workspace : Workspace)
      (hstate : decorator.backendState ≠
        (decorator.reread workspace).2.backendState) :
      Ready decorator (.handle workspace .reconfigured)
        (decorator.reread workspace).2.clearDrawings

variable {decorator ready later : Decorator}

/-- What the second part comes to, with the signals that tell of it. -/
structure Outcome (ready : Decorator) (windows : List Window)
    (signals : List Signal) (later : Decorator) : Prop where
  eq : ∃ commons decorations, later = { ready with
    hub := ready.hub.emitAll signals, commons, decorations }
  grown : ready.commons.shadows.Grown later.commons.shadows
  marked : ∃ marks : List Mark,
    later.decorations.keys =
      marks.foldl Mark.enter ready.decorations.keys ∧
    marks.map (·.window) = windows.map (·.id) ∧
    (ready.host.Steady → marks = windows.map ready.host.mark)
  told : ∀ id, id ∉ windows.map (·.id) → ∀ next,
    later.decorations.find? id = some next →
      ∃ decoration, ready.decorations.find? id = some decoration ∧
        (next = decoration ∨ ∃ event, Told event ready.commons.shadows
          later.commons.shadows signals decoration next)
  made : ∀ id ∈ windows.map (·.id), ∀ next,
    later.decorations.find? id = some next →
      (∃ window, window.id = id ∧
        Makes ready.host ready.look window next) ∧
      next.HeldBy later.commons.shadows ∧ next ∈ ready.madeFor id windows
  once : (windows.map (·.id)).Nodup →
    ∀ id, ∀ decoration ∈ ready.madeFor id windows,
      later.decorations.find? id = some decoration
  shadowed : ∀ id ∈ windows.map (·.id), (.shadow id ∈ signals ↔
    ∃ decoration ∈ ready.madeFor id windows, decoration.shadow?.isSome)
  windows : ∀ signal ∈ signals, signal.window?.isSome

theorem Outcome.state_eq {windows : List Window} {signals : List Signal}
    (houtcome : ready.Outcome windows signals later) :
    later.backendState = ready.backendState := by
  rcases houtcome.eq with ⟨commons, decorations, hlater⟩
  rw [hlater]
  rfl

theorem Outcome.remained {windows : List Window} {signals : List Signal}
    (houtcome : ready.Outcome windows signals later) {id : WindowId}
    (hid : id ∉ windows.map (·.id)) (hmem : id ∈ ready.decorations.keys) :
    id ∈ later.decorations.keys := by
  rcases houtcome.marked with ⟨marks, hkeys, hwindows, _⟩
  rw [hkeys]
  apply (Mark.prefix_enterAll _ _).subset
  rw [List.mem_filter, decide_eq_true_iff]
  refine ⟨hmem, fun hbare => hid ?_⟩
  rw [← hwindows]
  exact List.mem_map_of_mem hbare

theorem Remade.outcome {windows : List Window} {signals : List Signal}
    (hremade : ready.Remade windows signals later) :
    ready.Outcome windows signals later where
  eq := hremade.eq
  grown := hremade.grown
  marked := hremade.marked
  told id hid next hnext := ⟨next, (hremade.passed id hid).symm.trans hnext,
    .inl rfl⟩
  made := hremade.made
  once := hremade.once
  shadowed id _ := hremade.told id
  windows := hremade.windows

theorem Outcome.of_told {signals : List Signal} {shadows : ShadowMemo}
    {decorations : Keyed WindowId Decoration}
    (hlater : later = { ready with
      hub := ready.hub.emitAll signals
      commons := { ready.commons with shadows }
      decorations })
    (hgrown : ready.commons.shadows.Grown shadows)
    (hwindows : ∀ signal ∈ signals, signal.window?.isSome)
    (hkeys : decorations.keys = ready.decorations.keys)
    (htold : ∀ id next, decorations.find? id = some next →
      ∃ decoration, ready.decorations.find? id = some decoration ∧
        (next = decoration ∨ ∃ event, Told event ready.commons.shadows shadows
          signals decoration next)) :
    ready.Outcome [] signals later := by
  subst hlater
  exact ⟨⟨_, _, rfl⟩, hgrown, ⟨[], hkeys, rfl, fun _ => rfl⟩,
    fun id _ => htold id, by simp, by simp [madeFor], by simp, hwindows⟩

theorem outcome_of_dispatch {id : WindowId} {event : Decoration.Event}
    (hdispatch : ready.dispatch id event = .ok later) :
    ∃ signals, ready.Outcome [] signals later := by
  rcases dispatch_cases hdispatch with ⟨_, hlater⟩ |
    ⟨decoration, next, signals, shadows, hfind, hnotify, hlater⟩
  · rw [hlater]
    exact ⟨[], (Remade.nil ready).outcome⟩
  · refine ⟨signals, .of_told hlater (memo_of_notify hnotify).1 ?_ ?_ ?_⟩
    · intro signal hsignal
      rcases notify_cases hnotify with ⟨update, handled, _, hreport, _⟩
      rw [hreport] at hsignal
      rw [window_of_mem_report hsignal]
      rfl
    · rw [Keyed.keys_insert, if_pos (Keyed.mem_keys_of_find? hfind)]
    · intro other found hfound
      rw [Keyed.find?_insert] at hfound
      by_cases hother : id = other
      · rw [if_pos hother] at hfound
        cases hfound
        rw [← hother]
        exact ⟨decoration, hfind, .inr ⟨event, _, _, signals, hnotify, .refl,
          .refl, List.Subset.refl _⟩⟩
      · rw [if_neg hother] at hfound
        exact ⟨found, hfound, .inl rfl⟩

theorem outcome_of_broadcast {event : Decoration.Event}
    (hbroadcast : ready.broadcast event = .ok later) :
    ∃ signals, ready.Outcome [] signals later := by
  rcases broadcast_cases hbroadcast with
      ⟨signals, shadows, decorations, hlater, hgrown, hwindows, hkeys, hfind⟩
  refine ⟨signals, .of_told hlater hgrown hwindows hkeys ?_⟩
  intro id next hnext
  rcases hfind id next hnext with ⟨decoration, hdecoration, htold⟩
  exact ⟨decoration, hdecoration, .inr ⟨event, htold⟩⟩

theorem outcome_of_decorateAll {windows : List Window}
    (hdecorate : ready.decorateAll windows = .ok later) :
    ∃ signals, ready.Outcome windows signals later := by
  rcases decorateAll_remade hdecorate with ⟨signals, hremade⟩
  exact ⟨signals, hremade.outcome⟩

theorem outcome_of_applyPreferences {workspace : Workspace}
    {before : BorderSize} {layoutChanged : Bool}
    (happly : ready.applyPreferences workspace before layoutChanged =
      .ok later) :
    ∃ signals, ready.Outcome
      (if before = later.preferences.borderSize then []
        else workspace.windows) signals later := by
  rw [(settings_of_applyPreferences happly).2]
  rcases applyPreferences_cases happly with
    ⟨hsize, hdecorate⟩ | ⟨hsize, ⟨_, hbroadcast⟩ | ⟨_, hlater⟩⟩
  · rw [if_neg hsize]
    exact outcome_of_decorateAll hdecorate
  · rw [if_pos hsize]
    exact outcome_of_broadcast hbroadcast
  · rw [if_pos hsize, hlater]
    exact ⟨[], (Remade.nil ready).outcome⟩

theorem redecorated_of_handle (decorator later : Decorator)
    (workspace : Workspace) (event : Event) :
    decorator.redecorated (.handle workspace event) later = [] ∨
      decorator.redecorated (.handle workspace event) later =
        workspace.windows := by
  cases event with
  | dpi dpi => exact .inr rfl
  | declared =>
      simp only [redecorated]
      split
      · exact .inl rfl
      · exact .inr rfl
  | reconfigured =>
      simp only [redecorated]
      split
      · exact .inl rfl
      · exact .inr rfl
  | _ => exact .inl rfl

theorem redecorated_of_ne {workspace : Workspace}
    (hstate : decorator.backendState ≠ later.backendState) :
    decorator.redecorated (.handle workspace .reconfigured) later =
      workspace.windows := by
  simp only [redecorated]
  rw [if_neg fun hsame => hstate hsame.1]

theorem outcome_of_respond {workspace : Workspace} {event : Event}
    (hrespond : decorator.respond workspace event = .ok later) :
    ∃ ready signals, decorator.Ready (.handle workspace event) ready ∧
      ready.Outcome (decorator.redecorated (.handle workspace event) later)
        signals later := by
  cases event with
  | window id event =>
      rcases outcome_of_dispatch hrespond with ⟨signals, houtcome⟩
      exact ⟨_, signals, .window workspace id event, houtcome⟩
  | theme id =>
      rcases outcome_of_broadcast hrespond with ⟨signals, houtcome⟩
      exact ⟨_, signals, .theme workspace id, houtcome⟩
  | font family size =>
      rcases font_cases hrespond with ⟨preferences, pushed, hpush, hbroadcast⟩
      rcases outcome_of_broadcast hbroadcast with ⟨signals, houtcome⟩
      exact ⟨_, signals, .font workspace family size hpush, houtcome⟩
  | dpi dpi =>
      rcases outcome_of_decorateAll hrespond with ⟨signals, houtcome⟩
      exact ⟨_, signals, .dpi workspace dpi, houtcome⟩
  | declared =>
      rcases outcome_of_applyPreferences hrespond with ⟨signals, houtcome⟩
      exact ⟨_, signals, .declared workspace, houtcome⟩
  | reconfigured =>
      rcases reconfigure_cases hrespond with
        ⟨hstate, hdecorate⟩ | ⟨hstate, happly⟩
      · rcases outcome_of_decorateAll hdecorate with ⟨signals, houtcome⟩
        refine ⟨_, signals, .cleared workspace hstate, ?_⟩
        have hlater : later.backendState =
            (decorator.reread workspace).2.backendState := houtcome.state_eq
        rw [← hlater] at hstate
        rw [redecorated_of_ne hstate]
        exact houtcome
      · rcases outcome_of_applyPreferences happly with ⟨signals, houtcome⟩
        refine ⟨_, signals, .reread workspace hstate, ?_⟩
        have hlater : later.backendState = decorator.backendState :=
          houtcome.state_eq.trans hstate.symm
        simp only [redecorated, hlater, true_and]
        exact houtcome

inductive Performed (decorator : Decorator) : Operation → Decorator → Prop
  /-- A start or an event, after which the signals are delivered. -/
  | turned {operation : Operation} {ready done : Decorator}
      {signals : List Signal} (hready : decorator.Ready operation ready)
      (houtcome : ready.Outcome (decorator.redecorated operation done) signals
        done) :
      Performed decorator operation done.flush.2
  | decorated {later : Decorator} (window : Window) {signals : List Signal}
      (hremade : decorator.Remade [window] signals later) :
      Performed decorator (.decorate window) later
  | undecorated (id : WindowId) :
      Performed decorator (.undecorate id) (decorator.undecorate id).2
  | written (group key value : String) :
      Performed decorator (.write group key value)
        { decorator with hub := { decorator.hub with
          store := decorator.hub.store.write group key value } }
  | spared (properties : PropertyTable) :
      Performed decorator (.setProperties properties)
        { decorator with commons := { decorator.commons with properties } }

theorem performed_of_handle {workspace : Workspace} {event : Event}
    (hhandle : decorator.handle workspace event = .ok later) :
    decorator.Performed (.handle workspace event) later := by
  rcases handle_cases hhandle with ⟨done, hrespond, hlater⟩
  rcases outcome_of_respond hrespond with ⟨ready, signals, hready, houtcome⟩
  rw [hlater]
  exact .turned hready houtcome

theorem performed_of_perform {operation : Operation}
    (hperform : decorator.perform operation = .ok later) :
    decorator.Performed operation later := by
  cases operation with
  | start session workspace =>
      rcases start_cases hperform with ⟨done, hdecorate, hlater⟩
      rcases decorateAll_remade hdecorate with ⟨signals, hremade⟩
      rw [hlater]
      exact .turned (.start session workspace) hremade.outcome
  | handle workspace event => exact performed_of_handle hperform
  | decorate window =>
      have hdecorate := (decorator.map_decorate window).symm.trans hperform
      rcases decorateAll_remade hdecorate with ⟨signals, hremade⟩
      exact .decorated window hremade
  | undecorate id =>
      cases hperform
      exact .undecorated id
  | write group key value =>
      cases hperform
      exact .written group key value
  | setProperties properties =>
      cases hperform
      exact .spared properties

theorem Ready.decorations_eq {operation : Operation}
    (hready : decorator.Ready operation ready) :
    ready.decorations = decorator.decorations := by
  cases hready <;> rfl

theorem Performed.find?_cases {operation : Operation}
    (hperformed : decorator.Performed operation later) {id : WindowId}
    {next : Decoration} (hnext : later.decorations.find? id = some next) :
    (id ∈ (decorator.redecorated operation later).map (·.id) ∧
      ∃ look window, window.id = id ∧ Makes later.host look window next) ∨
    (id ∉ (decorator.redecorated operation later).map (·.id) ∧
      ∃ decoration, decorator.decorations.find? id = some decoration ∧
        (next = decoration ∨ ∃ event shadows drawn signals,
          Told event shadows drawn signals decoration next)) := by
  cases hperformed with
  | @turned _ ready done signals hready houtcome =>
      by_cases hid : id ∈ (decorator.redecorated operation done).map (·.id)
      · rcases houtcome.made id hid next hnext with
            ⟨⟨window, hwindow, hmakes⟩, _⟩
        rcases houtcome.eq with ⟨commons, decorations, hdone⟩
        refine .inl ⟨hid, ready.look, window, hwindow, ?_⟩
        rw [hdone]
        exact hmakes
      · rcases houtcome.told id hid next hnext with ⟨before, hbefore, hcases⟩
        rw [hready.decorations_eq] at hbefore
        refine .inr ⟨hid, before, hbefore, hcases.imp_right ?_⟩
        exact fun ⟨event, htold⟩ => ⟨event, _, _, signals, htold⟩
  | decorated window hremade =>
      by_cases hid : id ∈ [window].map (·.id)
      · rcases hremade.made id hid next hnext with
            ⟨⟨other, hother, hmakes⟩, _⟩
        rcases hremade.eq with ⟨commons, decorations, hlater⟩
        refine .inl ⟨hid, decorator.look, other, hother, ?_⟩
        rw [hlater]
        exact hmakes
      · rw [hremade.passed id hid] at hnext
        exact .inr ⟨hid, next, hnext, .inl rfl⟩
  | undecorated other =>
      have hbefore := Keyed.find?_of_find?_erase hnext
      exact .inr ⟨List.not_mem_nil, next, hbefore, .inl rfl⟩
  | written group key value =>
      exact .inr ⟨List.not_mem_nil, next, hnext, .inl rfl⟩
  | spared properties => exact .inr ⟨List.not_mem_nil, next, hnext, .inl rfl⟩

section

/- A property of whatever is made for a window that is not lost by being told
of something. -/
variable {property : WindowId → Decoration → Prop}
  (hmakes : ∀ {host look window decoration},
    Makes host look window decoration → property window.id decoration)
  (htold : ∀ {event shadows drawn signals id decoration next},
    Told event shadows drawn signals decoration next →
      property id decoration → property id next)

include hmakes htold

theorem Performed.forall_decorations {operation : Operation}
    (hperformed : decorator.Performed operation later)
    (hbefore : ∀ id decoration,
      decorator.decorations.find? id = some decoration →
        property id decoration)
    (id : WindowId) (decoration : Decoration)
    (hfind : later.decorations.find? id = some decoration) :
    property id decoration := by
  rcases hperformed.find?_cases hfind with
    ⟨_, look, window, hwindow, hmade⟩ | ⟨_, earlier, hearlier, hcases⟩
  · rw [← hwindow]
    exact hmakes hmade
  · rcases hcases with hsame | ⟨event, shadows, drawn, signals, hevent⟩
    · rw [hsame]
      exact hbefore id earlier hearlier
    · exact htold hevent (hbefore id earlier hearlier)

theorem Run.forall_decorations {allowed : Decorator → Operation → Prop}
    {ledger : Ledger} (hrun : Run allowed decorator ledger) :
    ∀ id decoration, decorator.decorations.find? id = some decoration →
      property id decoration := by
  induction hrun with
  | new catalog store properties =>
      intro id decoration hfind
      cases hfind
  | perform operation _ _ hperform ih =>
      exact (performed_of_perform hperform).forall_decorations hmakes htold ih

end

theorem Ready.memo_wellFormed {operation : Operation}
    (hready : decorator.Ready operation ready)
    (hshadows : decorator.commons.shadows.WellFormed) :
    ready.commons.shadows.WellFormed := by
  cases hready with
  | start session workspace => exact hshadows
  | window workspace id event => exact hshadows
  | theme workspace id => exact hshadows
  | font workspace family size hpush => exact hshadows
  | dpi workspace dpi => exact .clear
  | declared workspace => exact hshadows
  | reread workspace hstate => exact hshadows
  | cleared workspace hstate => exact .clear

theorem Run.memo_wellFormed {allowed : Decorator → Operation → Prop}
    {ledger : Ledger} (hrun : Run allowed decorator ledger) :
    decorator.commons.shadows.WellFormed := by
  induction hrun with
  | new catalog store properties => exact Memo.wellFormed_new
  | perform operation _ _ hperform ih =>
      cases performed_of_perform hperform with
      | turned hready houtcome =>
          exact houtcome.grown.wellFormed (hready.memo_wellFormed ih)
      | decorated window hremade => exact hremade.grown.wellFormed ih
      | undecorated id => exact ih
      | written group key value => exact ih
      | spared properties => exact ih

end Decorator
end WindowChrome
