import WindowChrome.Decorator
import WindowChrome.Proofs.Backend.Made
import WindowChrome.Proofs.Decorator.Roll
import WindowChrome.Proofs.Frame.Shadow
import WindowChrome.Proofs.Signal.Picture

/-! # Decorating windows and telling decorations -/

namespace WindowChrome

namespace Host

def decorates (host : Host) (id : WindowId) : Bool :=
  !host.off && host.live.any (·.backend.decorates id)

def Steady (host : Host) : Prop :=
  ∀ live, host.live = some live → live.backend.Steady

theorem Steady.of_plain {host : Host} {live : Live}
    (hlive : host.live = some live) (hmake : live.backend.make = .plain) :
    host.Steady := by
  rintro other hother invite hguests
  rw [hlive, Option.some.injEq] at hother
  rw [← hother, hmake] at hguests
  cases hguests

def mark (host : Host) (window : Window) : Mark :=
  .of window.id (host.decorates window.id)

end Host

namespace Decorator

/-! ## Decorating -/

theorem host_create_cases {host : Host} {look : Look} {window : Window}
    {commons made : Commons} {decoration : Option Decoration}
    (hcreate : host.create look window commons = .ok (decoration, made)) :
    (decoration = none ∧ made = commons ∧
      host.decorates window.id = false) ∨
    ∃ live, host.off = false ∧ host.live = some live ∧
      live.backend.create look window commons = .ok (decoration, made) := by
  unfold Host.create at hcreate
  cases hoff : host.off with
  | true =>
      rw [if_pos hoff] at hcreate
      cases hcreate
      exact .inl ⟨rfl, rfl, by simp [Host.decorates, hoff]⟩
  | false =>
      rw [if_neg (by simp [hoff])] at hcreate
      cases hlive : host.live with
      | none =>
          rw [hlive] at hcreate
          cases hcreate
          exact .inl ⟨rfl, rfl, by simp [Host.decorates, hlive]⟩
      | some live =>
          rw [hlive] at hcreate
          exact .inr ⟨live, rfl, rfl, hcreate⟩

theorem isSome_of_host_create {host : Host} {look : Look} {window : Window}
    {commons made : Commons} {decoration : Option Decoration}
    (hsteady : host.Steady)
    (hcreate : host.create look window commons = .ok (decoration, made)) :
    decoration.isSome = host.decorates window.id := by
  rcases host_create_cases hcreate with
    ⟨hdecoration, _, hdecorates⟩ | ⟨live, hoff, hlive, hbackend⟩
  · rw [hdecoration, hdecorates]
    rfl
  · rw [Backend.isSome_of_create (hsteady live hlive) hbackend]
    simp [Host.decorates, hoff, hlive]

theorem memo_of_create {host : Host} {look : Look} {window : Window}
    {commons made : Commons} {decoration : Option Decoration}
    (hcreate : host.create look window commons = .ok (decoration, made)) :
    commons.shadows.Grown made.shadows ∧
      ∀ fresh, decoration = some fresh → fresh.HeldBy made.shadows := by
  rcases host_create_cases hcreate with
    ⟨hdecoration, hmade, _⟩ | ⟨live, _, _, hbackend⟩
  · subst hdecoration hmade
    exact ⟨.refl, by simp⟩
  · rcases Backend.create_cases hbackend with ⟨hdecoration, hmade, _⟩ |
      ⟨_, sized, frame, _, hdecoration, hfit⟩ |
      ⟨_, invite, guest?, shapes, _, _, hdecoration, hmade⟩
    · subst hdecoration hmade
      exact ⟨.refl, by simp⟩
    · rcases Frame.memo_of_fit hfit with ⟨hgrown, hholds⟩
      refine ⟨hgrown, fun fresh hfresh => ?_⟩
      rw [hdecoration] at hfresh
      cases hfresh
      exact Decoration.heldBy_framed hholds
    · subst hmade
      refine ⟨Memo.Grown.refl.askedEach shapes, fun fresh hfresh => ?_⟩
      rw [hdecoration] at hfresh
      cases guest? with
      | none => cases hfresh
      | some guest =>
          cases hfresh
          exact Decoration.heldBy_foreign _ _

def Makes (host : Host) (look : Look) (window : Window)
    (decoration : Decoration) : Prop :=
  ∃ given made, host.create look window given = .ok (some decoration, made)

theorem Makes.madeFor {host : Host} {look : Look} {window : Window}
    {decoration : Decoration} (hmakes : Makes host look window decoration) :
    ∃ live, host.live = some live ∧
      live.backend.MadeFor window.id decoration := by
  rcases hmakes with ⟨given, made, hcreate⟩
  rcases host_create_cases hcreate with
    ⟨habsurd, _⟩ | ⟨live, _, hlive, hbackend⟩
  · cases habsurd
  · exact ⟨live, hlive, look, window, _, Backend.made_of_create hbackend, rfl⟩

def madeSignals (id : WindowId) : Option Decoration → List Signal
  | none => []
  | some decoration =>
      (if decoration.shadow?.isSome then [.shadow id] else []) ++ [.repaint id]

theorem window_of_mem_madeSignals {id : WindowId}
    {decoration : Option Decoration} {signal : Signal}
    (hsignal : signal ∈ madeSignals id decoration) :
    signal.window? = some id := by
  cases decoration with
  | none => cases hsignal
  | some decoration =>
      rcases List.mem_append.mp hsignal with hshadow | hrepaint
      · split at hshadow
        · rw [List.mem_singleton] at hshadow
          rw [hshadow]
          rfl
        · cases hshadow
      · rw [List.mem_singleton] at hrepaint
        rw [hrepaint]
        rfl

theorem shadow_mem_madeSignals {id other : WindowId}
    {decoration : Option Decoration} :
    .shadow other ∈ madeSignals id decoration ↔
      id = other ∧ ∃ made, decoration = some made ∧ made.shadow?.isSome := by
  cases decoration with
  | none => simp [madeSignals]
  | some decoration =>
      cases hshadow : decoration.shadow?.isSome with
      | false => simp [madeSignals, hshadow]
      | true =>
          simp only [madeSignals, hshadow, if_true]
          simp [hshadow, eq_comm (a := id)]

section

variable {decorator later : Decorator}

theorem decorate_cases {window : Window} {decorated : Bool}
    (hdecorate : decorator.decorate window = .ok (decorated, later)) :
    ∃ decoration commons decorations,
      decorator.host.create decorator.look window decorator.commons =
        .ok (decoration, commons) ∧
      later = { decorator with
        hub := decorator.hub.emitAll (madeSignals window.id decoration)
        commons, decorations } ∧
      decorated = decoration.isSome ∧
      decorations.keys =
        (Mark.of window.id decorated).enter decorator.decorations.keys ∧
      ∀ id, decorations.find? id =
        if window.id = id then decoration
        else decorator.decorations.find? id := by
  simp only [decorate, bind_eq_ok_iff] at hdecorate
  rcases hdecorate with ⟨⟨decoration, commons⟩, hcreate, hresult⟩
  cases decoration with
  | none =>
      cases hresult
      refine ⟨none, commons, _, hcreate, ?_, rfl,
        Keyed.keys_erase decorator.decorations window.id,
        Keyed.find?_erase decorator.decorations window.id⟩
      rw [madeSignals, Hub.emitAll_nil]
  | some decoration =>
      cases hresult
      exact ⟨some decoration, commons, _, hcreate, rfl, rfl,
        Keyed.keys_insert decorator.decorations window.id decoration,
        fun id => Keyed.find?_insert decorator.decorations window.id id
          decoration⟩

theorem map_decorate (decorator : Decorator) (window : Window) :
    (decorator.decorate window).map (·.2) = decorator.decorateAll [window] := by
  simp only [decorateAll]
  cases decorator.decorate window <;> rfl

/-- The decorations made for a window, in order, when the windows of a list are
decorated in turn. -/
def madeFor (decorator : Decorator) (id : WindowId) :
    List Window → List Decoration
  | [] => []
  | window :: rest =>
      match decorator.decorate window with
      | .error _ => []
      | .ok (_, next) =>
          (if window.id = id then (next.decorations.find? id).toList else []) ++
            next.madeFor id rest

theorem madeFor_eq_nil {windows : List Window} {id : WindowId}
    (hid : id ∉ windows.map (·.id)) : decorator.madeFor id windows = [] := by
  induction windows generalizing decorator with
  | nil => rfl
  | cons window rest ih =>
      rw [List.map_cons, List.mem_cons, not_or] at hid
      unfold madeFor
      split
      · rfl
      · rw [if_neg (Ne.symm hid.1), List.nil_append, ih hid.2]

/-- What decorating windows comes to, and what is told of it: the windows
decorated then were decorated for the look of new decorations or, if they are
not among those windows, before. -/
structure Remade (decorator : Decorator) (windows : List Window)
    (signals : List Signal) (later : Decorator) : Prop where
  eq : ∃ commons decorations, later = { decorator with
    hub := decorator.hub.emitAll signals, commons, decorations }
  grown : decorator.commons.shadows.Grown later.commons.shadows
  marked : ∃ marks : List Mark,
    later.decorations.keys =
      marks.foldl Mark.enter decorator.decorations.keys ∧
    marks.map (·.window) = windows.map (·.id) ∧
    (decorator.host.Steady → marks = windows.map decorator.host.mark)
  passed : ∀ id, id ∉ windows.map (·.id) →
    later.decorations.find? id = decorator.decorations.find? id
  made : ∀ id ∈ windows.map (·.id), ∀ decoration,
    later.decorations.find? id = some decoration →
      (∃ window, window.id = id ∧
        Makes decorator.host decorator.look window decoration) ∧
      decoration.HeldBy later.commons.shadows ∧
      decoration ∈ decorator.madeFor id windows
  once : (windows.map (·.id)).Nodup →
    ∀ id, ∀ decoration ∈ decorator.madeFor id windows,
      later.decorations.find? id = some decoration
  told : ∀ id, .shadow id ∈ signals ↔
    ∃ decoration ∈ decorator.madeFor id windows, decoration.shadow?.isSome
  windows : ∀ signal ∈ signals, signal.window?.isSome

theorem Remade.nil (decorator : Decorator) :
    decorator.Remade [] [] decorator where
  eq := ⟨_, _, by rw [Hub.emitAll_nil]⟩
  grown := .refl
  marked := ⟨[], rfl, rfl, fun _ => rfl⟩
  passed := fun _ _ => rfl
  made := by simp
  once := by simp [madeFor]
  told := by simp [madeFor]
  windows := by simp

theorem madeFor_cons {next : Decorator} {window : Window} {decorated : Bool}
    {rest : List Window}
    (hdecorate : decorator.decorate window = .ok (decorated, next))
    (id : WindowId) :
    decorator.madeFor id (window :: rest) =
      (if window.id = id then (next.decorations.find? window.id).toList
        else []) ++ next.madeFor id rest := by
  simp only [madeFor, hdecorate]
  split
  · next hid => rw [← hid]
  · rfl

/-- Where decorating the first window leaves off, its decoration is one of
those made and is held. -/
theorem Remade.made_cons {next : Decorator} {window : Window}
    {decorated : Bool} {rest : List Window} {signals : List Signal}
    (hdecorate : decorator.decorate window = .ok (decorated, next))
    (hrest : next.Remade rest signals later) {id : WindowId}
    (hid : id ∈ (window :: rest).map (·.id)) {made : Decoration}
    (hmade : later.decorations.find? id = some made) :
    (∃ window, window.id = id ∧
      Makes decorator.host decorator.look window made) ∧
    made.HeldBy later.commons.shadows ∧
    made ∈ decorator.madeFor id (window :: rest) := by
  rcases decorate_cases hdecorate with
      ⟨decoration, commons, decorations, hcreate, hnext, -, -, hfind⟩
  have hhost : next.host = decorator.host := by rw [hnext]
  have hlook : next.look = decorator.look := by rw [hnext]; rfl
  rw [madeFor_cons hdecorate]
  by_cases hwaiting : id ∈ rest.map (·.id)
  · rcases hrest.made id hwaiting made hmade with ⟨hmakes, hlaterHeld, hmem⟩
    rw [hhost, hlook] at hmakes
    exact ⟨hmakes, hlaterHeld, List.mem_append_right _ hmem⟩
  · rw [List.map_cons, List.mem_cons] at hid
    have hwindow : window.id = id := (hid.resolve_right hwaiting).symm
    rw [hrest.passed id hwaiting, ← hwindow] at hmade
    rw [if_pos hwindow, hmade]
    rw [hnext, hfind, if_pos rfl] at hmade
    rw [hmade] at hcreate
    have hnextHeld : made.HeldBy next.commons.shadows := by
      rw [hnext]
      exact (memo_of_create hcreate).2 made rfl
    exact ⟨⟨window, hwindow, decorator.commons, commons, hcreate⟩,
      hnextHeld.extended hrest.grown.memo_extends,
      List.mem_append_left _ (List.mem_singleton_self made)⟩

theorem Remade.cons {next : Decorator} {window : Window} {decorated : Bool}
    {rest : List Window} {signals : List Signal}
    (hdecorate : decorator.decorate window = .ok (decorated, next))
    (hrest : next.Remade rest signals later) :
    ∃ first, decorator.Remade (window :: rest) (first ++ signals) later := by
  rcases decorate_cases hdecorate with
      ⟨decoration, commons, decorations, hcreate, hnext, hdecorated, hkeys,
        hfind⟩
  have hhost : next.host = decorator.host := by rw [hnext]
  have hnextFind : next.decorations.find? window.id = decoration := by
    rw [hnext, hfind, if_pos rfl]
  have hnextGrown : decorator.commons.shadows.Grown next.commons.shadows := by
    rw [hnext]
    exact (memo_of_create hcreate).1
  refine ⟨madeSignals window.id decoration, ?_, hnextGrown.trans hrest.grown,
    ?_, ?_, ?_, ?_, ?_, ?_⟩
  · rcases hrest.eq with ⟨lastCommons, lastDecorations, hlater⟩
    refine ⟨lastCommons, lastDecorations, ?_⟩
    rw [hlater, hnext, Hub.emitAll_append]
  · rcases hrest.marked with ⟨marks, hlaterKeys, hwindows, hsteady⟩
    refine ⟨.of window.id decorated :: marks, ?_, ?_, fun hhostSteady => ?_⟩
    · rw [hlaterKeys, List.foldl_cons, hnext, hkeys]
    · rw [List.map_cons, List.map_cons, hwindows, Mark.window_of]
    · rw [hhost] at hsteady
      rw [hsteady hhostSteady, List.map_cons, hdecorated,
        isSome_of_host_create hhostSteady hcreate]
      rfl
  · intro id hid
    rw [List.map_cons, List.mem_cons, not_or] at hid
    rw [hrest.passed id hid.2, hnext, hfind, if_neg (Ne.symm hid.1)]
  · intro id hid made hmade
    exact hrest.made_cons hdecorate hid hmade
  · intro hnodup id made hmade
    rw [List.map_cons, List.nodup_cons] at hnodup
    rw [madeFor_cons hdecorate, hnextFind] at hmade
    by_cases hid : window.id = id
    · have hpassed : id ∉ rest.map (·.id) := hid ▸ hnodup.1
      rw [if_pos hid, madeFor_eq_nil hpassed, List.append_nil,
        Option.mem_toList] at hmade
      rw [hrest.passed id hpassed, ← hid, hnextFind, hmade]
    · rw [if_neg hid, List.nil_append] at hmade
      exact hrest.once hnodup.2 id made hmade
  · intro id
    rw [List.mem_append, shadow_mem_madeSignals, hrest.told,
      madeFor_cons hdecorate, hnextFind]
    by_cases hid : window.id = id <;> simp [hid, or_and_right, exists_or]
  · intro signal hsignal
    rcases List.mem_append.mp hsignal with hfirst | hlast
    · rw [window_of_mem_madeSignals hfirst]
      rfl
    · exact hrest.windows signal hlast

theorem decorateAll_remade {windows : List Window}
    (hdecorate : decorator.decorateAll windows = .ok later) :
    ∃ signals, decorator.Remade windows signals later := by
  induction windows generalizing decorator with
  | nil =>
      cases hdecorate
      exact ⟨[], .nil _⟩
  | cons window rest ih =>
      simp only [decorateAll, bind_eq_ok_iff] at hdecorate
      rcases hdecorate with ⟨⟨_, next⟩, hwindow, hrest⟩
      rcases ih hrest with ⟨signals, hothers⟩
      rcases hothers.cons hwindow with ⟨first, hremade⟩
      exact ⟨first ++ signals, hremade⟩

theorem decorateAll_eq {windows : List Window}
    (hdecorate : decorator.decorateAll windows = .ok later) :
    ∃ hub commons decorations,
      later = { decorator with hub, commons, decorations } := by
  rcases decorateAll_remade hdecorate with ⟨signals, hremade⟩
  rcases hremade.eq with ⟨commons, decorations, hlater⟩
  exact ⟨_, commons, decorations, hlater⟩

/-! ## Telling decorations of events -/

theorem window_of_mem_report {update : Update} {decoration : Decoration}
    {signal : Signal} (hsignal : signal ∈ (report update decoration).1) :
    signal.window? = some decoration.window := by
  have hchanges : ∀ shadow repaint : Bool,
      signal ∈ (if shadow then [Signal.shadow decoration.window] else []) ++
        (if repaint then [Signal.repaint decoration.window] else []) →
      signal.window? = some decoration.window := by
    intro shadow repaint hmem
    cases shadow <;> cases repaint <;> simp at hmem
    · rw [hmem]
      rfl
    · rw [hmem]
      rfl
    · rcases hmem with hmem | hmem <;> rw [hmem] <;> rfl
  unfold report at hsignal
  cases haction : update.action with
  | false =>
      rw [haction] at hsignal
      exact hchanges _ _ hsignal
  | true =>
      rw [haction] at hsignal
      rcases List.mem_append.mp hsignal with hmem | hclicked
      · exact hchanges _ _ hmem
      · rcases List.mem_map.mp hclicked with ⟨button, _, hbutton⟩
        rw [← hbutton]
        rfl

theorem shadow_mem_report {update : Update} (decoration : Decoration)
    (hshadow : update.shadow = true) :
    .shadow decoration.window ∈ (report update decoration).1 := by
  unfold report
  cases update.action with
  | false => simp [hshadow]
  | true => simp [hshadow]

theorem exists_report_of_notify {decoration next : Decoration}
    {shadows drawn : ShadowMemo} {event : Decoration.Event}
    {signals : List Signal}
    (hnotify : notify decoration shadows event =
      .ok (signals, next, drawn)) :
    ∃ update handled,
      decoration.handle shadows event = .ok (update, handled, drawn) ∧
      report update handled = (signals, next) := by
  simp only [notify, bind_eq_ok_iff] at hnotify
  rcases hnotify with ⟨⟨update, handled, _⟩, hhandle, hresult⟩
  cases hresult
  exact ⟨update, handled, hhandle, rfl⟩

theorem notify_cases {decoration next : Decoration}
    {shadows drawn : ShadowMemo} {event : Decoration.Event}
    {signals : List Signal}
    (hnotify : notify decoration shadows event =
      .ok (signals, next, drawn)) :
    ∃ update handled,
      decoration.handle shadows event = .ok (update, handled, drawn) ∧
      signals = (report update handled).1 ∧
      (next = handled ∨ next = handled.takeAction.2) := by
  rcases exists_report_of_notify hnotify with
      ⟨update, handled, hhandle, hreport⟩
  refine ⟨update, handled, hhandle, by rw [hreport], ?_⟩
  have hnext : next = (report update handled).2 := by rw [hreport]
  rw [hnext]
  unfold report
  cases update.action with
  | true => exact .inr rfl
  | false => exact .inl rfl

theorem window_of_handled {handled next : Decoration}
    (hnext : next = handled ∨ next = handled.takeAction.2) :
    next.window = handled.window := by
  rcases hnext with hnext | hnext
  · rw [hnext]
  · rw [hnext, handled.window_takeAction]

theorem heldBy_of_handled {handled next : Decoration} {shadows : ShadowMemo}
    (hnext : next = handled ∨ next = handled.takeAction.2)
    (hheld : handled.HeldBy shadows) : next.HeldBy shadows := by
  rcases hnext with hnext | hnext
  · rw [hnext]
    exact hheld
  · rw [hnext]
    exact hheld.takeAction

theorem memo_of_notify {decoration next : Decoration}
    {shadows drawn : ShadowMemo} {event : Decoration.Event}
    {signals : List Signal}
    (hnotify : notify decoration shadows event =
      .ok (signals, next, drawn)) :
    shadows.Grown drawn ∧
      (decoration.HeldBy shadows → next.HeldBy drawn) := by
  rcases notify_cases hnotify with ⟨update, handled, hhandle, _, hnext⟩
  rcases Decoration.memo_of_handle hhandle with ⟨hgrown, hheld⟩
  exact ⟨hgrown, fun hbefore => heldBy_of_handled hnext (hheld hbefore)⟩

theorem made_of_notify {backend : Backend} {look : Look} {window : Window}
    {client : Client}
    {decoration next : Decoration} {shadows drawn : ShadowMemo}
    {event : Decoration.Event} {signals : List Signal}
    (hmade : backend.Made look window client decoration)
    (hnotify : notify decoration shadows event =
      .ok (signals, next, drawn)) :
    backend.Made (look.afterEvent event) (window.afterEvent event) client
      next := by
  rcases notify_cases hnotify with ⟨update, handled, hhandle, _, hnext⟩
  have hhandled := hmade.handle hhandle
  rcases hnext with hnext | hnext
  · rw [hnext]
    exact hhandled
  · rw [hnext]
    exact hhandled.takeAction

/-- A decoration came of another that was told of an event, with a memo on the
way from one memo to another, and what there was to tell is among signals. -/
def Told (event : Decoration.Event) (shadows drawn : ShadowMemo)
    (signals : List Signal) (decoration next : Decoration) : Prop :=
  ∃ before after told,
    notify decoration before event = .ok (told, next, after) ∧
    shadows.Grown before ∧ after.Grown drawn ∧ told ⊆ signals

section

variable {decoration next : Decoration} {shadows drawn : ShadowMemo}
  {event : Decoration.Event} {signals : List Signal}
  (htold : Told event shadows drawn signals decoration next)

include htold

theorem Told.heldBy (hheld : decoration.HeldBy shadows) :
    next.HeldBy drawn := by
  rcases htold with ⟨before, after, told, hnotify, hbefore, hafter, _⟩
  have hheldBefore := hheld.extended hbefore.memo_extends
  exact ((memo_of_notify hnotify).2 hheldBefore).extended hafter.memo_extends

theorem Told.madeFor {backend : Backend} {id : WindowId}
    (hmade : backend.MadeFor id decoration) : backend.MadeFor id next := by
  rcases htold with ⟨before, after, told, hnotify, _⟩
  rcases hmade with ⟨look, window, client, hmade, hid⟩
  exact ⟨_, _, client, made_of_notify hmade hnotify,
    (Window.id_afterAll window [event]).trans hid⟩

theorem Told.shadow (hreports : decoration.Reports)
    (hother : next.shadowId? ≠ decoration.shadowId?) :
    .shadow next.window ∈ signals := by
  rcases htold with ⟨before, after, told, hnotify, _, _, hsubset⟩
  rcases notify_cases hnotify with ⟨update, handled, hhandle, hreport, hnext⟩
  have hsame : next.shadowId? = handled.shadowId? := by
    rcases hnext with hnext | hnext
    · rw [hnext]
    · rw [hnext]
      exact hreports.taken hhandle
  rw [hsame] at hother
  apply hsubset
  rw [window_of_handled hnext, hreport]
  exact shadow_mem_report handled (hreports.answer hhandle hother)

end

theorem notifyEach_cases {event : Decoration.Event}
    {entries others : List (WindowId × Decoration)}
    {shadows drawn : ShadowMemo} {signals : List Signal}
    (hnotify : notifyEach event shadows entries =
      .ok (signals, others, drawn)) :
    shadows.Grown drawn ∧
    (∀ signal ∈ signals, signal.window?.isSome) ∧
    others.map (·.1) = entries.map (·.1) ∧
    ∀ id next, Keyed.lookup id others = some next →
      ∃ decoration, Keyed.lookup id entries = some decoration ∧
        Told event shadows drawn signals decoration next := by
  induction entries generalizing others shadows drawn signals with
  | nil =>
      cases hnotify
      refine ⟨.refl, by simp, rfl, fun id next hnext => ?_⟩
      cases hnext
  | cons entry rest ih =>
      rcases entry with ⟨first, decoration⟩
      simp only [notifyEach, bind_eq_ok_iff] at hnotify
      rcases hnotify with
          ⟨⟨told, handled, middle⟩, hfirst, ⟨_, restOthers, _⟩, hrest, hresult⟩
      cases hresult
      have hgrown := (memo_of_notify hfirst).1
      rcases ih hrest with ⟨hrestGrown, hwindows, hkeys, hlookup⟩
      refine ⟨hgrown.trans hrestGrown, fun signal hsignal => ?_, ?_, ?_⟩
      · rcases List.mem_append.mp hsignal with htold | hlast
        · rcases notify_cases hfirst with ⟨update, handled, _, hreport, _⟩
          rw [hreport] at htold
          rw [window_of_mem_report htold]
          rfl
        · exact hwindows signal hlast
      · rw [List.map_cons, List.map_cons, hkeys]
      · intro id next hnext
        by_cases hid : first = id
        · simp only [Keyed.lookup, hid, if_true] at hnext ⊢
          cases hnext
          exact ⟨decoration, rfl, shadows, middle, told, hfirst, .refl,
            hrestGrown, List.subset_append_left _ _⟩
        · simp only [Keyed.lookup, hid, if_false] at hnext ⊢
          rcases hlookup id next hnext with
              ⟨earlier, hfind, before, after, others, hearlier, hbefore, hafter,
                hothers⟩
          exact ⟨earlier, hfind, before, after, others, hearlier,
            hgrown.trans hbefore, hafter,
            List.subset_append_of_subset_right _ hothers⟩

theorem dispatch_cases {id : WindowId} {event : Decoration.Event}
    (hdispatch : decorator.dispatch id event = .ok later) :
    (decorator.decorations.find? id = none ∧ later = decorator) ∨
    ∃ decoration next signals shadows,
      decorator.decorations.find? id = some decoration ∧
      notify decoration decorator.commons.shadows event =
        .ok (signals, next, shadows) ∧
      later = { decorator with
        hub := decorator.hub.emitAll signals
        commons := { decorator.commons with shadows }
        decorations := decorator.decorations.insert id next } := by
  unfold dispatch at hdispatch
  cases hfind : decorator.decorations.find? id with
  | none =>
      rw [hfind] at hdispatch
      cases hdispatch
      exact .inl ⟨rfl, rfl⟩
  | some decoration =>
      rw [hfind] at hdispatch
      simp only [bind_eq_ok_iff] at hdispatch
      rcases hdispatch with ⟨⟨signals, next, shadows⟩, hnotify, hresult⟩
      cases hresult
      exact .inr ⟨decoration, next, signals, shadows, rfl, hnotify, rfl⟩

theorem broadcast_cases {event : Decoration.Event}
    (hbroadcast : decorator.broadcast event = .ok later) :
    ∃ signals shadows decorations,
      later = { decorator with
        hub := decorator.hub.emitAll signals
        commons := { decorator.commons with shadows }
        decorations } ∧
      decorator.commons.shadows.Grown shadows ∧
      (∀ signal ∈ signals, signal.window?.isSome) ∧
      decorations.keys = decorator.decorations.keys ∧
      ∀ id next, decorations.find? id = some next →
        ∃ decoration, decorator.decorations.find? id = some decoration ∧
          Told event decorator.commons.shadows shadows signals decoration
            next := by
  simp only [broadcast, bind_eq_ok_iff] at hbroadcast
  rcases hbroadcast with ⟨⟨signals, entries, shadows⟩, hnotify, hresult⟩
  cases hresult
  rcases notifyEach_cases hnotify with ⟨hgrown, hwindows, hkeys, hlookup⟩
  exact ⟨signals, shadows, ⟨entries⟩, rfl, hgrown, hwindows, hkeys, hlookup⟩

/-! ## Operations that decorate again -/

theorem applyPreferences_cases {workspace : Workspace} {before : BorderSize}
    {layoutChanged : Bool}
    (happly : decorator.applyPreferences workspace before layoutChanged =
      .ok later) :
    (before ≠ decorator.preferences.borderSize ∧
      decorator.decorateAll workspace.windows = .ok later) ∨
    (before = decorator.preferences.borderSize ∧
      ((layoutChanged = true ∧ decorator.broadcastLayout = .ok later) ∨
        (layoutChanged = false ∧ later = decorator))) := by
  unfold applyPreferences at happly
  by_cases hsize : before = decorator.preferences.borderSize
  · rw [if_neg (by simp [hsize])] at happly
    cases layoutChanged with
    | true =>
        rw [if_pos rfl] at happly
        exact .inr ⟨hsize, .inl ⟨rfl, happly⟩⟩
    | false =>
        rw [if_neg Bool.false_ne_true] at happly
        cases happly
        exact .inr ⟨hsize, .inr ⟨rfl, rfl⟩⟩
  · rw [if_pos (by simp [hsize])] at happly
    exact .inl ⟨hsize, happly⟩

theorem applyPreferences_eq {workspace : Workspace} {before : BorderSize}
    {layoutChanged : Bool}
    (happly : decorator.applyPreferences workspace before layoutChanged =
      .ok later) :
    ∃ hub commons decorations,
      later = { decorator with hub, commons, decorations } := by
  rcases applyPreferences_cases happly with
    ⟨_, hdecorate⟩ | ⟨_, ⟨_, hbroadcast⟩ | ⟨_, hlater⟩⟩
  · exact decorateAll_eq hdecorate
  · rcases broadcast_cases hbroadcast with
        ⟨signals, shadows, decorations, hlater, _⟩
    exact ⟨_, _, decorations, hlater⟩
  · exact ⟨_, _, _, hlater⟩

theorem settings_of_applyPreferences {workspace : Workspace}
    {before : BorderSize} {layoutChanged : Bool}
    (happly : decorator.applyPreferences workspace before layoutChanged =
      .ok later) :
    later.host = decorator.host ∧
      later.preferences = decorator.preferences := by
  rcases applyPreferences_eq happly with ⟨hub, commons, decorations, hlater⟩
  rw [hlater]
  exact ⟨rfl, rfl⟩

/-! ## Decorators about to tell their decorations

These are the decorators in the middle of an operation: what the operation
changes besides the decorations has been changed, and no decoration has been
told yet. -/

def prepared (decorator : Decorator) (session : Session)
    (workspace : Workspace) : Decorator :=
  let (host, hub) := decorator.host.start decorator.hub session
  let decorator := applyTheme { decorator with host, hub } session.themeId
  (recompute { decorator with session } workspace).2.syncFont

def themed (decorator : Decorator) (id : Int) : Decorator :=
  applyTheme { decorator with host := decorator.host.changeTheme id } id

def refonted (decorator : Decorator) (preferences : Preferences)
    (signals : List Signal) : Decorator :=
  syncFont { decorator with
    preferences, hub := decorator.hub.emitAll signals }

def rescaled (decorator : Decorator) (dpi : UInt32) : Decorator :=
  clearDrawings { decorator with
    host := decorator.host.changeDpi dpi
    session := { decorator.session with screenDpi := some dpi } }

def reread (decorator : Decorator) (workspace : Workspace) :
    Bool × Decorator :=
  recompute { decorator with
    host := (decorator.host.reconfigure decorator.hub workspace).2.1
    hub := (decorator.host.reconfigure decorator.hub workspace).2.2 } workspace

theorem reconfigure_cases {workspace : Workspace}
    (hreconfigure : decorator.reconfigure workspace = .ok later) :
    let ready := decorator.reread workspace
    (decorator.backendState ≠ ready.2.backendState ∧
      ready.2.clearDrawings.decorateAll workspace.windows = .ok later) ∨
    (decorator.backendState = ready.2.backendState ∧
      ready.2.applyPreferences workspace decorator.preferences.borderSize
        ready.1 = .ok later) := by
  intro ready
  have hreread : decorator.reconfigure workspace =
      if decorator.backendState != ready.2.backendState then
        ready.2.clearDrawings.decorateAll workspace.windows
      else ready.2.applyPreferences workspace
        decorator.preferences.borderSize ready.1 := rfl
  rw [hreread] at hreconfigure
  by_cases hstate : decorator.backendState = ready.2.backendState
  · rw [if_neg (by simp [hstate])] at hreconfigure
    exact .inr ⟨hstate, hreconfigure⟩
  · rw [if_pos (by simp [hstate])] at hreconfigure
    exact .inl ⟨hstate, hreconfigure⟩

theorem start_cases {session : Session} {workspace : Workspace}
    (hstart : decorator.start session workspace = .ok later) :
    ∃ done, (decorator.prepared session workspace).decorateAll
        workspace.windows = .ok done ∧ later = done.flush.2 := by
  have hprepared : decorator.start session workspace =
      (decorator.prepared session workspace).decorateAll
        workspace.windows >>= fun done => pure done.flush.2 := rfl
  rw [hprepared] at hstart
  simp only [bind_eq_ok_iff] at hstart
  rcases hstart with ⟨done, hdecorate, hresult⟩
  cases hresult
  exact ⟨done, hdecorate, rfl⟩

theorem font_cases {workspace : Workspace} {family : String} {size : Int}
    (hrespond : decorator.respond workspace (.font family size) = .ok later) :
    ∃ preferences signals,
      decorator.preferences.pushFont family size = .ok (preferences, signals) ∧
      (decorator.refonted preferences signals).broadcast
        (.font preferences.font) = .ok later := by
  simp only [respond, bind_eq_ok_iff] at hrespond
  rcases hrespond with ⟨⟨preferences, signals⟩, hpush, hbroadcast⟩
  exact ⟨preferences, signals, hpush, hbroadcast⟩

theorem handle_cases {workspace : Workspace} {event : Event}
    (hhandle : decorator.handle workspace event = .ok later) :
    ∃ done, decorator.respond workspace event = .ok done ∧
      later = done.flush.2 := by
  simp only [handle, bind_eq_ok_iff] at hhandle
  rcases hhandle with ⟨done, hrespond, hresult⟩
  cases hresult
  exact ⟨done, hrespond, rfl⟩

end

end Decorator
end WindowChrome
