import WindowChrome.Proofs.Decorator.Assignment
import WindowChrome.Proofs.Frame.Clicking

/-! # Clicks are told of once -/

namespace WindowChrome

/-! ## Signals of clicks -/

def Signal.isClick : Signal → Bool
  | .clicked _ _ => true
  | _ => false

def clicks (signals : List Signal) : List Signal :=
  signals.filter (·.isClick)

theorem clicks_append (signals others : List Signal) :
    clicks (signals ++ others) = clicks signals ++ clicks others :=
  List.filter_append _ _

theorem clicks_eq_nil {signals : List Signal}
    (hsignals : ∀ signal ∈ signals, signal.isClick = false) :
    clicks signals = [] := by
  rw [clicks, List.filter_eq_nil_iff]
  intro signal hsignal
  simp [hsignals signal hsignal]

theorem isClick_of_window?_eq_none {signal : Signal}
    (hwindow : signal.window? = none) : signal.isClick = false := by
  cases signal with
  | clicked window button => cases hwindow
  | _ => rfl

/-- Signals were put in the queue, none of them of a click, and nothing was
delivered. -/
structure Hub.Hushed (hub later : Hub) : Prop where
  delivered_eq : later.delivered = hub.delivered
  emitted : ∃ signals, later.pending = hub.pending ++ signals ∧
    clicks signals = []

namespace Hub.Hushed

variable {hub middle later : Hub}

theorem of_eq (hdelivered : later.delivered = hub.delivered)
    (hpending : later.pending = hub.pending) : hub.Hushed later :=
  ⟨hdelivered, [], by rw [hpending, List.append_nil], rfl⟩

theorem emitAll (hub : Hub) {signals : List Signal}
    (hsignals : clicks signals = []) : hub.Hushed (hub.emitAll signals) :=
  ⟨rfl, signals, rfl, hsignals⟩

theorem trans (hfirst : hub.Hushed middle) (hsecond : middle.Hushed later) :
    hub.Hushed later := by
  obtain ⟨signals, hpending, hsignals⟩ := hfirst.emitted
  obtain ⟨others, hlater, hothers⟩ := hsecond.emitted
  refine ⟨hsecond.delivered_eq.trans hfirst.delivered_eq, signals ++ others,
    ?_, ?_⟩
  · rw [hlater, hpending, List.append_assoc]
  · rw [clicks_append, hsignals, hothers, List.append_nil]

theorem of_tells {picture next : Picture}
    (htells : picture.Tells hub next later) : hub.Hushed later := by
  obtain ⟨signals, hpending, hsignals, -⟩ := htells.emitted
  exact ⟨htells.delivered_eq, signals, hpending, clicks_eq_nil
    fun signal hsignal => isClick_of_window?_eq_none (hsignals signal hsignal)⟩

theorem clicks_pending (hhushed : hub.Hushed later) :
    clicks later.pending = clicks hub.pending := by
  obtain ⟨signals, hpending, hsignals⟩ := hhushed.emitted
  rw [hpending, clicks_append, hsignals, List.append_nil]

end Hub.Hushed

/-! ## Frames without a click waiting -/

namespace Frame

variable {frame next : Frame} {update : Update} {shadows later : ShadowMemo}

theorem action_of_fit {sized : Bool} {look : Look} {window : Window}
    {commons made : Commons}
    (hfit : fit sized look window commons = .ok (frame, made)) :
    frame.action = none := by
  rw [fit_eq, map_eq_ok_iff] at hfit
  obtain ⟨placed, hlayOut, hresult⟩ := hfit
  cases hresult
  exact action_of_layOut hlayOut

theorem unclicked_of_shared {event : Decoration.Event}
    (hshared : ∀ own, event ≠ .window own)
    (hhandle : frame.handle shadows event = .ok (update, next, later)) :
    update.action = false := by
  cases event with
  | window own => exact absurd rfl (hshared own)
  | theme id =>
      cases hhandle
      rfl
  | font font =>
      cases hhandle
      rfl
  | layout left right =>
      obtain ⟨-, ⟨-, rfl, -⟩ | ⟨-, hrelayOut⟩⟩ := layout_cases hhandle
      · rfl
      · rcases relayOut_cases hrelayOut with ⟨-, rfl, -⟩ | ⟨-, rfl, -⟩ <;> rfl

end Frame

/-- No click waits to be taken, and what has happened to the frame since it was
made is a chronicle. -/
def Decoration.ActionTaken : Decoration → Prop
  | .framed frame => frame.action = none ∧ ∃ history, frame.Chronicled history
  | .foreign _ => True

namespace Decorator

/-! ## Telling a decoration -/

theorem clicks_report (update : Update) (decoration : Decoration) :
    clicks (report update decoration).1 =
      if update.action then
        decoration.takeAction.1.toList.map (.clicked decoration.window)
      else [] := by
  have hchanges : ∀ shadow repaint : Bool,
      clicks ((if shadow then [Signal.shadow decoration.window] else []) ++
        (if repaint then [Signal.repaint decoration.window] else [])) = [] := by
    intro shadow repaint
    cases shadow <;> cases repaint <;> rfl
  unfold report
  cases update.action with
  | false => exact hchanges _ _
  | true =>
      simp only [if_true, clicks_append, hchanges, List.nil_append]
      cases decoration.takeAction.1 <;> rfl

variable {decoration next : Decoration} {shadows drawn : ShadowMemo}
  {event : Decoration.Event} {signals : List Signal}

theorem clicks_of_notify_still {id : WindowId} {answer : Update}
    (hnotify : notify (.foreign (.still id answer)) shadows event =
      .ok (signals, next, drawn)) : clicks signals = [] := by
  obtain ⟨update, handled, hhandle, hreport⟩ := exists_report_of_notify hnotify
  cases hhandle
  rw [Guest.after_still] at hreport
  rw [show signals = (report answer (.foreign (.still id answer))).1 by
    rw [hreport], clicks_report]
  split <;> rfl

theorem framed_of_notify {frame : Frame}
    (hnotify : notify (.framed frame) shadows event =
      .ok (signals, next, drawn)) :
    ∃ update handled,
      frame.handle shadows event = .ok (update, handled, drawn) ∧
      next = .framed (if update.action then handled.takeAction.2 else handled) ∧
      clicks signals =
        if update.action then
          handled.action.toList.map (.clicked handled.window.id)
        else [] := by
  obtain ⟨update, _, hhandle, hreport⟩ := exists_report_of_notify hnotify
  obtain ⟨handled, rfl, hframe⟩ := Decoration.framed_of_handle hhandle
  refine ⟨update, handled, hframe, ?_, ?_⟩
  · rw [show next = (report update (.framed handled)).2 by rw [hreport]]
    unfold report
    cases update.action <;> rfl
  · rw [show signals = (report update (.framed handled)).1 by rw [hreport]]
    exact clicks_report update (.framed handled)

theorem actionTaken_of_notify (htaken : decoration.ActionTaken)
    (hnotify : notify decoration shadows event = .ok (signals, next, drawn)) :
    next.ActionTaken := by
  cases decoration with
  | foreign guest =>
      obtain ⟨_, handled, hhandle, -, hnext⟩ := notify_cases hnotify
      cases hhandle
      rcases hnext with rfl | rfl <;> trivial
  | framed frame =>
      obtain ⟨haction, history, hchronicled⟩ := htaken
      obtain ⟨update, handled, hhandle, rfl, -⟩ := framed_of_notify hnotify
      have hhandled := hchronicled.handle hhandle
      cases hreported : update.action with
      | true => exact ⟨rfl, _, hhandled.takeAction⟩
      | false =>
          have hkept := (hchronicled.clicks hhandle).unclicked hreported
          exact ⟨hkept.trans haction, _, hhandled⟩

theorem clicks_of_notify_shared (hordinary : decoration.Ordinary)
    (hshared : ∀ own, event ≠ .window own)
    (hnotify : notify decoration shadows event = .ok (signals, next, drawn)) :
    clicks signals = [] := by
  cases hordinary with
  | still id answer => exact clicks_of_notify_still hnotify
  | framed frame =>
      obtain ⟨update, handled, hhandle, -, hclicks⟩ := framed_of_notify hnotify
      rw [hclicks, Frame.unclicked_of_shared hshared hhandle]
      rfl

theorem clicks_of_notifyEach (hshared : ∀ own, event ≠ .window own)
    {entries others : List (WindowId × Decoration)}
    (hordinary : ∀ entry ∈ entries, entry.2.Ordinary)
    (hnotify : notifyEach event shadows entries =
      .ok (signals, others, drawn)) : clicks signals = [] := by
  induction entries generalizing others shadows drawn signals with
  | nil =>
      cases hnotify
      rfl
  | cons entry rest ih =>
      obtain ⟨id, decoration⟩ := entry
      simp only [notifyEach, bind_eq_ok_iff] at hnotify
      obtain ⟨⟨_, _, _⟩, hfirst, ⟨_, _, _⟩, hrest, hresult⟩ := hnotify
      cases hresult
      have hothers : ∀ entry ∈ rest, entry.2.Ordinary := fun entry hmem =>
        hordinary entry (List.mem_cons_of_mem _ hmem)
      rw [clicks_append, clicks_of_notify_shared
        (hordinary _ List.mem_cons_self) hshared hfirst, ih hothers hrest,
        List.append_nil]

/-! ## Operations that tell of no click -/

def Ordinary (decorator : Decorator) : Prop :=
  ∀ decoration ∈ decorator.decorations.values, decoration.Ordinary

variable {decorator later : Decorator} {ledger : Ledger}
  {allowed : Decorator → Operation → Prop}

theorem clicks_madeSignals (id : WindowId) (made : Option Decoration) :
    clicks (madeSignals id made) = [] := by
  cases made with
  | none => rfl
  | some decoration =>
      simp only [madeSignals]
      cases decoration.shadow?.isSome <;> rfl

theorem hushed_of_decorateAll {windows : List Window}
    (hdecorate : decorator.decorateAll windows = .ok later) :
    decorator.hub.Hushed later.hub := by
  induction windows generalizing decorator with
  | nil =>
      cases hdecorate
      exact .of_eq rfl rfl
  | cons window rest ih =>
      simp only [decorateAll, bind_eq_ok_iff] at hdecorate
      obtain ⟨⟨_, next⟩, hwindow, hrest⟩ := hdecorate
      obtain ⟨made, _, _, -, hnext, -⟩ := decorate_cases hwindow
      have hfirst : decorator.hub.Hushed next.hub := by
        rw [hnext]
        exact .emitAll _ (clicks_madeSignals window.id made)
      exact hfirst.trans (ih hrest)

theorem hushed_of_broadcast (hordinary : decorator.Ordinary)
    (hshared : ∀ own, event ≠ .window own)
    (hbroadcast : decorator.broadcast event = .ok later) :
    decorator.hub.Hushed later.hub := by
  simp only [broadcast, bind_eq_ok_iff] at hbroadcast
  obtain ⟨⟨signals, entries, shadows⟩, hnotify, hresult⟩ := hbroadcast
  cases hresult
  refine .emitAll _ (clicks_of_notifyEach hshared (fun entry hentry => ?_)
    hnotify)
  exact hordinary entry.2 (List.mem_map_of_mem hentry)

theorem hushed_of_applyPreferences {workspace : Workspace}
    {before : BorderSize} {layoutChanged : Bool}
    (hordinary : decorator.Ordinary)
    (happly : decorator.applyPreferences workspace before layoutChanged =
      .ok later) : decorator.hub.Hushed later.hub := by
  rcases applyPreferences_cases happly with
    ⟨-, hdecorate⟩ | ⟨-, ⟨-, hbroadcast⟩ | ⟨-, rfl⟩⟩
  · exact hushed_of_decorateAll hdecorate
  · exact hushed_of_broadcast hordinary (by simp) hbroadcast
  · exact .of_eq rfl rfl

theorem Ready.hushed {ready : Decorator} {operation : Operation}
    (hready : decorator.Ready operation ready) :
    decorator.hub.Hushed ready.hub :=
  .of_tells hready.telling

theorem Ready.ordinary {ready : Decorator} {operation : Operation}
    (hready : decorator.Ready operation ready)
    (hordinary : decorator.Ordinary) : ready.Ordinary := by
  unfold Ordinary
  rw [hready.decorations_eq]
  exact hordinary

theorem hushed_of_respond {workspace : Workspace} {event : Event}
    (hordinary : decorator.Ordinary) (hevent : event.window? = none)
    (hrespond : decorator.respond workspace event = .ok later) :
    decorator.hub.Hushed later.hub := by
  cases event with
  | window id own => cases hevent
  | theme id =>
      have hready := @Ready.theme decorator workspace id
      exact hready.hushed.trans
        (hushed_of_broadcast (hready.ordinary hordinary) (by simp) hrespond)
  | font family size =>
      obtain ⟨preferences, pushed, hpush, hbroadcast⟩ := font_cases hrespond
      have hready := Ready.font workspace family size hpush
      exact hready.hushed.trans
        (hushed_of_broadcast (hready.ordinary hordinary) (by simp) hbroadcast)
  | dpi dpi =>
      exact (Ready.dpi workspace dpi).hushed.trans
        (hushed_of_decorateAll hrespond)
  | declared =>
      have hready := @Ready.declared decorator workspace
      exact hready.hushed.trans
        (hushed_of_applyPreferences (hready.ordinary hordinary) hrespond)
  | reconfigured =>
      rcases reconfigure_cases hrespond with
        ⟨hstate, hdecorate⟩ | ⟨hstate, happly⟩
      · exact (Ready.cleared workspace hstate).hushed.trans
          (hushed_of_decorateAll hdecorate)
      · have hready := Ready.reread workspace hstate
        exact hready.hushed.trans
          (hushed_of_applyPreferences (hready.ordinary hordinary) happly)

/-! ## Runs -/

def ActionsTaken (decorator : Decorator) : Prop :=
  ∀ id decoration, decorator.decorations.find? id = some decoration →
    decoration.ActionTaken

theorem Makes.actionTaken {host : Host} {look : Look} {window : Window}
    (hmakes : Makes host look window decoration) : decoration.ActionTaken := by
  obtain ⟨given, made, hcreate⟩ := hmakes
  rcases host_create_cases hcreate with ⟨habsurd, -⟩ | ⟨live, -, -, hbackend⟩
  · cases habsurd
  · rcases Backend.create_cases hbackend with ⟨habsurd, -⟩ |
      ⟨-, sized, frame, -, hdecoration, hfit⟩ |
      ⟨-, invite, guest?, shapes, -, -, hdecoration, -⟩
    · cases habsurd
    · cases hdecoration
      exact ⟨Frame.action_of_fit hfit, [], .fit hfit⟩
    · obtain ⟨guest, -, rfl⟩ := Option.map_eq_some_iff.mp hdecoration.symm
      trivial

theorem Told.actionTaken
    (htold : Told event shadows drawn signals decoration next)
    (htaken : decoration.ActionTaken) : next.ActionTaken := by
  obtain ⟨before, after, told, hnotify, -⟩ := htold
  exact actionTaken_of_notify htaken hnotify

theorem Run.actionsTaken (hrun : Run allowed decorator ledger) :
    decorator.ActionsTaken := by
  unfold ActionsTaken
  exact hrun.forall_decorations Makes.actionTaken Told.actionTaken

theorem Run.clicks_pending (hrun : Run allowed decorator ledger) :
    clicks decorator.hub.pending = [] := by
  induction hrun with
  | new catalog store properties => rfl
  | perform operation _ _ hperform ih =>
      cases operation with
      | start session workspace =>
          obtain ⟨done, -, rfl⟩ := start_cases hperform
          rfl
      | handle workspace event =>
          obtain ⟨done, -, rfl⟩ := handle_cases hperform
          rfl
      | decorate window =>
          rw [Decorator.perform, map_decorate] at hperform
          rw [(hushed_of_decorateAll hperform).clicks_pending, ih]
      | undecorate id =>
          cases hperform
          exact ih
      | write group key value =>
          cases hperform
          exact ih
      | setProperties properties =>
          cases hperform
          exact ih

def CanClick (decorator : Decorator) (id : WindowId) (point : Point) : Prop :=
  ∃ frame history side index,
    decorator.decorations.find? id = some (.framed frame) ∧
    frame.Chronicled history ∧ frame.Clickable history point side index

structure TellsClicks (decorator : Decorator) (event : Event)
    (signals : List Signal) : Prop where
  clicked : ∀ id point, event = .window id (.pointerReleased point) →
    ∀ frame, decorator.decorations.find? id = some (.framed frame) →
    ∀ history, frame.Chronicled history →
    (∃ side index, frame.Clickable history point side index) →
    ∃ side index button, frame.Counts history point side index ∧
      (frame.group side).buttons[index]? = some button ∧
      clicks signals = [.clicked id button.kind]
  missed : decorator.Ordinary →
    ∀ id point, event = .window id (.pointerReleased point) →
      ¬ decorator.CanClick id point → clicks signals = []
  silent : decorator.Ordinary →
    (∀ id point, event ≠ .window id (.pointerReleased point)) →
      clicks signals = []

theorem TellsClicks.of_unframed {id : WindowId} {own : WindowEvent}
    (hframe : ∀ frame, decorator.decorations.find? id ≠ some (.framed frame))
    (hsilent : decorator.Ordinary → clicks signals = []) :
    decorator.TellsClicks (.window id own) signals where
  clicked := by
    rintro _ point ⟨⟩ frame hfind
    exact absurd hfind (hframe frame)
  missed hordinary _ _ _ _ := hsilent hordinary
  silent hordinary _ := hsilent hordinary

theorem TellsClicks.of_framed {id : WindowId} {own : WindowEvent}
    {frame : Frame}
    (hfind : decorator.decorations.find? id = some (.framed frame))
    (howned : Owned id (.framed frame))
    (htaken : decorator.ActionsTaken)
    (hnotify : notify (.framed frame) shadows (.window own) =
      .ok (signals, next, drawn)) :
    decorator.TellsClicks (.window id own) signals := by
  obtain ⟨update, handled, hhandle, hnext, hclicks⟩ := framed_of_notify hnotify
  have hwindow : handled.window.id = id := by
    have hnamed := (Told.owned ⟨_, _, _, hnotify, .refl, .refl,
      List.Subset.refl _⟩ howned)
    obtain ⟨backend, hmade⟩ := hnamed
    rw [← hmade.window_eq, hnext]
    split <;> rfl
  have haccount : ∀ history, frame.Chronicled history →
      frame.Clicks history (.window own) update handled :=
    fun history hchronicled => hchronicled.clicks hhandle
  refine ⟨?_, ?_, ?_⟩
  · rintro _ point ⟨⟩ _ hsame history hchronicled hclickable
    rw [hfind] at hsame
    cases hsame
    have hframe := haccount history hchronicled
    have hreported := (hframe.reported_iff point rfl).mpr hclickable
    obtain ⟨side, index, button, hcounts, hbutton, hkind⟩ :=
      hframe.taken point rfl hreported
    refine ⟨side, index, button, hcounts, hbutton, ?_⟩
    rw [hclicks, if_pos hreported, hwindow,
      show handled.action = some button.kind from hkind]
    rfl
  · rintro - _ point ⟨⟩ hcannot
    obtain ⟨-, history, hchronicled⟩ := htaken id _ hfind
    rw [hclicks, if_neg]
    intro hreported
    obtain ⟨side, index, hclickable⟩ :=
      ((haccount history hchronicled).reported_iff point rfl).mp hreported
    exact hcannot
      ⟨frame, history, side, index, hfind, hchronicled, hclickable⟩
  · intro _ hother
    obtain ⟨-, history, hchronicled⟩ := htaken id _ hfind
    have hquiet := (haccount history hchronicled).silent fun point hevent =>
      hother id point (by cases hevent; rfl)
    rw [hclicks, hquiet]
    rfl

theorem TellsClicks.append_left {event : Event} {earlier : List Signal}
    (hearlier : clicks earlier = [])
    (htells : decorator.TellsClicks event signals) :
    decorator.TellsClicks event (earlier ++ signals) := by
  have hclicks : clicks (earlier ++ signals) = clicks signals := by
    rw [clicks_append, hearlier, List.nil_append]
  constructor
  · rw [hclicks]
    exact htells.clicked
  · rw [hclicks]
    exact htells.missed
  · rw [hclicks]
    exact htells.silent

theorem Run.tellsClicks_of_dispatch (hrun : Run allowed decorator ledger)
    {id : WindowId} {own : WindowEvent}
    (hdispatch : decorator.dispatch id (.window own) = .ok later) :
    ∃ signals, later.hub = decorator.hub.emitAll signals ∧
      decorator.TellsClicks (.window id own) signals := by
  rcases dispatch_cases hdispatch with ⟨hnone, rfl⟩ |
    ⟨decoration, next, signals, shadows, hfind, hnotify, rfl⟩
  · refine ⟨[], (Hub.emitAll_nil _).symm, .of_unframed ?_ fun _ => rfl⟩
    simp [hnone]
  · refine ⟨signals, rfl, ?_⟩
    have howned := hrun.forall_decorations Makes.owned Told.owned id _ hfind
    cases decoration with
    | framed frame => exact .of_framed hfind howned hrun.actionsTaken hnotify
    | foreign guest =>
        refine .of_unframed (by simp [hfind]) fun hordinary => ?_
        have hvalue : .foreign guest ∈ decorator.decorations.values :=
          List.mem_map_of_mem (Keyed.mem_entries_of_find? hfind)
        cases hordinary _ hvalue with
        | still window answer => exact clicks_of_notify_still hnotify

/-- The signals delivered with an event tell of exactly the pairs of a press
and a release on one button, unless guests tell of clicks of their own, and
afterwards none is waiting to be taken. -/
theorem clicks_of_run (hrun : Run allowed decorator ledger)
    {workspace : Workspace} {event : Event}
    (hhandle : decorator.handle workspace event = .ok later) :
    (∀ (frame handled : Frame) (history : List Frame.Moment)
        (event : Decoration.Event) (update : Update)
        (shadows drawn : ShadowMemo), frame.Chronicled history →
      frame.handle shadows event = .ok (update, handled, drawn) →
        frame.Clicks history event update handled) ∧
    decorator.ActionsTaken ∧ later.ActionsTaken ∧
    ∃ signals, later.hub.delivered = decorator.hub.delivered ++ signals ∧
      decorator.TellsClicks event signals := by
  have htaken : later.ActionsTaken := by
    unfold ActionsTaken
    exact (performed_of_handle hhandle).forall_decorations Makes.actionTaken
      Told.actionTaken hrun.actionsTaken
  refine ⟨fun frame handled history event update shadows drawn hchronicled
    hframe => hchronicled.clicks hframe, hrun.actionsTaken, htaken, ?_⟩
  obtain ⟨done, hrespond, rfl⟩ := handle_cases hhandle
  have hpending := hrun.clicks_pending
  by_cases hevent : event.window? = none
  · have hdelivered : done.hub.delivered = decorator.hub.delivered := by
      obtain ⟨ready, signals, hready, houtcome⟩ := outcome_of_respond hrespond
      obtain ⟨commons, decorations, hdone⟩ := houtcome.eq
      rw [hdone]
      exact hready.hushed.delivered_eq
    refine ⟨done.hub.pending, ?_, ?_⟩
    · show done.hub.delivered ++ done.hub.pending = _
      rw [hdelivered]
    · have hsilent : decorator.Ordinary → clicks done.hub.pending = [] := by
        intro hordinary
        have hhushed := hushed_of_respond hordinary hevent hrespond
        rw [hhushed.clicks_pending, hpending]
      refine ⟨?_, fun hordinary _ _ _ _ => hsilent hordinary,
        fun hordinary _ => hsilent hordinary⟩
      rintro id point rfl
      cases hevent
  · cases event with
    | window id own =>
        obtain ⟨signals, hhub, htells⟩ := hrun.tellsClicks_of_dispatch hrespond
        refine ⟨decorator.hub.pending ++ signals, ?_,
          htells.append_left hpending⟩
        show done.hub.delivered ++ done.hub.pending = _
        rw [hhub]
        rfl
    | _ => exact absurd rfl hevent

/-- The close button is pressed and moves as its window gets narrower, and the
pointer follows it. -/
theorem clicks_of_moved_button :
    ∃ decorator ledger later frame history side index button,
      Run (fun _ _ => True) decorator ledger ∧
      decorator.handle
        { windows := [{ id := 1, width := 800, height := 600 }] }
        (.window 1 (.pointerReleased ⟨620, 10⟩)) = .ok later ∧
      decorator.decorations.find? 1 = some (.framed frame) ∧
      frame.Chronicled history ∧
      frame.Counts history ⟨620, 10⟩ side index ∧
      (frame.group side).buttons[index]? = some button ∧
      button.kind = .close ∧
      later.hub.delivered = decorator.hub.delivered ++
        [.repaint 1, .clicked 1 .close] ∧
      later.ActionsTaken := by
  obtain ⟨decorator, ledger, later, frame, hrun, hhandle, hfind, hpressed,
      hrect, hdelivered⟩ :
      ∃ decorator ledger later frame,
        Run (fun _ _ => True) decorator ledger ∧
        decorator.handle
          { windows := [{ id := 1, width := 800, height := 600 }] }
          (.window 1 (.pointerReleased ⟨620, 10⟩)) = .ok later ∧
        decorator.decorations.find? 1 = some (.framed frame) ∧
        (frame.group .right).isMarked .pressed 2 = true ∧
        (frame.group .right).rects[2]? = some ⟨608, 4, 30, 30⟩ ∧
        later.hub.delivered = decorator.hub.delivered ++
          [.repaint 1, .clicked 1 .close] :=
    ⟨_, _, _, _,
      .perform (.handle
          { windows := [{ id := 1, width := 800, height := 600 }] }
          (.window 1 (.resized 640 480)))
        (.perform (.handle
            { windows := [{ id := 1, width := 800, height := 600 }] }
            (.window 1 (.pointerPressed ⟨780, 10⟩)))
          (.perform (.start {}
              { windows := [{ id := 1, width := 800, height := 600 }] })
            (.new .standard {} .empty) trivial (by exact rfl))
          trivial (by exact rfl))
        trivial (by exact rfl),
      by exact rfl, by exact rfl, by exact rfl, by exact rfl, by exact rfl⟩
  obtain ⟨-, htaken, hlater, signals, hsignals, htells⟩ :=
    clicks_of_run hrun hhandle
  obtain ⟨-, history, hchronicled⟩ := htaken 1 _ hfind
  have hclickable : frame.Clickable history ⟨620, 10⟩ .right 2 :=
    ⟨(hchronicled.isMarked_iff .pressed .right 2).mp hpressed, _, hrect, by decide⟩
  obtain ⟨side, index, button, hcounts, hbutton, hclicks⟩ :=
    htells.clicked 1 _ rfl frame hfind history hchronicled
      ⟨.right, 2, hclickable⟩
  have hkind : button.kind = .close := by
    rw [hdelivered, List.append_cancel_left_eq] at hsignals
    rw [← hsignals] at hclicks
    simpa [clicks, Signal.isClick, eq_comm] using hclicks
  exact ⟨decorator, ledger, later, frame, history, side, index, button, hrun,
    hhandle, hfind, hchronicled, hcounts, hbutton, hkind, hdelivered, hlater⟩

end Decorator
end WindowChrome
