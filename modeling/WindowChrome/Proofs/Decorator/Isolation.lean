import WindowChrome.Proofs.Decorator.Assignment
import WindowChrome.Proofs.Frame.Renumbering

/-!
# Windows do not get in each other's way

An event of a window goes to its decoration alone.  All that decorations share
is the memo of shadows, so events of two windows can be dealt with in either
order.
-/

namespace WindowChrome
namespace Decorator

variable {decorator later : Decorator} {ledger : Ledger}
  {allowed : Decorator → Operation → Prop}

/-! ## Shadows that were made by the memo -/

theorem Ready.issued {ready : Decorator} {operation : Operation}
    (hready : decorator.Ready operation ready) {drawing : Shadow.Drawn}
    (hissued : decorator.commons.shadows.Issued drawing) :
    ready.commons.shadows.Issued drawing := by
  cases hready with
  | start session workspace => exact hissued
  | window workspace id event => exact hissued
  | theme workspace id => exact hissued
  | font workspace family size hpush => exact hissued
  | dpi workspace dpi => exact hissued.clear
  | declared workspace => exact hissued
  | reread workspace hstate => exact hissued
  | cleared workspace hstate => exact hissued.clear

theorem Told.issued {event : Decoration.Event} {shadows drawn : ShadowMemo}
    {signals : List Signal} {decoration next : Decoration}
    (htold : Told event shadows drawn signals decoration next)
    (hshadows : shadows.WellFormed) (hissued : decoration.IssuedBy shadows) :
    next.IssuedBy drawn := by
  obtain ⟨before, after, told, hnotify, hbefore, hafter, -⟩ := htold
  obtain ⟨update, handled, hhandle, -, hnext⟩ := notify_cases hnotify
  have hhandled := (hissued.grown hbefore).handle
    (hbefore.wellFormed hshadows) hhandle
  rcases hnext with rfl | rfl
  · exact hhandled.grown hafter
  · exact hhandled.takeAction.grown hafter

def AllIssued (decorator : Decorator) : Prop :=
  ∀ id decoration, decorator.decorations.find? id = some decoration →
    decoration.IssuedBy decorator.commons.shadows

theorem Outcome.allIssued {ready : Decorator} {windows : List Window}
    {signals : List Signal} (houtcome : ready.Outcome windows signals later)
    (hshadows : ready.commons.shadows.WellFormed)
    (hissued : ready.AllIssued) : later.AllIssued := by
  intro id next hnext
  by_cases hid : id ∈ windows.map (·.id)
  · obtain ⟨-, hheld, -⟩ := houtcome.made id hid next hnext
    exact hheld.issued (houtcome.grown.wellFormed hshadows)
  · obtain ⟨decoration, hfind, hcases⟩ := houtcome.told id hid next hnext
    have hbefore := hissued id decoration hfind
    rcases hcases with hsame | ⟨event, htold⟩
    · rw [hsame]
      exact hbefore.grown houtcome.grown
    · exact htold.issued hshadows hbefore

theorem Run.allIssued (hrun : Run allowed decorator ledger) :
    decorator.AllIssued := by
  induction hrun with
  | new catalog store properties =>
      intro id decoration hfind
      cases hfind
  | @perform decorator _ _ operation hrun _ hperform ih =>
      have hshadows := hrun.memo_wellFormed
      cases performed_of_perform hperform with
      | turned hready houtcome =>
          apply houtcome.allIssued (hready.memo_wellFormed hshadows)
          intro id decoration hfind frame hframe
          rw [hready.decorations_eq] at hfind
          exact hready.issued (ih id decoration hfind frame hframe)
      | decorated window hremade =>
          exact hremade.outcome.allIssued hshadows ih
      | undecorated id =>
          intro other decoration hfind
          exact ih other decoration (Keyed.find?_of_find?_erase hfind)
      | written group key value => exact ih
      | spared properties => exact ih

theorem Run.unrestricted (hrun : Run allowed decorator ledger) :
    Run (fun _ _ => True) decorator ledger := by
  induction hrun with
  | new catalog store properties => exact .new catalog store properties
  | perform operation _ _ hperform ih =>
      exact .perform operation ih trivial hperform

/-! ## An event of a window -/

/-- With what an event of a window comes to: another decoration of it, unless
it has none, another memo, and signals, which are delivered. -/
def amended (decorator : Decorator) (id : WindowId) (signals : List Signal)
    (next? : Option Decoration) (shadows : ShadowMemo) : Decorator :=
  { decorator with
    hub := (decorator.hub.emitAll signals).flush.2
    commons := { decorator.commons with shadows }
    decorations := match next? with
      | none => decorator.decorations
      | some next => decorator.decorations.insert id next }

def asks? (decorator : Decorator) (id : WindowId) (event : WindowEvent) :
    Option Shape :=
  (decorator.decorations.find? id).bind (·.asks? event)

theorem asks?_of_find?_eq {base : Decorator} {id : WindowId}
    (hfind : base.decorations.find? id = decorator.decorations.find? id)
    (event : WindowEvent) : base.asks? id event = decorator.asks? id event := by
  unfold asks?
  rw [hfind]

section

variable {id : WindowId} {signals : List Signal} {next? : Option Decoration}

theorem find?_amended
    (hsome : next?.isSome = (decorator.decorations.find? id).isSome)
    (shadows : ShadowMemo) (other : WindowId) :
    (decorator.amended id signals next? shadows).decorations.find? other =
      if id = other then next? else decorator.decorations.find? other := by
  cases next? with
  | some next => exact Keyed.find?_insert _ id other next
  | none =>
      have hnone : decorator.decorations.find? id = none := by simpa using hsome
      split
      · next hother =>
          rw [← hother]
          exact hnone
      · rfl

theorem keys_amended
    (hsome : next?.isSome = (decorator.decorations.find? id).isSome)
    (shadows : ShadowMemo) :
    (decorator.amended id signals next? shadows).decorations.keys =
      decorator.decorations.keys := by
  cases next? with
  | none => rfl
  | some next =>
      obtain ⟨decoration, hfind⟩ : ∃ decoration,
          decorator.decorations.find? id = some decoration :=
        Option.isSome_iff_exists.mp hsome.symm
      show (decorator.decorations.insert id next).keys = _
      rw [Keyed.keys_insert, if_pos (Keyed.mem_keys_of_find? hfind)]

end

theorem report_renumber (numbers : Equiv.Perm Nat) (update : Update)
    (decoration : Decoration) :
    report update (decoration.renumber numbers) =
      ((report update decoration).1,
        (report update decoration).2.renumber numbers) := by
  unfold report
  rw [Decoration.window_renumber]
  cases update.action with
  | false => rfl
  | true => cases decoration <;> rfl

theorem notify_renumber {decoration next : Decoration} {event : WindowEvent}
    {shadows drawn other : ShadowMemo} {signals : List Signal}
    {numbers : Equiv.Perm Nat} (hordinary : decoration.Ordinary)
    (hnotify : notify decoration shadows (.window event) =
      .ok (signals, next, drawn))
    (hfixed : decoration.FixedBy numbers)
    (hanswer : ∀ shape ∈ decoration.asks? event,
      (other.get shape).1 = (shadows.get shape).1.renumber numbers) :
    drawn = shadows.asked (decoration.asks? event) ∧
      notify decoration other (.window event) =
        .ok (signals, next.renumber numbers,
          other.asked (decoration.asks? event)) := by
  simp only [notify, bind_eq_ok_iff] at hnotify
  obtain ⟨⟨update, handled, _⟩, hhandle, hresult⟩ := hnotify
  cases hresult
  obtain ⟨hdrawn, hother⟩ :=
    Decoration.handle_renumber hordinary hhandle hfixed hanswer
  refine ⟨hdrawn, ?_⟩
  simp only [notify, hother, bind, Except.bind]
  rw [report_renumber]
  rfl

def OfWindow (id : WindowId) (signals : List Signal) : Prop :=
  ∀ signal ∈ signals, signal.window? = some id

theorem OfWindow.filter_eq_nil {id other : WindowId} {signals : List Signal}
    (hsignals : OfWindow id signals) (hother : other ≠ id) :
    signals.filter (·.window? = some other) = [] := by
  rw [List.filter_eq_nil_iff]
  intro signal hsignal
  rw [hsignals signal hsignal, decide_eq_true_iff, Option.some.injEq]
  exact Ne.symm hother

structure Stepped (decorator : Decorator) (id : WindowId)
    (signals : List Signal) (next? : Option Decoration) (shadows : ShadowMemo)
    (later : Decorator) : Prop where
  eq : later = decorator.amended id signals next? shadows
  isSome_eq : next?.isSome = (decorator.decorations.find? id).isSome
  ofWindow : OfWindow id signals
  nothing : next? = none →
    signals = [] ∧ shadows = decorator.commons.shadows

theorem Stepped.find?_self {id : WindowId} {signals : List Signal}
    {next? : Option Decoration} {shadows : ShadowMemo}
    (hstepped : decorator.Stepped id signals next? shadows later) :
    later.decorations.find? id = next? := by
  rw [hstepped.eq, find?_amended hstepped.isSome_eq, if_pos rfl]

section

variable {workspace : Workspace} {id : WindowId} {event : WindowEvent}

theorem stepped_of_none (hnone : decorator.decorations.find? id = none) :
    ∃ later, decorator.handle workspace (.window id event) = .ok later ∧
      decorator.Stepped id [] none decorator.commons.shadows later := by
  refine ⟨decorator.flush.2, ?_, ?_⟩
  · simp only [handle, respond, dispatch, hnone]
    rfl
  · constructor
    · simp only [amended, Hub.emitAll_nil]
      rfl
    · rw [hnone]
    · exact fun signal hsignal => absurd hsignal List.not_mem_nil
    · exact fun _ => ⟨rfl, rfl⟩

theorem stepped_of_notify {decoration next : Decoration}
    {signals : List Signal} {shadows : ShadowMemo}
    (hfind : decorator.decorations.find? id = some decoration)
    (hnotify : notify decoration decorator.commons.shadows (.window event) =
      .ok (signals, next, shadows))
    (hwindow : next.window = id) :
    ∃ later, decorator.handle workspace (.window id event) = .ok later ∧
      decorator.Stepped id signals (some next) shadows later := by
  refine ⟨decorator.amended id signals (some next) shadows, ?_, ?_⟩
  · simp only [handle, respond, dispatch, hfind, hnotify]
    rfl
  · refine ⟨rfl, by rw [hfind]; rfl, ?_, fun hnone => by cases hnone⟩
    intro signal hsignal
    obtain ⟨update, handled, -, hreport, hnext⟩ := notify_cases hnotify
    rw [hreport] at hsignal
    rw [window_of_mem_report hsignal, ← window_of_handled hnext, hwindow]

theorem Run.exists_notify (hrun : Run allowed decorator ledger)
    {decoration : Decoration}
    (hfind : decorator.decorations.find? id = some decoration)
    (hhandle : decorator.handle workspace (.window id event) = .ok later) :
    ∃ next signals shadows,
      notify decoration decorator.commons.shadows (.window event) =
        .ok (signals, next, shadows) ∧
      next.window = id := by
  obtain ⟨done, hdispatch, hlater⟩ := handle_cases hhandle
  rcases dispatch_cases hdispatch with ⟨hnone, -⟩ |
    ⟨other, next, signals, shadows, hother, hnotify, rfl⟩
  · rw [hfind] at hnone
    cases hnone
  · rw [hfind] at hother
    cases hother
    have hnext : later.decorations.find? id = some next := by
      rw [hlater]
      show (decorator.decorations.insert id next).find? id = some next
      rw [Keyed.find?_insert, if_pos rfl]
    obtain ⟨backend, hmade⟩ :=
      (performed_of_handle hhandle).forall_decorations Makes.owned Told.owned
        (hrun.forall_decorations Makes.owned Told.owned) id next hnext
    exact ⟨next, signals, shadows, hnotify, hmade.window_eq⟩

/-- What an event of a window in a run comes to.  It comes to the same for any
other decorator that has the same decoration for the window, up to the numbers
that the other memo gives, as long as the decoration is an ordinary one. -/
theorem Run.stepped (hrun : Run allowed decorator ledger)
    (hhandle : decorator.handle workspace (.window id event) = .ok later) :
    ∃ signals next? shadows,
      decorator.Stepped id signals next? shadows later ∧
      ∀ (base : Decorator) (numbers : Equiv.Perm Nat),
        (∀ decoration, decorator.decorations.find? id = some decoration →
          decoration.Ordinary ∧ decoration.FixedBy numbers) →
        base.decorations.find? id = decorator.decorations.find? id →
        (∀ shape ∈ decorator.asks? id event,
          (base.commons.shadows.get shape).1 =
            (decorator.commons.shadows.get shape).1.renumber numbers) →
        shadows = decorator.commons.shadows.asked (decorator.asks? id event) ∧
        ∃ moved, base.handle workspace (.window id event) = .ok moved ∧
          base.Stepped id signals (next?.map (·.renumber numbers))
            (base.commons.shadows.asked (decorator.asks? id event)) moved := by
  cases hfind : decorator.decorations.find? id with
  | none =>
      have hasks : decorator.asks? id event = none := by
        unfold asks?
        rw [hfind]
        rfl
      obtain ⟨same, hsame, hstep⟩ :=
        @stepped_of_none decorator workspace id event hfind
      rw [hhandle, Except.ok.injEq] at hsame
      rw [← hsame] at hstep
      refine ⟨[], none, _, hstep, fun base numbers _ hbase _ => ?_⟩
      rw [hasks]
      exact ⟨rfl, stepped_of_none hbase⟩
  | some decoration =>
      have hasks : decorator.asks? id event = decoration.asks? event := by
        unfold asks?
        rw [hfind]
        rfl
      obtain ⟨next, signals, shadows, hnotify, hwindow⟩ :=
        hrun.exists_notify hfind hhandle
      obtain ⟨same, hsame, hstep⟩ :=
        @stepped_of_notify decorator workspace id event _ _ _ _ hfind hnotify
          hwindow
      rw [hhandle, Except.ok.injEq] at hsame
      rw [← hsame] at hstep
      refine ⟨signals, some next, shadows, hstep, ?_⟩
      intro base numbers hdecoration hbase hanswer
      obtain ⟨hordinary, hfixed⟩ := hdecoration decoration rfl
      rw [hasks] at hanswer ⊢
      obtain ⟨hdrawn, hmoved⟩ :=
        notify_renumber hordinary hnotify hfixed hanswer
      have hmovedWindow : (next.renumber numbers).window = id := by
        rw [Decoration.window_renumber, hwindow]
      exact ⟨hdrawn, stepped_of_notify hbase hmoved hmovedWindow⟩

end

/-! ## One event -/

structure Isolated (decorator : Decorator) (id : WindowId)
    (signals : List Signal) (later : Decorator) : Prop where
  eq : later = { decorator with
    hub := { decorator.hub with
      pending := []
      delivered :=
        decorator.hub.delivered ++ decorator.hub.pending ++ signals }
    commons := { decorator.commons with shadows := later.commons.shadows }
    decorations := later.decorations }
  keys_eq : later.decorations.keys = decorator.decorations.keys
  find?_eq : ∀ other, other ≠ id →
    later.decorations.find? other = decorator.decorations.find? other
  signals_own : ∀ signal ∈ signals, signal = .shadow id ∨
    signal = .repaint id ∨ ∃ button, signal = .clicked id button
  /-- A window that is not decorated is passed over.  Signals that were pending
  are delivered all the same. -/
  undecorated : decorator.decorations.find? id = none →
    signals = [] ∧ later = decorator.flush.2 ∧
      (decorator.hub.pending = [] → later = decorator)

theorem signal_cases {signal : Signal} {id : WindowId}
    (hwindow : signal.window? = some id) :
    signal = .shadow id ∨ signal = .repaint id ∨
      ∃ button, signal = .clicked id button := by
  cases signal with
  | shadow window =>
      cases hwindow
      exact .inl rfl
  | repaint window =>
      cases hwindow
      exact .inr (.inl rfl)
  | clicked window button =>
      cases hwindow
      exact .inr (.inr ⟨button, rfl⟩)
  | _ => cases hwindow

theorem flush_of_nil (hpending : decorator.hub.pending = []) :
    decorator.flush.2 = decorator := by
  have hhub : decorator.hub.flush.2 = decorator.hub := by
    simp only [Hub.flush, hpending, List.append_nil]
    rw [← hpending]
  simp only [flush, hhub]

theorem Stepped.isolated {id : WindowId} {signals : List Signal}
    {next? : Option Decoration} {shadows : ShadowMemo}
    (hstepped : decorator.Stepped id signals next? shadows later) :
    decorator.Isolated id signals later where
  eq := by
    rw [hstepped.eq]
    simp only [amended, Hub.emitAll, Hub.flush, List.append_assoc]
  keys_eq := by
    rw [hstepped.eq]
    exact keys_amended hstepped.isSome_eq _
  find?_eq other hother := by
    rw [hstepped.eq, find?_amended hstepped.isSome_eq,
      if_neg (Ne.symm hother)]
  signals_own signal hsignal :=
    signal_cases (hstepped.ofWindow signal hsignal)
  undecorated hnone := by
    have hnext : next? = none := by
      have hsome := hstepped.isSome_eq
      rw [hnone] at hsome
      simpa using hsome
    obtain ⟨hsignals, hshadows⟩ := hstepped.nothing hnext
    have hlater : later = decorator.flush.2 := by
      rw [hstepped.eq, hsignals, hshadows, hnext]
      simp only [amended, Hub.emitAll_nil]
      rfl
    exact ⟨hsignals, hlater, fun hpending =>
      hlater.trans (flush_of_nil hpending)⟩

/-! ## Two events -/

/-- Two decorators are the same, but for the numbers of shadows and for the
order of signals that are of different windows. -/
structure AlikeUpTo (numbers : Equiv.Perm Nat)
    (decorator other : Decorator) : Prop where
  eq : other = { decorator with
    hub := { decorator.hub with delivered := other.hub.delivered }
    commons := { decorator.commons with shadows := other.commons.shadows }
    decorations := other.decorations }
  keys_eq : other.decorations.keys = decorator.decorations.keys
  find?_eq : ∀ id, other.decorations.find? id =
    (decorator.decorations.find? id).map (·.renumber numbers)
  shadows : decorator.commons.shadows.Renumbered numbers other.commons.shadows
  delivered_eq : ∀ id,
    other.hub.delivered.filter (·.window? = some id) =
      decorator.hub.delivered.filter (·.window? = some id)

theorem alikeUpTo_of_stepped {numbers : Equiv.Perm Nat}
    {id other : WindowId} {told otherTold : List Signal}
    {next? otherNext? : Option Decoration}
    {laterShadows lastShadows middleShadows swappedShadows : ShadowMemo}
    {middle last swapped : Decorator} (hother : other ≠ id)
    (hfixed : ∀ window decoration,
      decorator.decorations.find? window = some decoration →
        decoration.FixedBy numbers)
    (hlater : decorator.Stepped id told next? laterShadows later)
    (hlast : later.Stepped other otherTold otherNext? lastShadows last)
    (hmiddle : decorator.Stepped other otherTold
      (otherNext?.map (·.renumber numbers)) middleShadows middle)
    (hswapped : middle.Stepped id told (next?.map (·.renumber numbers))
      swappedShadows swapped)
    (hshadows : lastShadows.Renumbered numbers swappedShadows) :
    last.AlikeUpTo numbers swapped := by
  have hfound := hlater.isolated.find?_eq
  have hotherFound := hlast.isolated.find?_eq
  have hmiddleFound := hmiddle.isolated.find?_eq
  have hswappedFound := hswapped.isolated.find?_eq
  constructor
  · rw [hswapped.eq, hmiddle.eq, hlast.eq, hlater.eq]
    rfl
  · rw [hswapped.isolated.keys_eq, hmiddle.isolated.keys_eq,
      hlast.isolated.keys_eq, hlater.isolated.keys_eq]
  · intro window
    by_cases hid : window = id
    · rw [hid, hswapped.find?_self, hotherFound id (Ne.symm hother),
        hlater.find?_self]
    · by_cases hwindow : window = other
      · rw [hwindow, hswappedFound other hother, hmiddle.find?_self,
          hlast.find?_self]
      · rw [hswappedFound window hid, hmiddleFound window hwindow,
          hotherFound window hwindow, hfound window hid]
        cases hfind : decorator.decorations.find? window with
        | none => rfl
        | some decoration =>
            rw [Option.map_some, Decoration.renumber_eq_self
              (hfixed window decoration hfind)]
  · rw [hlast.eq, hswapped.eq]
    exact hshadows
  · intro window
    have hdelivered : last.hub.delivered = decorator.hub.delivered ++
        decorator.hub.pending ++ told ++ otherTold := by
      rw [hlast.eq, hlater.eq]
      simp [amended, Hub.emitAll, Hub.flush]
    have hswappedDelivered : swapped.hub.delivered = decorator.hub.delivered ++
        decorator.hub.pending ++ otherTold ++ told := by
      rw [hswapped.eq, hmiddle.eq]
      simp [amended, Hub.emitAll, Hub.flush]
    rw [hdelivered, hswappedDelivered]
    simp only [List.filter_append]
    by_cases hid : window = id
    · have hnone := hlast.ofWindow.filter_eq_nil
        (hid ▸ Ne.symm hother : window ≠ other)
      rw [hnone, List.append_nil, List.append_nil]
    · rw [hlater.ofWindow.filter_eq_nil hid, List.append_nil, List.append_nil]

theorem exists_of_window? {event : Event} {id : WindowId}
    (hwindow : event.window? = some id) :
    ∃ happened, event = .window id happened := by
  cases event with
  | window window happened =>
      cases hwindow
      exact ⟨happened, rfl⟩
  | _ => cases hwindow

/-- An event of a window changes the decoration of that window and nothing
else, and all signals emitted are for it.  So events of two windows with
ordinary decorations might as well have come in the other order. -/
theorem window_events_independent (hrun : Run allowed decorator ledger)
    {workspace : Workspace} {event : Event} {id : WindowId}
    (hwindow : event.window? = some id)
    (hhandle : decorator.handle workspace event = .ok later) :
    (∃ signals, decorator.Isolated id signals later) ∧
    ∀ (otherWorkspace : Workspace) (otherEvent : Event) (other : WindowId)
      (last : Decorator), otherEvent.window? = some other → other ≠ id →
      (∀ window decoration, window = id ∨ window = other →
        decorator.decorations.find? window = some decoration →
          decoration.Ordinary) →
      later.handle otherWorkspace otherEvent = .ok last →
      ∃ middle swapped numbers,
        decorator.handle otherWorkspace otherEvent = .ok middle ∧
        middle.handle workspace event = .ok swapped ∧
        (∀ number < decorator.commons.shadows.made,
          numbers number = number) ∧
        last.AlikeUpTo numbers swapped ∧
        (∀ shape, swapped.commons.shadows.contains shape =
          last.commons.shadows.contains shape) ∧
        swapped.commons.shadows.made = last.commons.shadows.made := by
  obtain ⟨first, rfl⟩ := exists_of_window? hwindow
  have hfree := hrun.unrestricted
  have hlaterFree := Run.perform (.handle workspace (.window id first)) hfree
    trivial hhandle
  obtain ⟨told, next?, laterShadows, hlaterStep, hfirst⟩ := hfree.stepped hhandle
  refine ⟨⟨told, hlaterStep.isolated⟩, ?_⟩
  intro otherWorkspace otherEvent other last hotherWindow hother hordinary hlast
  obtain ⟨second, rfl⟩ := exists_of_window? hotherWindow
  obtain ⟨numbers, hexchange⟩ := Memo.exists_exchange hrun.memo_wellFormed
    (decorator.asks? id first) (decorator.asks? other second)
  have hfixed : ∀ window decoration,
      decorator.decorations.find? window = some decoration →
        decoration.FixedBy numbers :=
    fun window decoration hfind frame hframe => hexchange.fixed _
      (hrun.allIssued window decoration hfind frame hframe).number_lt
  have hfound := hlaterStep.isolated.find?_eq other hother
  have hsecondAsks := asks?_of_find?_eq hfound second
  obtain ⟨hlaterShadows, -⟩ := hfirst decorator (Equiv.refl Nat)
    (fun decoration hfind => ⟨hordinary id decoration (.inl rfl) hfind,
      fun _ _ => rfl⟩) rfl (fun _ _ => rfl)
  have hlaterMemo : later.commons.shadows =
      decorator.commons.shadows.asked (decorator.asks? id first) := by
    rw [hlaterStep.eq, hlaterShadows]
    rfl
  obtain ⟨otherTold, otherNext?, lastShadows, hlastStep, hsecond⟩ :=
    hlaterFree.stepped hlast
  obtain ⟨hlastShadows, middle, hmiddle, hmiddleStep⟩ :=
    hsecond decorator numbers
      (fun decoration hfind => by
        rw [hfound] at hfind
        exact ⟨hordinary other decoration (.inr rfl) hfind,
          hfixed other decoration hfind⟩)
      hfound.symm (by
        rw [hsecondAsks, hlaterMemo]
        exact hexchange.second_eq)
  have hmiddleFound := hmiddleStep.isolated.find?_eq id (Ne.symm hother)
  have hmiddleMemo : middle.commons.shadows =
      decorator.commons.shadows.asked (decorator.asks? other second) := by
    rw [hmiddleStep.eq, ← hsecondAsks]
    rfl
  obtain ⟨-, swapped, hswapped, hswappedStep⟩ :=
    hfirst middle numbers
      (fun decoration hfind => ⟨hordinary id decoration (.inl rfl) hfind,
        hfixed id decoration hfind⟩)
      hmiddleFound (by
        rw [hmiddleMemo]
        exact hexchange.first_eq)
  have halike := alikeUpTo_of_stepped hother hfixed hlaterStep hlastStep
    hmiddleStep hswappedStep (by
      rw [hlastShadows, hlaterMemo, hmiddleMemo, hsecondAsks]
      exact hexchange.renumbered)
  exact ⟨middle, swapped, numbers, hmiddle, hswapped, hexchange.fixed, halike,
    halike.shadows.contains_eq, halike.shadows.made_eq⟩

/-- Two windows get the focus, one with a title bar and one with corners of its
own. -/
theorem window_events_independent_of_focus :
    ∃ (decorator : Decorator) (ledger : Ledger)
        (later last middle swapped : Decorator) (numbers : Equiv.Perm Nat),
      Run (fun _ _ => True) decorator ledger ∧
      decorator.handle { windows := [] } (.window 1 (.activated true)) =
        .ok later ∧
      later.handle { windows := [] } (.window 2 (.activated true)) =
        .ok last ∧
      decorator.handle { windows := [] } (.window 2 (.activated true)) =
        .ok middle ∧
      middle.handle { windows := [] } (.window 1 (.activated true)) =
        .ok swapped ∧
      last.AlikeUpTo numbers swapped ∧ numbers 2 = 3 := by
  obtain ⟨decorator, ledger, later, last, middle, swapped, frame, otherFrame,
      first, firstSwapped, hrun, hlater, hlast, hmiddle, hswapped, hframe,
      hotherFrame, hfirst, hnumber, hfirstSwapped, hnumberSwapped⟩ :
      ∃ (decorator : Decorator) (ledger : Ledger)
          (later last middle swapped : Decorator)
          (frame otherFrame first firstSwapped : Frame),
        Run (fun _ _ => True) decorator ledger ∧
        decorator.handle { windows := [] } (.window 1 (.activated true)) =
          .ok later ∧
        later.handle { windows := [] } (.window 2 (.activated true)) =
          .ok last ∧
        decorator.handle { windows := [] } (.window 2 (.activated true)) =
          .ok middle ∧
        middle.handle { windows := [] } (.window 1 (.activated true)) =
          .ok swapped ∧
        decorator.decorations.find? 1 = some (.framed frame) ∧
        decorator.decorations.find? 2 = some (.framed otherFrame) ∧
        last.decorations.find? 1 = some (.framed first) ∧
        first.shadow.number = 2 ∧
        swapped.decorations.find? 1 = some (.framed firstSwapped) ∧
        firstSwapped.shadow.number = 3 :=
    ⟨_, _, _, _, _, _, _, _, _, _,
      .perform (.start {}
          { windows := [{ id := 1, width := 800, height := 600 },
              { id := 2, width := 640, height := 480 }] })
        (.new .standard {}
          ((PropertyTable.set .empty 2 .motifHints [2, 0, 2]).set 2
            .cornerRadii [20, 20, 0, 0]))
        trivial (by exact rfl),
      by exact rfl, by exact rfl, by exact rfl, by exact rfl, by exact rfl,
      by exact rfl, by exact rfl, by exact rfl, by exact rfl, by exact rfl⟩
  have hordinary : ∀ window decoration, window = 1 ∨ window = 2 →
      decorator.decorations.find? window = some decoration →
        decoration.Ordinary := by
    rintro window decoration (rfl | rfl) hfind
    · rw [hframe] at hfind
      cases hfind
      exact .framed frame
    · rw [hotherFrame] at hfind
      cases hfind
      exact .framed otherFrame
  obtain ⟨-, hexchange⟩ := window_events_independent hrun rfl hlater
  obtain ⟨otherMiddle, otherSwapped, numbers, hotherMiddle, hotherSwapped, -,
    halike, -, -⟩ := hexchange _ _ 2 last rfl (by decide) hordinary hlast
  rw [hmiddle] at hotherMiddle
  cases hotherMiddle
  rw [hswapped] at hotherSwapped
  cases hotherSwapped
  refine ⟨decorator, ledger, later, last, middle, swapped, numbers, hrun,
    hlater, hlast, hmiddle, hswapped, halike, ?_⟩
  have hsame := halike.find?_eq 1
  rw [hfirst, hfirstSwapped, Option.map_some, Option.some.injEq] at hsame
  cases hsame
  exact hnumber ▸ hnumberSwapped

end Decorator
end WindowChrome
