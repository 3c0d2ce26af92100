import Mathlib.Data.List.Basic
import Mathlib.Data.List.Induction
import WindowChrome.Hub
import WindowChrome.Signal.Bus

/-!
# Delivery of signals

Flushing a bus takes place in rounds, one for each signal, and all that a flush
changes can be read off them.
-/

namespace WindowChrome
namespace Bus

variable {ι : Type}

structure Hearing (ι : Type) where
  listener : ι
  reaction : Reaction ι

structure Round (ι : Type) where
  signal : Signal
  hearings : List (Hearing ι)

namespace Round

def hearers (round : Round ι) : List ι := round.hearings.map (·.listener)

def kept (round : Round ι) : List ι := round.hearings.map (·.reaction.next)

def emitted (round : Round ι) : List Signal :=
  round.hearings.flatMap (·.reaction.emits)

def connected (round : Round ι) : List ι :=
  round.hearings.flatMap (·.reaction.connects)

def notes (round : Round ι) : List (Note ι) :=
  round.hearings.map fun hearing => .heard hearing.listener round.signal

end Round

def Quiet (react : Reactions ι) : Prop :=
  ∀ notes listener signal, (react notes listener signal).call = none

/-- How listeners hear a signal one after the other, each with all the notes
there are by then. -/
def hearings (react : Reactions ι) (signal : Signal) :
    List (Note ι) → List ι → List (Hearing ι)
  | _, [] => []
  | notes, listener :: rest =>
      ⟨listener, react notes listener signal⟩ ::
        hearings react signal (notes ++ [.heard listener signal]) rest

def present (listeners : List ι) (rounds : List (Round ι)) : List ι :=
  rounds.foldl (fun _ round => round.kept ++ round.connected) listeners

/-- The bus has become another one by rounds in which every signal that was
waiting or was emitted meanwhile is delivered. -/
structure Delivered (react : Reactions ι) (bus : Bus ι)
    (rounds : List (Round ι)) (after : Bus ι) : Prop where
  signals_eq : rounds.map (·.signal) =
    bus.queue ++ rounds.flatMap (·.emitted)
  hearings_eq : ∀ before round later, rounds = before ++ round :: later →
    round.hearings =
      hearings react round.signal (bus.notes ++ before.flatMap (·.notes))
        (present bus.listeners before)
  queue_eq : after.queue = []
  listeners_eq : after.listeners = present bus.listeners rounds
  notes_eq : after.notes = bus.notes ++ rounds.flatMap (·.notes)

/-! ## One round -/

theorem map_listener_hearings (react : Reactions ι) (signal : Signal)
    (notes : List (Note ι)) (listeners : List ι) :
    (hearings react signal notes listeners).map (·.listener) = listeners := by
  induction listeners generalizing notes with
  | nil => rfl
  | cons listener rest ih => simp [hearings, ih]

theorem mem_hearings {react : Reactions ι} {signal : Signal}
    {notes : List (Note ι)} {listeners : List ι} {hearing : Hearing ι}
    (hmem : hearing ∈ hearings react signal notes listeners) :
    ∃ earlier, hearing.reaction = react earlier hearing.listener signal := by
  induction listeners generalizing notes with
  | nil => simp [hearings] at hmem
  | cons listener rest ih =>
      rw [hearings, List.mem_cons] at hmem
      rcases hmem with rfl | hrest
      · exact ⟨notes, rfl⟩
      · exact ih hrest

def roundOf (react : Reactions ι) (signal : Signal) (bus : Bus ι) :
    Round ι where
  signal
  hearings := hearings react signal bus.notes bus.listeners

def afterRound (bus : Bus ι) (rest : List Signal) (round : Round ι) :
    Bus ι where
  queue := rest ++ round.emitted
  listeners := round.kept ++ round.connected
  notes := bus.notes ++ round.notes

variable {react : Reactions ι}

theorem deliver_eq (hquiet : Quiet react)
    (flush : Bus ι → Option (Nat × Bus ι)) (signal : Signal)
    (listeners : List ι) (bus : Bus ι) :
    let round : Round ι :=
      ⟨signal, hearings react signal bus.notes listeners⟩
    deliver flush react signal listeners bus =
      some (round.kept, {
        queue := bus.queue ++ round.emitted
        listeners := bus.listeners ++ round.connected
        notes := bus.notes ++ round.notes }) := by
  induction listeners generalizing bus with
  | nil => simp [deliver, hearings, Round.kept, Round.emitted,
      Round.connected, Round.notes]
  | cons listener rest ih =>
      simp only [deliver, hear, hquiet _ _ _, note]
      simp [ih, hearings, Round.kept, Round.emitted, Round.connected,
        Round.notes]

theorem flush_succ (hquiet : Quiet react) {bus : Bus ι} {signal : Signal}
    {rest : List Signal} (hqueue : bus.queue = signal :: rest) (limit : Nat) :
    bus.flush react (limit + 1) =
      ((bus.afterRound rest (roundOf react signal bus)).flush react
        limit).map fun (count, after) => (count + 1, after) := by
  rw [flush, hqueue]
  simp only [deliver_eq hquiet, Option.bind_eq_bind, Option.bind_some,
    List.nil_append]
  rw [Option.map_eq_bind]
  rfl

theorem flush_of_empty {bus : Bus ι} (hqueue : bus.queue = [])
    (limit : Nat) : bus.flush react limit = some (0, bus) := by
  cases limit with
  | zero => simp [flush, hqueue]
  | succ limit => rw [flush, hqueue]

/-! ## All rounds of a flush -/

theorem Delivered.nil {bus : Bus ι} (hqueue : bus.queue = []) :
    Delivered react bus [] bus where
  signals_eq := by simp [hqueue]
  hearings_eq := by simp
  queue_eq := hqueue
  listeners_eq := rfl
  notes_eq := by simp

theorem Delivered.cons {bus after : Bus ι} {signal : Signal}
    {rest : List Signal} {rounds : List (Round ι)}
    (hqueue : bus.queue = signal :: rest)
    (hlater : Delivered react
      (bus.afterRound rest (roundOf react signal bus)) rounds after) :
    Delivered react bus (roundOf react signal bus :: rounds) after where
  signals_eq := by
    rw [List.map_cons, hlater.signals_eq, hqueue]
    simp [roundOf, afterRound]
  hearings_eq := by
    intro before round later hrounds
    cases before with
    | nil =>
        rw [List.nil_append, List.cons.injEq] at hrounds
        rw [← hrounds.1]
        simp [roundOf, present]
    | cons first before =>
        rw [List.cons_append, List.cons.injEq] at hrounds
        rw [hlater.hearings_eq before round later hrounds.2, ← hrounds.1]
        simp [afterRound, present]
  queue_eq := hlater.queue_eq
  listeners_eq := hlater.listeners_eq
  notes_eq := by
    rw [hlater.notes_eq]
    simp [afterRound]

theorem exists_delivered (hquiet : Quiet react) {limit count : Nat}
    {bus after : Bus ι}
    (hflush : bus.flush react limit = some (count, after)) :
    ∃ rounds, rounds.length = count ∧ Delivered react bus rounds after := by
  induction limit generalizing count bus with
  | zero =>
      simp only [flush, List.isEmpty_iff] at hflush
      split at hflush
      · next hqueue =>
          cases hflush
          exact ⟨[], rfl, .nil hqueue⟩
      · cases hflush
  | succ limit ih =>
      cases hqueue : bus.queue with
      | nil =>
          rw [flush_of_empty hqueue] at hflush
          cases hflush
          exact ⟨[], rfl, .nil hqueue⟩
      | cons signal rest =>
          rw [flush_succ hquiet hqueue, Option.map_eq_some_iff] at hflush
          obtain ⟨⟨earlier, final⟩, hlater, hresult⟩ := hflush
          cases hresult
          obtain ⟨rounds, hlength, hdelivered⟩ := ih hlater
          exact ⟨_ :: rounds, by simp [hlength], .cons hqueue hdelivered⟩

theorem flush_of_le (hquiet : Quiet react) {limit more : Nat} {bus : Bus ι}
    {result : Nat × Bus ι} (hflush : bus.flush react limit = some result)
    (hle : limit ≤ more) :
    bus.flush react more = some result := by
  induction limit generalizing more bus result with
  | zero =>
      simp only [flush, List.isEmpty_iff] at hflush
      split at hflush
      · next hqueue => rw [flush_of_empty hqueue, hflush]
      · cases hflush
  | succ limit ih =>
      cases hqueue : bus.queue with
      | nil =>
          rw [flush_of_empty hqueue] at hflush ⊢
          exact hflush
      | cons signal rest =>
          obtain ⟨more, rfl⟩ : ∃ fewer, more = fewer + 1 :=
            ⟨more - 1, by omega⟩
          rw [flush_succ hquiet hqueue, Option.map_eq_some_iff] at hflush
          obtain ⟨later, hlater, hresult⟩ := hflush
          rw [flush_succ hquiet hqueue, ih hlater (by omega)]
          exact congrArg some hresult

theorem exists_flush_of_silent (hquiet : Quiet react)
    (hsilent : ∀ notes listener signal,
      (react notes listener signal).emits = []) (bus : Bus ι) :
    ∃ after, bus.flush react bus.pending = some (bus.pending, after) := by
  have hemitted : ∀ (bus : Bus ι) (signal : Signal),
      (roundOf react signal bus).emitted = [] := by
    intro bus signal
    rw [Round.emitted, List.flatMap_eq_nil_iff]
    intro hearing hmem
    obtain ⟨notes, hreaction⟩ := mem_hearings hmem
    rw [hreaction, hsilent]
  unfold pending
  generalize hwaiting : bus.queue = waiting
  induction waiting generalizing bus with
  | nil => exact ⟨bus, flush_of_empty hwaiting 0⟩
  | cons signal rest ih =>
      have hnext : (bus.afterRound rest (roundOf react signal bus)).queue =
          rest := by
        simp [afterRound, hemitted]
      obtain ⟨after, hafter⟩ := ih _ hnext
      refine ⟨after, ?_⟩
      rw [List.length_cons, flush_succ hquiet hwaiting, hafter]
      rfl

/-! ## Which listeners hear a signal -/

section

variable {ν : Type} {name : ι → ν}

theorem map_name_kept
    (hname : ∀ notes listener signal,
      name (react notes listener signal).next = name listener)
    (signal : Signal) (notes : List (Note ι)) (listeners : List ι) :
    (Round.mk signal (hearings react signal notes listeners)).kept.map name =
      listeners.map name := by
  induction listeners generalizing notes with
  | nil => rfl
  | cons listener rest ih =>
      have hrest := ih (notes ++ [.heard listener signal])
      simp only [Round.kept, List.map_map] at hrest
      simp [Round.kept, hearings, hname, hrest]

theorem Delivered.map_name_present
    (hname : ∀ notes listener signal,
      name (react notes listener signal).next = name listener)
    {bus after : Bus ι} {rounds before later : List (Round ι)}
    (hdelivered : Delivered react bus rounds after)
    (hrounds : rounds = before ++ later) :
    (present bus.listeners before).map name =
      (bus.listeners ++ before.flatMap (·.connected)).map name := by
  induction before using List.reverseRecOn generalizing later with
  | nil => simp [present]
  | append_singleton before round ih =>
      rw [List.append_assoc, List.singleton_append] at hrounds
      have hkept : round.kept.map name =
          (present bus.listeners before).map name := by
        have hround : round = ⟨round.signal, hearings react round.signal
            (bus.notes ++ before.flatMap (·.notes))
            (present bus.listeners before)⟩ := by
          rw [← hdelivered.hearings_eq before round later hrounds]
        rw [hround]
        exact map_name_kept hname _ _ _
      calc (present bus.listeners (before ++ [round])).map name =
          round.kept.map name ++ round.connected.map name := by
            simp [present]
        _ = (bus.listeners ++ before.flatMap (·.connected)).map name ++
            round.connected.map name := by rw [hkept, ih hrounds]
        _ = _ := by simp

/-- A flush that ends has delivered every signal that was waiting or was
emitted meanwhile, in order and once each, to the listeners connected before
its delivery began.  It ends if listeners emit nothing. -/
theorem flush_delivers (bus : Bus ι) (hquiet : Quiet react)
    (hname : ∀ notes listener signal,
      name (react notes listener signal).next = name listener) :
    (∀ limit count after, bus.flush react limit = some (count, after) →
      ∃ rounds : List (Round ι),
        rounds.length = count ∧
        Delivered react bus rounds after ∧
        (∀ before round later, rounds = before ++ round :: later →
          round.hearers.map name =
            (bus.listeners ++ before.flatMap (·.connected)).map name) ∧
        after.listeners.map name =
          (bus.listeners ++ rounds.flatMap (·.connected)).map name) ∧
    ((∀ notes listener signal, (react notes listener signal).emits = []) →
      ∀ limit, bus.pending ≤ limit →
        ∃ after, bus.flush react limit = some (bus.pending, after)) := by
  constructor
  · intro limit count after hflush
    obtain ⟨rounds, hlength, hdelivered⟩ := exists_delivered hquiet hflush
    refine ⟨rounds, hlength, hdelivered, ?_, ?_⟩
    · intro before round later hrounds
      rw [Round.hearers, hdelivered.hearings_eq before round later hrounds,
        map_listener_hearings]
      exact hdelivered.map_name_present hname hrounds
    · rw [hdelivered.listeners_eq]
      exact hdelivered.map_name_present hname (List.append_nil rounds).symm
  · intro hsilent limit hle
    obtain ⟨after, hafter⟩ := exists_flush_of_silent hquiet hsilent bus
    exact ⟨after, flush_of_le hquiet hafter hle⟩

end

/-- A listener that counts what it hears, and that answers the declarations
of a backend by another signal and by a guest. -/
def welcoming : Reactions (String × Nat) := fun _ listener signal =>
  { next := (listener.1, listener.2 + 1)
    emits := if signal = .declared then [.reconfigured] else []
    connects := if signal = .declared then [("guest", 0)] else [] }

theorem flush_delivers_to_guest :
    ∃ after rounds,
      flush welcoming 2
          { queue := [.declared], listeners := [("host", 0)] } =
        some (2, after) ∧
      Delivered welcoming
        { queue := [.declared], listeners := [("host", 0)] } rounds after ∧
      rounds.length = 2 ∧
      after.listeners = [("host", 2), ("guest", 1)] := by
  obtain ⟨after, hflush, hlisteners⟩ : ∃ after,
      flush welcoming 2
          { queue := [.declared], listeners := [("host", 0)] } =
        some (2, after) ∧
      after.listeners = [("host", 2), ("guest", 1)] := ⟨_, rfl, rfl⟩
  have hname : ∀ notes (listener : String × Nat) signal,
      (welcoming notes listener signal).next.1 = listener.1 :=
    fun _ _ _ => rfl
  obtain ⟨rounds, hlength, hdelivered, -, -⟩ :=
    (flush_delivers _ (fun _ _ _ => rfl) hname).1 2 2 after hflush
  exact ⟨after, rounds, hflush, hdelivered, hlength, hlisteners⟩

/-! ## The hub as a listener sees it -/

section

variable {ν : Type} {name : ι → ν} {bus : Bus ι}

structure OnlyListens (react : Reactions ι) (name : ι → ν) : Prop where
  quiet : Quiet react
  emits_eq : ∀ notes listener signal,
    (react notes listener signal).emits = []
  connects_eq : ∀ notes listener signal,
    (react notes listener signal).connects = []
  name_next : ∀ notes listener signal,
    name (react notes listener signal).next = name listener

theorem Delivered.exists_reaction {rounds : List (Round ι)} {after : Bus ι}
    (hdelivered : Delivered react bus rounds after) :
    ∀ round ∈ rounds, ∀ hearing ∈ round.hearings, ∃ earlier,
      hearing.reaction = react earlier hearing.listener round.signal := by
  intro round hround hearing hmem
  obtain ⟨before, later, hrounds⟩ := List.append_of_mem hround
  rw [hdelivered.hearings_eq before round later hrounds] at hmem
  exact mem_hearings hmem

theorem Delivered.emitted_eq_nil (honly : OnlyListens react name)
    {rounds : List (Round ι)} {after : Bus ι}
    (hdelivered : Delivered react bus rounds after) :
    rounds.flatMap (·.emitted) = [] := by
  rw [List.flatMap_eq_nil_iff]
  intro round hround
  rw [Round.emitted, List.flatMap_eq_nil_iff]
  intro hearing hmem
  obtain ⟨earlier, hreaction⟩ :=
    hdelivered.exists_reaction round hround hearing hmem
  rw [hreaction, honly.emits_eq]

theorem Delivered.connected_eq_nil (honly : OnlyListens react name)
    {rounds : List (Round ι)} {after : Bus ι}
    (hdelivered : Delivered react bus rounds after) :
    ∀ round ∈ rounds, round.connected = [] := by
  intro round hround
  rw [Round.connected, List.flatMap_eq_nil_iff]
  intro hearing hmem
  obtain ⟨earlier, hreaction⟩ :=
    hdelivered.exists_reaction round hround hearing hmem
  rw [hreaction, honly.connects_eq]

variable [DecidableEq ν] {who : ν} {hub : Hub}

def heardBy (name : ι → ν) (who : ν) (notes : List (Note ι)) : List Signal :=
  notes.filterMap fun
    | .heard listener signal => if name listener = who then some signal else none
    | .answered _ _ => none

/-- The hub stands for the bus as one of its listeners sees it, who has been
connected from the beginning. -/
structure SeenBy (bus : Bus ι) (name : ι → ν) (who : ν) (hub : Hub) :
    Prop where
  queue_eq : bus.queue = hub.pending
  heard_eq : heardBy name who bus.notes = hub.delivered
  once : (bus.listeners.map name).count who = 1

theorem heardBy_append (notes others : List (Note ι)) :
    heardBy name who (notes ++ others) =
      heardBy name who notes ++ heardBy name who others :=
  List.filterMap_append

theorem heardBy_notes (round : Round ι) :
    heardBy name who round.notes =
      List.replicate ((round.hearers.map name).count who) round.signal := by
  obtain ⟨signal, hearings⟩ := round
  induction hearings with
  | nil => rfl
  | cons hearing rest ih =>
      simp only [heardBy, Round.notes, Round.hearers, List.map_map] at ih
      by_cases hname : name hearing.listener = who
      · simp [heardBy, Round.notes, Round.hearers, hname, ih,
          List.replicate_succ]
      · simp [heardBy, Round.notes, Round.hearers, hname, ih]

theorem Delivered.count_present (honly : OnlyListens react name)
    {rounds before later : List (Round ι)} {after : Bus ι}
    (hdelivered : Delivered react bus rounds after)
    (hrounds : rounds = before ++ later) :
    ((present bus.listeners before).map name).count who =
      (bus.listeners.map name).count who := by
  have hnothing : before.flatMap (·.connected) = [] := by
    rw [List.flatMap_eq_nil_iff]
    intro round hround
    apply hdelivered.connected_eq_nil honly
    rw [hrounds]
    exact List.mem_append_left _ hround
  rw [hdelivered.map_name_present honly.name_next hrounds, hnothing,
    List.append_nil]

theorem Delivered.heardBy_eq (honly : OnlyListens react name)
    {rounds : List (Round ι)} {after : Bus ι}
    (hdelivered : Delivered react bus rounds after)
    (honce : (bus.listeners.map name).count who = 1) :
    heardBy name who after.notes = heardBy name who bus.notes ++ bus.queue ∧
      (after.listeners.map name).count who = 1 := by
  have hheard : ∀ round ∈ rounds,
      heardBy name who round.notes = [round.signal] := by
    intro round hround
    obtain ⟨before, later, hrounds⟩ := List.append_of_mem hround
    rw [heardBy_notes, Round.hearers,
      hdelivered.hearings_eq before round later hrounds,
      map_listener_hearings, hdelivered.count_present honly hrounds, honce]
    rfl
  have hall : heardBy name who (rounds.flatMap (·.notes)) =
      rounds.map (·.signal) := by
    unfold heardBy at hheard ⊢
    rw [List.filterMap_flatMap, List.flatMap_congr hheard, List.map_eq_flatMap]
  constructor
  · rw [hdelivered.notes_eq, heardBy_append, hall, hdelivered.signals_eq,
      hdelivered.emitted_eq_nil honly, List.append_nil]
  · rw [hdelivered.listeners_eq,
      hdelivered.count_present honly (List.append_nil rounds).symm, honce]

theorem SeenBy.emit (hseen : bus.SeenBy name who hub) (signal : Signal) :
    (bus.emit signal).SeenBy name who (hub.emit signal) where
  queue_eq := by
    show bus.queue ++ [signal] = hub.pending ++ [signal]
    rw [hseen.queue_eq]
  heard_eq := hseen.heard_eq
  once := hseen.once

theorem SeenBy.drain (hseen : bus.SeenBy name who hub) :
    bus.drain.1 = hub.drain.1 ∧ bus.drain.2.SeenBy name who hub.drain.2 :=
  ⟨hseen.queue_eq, rfl, hseen.heard_eq, hseen.once⟩

theorem SeenBy.flush (honly : OnlyListens react name)
    (hseen : bus.SeenBy name who hub) :
    ∃ after, bus.flush react hub.pending.length = some (hub.flush.1, after) ∧
      after.SeenBy name who hub.flush.2 := by
  have hlength : bus.pending = hub.pending.length := by
    rw [pending, hseen.queue_eq]
  obtain ⟨after, hflush⟩ :=
    exists_flush_of_silent honly.quiet honly.emits_eq bus
  obtain ⟨rounds, -, hdelivered⟩ := exists_delivered honly.quiet hflush
  obtain ⟨hheard, honce⟩ := hdelivered.heardBy_eq honly hseen.once
  rw [hlength] at hflush
  refine ⟨after, hflush, hdelivered.queue_eq, ?_, honce⟩
  rw [hheard, hseen.heard_eq, hseen.queue_eq]
  rfl

end

end Bus
end WindowChrome
