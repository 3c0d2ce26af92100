import WindowChrome.Proofs.Decorator.Passing
import WindowChrome.Proofs.Host.Change

/-!
# Which backend made a decoration

Whenever another backend is live, or none any more, a turn begins.  A
decoration is left over exactly if the workspace does not list its window when
a turn begins.
-/

namespace WindowChrome

/-- How many turns have begun, and the turn in which each window was last
decorated. -/
structure Makers where
  turn : Nat := 0
  made : Keyed WindowId Nat := .empty

namespace Makers

def stamp (makers : Makers) (windows : List Window) : Makers where
  turn := makers.turn
  made := windows.foldl
    (fun made window => made.insert window.id makers.turn) makers.made

noncomputable def record (makers : Makers) (before : Decorator)
    (operation : Decorator.Operation) (later : Decorator) : Makers :=
  let turn := if later.host.live = before.host.live then makers.turn
    else makers.turn + 1
  stamp { makers with turn } (before.redecorated operation later)

theorem find?_stamp (makers : Makers) (windows : List Window)
    (id : WindowId) :
    (makers.stamp windows).made.find? id =
      if id ∈ windows.map (·.id) then some makers.turn
      else makers.made.find? id := by
  unfold stamp
  simp only
  generalize makers.made = made
  induction windows generalizing made with
  | nil => simp
  | cons window rest ih =>
      rw [List.foldl_cons, ih, Keyed.find?_insert, List.map_cons]
      by_cases hwaiting : id ∈ rest.map (·.id)
      · rw [if_pos hwaiting, if_pos (List.mem_cons_of_mem _ hwaiting)]
      · rw [if_neg hwaiting]
        by_cases hid : window.id = id
        · rw [if_pos hid, if_pos (by rw [hid]; exact List.mem_cons_self)]
        · rw [if_neg hid, if_neg]
          rw [List.mem_cons, not_or]
          exact ⟨Ne.symm hid, hwaiting⟩

def Begun (makers : Makers) : Prop :=
  ∀ id turn, makers.made.find? id = some turn → turn ≤ makers.turn

theorem Begun.record {makers : Makers} (hbegun : makers.Begun)
    (before : Decorator) (operation : Decorator.Operation)
    (later : Decorator) : (makers.record before operation later).Begun := by
  intro id turn hfind
  unfold Makers.record at hfind ⊢
  simp only at hfind ⊢
  rw [find?_stamp] at hfind
  have hle : makers.turn ≤
      if later.host.live = before.host.live then makers.turn
      else makers.turn + 1 := by
    split <;> omega
  split at hfind
  · cases hfind
    exact Nat.le_refl _
  · exact Nat.le_trans (hbegun id turn hfind) hle

end Makers

namespace Decorator

/-- The decorators that can be reached by operations that are allowed, given
what comes of them, with the record of who made what. -/
inductive Traced (allowed : Decorator → Operation → Decorator → Prop) :
    Decorator → Makers → Prop
  | new (catalog : Catalog) (store : Config.Store)
      (properties : PropertyTable) :
      Traced allowed (.new catalog store properties) {}
  | perform {decorator later : Decorator} {makers : Makers}
      (operation : Operation) (htraced : Traced allowed decorator makers)
      (hallowed : allowed decorator operation later)
      (hperform : decorator.perform operation = .ok later) :
      Traced allowed later (makers.record decorator operation later)

structure MadeByLiveAt (decorator : Decorator) (makers : Makers)
    (id : WindowId) (decoration : Decoration) : Prop where
  turn_eq : makers.made.find? id = some makers.turn
  made : ∃ live, decorator.host.live = some live ∧
    live.backend.MadeFor id decoration

structure MadeByLive (decorator : Decorator) (makers : Makers) : Prop where
  made : ∀ id decoration,
    decorator.decorations.find? id = some decoration →
      decorator.MadeByLiveAt makers id decoration
  nothing : decorator.host.live = none → decorator.decorations.keys = []

def CoversSwap (decorator : Decorator) (operation : Operation)
    (later : Decorator) : Prop :=
  later.host.live ≠ decorator.host.live → decorator.Covers operation

variable {decorator ready later : Decorator} {makers : Makers}
  {operation : Operation}

theorem madeByLive_of_forall
    (hmade : ∀ id decoration,
      decorator.decorations.find? id = some decoration →
        decorator.MadeByLiveAt makers id decoration) :
    decorator.MadeByLive makers := by
  refine ⟨hmade, fun hnone => ?_⟩
  rw [List.eq_nil_iff_forall_not_mem]
  intro id hid
  rcases Keyed.exists_find?_of_mem_keys hid with ⟨decoration, hfind⟩
  rcases (hmade id decoration hfind).made with ⟨live, hlive, _⟩
  rw [hnone] at hlive
  cases hlive

theorem Ready.covers_iff (hready : decorator.Ready operation ready)
    (hlater : later.backendState = ready.backendState)
    (hlive : ready.host.live ≠ decorator.host.live) :
    decorator.Covers operation ↔
      ∀ id ∈ decorator.decorations.keys,
        id ∈ (decorator.redecorated operation later).map (·.id) := by
  cases hready with
  | start session workspace => exact Iff.rfl
  | window workspace id event => exact absurd rfl hlive
  | theme workspace id => exact absurd rfl hlive
  | font workspace family size hpush => exact absurd rfl hlive
  | dpi workspace dpi => exact absurd rfl hlive
  | declared workspace => exact absurd rfl hlive
  | reread workspace hstate =>
      have hname : (decorator.reread workspace).2.host.liveName? =
          decorator.host.liveName? :=
        congrArg (fun state => state.1) hstate.symm
      exact absurd (Host.reconfigure_live_eq hname) hlive
  | cleared workspace hstate =>
      have hother : decorator.backendState ≠ later.backendState := by
        rw [hlater]
        exact hstate
      rw [redecorated_of_ne hother]
      exact Iff.rfl

theorem Performed.madeFor_cases
    (hperformed : decorator.Performed operation later) {id : WindowId}
    {next : Decoration} (hnext : later.decorations.find? id = some next) :
    (id ∈ (decorator.redecorated operation later).map (·.id) ∧
      ∃ live, later.host.live = some live ∧ live.backend.MadeFor id next) ∨
    (id ∉ (decorator.redecorated operation later).map (·.id) ∧
      ∃ decoration, decorator.decorations.find? id = some decoration ∧
        ∀ backend : Backend, backend.MadeFor id decoration →
          backend.MadeFor id next) := by
  rcases hperformed.find?_cases hnext with
    ⟨hid, look, window, hwindow, hmakes⟩ | ⟨hid, decoration, hbefore, hcases⟩
  · rw [← hwindow] at hid ⊢
    exact .inl ⟨hid, hmakes.madeFor⟩
  · refine .inr ⟨hid, decoration, hbefore, fun backend hmade => ?_⟩
    rcases hcases with hsame | ⟨event, shadows, drawn, signals, htold⟩
    · rw [hsame]
      exact hmade
    · exact htold.madeFor hmade

theorem Performed.madeByLive (hperformed : decorator.Performed operation later)
    (hlive : later.host.live = decorator.host.live)
    (hmade : decorator.MadeByLive makers) :
    later.MadeByLive (makers.record decorator operation later) := by
  unfold Makers.record
  rw [if_pos hlive]
  refine madeByLive_of_forall fun id next hnext => ?_
  rcases hperformed.madeFor_cases hnext with
    ⟨hid, hagain⟩ | ⟨hid, decoration, hbefore, hkept⟩
  · refine ⟨?_, hagain⟩
    rw [Makers.find?_stamp, if_pos hid]
    rfl
  · have hmadeBefore := hmade.made id decoration hbefore
    rcases hmadeBefore.made with ⟨live, hliveBefore, hbackend⟩
    refine ⟨?_, live, hlive.trans hliveBefore, hkept live.backend hbackend⟩
    rw [Makers.find?_stamp, if_neg hid]
    exact hmadeBefore.turn_eq

theorem Performed.exists_outcome
    (hperformed : decorator.Performed operation later)
    (hlive : later.host.live ≠ decorator.host.live) :
    ∃ ready done signals, decorator.Ready operation ready ∧
      ready.Outcome (decorator.redecorated operation later) signals done ∧
      later = done.flush.2 := by
  cases hperformed with
  | turned hready houtcome => exact ⟨_, _, _, hready, houtcome, rfl⟩
  | decorated window hremade =>
      rcases hremade.eq with ⟨commons, decorations, hlater⟩
      rw [hlater] at hlive
      exact absurd rfl hlive
  | undecorated id => exact absurd rfl hlive
  | written group key value => exact absurd rfl hlive
  | spared properties => exact absurd rfl hlive

theorem Performed.madeByLive_iff
    (hperformed : decorator.Performed operation later)
    (hlive : later.host.live ≠ decorator.host.live) (hbegun : makers.Begun) :
    later.MadeByLive (makers.record decorator operation later) ↔
      decorator.Covers operation := by
  rcases hperformed.exists_outcome hlive with
      ⟨ready, done, signals, hready, houtcome, hlater⟩
  have hcovers : decorator.Covers operation ↔
      ∀ id ∈ decorator.decorations.keys,
        id ∈ (decorator.redecorated operation later).map (·.id) := by
    rcases houtcome.eq with ⟨commons, decorations, hdone⟩
    subst hlater hdone
    exact hready.covers_iff rfl hlive
  rw [hcovers]
  unfold Makers.record
  rw [if_neg hlive]
  constructor
  · intro hmade id hid
    by_contra hleft
    have hremained : id ∈ later.decorations.keys := by
      rw [← hready.decorations_eq] at hid
      rw [hlater]
      exact houtcome.remained hleft hid
    rcases Keyed.exists_find?_of_mem_keys hremained with ⟨next, hnext⟩
    have hturn := (hmade.made id next hnext).turn_eq
    rw [Makers.find?_stamp, if_neg hleft] at hturn
    have hearlier := hbegun id _ hturn
    simp only [Makers.stamp] at hearlier
    omega
  · intro hlisted
    refine madeByLive_of_forall fun id next hnext => ?_
    rcases hperformed.madeFor_cases hnext with
      ⟨hid, hagain⟩ | ⟨hid, decoration, hbefore, _⟩
    · refine ⟨?_, hagain⟩
      rw [Makers.find?_stamp, if_pos hid]
      rfl
    · exact absurd (hlisted id (Keyed.mem_keys_of_find? hbefore)) hid

variable {allowed : Decorator → Operation → Decorator → Prop}

theorem Traced.begun (htraced : Traced allowed decorator makers) :
    makers.Begun := by
  induction htraced with
  | new catalog store properties =>
      intro id turn hfind
      cases hfind
  | perform operation _ _ _ ih => exact ih.record _ operation _

theorem Traced.madeByLive (htraced : Traced CoversSwap decorator makers) :
    decorator.MadeByLive makers := by
  induction htraced with
  | new catalog store properties =>
      refine ⟨fun id decoration hfind => ?_, fun _ => rfl⟩
      cases hfind
  | @perform decorator later makers operation htraced hcovers hperform ih =>
      have hperformed := performed_of_perform hperform
      by_cases hlive : later.host.live = decorator.host.live
      · exact hperformed.madeByLive hlive ih
      · exact (hperformed.madeByLive_iff hlive htraced.begun).mpr
          (hcovers hlive)

/-- An operation that leaves another backend live, or none any more, leaves no
decoration of an earlier backend exactly if its workspace lists every decorated
window.  Any other operation leaves none if there was none before. -/
theorem madeByLive_iff_of_traced (htraced : Traced allowed decorator makers)
    (hperform : decorator.perform operation = .ok later) :
    (later.host.live ≠ decorator.host.live →
      (later.MadeByLive (makers.record decorator operation later) ↔
        decorator.Covers operation)) ∧
    (later.host.live = decorator.host.live →
      decorator.MadeByLive makers →
        later.MadeByLive (makers.record decorator operation later)) := by
  have hperformed := performed_of_perform hperform
  exact ⟨fun hlive => hperformed.madeByLive_iff hlive htraced.begun,
    fun hlive hmade => hperformed.madeByLive hlive hmade⟩

theorem madeByLive_after_swap :
    ∃ decorator later makers,
      Traced (fun _ _ _ => True) decorator makers ∧
      decorator.handle
        { windows := [{ id := 1, width := 800, height := 600 }] }
        .reconfigured = .ok later ∧
      later.decorations.keys = [1] ∧
      later.MadeByLive (makers.record decorator (.handle
        { windows := [{ id := 1, width := 800, height := 600 }] }
        .reconfigured) later) := by
  obtain ⟨decorator, later, makers, htraced, hhandle, hplain, hthemed, hkeys,
      hcovers⟩ :
      ∃ decorator later makers,
        Traced (fun _ _ _ => True) decorator makers ∧
        decorator.handle
          { windows := [{ id := 1, width := 800, height := 600 }] }
          .reconfigured = .ok later ∧
        decorator.host.liveName? = some Host.defaultBackend ∧
        later.host.liveName? = some Host.fallbackBackend ∧
        later.decorations.keys = [1] ∧
        decorator.Covers (.handle
          { windows := [{ id := 1, width := 800, height := 600 }] }
          .reconfigured) :=
    ⟨_, _, _,
      .perform (.write Config.decorationGroup "library" Host.fallbackBackend)
        (.perform (.start {}
            { windows := [{ id := 1, width := 800, height := 600 }] })
          (.new .standard {} .empty) trivial (by exact rfl))
        trivial (by exact rfl),
      by exact rfl, by exact rfl, by exact rfl, by exact rfl, by decide⟩
  have hlive : later.host.live ≠ decorator.host.live := by
    intro hsame
    unfold Host.liveName? Host.liveProfile? at hplain hthemed
    rw [hsame, hplain] at hthemed
    exact absurd hthemed (by decide)
  have hperform : decorator.perform (.handle
      { windows := [{ id := 1, width := 800, height := 600 }] }
      .reconfigured) = .ok later := hhandle
  exact ⟨decorator, later, makers, htraced, hhandle, hkeys,
    ((madeByLive_iff_of_traced htraced hperform).1 hlive).mpr hcovers⟩

/-- Decorations are switched off while the workspace does not list the window
that is decorated. -/
theorem decorated_after_switchOff :
    ∃ decorator later makers,
      Traced (fun _ _ _ => True) decorator makers ∧
      decorator.handle { windows := [] } .reconfigured = .ok later ∧
      decorator.host.liveName? = some Host.defaultBackend ∧
      later.host.live = none ∧ later.host.mode = .none ∧
      later.decorations.keys = [1] ∧
      ¬ later.MadeByLive (makers.record decorator
        (.handle { windows := [] } .reconfigured) later) := by
  obtain ⟨decorator, later, makers, htraced, hhandle, hplain, hnone, hmode,
      hkeys⟩ :
      ∃ decorator later makers,
        Traced (fun _ _ _ => True) decorator makers ∧
        decorator.handle { windows := [] } .reconfigured = .ok later ∧
        decorator.host.liveName? = some Host.defaultBackend ∧
        later.host.live = none ∧ later.host.mode = .none ∧
        later.decorations.keys = [1] :=
    ⟨_, _, _,
      .perform (.write Config.decorationGroup "NoPlugin" "true")
        (.perform (.start {}
            { windows := [{ id := 1, width := 800, height := 600 }] })
          (.new .standard {} .empty) trivial (by exact rfl))
        trivial (by exact rfl),
      by exact rfl, by exact rfl, by exact rfl, by exact rfl, by exact rfl⟩
  refine ⟨decorator, later, makers, htraced, hhandle, hplain, hnone, hmode,
    hkeys, fun hmade => ?_⟩
  have hnothing := hmade.nothing hnone
  rw [hkeys] at hnothing
  cases hnothing

end Decorator
end WindowChrome
