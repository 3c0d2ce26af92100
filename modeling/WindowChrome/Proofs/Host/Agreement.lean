import WindowChrome.Proofs.Host.Change

/-!
# Mode, live backend and switch

A start that finds decorations switched off changes the mode and leaves a live
backend where it is.  Nothing else can make the three disagree.
-/

namespace WindowChrome
namespace Host

inductive Operation where
  | start (session : Session)
  | switchTo (name : String)
  | reconfigure (workspace : Workspace)
  | changeTheme (id : Int)
  | changeFont (font : Font)
  | changeDpi (dpi : UInt32)
  | write (group key value : String)
  deriving DecidableEq, Repr

def perform (host : Host) (hub : Hub) : Operation → Host × Hub
  | .start session => host.start hub session
  | .switchTo name => (host.switchTo hub name).2
  | .reconfigure workspace => (host.reconfigure hub workspace).2
  | .changeTheme id => (host.changeTheme id, hub)
  | .changeFont font => (host.changeFont font, hub)
  | .changeDpi dpi => (host.changeDpi dpi, hub)
  | .write group key value =>
      (host, { hub with store := hub.store.write group key value })

def after (catalog : Catalog) (store : Config.Store) :
    List Operation → Host × Hub
  | [] => ({ catalog }, { store })
  | operation :: earlier =>
      let (host, hub) := after catalog store earlier
      host.perform hub operation

/-- The mode tells whether a backend is live, and while decorations are off
there is neither a backend nor a theme. -/
structure Agrees (host : Host) : Prop where
  mode_iff : host.mode = .server ↔ host.liveName?.isSome
  live_of_off : host.off = true → host.liveName? = none
  theme_of_off : host.off = true → host.theme = none

/-- A backend is live and the mode denies it. -/
def Adrift (host : Host) : Prop :=
  host.liveName?.isSome ∧ host.mode = .none

structure Sound (host : Host) : Prop where
  live_of_server : host.mode = .server →
    host.liveName?.isSome ∧ host.off = false
  theme_of_unloaded : host.live = none → host.theme = none

theorem isSome_liveName? (host : Host) :
    host.liveName?.isSome = host.live.isSome := by
  simp [liveName?, liveProfile?]

theorem liveName?_of_unloaded {host : Host} (hlive : host.live = none) :
    host.liveName? = none := by
  unfold liveName?
  rw [liveProfile?_of_unloaded hlive]
  rfl

theorem Sound.agrees_iff {host : Host} (hsound : host.Sound) :
    host.Agrees ↔ ¬ host.Adrift := by
  constructor
  · rintro hagrees ⟨hlive, hmode⟩
    have hserver := hagrees.mode_iff.mpr hlive
    rw [hmode] at hserver
    cases hserver
  · intro hadrift
    have hmode : host.mode = .server ↔ host.liveName?.isSome := by
      constructor
      · intro hserver
        exact (hsound.live_of_server hserver).1
      · intro hlive
        cases hmode : host.mode with
        | server => rfl
        | none => exact absurd ⟨hlive, hmode⟩ hadrift
    have hunloaded : host.off = true → host.live = none := by
      intro hoff
      cases hlive : host.live with
      | none => rfl
      | some live =>
          have hsome : host.liveName?.isSome := by
            rw [isSome_liveName?, hlive]
            rfl
          have hon := (hsound.live_of_server (hmode.mpr hsome)).2
          rw [hoff] at hon
          cases hon
    refine ⟨hmode, fun hoff => ?_, fun hoff => ?_⟩
    · exact liveName?_of_unloaded (hunloaded hoff)
    · exact hsound.theme_of_unloaded (hunloaded hoff)

theorem Sound.of_eq {host next : Host} (hsound : host.Sound)
    (hlive : next.live = host.live) (hoff : next.off = host.off)
    (htheme : next.theme = host.theme) (hmode : next.mode = host.mode) :
    next.Sound := by
  constructor
  · rw [hmode, isSome_liveName?, hlive, hoff, ← isSome_liveName?]
    exact hsound.live_of_server
  · rw [hlive, htheme]
    exact hsound.theme_of_unloaded

theorem Change.sound {host next : Host} (hchange : host.Change next)
    (hsound : host.Sound) : next.Sound := by
  cases hchange with
  | keep catalog theme htheme =>
      constructor
      · exact hsound.live_of_server
      · intro hlive
        exact (htheme hlive).trans (hsound.theme_of_unloaded hlive)
  | install catalog theme live hoff hother =>
      constructor
      · exact fun _ => ⟨rfl, hoff⟩
      · intro hlive
        cases hlive

theorem choose_sound {host : Host} (hub : Hub)
    (htheme : host.live = none → host.theme = none)
    (hlive : host.mode = .server → host.liveName?.isSome) :
    (host.choose hub).1.Sound := by
  rcases host.choose_fst hub with ⟨_, hnext⟩ | ⟨_, next, hchange, hnext⟩
  · rw [hnext]
    refine ⟨fun hmode => ?_, htheme⟩
    cases hmode
  · have hsound := hchange.sound ⟨fun hmode => ⟨hlive hmode, rfl⟩, htheme⟩
    rw [hnext]
    split
    · refine ⟨fun hmode => ?_, hsound.theme_of_unloaded⟩
      cases hmode
    · exact hsound

theorem Sound.perform {host : Host} (hsound : host.Sound) (hub : Hub)
    (operation : Operation) : (host.perform hub operation).1.Sound := by
  have hlive : host.mode = .server → host.liveName?.isSome :=
    fun hmode => (hsound.live_of_server hmode).1
  cases operation with
  | start session => exact choose_sound hub hsound.theme_of_unloaded hlive
  | switchTo name => exact (host.switchTo_change hub name).sound hsound
  | reconfigure workspace =>
      simp only [Host.perform]
      rcases reconfigure_host rfl workspace with
        ⟨_, _, hnext⟩ | ⟨_, _, hnext⟩ | ⟨_, _, hnext⟩ | ⟨_, _, hchange⟩
      · rw [hnext]
        exact choose_sound hub hsound.theme_of_unloaded hlive
      · rw [hnext, switchOff_fst]
        refine ⟨fun hmode => ?_, fun _ => rfl⟩
        cases hmode
      · rw [hnext]
        exact hsound.of_eq rfl rfl rfl rfl
      · exact hchange.sound (hsound.of_eq rfl rfl rfl rfl)
  | changeTheme id => exact hsound.of_eq rfl rfl rfl rfl
  | changeFont font => exact hsound.of_eq rfl rfl rfl rfl
  | changeDpi dpi => exact hsound.of_eq rfl rfl rfl rfl
  | write group key value => exact hsound

theorem adrift_iff_of_eq {host next : Host}
    (hname : next.liveName? = host.liveName?) (hmode : next.mode = host.mode) :
    next.Adrift ↔ host.Adrift ∧ next.liveName? = host.liveName? := by
  unfold Adrift
  rw [hname, hmode]
  constructor
  · intro hadrift
    exact ⟨hadrift, rfl⟩
  · intro hadrift
    exact hadrift.1

theorem adrift_iff_of_unloaded {host next : Host} (hlive : next.live = none) :
    next.Adrift ↔ host.Adrift ∧ next.liveName? = host.liveName? := by
  have hname := liveName?_of_unloaded hlive
  rw [hname]
  constructor
  · rintro ⟨hsome, _⟩
    rw [hname] at hsome
    cases hsome
  · rintro ⟨⟨hsome, _⟩, hsame⟩
    rw [← hsame] at hsome
    cases hsome

theorem Change.adrift_iff {host next : Host} (hchange : host.Change next) :
    next.Adrift ↔ host.Adrift ∧ next.liveName? = host.liveName? := by
  cases hchange with
  | keep catalog theme htheme => exact adrift_iff_of_eq rfl rfl
  | install catalog theme live hoff hother =>
      constructor
      · rintro ⟨_, hmode⟩
        cases hmode
      · rintro ⟨_, hname⟩
        exact absurd hname.symm hother

theorem choose_adrift_iff_of_off {host : Host} {hub : Hub}
    (hoff : hub.store.switchedOff = true) :
    (host.choose hub).1.Adrift ↔ host.liveName?.isSome := by
  rcases host.choose_fst hub with ⟨_, hnext⟩ | ⟨hon, _⟩
  · rw [hnext]
    constructor
    · intro hadrift
      exact hadrift.1
    · intro hlive
      exact ⟨hlive, rfl⟩
  · rw [hoff] at hon
    cases hon

theorem choose_adrift_iff_of_on {host : Host} {hub : Hub}
    (hon : hub.store.switchedOff = false) :
    (host.choose hub).1.Adrift ↔
      host.Adrift ∧ (host.choose hub).1.liveName? = host.liveName? := by
  rcases host.choose_fst hub with ⟨hoff, _⟩ | ⟨_, next, hchange, hnext⟩
  · rw [hon] at hoff
    cases hoff
  · rw [hnext]
    split
    · next hunloaded =>
        exact adrift_iff_of_unloaded (Option.isNone_iff_eq_none.mp hunloaded)
    · exact hchange.adrift_iff

theorem perform_adrift_iff {operation : Operation}
    (hother : ∀ session, operation ≠ .start session) (host : Host)
    (hub : Hub) :
    (host.perform hub operation).1.Adrift ↔ host.Adrift ∧
      (host.perform hub operation).1.liveName? = host.liveName? := by
  cases operation with
  | start session => exact absurd rfl (hother session)
  | switchTo name => exact (host.switchTo_change hub name).adrift_iff
  | reconfigure workspace =>
      simp only [Host.perform]
      rcases reconfigure_host rfl workspace with
        ⟨hon, _, hnext⟩ | ⟨_, _, hnext⟩ | ⟨_, _, hnext⟩ | ⟨_, _, hchange⟩
      · rw [hnext]
        exact choose_adrift_iff_of_on hon
      · rw [hnext, switchOff_fst]
        exact adrift_iff_of_unloaded rfl
      · rw [hnext]
        exact adrift_iff_of_eq rfl rfl
      · exact hchange.adrift_iff
  | changeTheme id => exact adrift_iff_of_eq rfl rfl
  | changeFont font => exact adrift_iff_of_eq rfl rfl
  | changeDpi dpi => exact adrift_iff_of_eq rfl rfl
  | write group key value => exact adrift_iff_of_eq rfl rfl

theorem start_adrift_iff (host : Host) (hub : Hub) (session : Session) :
    (host.start hub session).1.Adrift ↔
      (hub.store.switchedOff = true ∧ host.liveName?.isSome) ∨
      (host.Adrift ∧
        (host.start hub session).1.liveName? = host.liveName?) := by
  unfold start
  cases hoff : hub.store.switchedOff with
  | true =>
      refine (choose_adrift_iff_of_off hoff).trans ?_
      constructor
      · intro hlive
        exact .inl ⟨rfl, hlive⟩
      · rintro (⟨_, hlive⟩ | ⟨hadrift, _⟩)
        · exact hlive
        · exact hadrift.1
  | false =>
      refine (choose_adrift_iff_of_on hoff).trans ?_
      constructor
      · intro hadrift
        exact .inr hadrift
      · rintro (⟨habsurd, _⟩ | hadrift)
        · cases habsurd
        · exact hadrift

section

variable (catalog : Catalog) (store : Config.Store)

/-- A start found decorations switched off while a backend was live, and that
backend has been the live one ever since. -/
inductive Stranded : List Operation → Prop
  | start {session : Session} {earlier : List Operation}
      (hoff : (after catalog store earlier).2.store.switchedOff = true)
      (hlive : (after catalog store earlier).1.liveName?.isSome) :
      Stranded (.start session :: earlier)
  | later {operation : Operation} {earlier : List Operation}
      (hearlier : Stranded earlier)
      (hsame : (after catalog store (operation :: earlier)).1.liveName? =
        (after catalog store earlier).1.liveName?) :
      Stranded (operation :: earlier)

theorem after_sound (operations : List Operation) :
    (after catalog store operations).1.Sound := by
  induction operations with
  | nil =>
      refine ⟨fun hmode => ?_, fun _ => rfl⟩
      cases hmode
  | cons operation earlier ih => exact ih.perform _ operation

theorem adrift_iff_stranded (operations : List Operation) :
    (after catalog store operations).1.Adrift ↔
      Stranded catalog store operations := by
  induction operations with
  | nil =>
      constructor
      · rintro ⟨hlive, _⟩
        cases hlive
      · intro hstranded
        cases hstranded
  | cons operation earlier ih =>
      by_cases hstart : ∃ session, operation = .start session
      · rcases hstart with ⟨session, hsession⟩
        subst hsession
        refine (start_adrift_iff _ _ session).trans ?_
        constructor
        · rintro (⟨hoff, hlive⟩ | ⟨hadrift, hsame⟩)
          · exact .start hoff hlive
          · exact .later (ih.mp hadrift) hsame
        · intro hstranded
          cases hstranded with
          | start hoff hlive => exact .inl ⟨hoff, hlive⟩
          | later hearlier hsame => exact .inr ⟨ih.mpr hearlier, hsame⟩
      · have hother : ∀ session, operation ≠ .start session :=
          fun session hsession => hstart ⟨session, hsession⟩
        refine (perform_adrift_iff hother _ _).trans ?_
        constructor
        · rintro ⟨hadrift, hsame⟩
          exact .later (ih.mp hadrift) hsame
        · intro hstranded
          cases hstranded with
          | start hoff hlive => exact absurd rfl (hother _)
          | later hearlier hsame => exact ⟨ih.mpr hearlier, hsame⟩

/-- Mode, live backend and switch agree after exactly those operations that
have not stranded the backend that is live. -/
theorem agrees_iff_not_stranded (operations : List Operation) :
    (after catalog store operations).1.Agrees ↔
      ¬ Stranded catalog store operations := by
  rw [(after_sound catalog store operations).agrees_iff, adrift_iff_stranded]

end

/-- Decorations were switched off between two starts. -/
theorem not_agrees_after_second_start :
    ¬ (after .standard {} [.start {},
      .write Config.decorationGroup "NoPlugin" "true", .start {}]).1.Agrees := by
  intro hagrees
  have hoff : (after .standard {} [.start {},
      .write Config.decorationGroup "NoPlugin" "true",
      .start {}]).1.off = true := by decide
  have hlive := hagrees.live_of_off hoff
  revert hlive
  decide

end Host
end WindowChrome
