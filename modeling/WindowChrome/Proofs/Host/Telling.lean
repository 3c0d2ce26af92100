import WindowChrome.Proofs.Host.Swap
import WindowChrome.Proofs.Signal.Picture

/-! # What a host tells -/

namespace WindowChrome
namespace Host

/-- One host came of another, and the signals emitted on the way tell a
listener of the mode. -/
def Telling (host : Host) (hub : Hub) (next : Host) (later : Hub) : Prop :=
  ∀ picture : Picture, picture.mode = host.mode →
    picture.Tells hub { picture with mode := next.mode } later

namespace Telling

variable {host next : Host} {hub later : Hub}

theorem of_eq (hmode : next.mode = host.mode)
    (hdelivered : later.delivered = hub.delivered)
    (hpending : later.pending = hub.pending) :
    host.Telling hub next later := by
  intro picture hpicture
  refine .of_eq ?_ hdelivered hpending
  rw [hmode, ← hpicture]

theorem refl (host : Host) (hub : Hub) : host.Telling hub host hub :=
  .of_eq rfl rfl rfl

theorem trans {last : Host} {final : Hub}
    (hfirst : host.Telling hub next later)
    (hsecond : next.Telling later last final) :
    host.Telling hub last final := by
  intro picture hpicture
  exact (hfirst picture hpicture).trans (hsecond _ rfl)

theorem setMode (host : Host) (hub : Hub) (mode : Mode) :
    host.Telling hub (host.setMode hub mode).1 (host.setMode hub mode).2 := by
  intro picture hpicture
  have hsame : host.mode = mode ↔ picture.Has (.mode mode) := by
    rw [← hpicture]
    rfl
  rw [setMode_fst, setMode_snd]
  exact .emit_unless rfl hsame hub

theorem rethemed (host : Host) (hub : Hub) (theme : Option String) :
    host.Telling hub { host with theme }
      { hub with pending := hub.pending ++ host.themeSignals theme } := by
  intro picture hpicture
  have hsame : picture = { picture with mode := host.mode } := by
    rw [← hpicture]
  show picture.Tells hub { picture with mode := host.mode }
    (hub.emitAll (host.themeSignals theme))
  rw [← hsame]
  unfold themeSignals
  split
  · rw [Hub.emitAll_nil]
    exact .of_eq rfl rfl rfl
  · exact @Picture.Tells.emit picture (.theme theme) rfl (fun hhas => hhas) hub

theorem refreshTheme (host : Host) (hub : Hub) :
    host.Telling hub (host.refreshTheme hub).2.1
      (host.refreshTheme hub).2.2 := by
  cases hlive : host.live with
  | none =>
      unfold Host.refreshTheme
      rw [hlive]
      exact .refl host hub
  | some live =>
      rw [refreshTheme_of_live hlive]
      exact .rethemed host hub _

end Telling

theorem Switched.telling {host next : Host} {hub later : Hub} {name : String}
    {result : Except LoadError Unit}
    (hswitched : host.Switched hub name result next later) :
    host.Telling hub next later := by
  cases hswitched with
  | off hoff => exact .refl host hub
  | same live hon hlive hname => exact .rethemed host hub _
  | unknown hon hother hfind => exact .refl host hub
  | flagged item hon hother hfind hflagged => exact .refl host hub
  | failed item run store frozen error hon hother hfind hname hguarded hload =>
      exact .of_eq rfl rfl rfl
  | loaded item run store frozen backend hon hother hfind hname hguarded hload =>
      intro picture hpicture
      have hmode := Telling.setMode host hub .server picture hpicture
      rw [setMode_fst, setMode_snd] at hmode
      have hdeclared := hmode.trans
        (@Picture.Tells.emit _ .declared rfl (fun hhas => hhas) _)
      exact hdeclared.trans (.of_eq rfl rfl (List.append_assoc _ _ _).symm)

end Host
end WindowChrome
