import WindowChrome.Proofs.Decorator.Currency
import WindowChrome.Proofs.Host.Lasting

/-!
# The signals are a full account

What is pending between operations is only ever about windows, so a listener's
picture of preferences and mode is right without it.
-/

namespace WindowChrome

namespace Decorator

def picture (decorator : Decorator) : Picture :=
  .of decorator.preferences decorator.host.mode

/-- One decorator came of another before any decoration was touched, and the
signals emitted on the way tell a listener what is different. -/
def Telling (decorator ready : Decorator) : Prop :=
  decorator.picture.Tells decorator.hub ready.picture ready.hub

namespace Telling

variable {decorator ready : Decorator}

theorem of_eq (hpicture : ready.picture = decorator.picture)
    (hhub : ready.hub.delivered = decorator.hub.delivered ∧
      ready.hub.pending = decorator.hub.pending) :
    decorator.Telling ready :=
  Picture.Tells.of_eq hpicture hhub.1 hhub.2

theorem trans {middle : Decorator} (hfirst : decorator.Telling middle)
    (hsecond : middle.Telling ready) : decorator.Telling ready :=
  Picture.Tells.trans hfirst hsecond

theorem of_host {host : Host} {hub : Hub}
    (htelling : decorator.host.Telling decorator.hub host hub) :
    decorator.Telling { decorator with host, hub } :=
  htelling decorator.picture rfl

theorem themed (decorator : Decorator) (session : Session) :
    decorator.Telling
      { decorator.applyTheme session.themeId with session } :=
  .of_eq rfl ⟨rfl, rfl⟩

theorem recompute (decorator : Decorator) (workspace : Workspace) :
    decorator.Telling (decorator.recompute workspace).2 := by
  have hdiffer := Picture.tells_differences decorator.preferences
    (decorator.preferences.computed decorator.hub.store
      decorator.host.recommended? workspace decorator.session)
    decorator.host.mode decorator.hub
  have hwhole := hdiffer.trans
    (@Picture.Tells.emit _ .reconfigured rfl (fun hhas => hhas) _)
  rw [← Hub.emitAll_append] at hwhole
  exact hwhole

theorem reread (decorator : Decorator) (workspace : Workspace) :
    decorator.Telling (decorator.reread workspace).2 := by
  have hhost := (Host.lasting_telling decorator.host decorator.hub).reconfigure
    (.refl _ _) workspace
  exact (of_host hhost).trans (.recompute _ workspace)

end Telling

theorem Ready.telling {decorator ready : Decorator} {operation : Operation}
    (hready : decorator.Ready operation ready) : decorator.Telling ready := by
  cases hready with
  | start session workspace =>
      have hhost := (Host.lasting_telling decorator.host decorator.hub).start
        (.refl _ _) session
      have hthemed := (Telling.of_host hhost).trans (.themed _ session)
      exact (hthemed.trans (.recompute _ workspace)).trans
        (.of_eq rfl ⟨rfl, rfl⟩)
  | window workspace id event => exact .of_eq rfl ⟨rfl, rfl⟩
  | theme workspace id => exact .of_eq rfl ⟨rfl, rfl⟩
  | font workspace family size hpush =>
      simp only [Preferences.pushFont, bind_eq_ok_iff] at hpush
      rcases hpush with ⟨pixelSize, _, hresult⟩
      cases hresult
      exact Picture.tells_differences _ _ decorator.host.mode decorator.hub
  | dpi workspace dpi => exact .of_eq rfl ⟨rfl, rfl⟩
  | declared workspace => exact .recompute decorator workspace
  | reread workspace hstate => exact .reread decorator workspace
  | cleared workspace hstate =>
      exact (Telling.reread decorator workspace).trans (.of_eq rfl ⟨rfl, rfl⟩)

structure Accounted (decorator : Decorator) : Prop where
  learns : Picture.Learns {} decorator.hub.delivered decorator.picture
  pending : ∀ signal ∈ decorator.hub.pending, signal.window?.isSome

variable {decorator later : Decorator}

theorem Accounted.of_eq {other : Decorator} (haccounted : decorator.Accounted)
    (hpicture : other.picture = decorator.picture)
    (hhub : other.hub.delivered = decorator.hub.delivered ∧
      other.hub.pending = decorator.hub.pending) : other.Accounted := by
  constructor
  · rw [hpicture, hhub.1]
    exact haccounted.learns
  · rw [hhub.2]
    exact haccounted.pending

theorem Accounted.perform {operation : Operation}
    (haccounted : decorator.Accounted)
    (hperform : decorator.perform operation = .ok later) :
    later.Accounted := by
  cases performed_of_perform hperform with
  | @turned _ ready done signals hready houtcome =>
      rcases houtcome.eq with ⟨commons, decorations, hdone⟩
      have htelling := hready.telling
      rcases htelling.emitted with ⟨told, hpending, _, hlearns⟩
      subst hdone
      refine ⟨?_, fun signal hsignal => by cases hsignal⟩
      have hwhole := ((haccounted.learns.append
        (Picture.learns_of_windows haccounted.pending)).append hlearns).append
          (Picture.learns_of_windows houtcome.windows)
      have hdelivered : ready.hub.delivered ++ (ready.hub.pending ++ signals) =
          decorator.hub.delivered ++ decorator.hub.pending ++ told ++
            signals := by
        rw [htelling.delivered_eq, hpending]
        simp only [List.append_assoc]
      rw [← hdelivered] at hwhole
      exact hwhole
  | decorated window hremade =>
      rcases hremade.eq with ⟨commons, decorations, hlater⟩
      subst hlater
      refine ⟨haccounted.learns, fun signal hsignal => ?_⟩
      rcases List.mem_append.mp hsignal with hbefore | hmade
      · exact haccounted.pending signal hbefore
      · exact hremade.windows signal hmade
  | undecorated id => exact haccounted.of_eq rfl ⟨rfl, rfl⟩
  | written group key value => exact haccounted.of_eq rfl ⟨rfl, rfl⟩
  | spared properties => exact haccounted.of_eq rfl ⟨rfl, rfl⟩

theorem accounted_new (catalog : Catalog) (store : Config.Store)
    (properties : PropertyTable) :
    (Decorator.new catalog store properties).Accounted :=
  ⟨rfl, fun signal hsignal => by cases hsignal⟩

theorem Run.accounted {allowed : Decorator → Operation → Prop}
    {ledger : Ledger} (hrun : Run allowed decorator ledger) :
    decorator.Accounted := by
  induction hrun with
  | new catalog store properties =>
      exact accounted_new catalog store properties
  | perform operation _ _ hperform ih => exact ih.perform hperform

/-- A listener that began with the standard values and took over each value it
heard of has the preferences and the mode right, and whatever it heard was news
to it at that moment. -/
theorem picture_eq_of_run {allowed : Decorator → Operation → Prop}
    {ledger : Ledger} (hrun : Run allowed decorator ledger) :
    decorator.hub.delivered.foldl Picture.hear {} =
      .of decorator.preferences decorator.host.mode ∧
    decorator.host.font = decorator.preferences.font ∧
    ∀ earlier signal rest,
      decorator.hub.delivered = earlier ++ signal :: rest →
        ¬ (earlier.foldl Picture.hear {}).Has signal := by
  rcases hrun.accounted.learns.foldl_eq with ⟨hpicture, hnews⟩
  exact ⟨hpicture, hrun.inStep.font_eq, hnews⟩

theorem picture_eq_after_reload :
    ∃ decorator ledger, Run (fun _ _ => True) decorator ledger ∧
      decorator.hub.delivered =
        [.mode .server, .declared, .reconfigured, .font ⟨"Sans", 20⟩,
          .closeOnDoubleClick true, .reconfigured] ∧
      decorator.hub.delivered.foldl Picture.hear {} =
        .of decorator.preferences decorator.host.mode ∧
      decorator.host.font = ⟨"Sans", 20⟩ := by
  obtain ⟨decorator, ledger, hrun, hdelivered, hfont⟩ :
      ∃ decorator ledger, Run (fun _ _ => True) decorator ledger ∧
        decorator.hub.delivered =
          [.mode .server, .declared, .reconfigured, .font ⟨"Sans", 20⟩,
            .closeOnDoubleClick true, .reconfigured] ∧
        decorator.preferences.font = ⟨"Sans", 20⟩ :=
    ⟨_, _,
      .perform (.handle { windows := [] } .reconfigured)
        (.perform (.write Config.decorationGroup "CloseOnDoubleClickOnMenu"
            "true")
          (.perform (.handle { windows := [] } (.font "Sans" 20))
            (.perform (.start {} { windows := [] })
              (.new .standard {} .empty) trivial (by exact rfl))
            trivial (by exact rfl))
          trivial (by exact rfl))
        trivial (by exact rfl),
      by exact rfl, by exact rfl⟩
  obtain ⟨hpicture, hhost, _⟩ := picture_eq_of_run hrun
  exact ⟨decorator, ledger, hrun, hdelivered, hpicture, hhost.trans hfont⟩

end Decorator
end WindowChrome
