import WindowChrome.Proofs.Frame.Shadow

/-!
# Updates leave nothing out

A caller that brings up to date the copies an update names, and no others,
always has the frame as it is.  That the frame is current is needed where it
has no title bar.
-/

namespace WindowChrome

namespace Frame

structure Geometry where
  borders : Margins
  resizeBorders : Margins
  titleBar : Rect
  left : List (Button.Kind × Rect)
  right : List (Button.Kind × Rect)

structure Paint where
  font : Font
  palette : Palette
  fontColor : Color
  buttonColors : Button.Side → Nat → Option Button.Colors
  caption : Option String

def geometry (frame : Frame) : Geometry where
  borders := frame.borders
  resizeBorders := frame.resizeBorders
  titleBar := frame.titleBar
  left := frame.left.buttons.map fun button => (button.kind, button.rect)
  right := frame.right.buttons.map fun button => (button.kind, button.rect)

def paint (frame : Frame) : Paint where
  font := frame.font
  palette := frame.palette
  fontColor := frame.fontColor
  buttonColors := frame.buttonColors?
  caption := if frame.borderAlone then none else some frame.window.caption

structure Copy where
  geometry : Geometry
  paint : Paint
  shadow : Shadow.Drawn

def Copy.of (frame : Frame) : Copy where
  geometry := frame.geometry
  paint := frame.paint
  shadow := frame.shadow

def Copy.refresh (copy : Copy) (update : Update) (frame : Frame) : Copy where
  geometry := if update.geometry then frame.geometry else copy.geometry
  paint := if update.repaint then frame.paint else copy.paint
  shadow := if update.shadow then frame.shadow else copy.shadow

/-- What a caller that draws a frame when it is made has drawn by acting on
updates alone. -/
def Copy.after (first : Frame) : List Moment → Copy
  | [] => .of first
  | moment :: earlier =>
      (Copy.after first earlier).refresh moment.update moment.next

/-- Between events other frames ask for drawings, or the memo is cleared. -/
def Neighbourly (shadows later : ShadowMemo) : Prop :=
  shadows.Grown later ∨ later = shadows.clear

/-- The frame was made and has been through events since, the copy is that of a
caller that acts on updates alone, and the memo is shared with other frames. -/
def Watched (frame : Frame) (copy : Copy) (shadows : ShadowMemo) : Prop :=
  ∃ sized look window commons first made history,
    fit sized look window commons = .ok (first, made) ∧
    commons.shadows.WellFormed ∧
    Past Neighbourly first made.shadows history frame shadows ∧
    copy = .after first history

namespace Watched

variable {copy : Copy} {frame next : Frame} {shadows later : ShadowMemo}

theorem fit {sized : Bool} {look : Look} {window : Window}
    {commons made : Commons} (hformed : commons.shadows.WellFormed)
    (hfit : Frame.fit sized look window commons = .ok (frame, made)) :
    frame.Watched (.of frame) made.shadows :=
  ⟨sized, look, window, commons, frame, made, [], hfit, hformed, .refl, rfl⟩

theorem handle {event : Decoration.Event} {update : Update}
    (hwatched : frame.Watched copy shadows)
    (hhandle : frame.handle shadows event = .ok (update, next, later)) :
    next.Watched (copy.refresh update next) later := by
  obtain ⟨sized, look, window, commons, first, made, history, hfit, hformed,
    hpast, rfl⟩ := hwatched
  exact ⟨sized, look, window, commons, first, made, _, hfit, hformed,
    hpast.handle hhandle, rfl⟩

theorem exists_current (hwatched : frame.Watched copy shadows) :
    ∃ sized look window client, frame.Current sized look window client := by
  obtain ⟨sized, look, window, commons, first, made, history, hfit, -, hpast,
    -⟩ := hwatched
  exact ⟨_, _, _, _, hpast.current (fit_current hfit)⟩

end Watched

theorem Past.issued {first frame : Frame} {made shadows : ShadowMemo}
    {history : List Moment}
    (hpast : Past Neighbourly first made history frame shadows)
    (hmade : made.WellFormed ∧ made.Issued first.shadow) :
    shadows.WellFormed ∧ shadows.Issued frame.shadow := by
  induction hpast with
  | refl => exact hmade
  | handle _ hhandle ih =>
      obtain ⟨hformed, hissued⟩ := ih
      have hrenewed := renewed_of_handle hhandle
      exact ⟨hrenewed.grown.wellFormed hformed, hrenewed.issued hformed hissued⟩
  | takeAction _ ih => exact ih
  | share _ hshare ih =>
      obtain ⟨hformed, hissued⟩ := ih
      rcases hshare with hgrown | rfl
      · exact ⟨hgrown.wellFormed hformed, hissued.grown hgrown⟩
      · exact ⟨.clear, hissued.clear⟩

/-! ## What an update leaves out is unchanged -/

/-- Whatever the update does not name is as it was, and an action is named if
and only if a button is clicked. -/
structure Tells (frame : Frame) (clicked : Option Button.Kind)
    (update : Update) (next : Frame) : Prop where
  geometry_eq : update.geometry = false → next.geometry = frame.geometry
  paint_eq : update.repaint = false → next.paint = frame.paint
  action_isSome : update.action = clicked.isSome
  action_eq : next.action = clicked.or frame.action

variable {frame next : Frame} {update : Update} {shadows later : ShadowMemo}

theorem geometry_atRest (frame : Frame) :
    frame.atRest.geometry = frame.geometry := by
  simp [geometry, atRest, Button.Group.atRest, Button.atRest,
    Function.comp_def]

theorem geometry_eq_of_atRest_eq (hrest : next.atRest = frame.atRest) :
    next.geometry = frame.geometry := by
  rw [← geometry_atRest next, hrest, geometry_atRest]

theorem action_of_layOut (hlayOut : frame.layOut = .ok next) :
    next.action = frame.action := by
  cases halone : frame.borderAlone with
  | true =>
      rw [layOut_of_borderAlone halone] at hlayOut
      cases hlayOut
      rfl
  | false =>
      rw [layOut_eq halone, map_eq_ok_iff] at hlayOut
      obtain ⟨found, -, hnext⟩ := hlayOut
      rw [← hnext]
      rfl

theorem relayOut_cases (hrelayOut : frame.relayOut = .ok (update, next)) :
    (frame.borderAlone = true ∧ update = .nothing ∧ next = frame) ∨
    (frame.borderAlone = false ∧
      update = { geometry := true, repaint := true } ∧
      next.action = frame.action) := by
  have haction := action_of_layOut (layOut_of_relayOut hrelayOut)
  unfold relayOut at hrelayOut
  cases halone : frame.borderAlone with
  | true =>
      rw [if_pos halone] at hrelayOut
      cases hrelayOut
      exact .inl ⟨rfl, rfl, rfl⟩
  | false =>
      simp only [halone, Bool.false_eq_true, if_false,
        bind_eq_ok_iff] at hrelayOut
      obtain ⟨placed, -, hresult⟩ := hrelayOut
      cases hresult
      exact .inr ⟨rfl, rfl, haction⟩

theorem tells_of_relayOut {changed : Frame}
    (hrelayOut : changed.relayOut = .ok (update, next))
    (haction : changed.action = frame.action)
    (halone : changed.borderAlone = true →
      changed.geometry = frame.geometry ∧ changed.paint = frame.paint) :
    frame.Tells none update next := by
  rcases relayOut_cases hrelayOut with
    ⟨hchanged, rfl, rfl⟩ | ⟨-, rfl, hnext⟩
  · obtain ⟨hgeometry, hpaint⟩ := halone hchanged
    exact ⟨fun _ => hgeometry, fun _ => hpaint, rfl, haction⟩
  · constructor
    · simp
    · simp
    · rfl
    · rw [hnext, haction]
      rfl

theorem tells_of_maximize {on : Bool}
    (hmaximize : frame.maximize on = .ok (update, next)) :
    frame.Tells none update next := by
  rcases maximize_cases hmaximize with ⟨-, rfl, rfl⟩ | ⟨laid, hrelayOut, rfl⟩
  · exact ⟨fun _ => rfl, fun _ => rfl, rfl, rfl⟩
  · rcases relayOut_cases hrelayOut with ⟨-, rfl, rfl⟩ | ⟨-, rfl, haction⟩
    · exact ⟨by simp, fun _ => rfl, rfl, rfl⟩
    · exact ⟨by simp, by simp, rfl, haction⟩

theorem tells_of_enable {capabilities : Capabilities}
    {sized : Bool} {look : Look} {window : Window} {client : Client}
    (hframe : frame.Current sized look window client)
    (henable : frame.enable capabilities = .ok (update, next)) :
    frame.Tells none update next := by
  rcases enable_cases henable with hrelayOut | ⟨-, -, rfl, rfl⟩
  · refine tells_of_relayOut hrelayOut rfl fun halone => ?_
    have hclient : client.borderAlone = true := by
      rw [← hframe.borderAlone_eq]
      exact halone
    have hnone : ∀ group : Button.Group, group.configured = [] →
        group.buttons = [] → (group.refresh capabilities).2 = group := by
      intro group hconfigured hbuttons
      simp [Button.Group.refresh, Button.Group.visibleKinds,
        Button.Group.kinds, hconfigured, hbuttons]
    have hleft := hnone frame.left
      (by simp [hframe.left_shows.configured_eq, layoutFor, hclient])
      (hframe.left_nil hclient)
    have hright := hnone frame.right
      (by simp [hframe.right_shows.configured_eq, layoutFor, hclient])
      (hframe.right_nil hclient)
    rw [hleft, hright]
    exact ⟨rfl, rfl⟩
  · exact ⟨fun _ => rfl, fun _ => rfl, rfl, rfl⟩

end Frame

/-! ## The pointer -/

namespace Button

theorem hoverEach_eq_self {pointer : Option Point}
    {buttons marked : List Button}
    (hhover : hoverEach pointer buttons = .ok (false, marked)) :
    marked = buttons := by
  induction buttons generalizing marked with
  | nil =>
      cases hhover
      rfl
  | cons button rest ih =>
      rcases hoverEach_cons_cases hhover with
        ⟨hovered, restChanged, others, _, _, hrest, hchanged, hmarked⟩
      have hsame := hchanged.symm
      rw [Bool.or_eq_false_iff, bne_eq_false_iff_eq] at hsame
      rw [hsame.2] at hrest
      rw [hmarked, ih hrest, ← hsame.1]

theorem releaseEach_eq_self {point : Point} {buttons released : List Button}
    {clicked : Option Kind}
    (hrelease : releaseEach point buttons =
      .ok (false, clicked, released)) : released = buttons := by
  induction buttons generalizing clicked released with
  | nil =>
      cases hrelease
      rfl
  | cons button rest ih =>
      rcases releaseEach_cons_cases hrelease with
        ⟨restTouched, restClicked, others, hrest, hcases⟩
      rcases hcases with
        ⟨_, htouched, _, _⟩ | ⟨_, htouched, _, hreleased⟩
      · cases htouched
      · rw [← htouched] at hrest
        rw [hreleased, ih hrest]

def HitBy (button : Button) (point : Point) : Prop :=
  button.pressed = true ∧ button.rect.contains point = .ok true

def LastHit (point : Point) (buttons : List Button) (button : Button) : Prop :=
  ∃ before after, buttons = before ++ button :: after ∧
    button.HitBy point ∧ ∀ other ∈ after, ¬ other.HitBy point

theorem LastHit.cons {point : Point} {rest : List Button} {button : Button}
    (hlast : LastHit point rest button) (first : Button) :
    LastHit point (first :: rest) button := by
  rcases hlast with ⟨before, after, hrest, hhit⟩
  exact ⟨first :: before, after, by rw [hrest, List.cons_append], hhit⟩

theorem clicked_of_releaseEach {point : Point}
    {buttons released : List Button} {touched : Bool} {clicked : Option Kind}
    (hrelease : releaseEach point buttons = .ok (touched, clicked, released)) :
    (clicked = none → ∀ button ∈ buttons, ¬ button.HitBy point) ∧
    (∀ kind, clicked = some kind →
      ∃ button, LastHit point buttons button ∧ button.kind = kind) := by
  induction buttons generalizing touched clicked released with
  | nil =>
      cases hrelease
      simp
  | cons button rest ih =>
      rcases releaseEach_cons_cases hrelease with
        ⟨restTouched, restClicked, others, hrest, hcases⟩
      rcases ih hrest with ⟨hnone, hsome⟩
      have hlater : ∀ kind, restClicked = some kind →
          ∃ other, LastHit point (button :: rest) other ∧
            other.kind = kind := by
        intro kind hkind
        rcases hsome kind hkind with ⟨other, hlast, hother⟩
        exact ⟨other, hlast.cons button, hother⟩
      rcases hcases with
        ⟨hpressed, _, ⟨hit, hcontains, hclicked⟩, _⟩ |
        ⟨hpressed, _, hclicked, _⟩
      · rw [hclicked]
        cases restClicked with
        | some kind =>
            exact ⟨by simp, hlater⟩
        | none =>
            have hmissed := hnone rfl
            cases hit with
            | true =>
                constructor
                · simp
                · intro kind hkind
                  exact ⟨button, ⟨[], rest, rfl, ⟨hpressed, hcontains⟩,
                    hmissed⟩, Option.some.inj hkind⟩
            | false =>
                have hbeside : ¬ button.HitBy point := by
                  intro hhit
                  simp [hhit.2] at hcontains
                constructor
                · simpa using ⟨hbeside, hmissed⟩
                · simp
      · rw [hclicked]
        constructor
        · intro hclickedNone
          rw [List.forall_mem_cons]
          refine ⟨?_, hnone hclickedNone⟩
          intro hhit
          rw [hhit.1] at hpressed
          cases hpressed
        · exact hlater

theorem LastHit.append_left {point : Point} {first second : List Button}
    {button : Button} (hfirst : LastHit point first button)
    (hsecond : ∀ other ∈ second, ¬ other.HitBy point) :
    LastHit point (first ++ second) button := by
  obtain ⟨before, after, rfl, hhit, hafter⟩ := hfirst
  refine ⟨before, after ++ second, by simp, hhit, ?_⟩
  intro other hother
  rcases List.mem_append.mp hother with hother | hother
  · exact hafter other hother
  · exact hsecond other hother

theorem LastHit.append_right {point : Point} {first second : List Button}
    {button : Button} (hsecond : LastHit point second button) :
    LastHit point (first ++ second) button := by
  obtain ⟨before, after, rfl, hhit⟩ := hsecond
  exact ⟨first ++ before, after, by simp, hhit⟩

end Button

namespace Frame

variable {frame next : Frame} {update : Update} {shadows later : ShadowMemo}

theorem tells_of_hover {pointer : Option Point}
    (hhover : frame.hover pointer = .ok (update, next)) :
    frame.Tells none update next := by
  have hgeometry := geometry_eq_of_atRest_eq (hover_atRest hhover)
  simp only [hover, Button.Group.hover, bind_eq_ok_iff] at hhover
  obtain ⟨⟨leftChanged, left⟩, ⟨⟨_, leftButtons⟩, hleft, hleftResult⟩,
    ⟨rightChanged, right⟩, ⟨⟨_, rightButtons⟩, hright, hrightResult⟩,
    hresult⟩ := hhover
  cases hleftResult
  cases hrightResult
  cases hresult
  refine ⟨fun _ => hgeometry, fun hquiet => ?_, rfl, rfl⟩
  rw [Bool.or_eq_false_iff] at hquiet
  obtain ⟨rfl, rfl⟩ := hquiet
  rw [Button.hoverEach_eq_self hleft, Button.hoverEach_eq_self hright]

theorem tells_of_press {point : Point}
    (hpress : frame.press point = .ok (update, next)) :
    frame.Tells none update next := by
  have hgeometry := geometry_eq_of_atRest_eq (press_atRest hpress)
  simp only [press, bind_eq_ok_iff] at hpress
  obtain ⟨left, -, hpress⟩ := hpress
  cases left with
  | some left =>
      cases hpress
      exact ⟨fun _ => hgeometry, by simp, rfl, rfl⟩
  | none =>
      simp only [bind_eq_ok_iff] at hpress
      obtain ⟨right, -, hpress⟩ := hpress
      cases right with
      | some right =>
          cases hpress
          exact ⟨fun _ => hgeometry, by simp, rfl, rfl⟩
      | none =>
          cases hpress
          exact ⟨fun _ => rfl, fun _ => rfl, rfl, rfl⟩

/-- The button that a release at the point clicks: the last one hit, the left
side coming before the right one. -/
def Clicked (frame : Frame) (point : Point) (button : Button) : Prop :=
  Button.LastHit point (frame.left.buttons ++ frame.right.buttons) button

theorem tells_of_release {point : Point}
    (hrelease : frame.release point = .ok (update, next)) :
    ∃ clicked, frame.Tells clicked update next ∧
      (clicked = none → ∀ button ∈ frame.left.buttons ++ frame.right.buttons,
        ¬ button.HitBy point) ∧
      ∀ kind, clicked = some kind →
        ∃ button, frame.Clicked point button ∧ button.kind = kind := by
  have hgeometry := geometry_eq_of_atRest_eq (release_atRest hrelease)
  simp only [release, Button.Group.release, bind_eq_ok_iff] at hrelease
  obtain ⟨⟨_, _, _⟩, ⟨⟨leftTouched, leftClicked, leftButtons⟩, hleft, ⟨⟩⟩,
    ⟨_, _, _⟩, ⟨⟨rightTouched, rightClicked, rightButtons⟩, hright, ⟨⟩⟩,
    ⟨⟩⟩ := hrelease
  obtain ⟨hnotLeft, honLeft⟩ := Button.clicked_of_releaseEach hleft
  obtain ⟨hnotRight, honRight⟩ := Button.clicked_of_releaseEach hright
  refine ⟨rightClicked.or leftClicked,
    ⟨fun _ => hgeometry, fun hquiet => ?_, rfl, rfl⟩, fun hnone => ?_,
    fun kind hkind => ?_⟩
  · rw [Bool.or_eq_false_iff] at hquiet
    obtain ⟨rfl, rfl⟩ := hquiet
    rw [Button.releaseEach_eq_self hleft, Button.releaseEach_eq_self hright]
    rfl
  · rw [Option.or_eq_none_iff] at hnone
    intro button hbutton
    rcases List.mem_append.mp hbutton with hbutton | hbutton
    · exact hnotLeft hnone.2 button hbutton
    · exact hnotRight hnone.1 button hbutton
  · cases rightClicked with
    | some clicked =>
        obtain ⟨button, hhit, rfl⟩ := honRight kind hkind
        exact ⟨button, hhit.append_right, rfl⟩
    | none =>
        obtain ⟨button, hhit, rfl⟩ := honLeft kind hkind
        exact ⟨button, hhit.append_left (hnotRight rfl), rfl⟩

/-! ## Events -/

def ClickedBy (frame : Frame) (event : Decoration.Event)
    (kind : Button.Kind) : Prop :=
  ∃ point button, event = .window (.pointerReleased point) ∧
    frame.Clicked point button ∧ button.kind = kind

theorem tells_of_handleWindow {event : WindowEvent}
    {sized : Bool} {look : Look} {window : Window} {client : Client}
    (hframe : frame.Current sized look window client)
    (hhandle : frame.handleWindow shadows event = .ok (update, next, later)) :
    ∃ clicked, frame.Tells clicked update next ∧
      ∀ kind, clicked = some kind → frame.ClickedBy (.window event) kind := by
  have hunclicked (htells : frame.Tells none update next) :
      ∃ clicked, frame.Tells clicked update next ∧
        ∀ kind, clicked = some kind →
          frame.ClickedBy (.window event) kind :=
    ⟨none, htells, by simp⟩
  cases event with
  | resized width height =>
      obtain ⟨hrelayOut, -⟩ := handled_of_handleWindow rfl hhandle
      exact hunclicked (tells_of_relayOut hrelayOut rfl fun _ => ⟨rfl, rfl⟩)
  | maximized on =>
      obtain ⟨hmaximize, -⟩ := handled_of_handleWindow rfl hhandle
      exact hunclicked (tells_of_maximize hmaximize)
  | activated on =>
      cases hhandle
      exact hunclicked ⟨fun _ => rfl, by simp, rfl, rfl⟩
  | retitled caption =>
      cases hhandle
      refine hunclicked ⟨fun _ => rfl, fun hquiet => ?_, rfl, rfl⟩
      have halone : frame.borderAlone = true := by simpa using hquiet
      simp only [paint, halone, if_true]
      rfl
  | enabled capabilities =>
      obtain ⟨henable, -⟩ := handled_of_handleWindow rfl hhandle
      exact hunclicked (tells_of_enable hframe henable)
  | pointerMoved pointer =>
      obtain ⟨hhover, -⟩ := handled_of_handleWindow rfl hhandle
      exact hunclicked (tells_of_hover hhover)
  | pointerPressed point =>
      obtain ⟨hpress, -⟩ := handled_of_handleWindow rfl hhandle
      exact hunclicked (tells_of_press hpress)
  | pointerReleased point =>
      obtain ⟨hrelease, -⟩ := handled_of_handleWindow rfl hhandle
      obtain ⟨clicked, htells, -, hclicked⟩ := tells_of_release hrelease
      refine ⟨clicked, htells, fun kind hkind => ?_⟩
      obtain ⟨button, hbutton⟩ := hclicked kind hkind
      exact ⟨point, button, rfl, hbutton⟩

theorem tells_of_handle {event : Decoration.Event}
    {sized : Bool} {look : Look} {window : Window} {client : Client}
    (hframe : frame.Current sized look window client)
    (hhandle : frame.handle shadows event = .ok (update, next, later)) :
    ∃ clicked, frame.Tells clicked update next ∧
      ∀ kind, clicked = some kind → frame.ClickedBy event kind := by
  cases event with
  | window event => exact tells_of_handleWindow hframe hhandle
  | theme id =>
      cases hhandle
      exact ⟨none, ⟨fun _ => rfl, by simp, rfl, rfl⟩, by simp⟩
  | font font =>
      cases hhandle
      exact ⟨none, ⟨fun _ => rfl, by simp, rfl, rfl⟩, by simp⟩
  | layout left right =>
      obtain ⟨-, ⟨-, rfl, rfl⟩ | ⟨hchrome, hrelayOut⟩⟩ := layout_cases hhandle
      · exact ⟨none, ⟨fun _ => rfl, fun _ => rfl, rfl, rfl⟩, by simp⟩
      · have hnever : frame.borderAlone ≠ true := by simp [hchrome]
        exact ⟨none, tells_of_relayOut hrelayOut rfl
          fun halone => absurd halone hnever, by simp⟩

/-! ## The whole history -/

theorem Tells.refresh_eq {clicked : Option Button.Kind}
    (htells : frame.Tells clicked update next)
    (hrenewed : Renewed frame.shadow shadows update next.shadow later)
    (hissued : shadows.Issued frame.shadow) :
    (Copy.of frame).refresh update next = .of next := by
  have hshadow : update.shadow = false → next.shadow = frame.shadow := by
    intro hquiet
    rw [hrenewed.update_eq, bne_eq_false_iff_eq] at hquiet
    exact hrenewed.eq_of_number_eq hissued hquiet
  have hpick : ∀ {α : Type} (told : Bool) (old new : α),
      (told = false → new = old) → (if told then new else old) = new := by
    intro α told old new hsame
    cases told with
    | true => rfl
    | false => exact (hsame rfl).symm
  simp only [Copy.refresh, Copy.of, Copy.mk.injEq]
  exact ⟨hpick _ _ _ htells.geometry_eq, hpick _ _ _ htells.paint_eq,
    hpick _ _ _ hshadow⟩

theorem Past.copy_eq {first : Frame} {made : ShadowMemo}
    {history : List Moment} {sized : Bool} {look : Look} {window : Window}
    {client : Client}
    (hpast : Past Neighbourly first made history frame shadows)
    (hfirst : first.Current sized look window client)
    (hmade : made.WellFormed ∧ made.Issued first.shadow) :
    Copy.after first history = .of frame := by
  induction hpast with
  | refl => rfl
  | handle hpast hhandle ih =>
      obtain ⟨clicked, htells, -⟩ :=
        tells_of_handle (hpast.current hfirst) hhandle
      rw [Copy.after, ih]
      exact htells.refresh_eq (renewed_of_handle hhandle)
        (hpast.issued hmade).2
  | takeAction _ ih => exact ih
  | share _ _ ih => exact ih

theorem Watched.copy_eq {copy : Copy} (hwatched : frame.Watched copy shadows) :
    copy = .of frame := by
  obtain ⟨sized, look, window, commons, first, made, history, hfit, hformed,
    hpast, rfl⟩ := hwatched
  obtain ⟨hgrown, hholds⟩ := memo_of_fit hfit
  have hmade := hgrown.wellFormed hformed
  exact hpast.copy_eq (fit_current hfit) ⟨hmade, .of_holds hmade hholds⟩

/-- What a caller has drawn by following updates is what a frame looks like,
always.  An update names the shadow exactly if the frame gets another one, and
an action exactly if a button was clicked. -/
theorem copy_eq_of_watched {copy : Copy} {event : Decoration.Event}
    (hwatched : frame.Watched copy shadows)
    (hhandle : frame.handle shadows event = .ok (update, next, later)) :
    copy = .of frame ∧ copy.refresh update next = .of next ∧
      (update.geometry = false → next.geometry = frame.geometry) ∧
      (update.shadow = true ↔ next.shadow.number ≠ frame.shadow.number) ∧
      (update.repaint = false → next.paint = frame.paint) ∧
      (update.action = false → next.action = frame.action) ∧
      (update.action = true →
        ∃ kind, frame.ClickedBy event kind ∧ next.action = some kind) := by
  obtain ⟨sized, look, window, client, hcurrent⟩ := hwatched.exists_current
  obtain ⟨clicked, htells, hclicked⟩ := tells_of_handle hcurrent hhandle
  have hrenewed := renewed_of_handle hhandle
  refine ⟨hwatched.copy_eq, (hwatched.handle hhandle).copy_eq,
    htells.geometry_eq, ?_, htells.paint_eq, ?_, ?_⟩
  · rw [hrenewed.update_eq, bne_iff_ne]
  · intro hquiet
    rw [htells.action_isSome, Option.isSome_eq_false_iff,
      Option.isNone_iff_eq_none] at hquiet
    simp [htells.action_eq, hquiet]
  · intro htold
    rw [htells.action_isSome, Option.isSome_iff_exists] at htold
    obtain ⟨kind, hkind⟩ := htold
    refine ⟨kind, hclicked kind hkind, ?_⟩
    simp [htells.action_eq, hkind]

theorem copy_eq_after_click :
    ∃ (frame next : Frame) (copy : Copy) (update : Update)
        (shadows later : ShadowMemo),
      frame.Watched copy shadows ∧
      frame.handle shadows (.window (.pointerReleased ⟨780, 10⟩)) =
        .ok (update, next, later) ∧
      copy.refresh update next = .of next ∧
      next.action = some .close := by
  obtain ⟨first, made, pressed, pressing, drawn, next, update, later, hfit,
      hpress, hrelease, haction⟩ :
      ∃ (first : Frame) (made : Commons) (pressed : Frame) (pressing : Update)
          (drawn : ShadowMemo) (next : Frame) (update : Update)
          (later : ShadowMemo),
        fit true { left := [.menu], right := [.minimize, .close] }
          { id := 1, width := 800, height := 600 } {} = .ok (first, made) ∧
        first.handle made.shadows (.window (.pointerPressed ⟨780, 10⟩)) =
          .ok (pressing, pressed, drawn) ∧
        pressed.handle drawn (.window (.pointerReleased ⟨780, 10⟩)) =
          .ok (update, next, later) ∧
        next.action = some .close :=
    ⟨_, _, _, _, _, _, _, _, rfl, by exact rfl, by exact rfl, by exact rfl⟩
  have hwatched := (Watched.fit Memo.wellFormed_new hfit).handle hpress
  obtain ⟨-, hcopy, -⟩ := copy_eq_of_watched hwatched hrelease
  exact ⟨pressed, next, _, update, drawn, later, hwatched, hrelease, hcopy,
    haction⟩

end Frame
end WindowChrome
