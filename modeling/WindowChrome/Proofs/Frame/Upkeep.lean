import WindowChrome.Proofs.Frame.Current
import WindowChrome.Proofs.Frame.Past
import WindowChrome.Proofs.Shadow.Sharing

/-!
# Keeping frames up to date

Making a frame makes it current, and every event keeps it current for the
window and the look as they are after it.
-/

namespace WindowChrome

/-! ## What events say -/

def Window.after (window : Window) : WindowEvent → Window
  | .resized width height => { window with width, height }
  | .maximized on => { window with maximized := on }
  | .activated on => { window with active := on }
  | .retitled caption => { window with caption }
  | .enabled capabilities => { window with capabilities }
  | .pointerMoved _ | .pointerPressed _ | .pointerReleased _ => window

def Window.afterEvent (window : Window) : Decoration.Event → Window
  | .window event => window.after event
  | .theme _ | .font _ | .layout _ _ => window

/-- The look after an event.  Resolution, theme name and border size are never
told to a frame. -/
def Look.afterEvent (look : Look) : Decoration.Event → Look
  | .window _ => look
  | .theme id => { look with themeId := id }
  | .font font => { look with font }
  | .layout left right => { look with left, right }

def Window.afterAll (window : Window) (events : List Decoration.Event) :
    Window :=
  events.foldr (fun event window => window.afterEvent event) window

def Look.afterAll (look : Look) (events : List Decoration.Event) : Look :=
  events.foldr (fun event look => look.afterEvent event) look

theorem Window.id_after (window : Window) (event : WindowEvent) :
    (window.after event).id = window.id := by
  cases event <;> rfl

theorem Window.id_afterAll (window : Window) (events : List Decoration.Event) :
    (window.afterAll events).id = window.id := by
  induction events with
  | nil => rfl
  | cons event earlier ih =>
      cases event with
      | window event => exact (Window.id_after _ event).trans ih
      | theme id => exact ih
      | font font => exact ih
      | layout left right => exact ih

namespace Frame

variable {sized : Bool} {look : Look} {window : Window} {client : Client}

/-! ## Making a frame -/

/-- The frame that is laid out when a frame is made. -/
def outline (sized : Bool) (look : Look) (window : Window) (client : Client)
    (shadow : Shadow.Drawn) : Frame where
  window
  borderAlone := client.borderAlone
  themeId := look.themeId
  theme := look.theme
  font := look.font
  palette := .ofTheme look.themeId
  metrics := metricsFor sized look
  borders := bordersOf client.borderAlone window.maximized
    (metricsFor sized look)
  resizeBorders := resizeBordersOf client.borderAlone window.maximized
  titleBar := .zero
  left := .ofConfigured .left (layoutFor client look.left) window.capabilities
  right := .ofConfigured .right (layoutFor client look.right)
    window.capabilities
  action := none
  clientRadii := client.radii
  shadow

theorem outline_matches {shadow : Shadow.Drawn}
    (hshadow : shadow.subject =
      shapeOf client.borderAlone window.active client.radii) :
    (outline sized look window client shadow).Matches sized look window
      client where
  window_eq := rfl
  borderAlone_eq := rfl
  themeId_eq := rfl
  theme_eq := rfl
  font_eq := rfl
  palette_eq := rfl
  metrics_eq := rfl
  borders_eq := rfl
  resizeBorders_eq := rfl
  left_shows := Button.Group.ofConfigured_shows _ _ _
  right_shows := Button.Group.ofConfigured_shows _ _ _
  clientRadii_eq := rfl
  shape_eq := hshadow

def firstDrawing (window : Window) (commons : Commons) :
    Shadow.Drawn × ShadowMemo :=
  let client := commons.properties.client window.id
  commons.shadows.get (shapeOf client.borderAlone window.active client.radii)

def markedCommons (window : Window) (commons : Commons) : Commons where
  properties :=
    if (commons.properties.client window.id).borderAlone then
      commons.properties
    else commons.properties.set window.id .decorated [1]
  shadows := (firstDrawing window commons).2

theorem fit_eq (sized : Bool) (look : Look) (window : Window)
    (commons : Commons) :
    fit sized look window commons =
      (layOut (outline sized look window
        (commons.properties.client window.id)
        (firstDrawing window commons).1)).map
        fun frame => (frame, markedCommons window commons) := by
  have hmap : ∀ computation : Except Fault Frame,
      (computation >>= fun frame =>
        pure (frame, markedCommons window commons)) =
      computation.map fun frame =>
        (frame, markedCommons window commons) := by
    intro computation
    cases computation <;> rfl
  rw [← hmap]
  rfl

theorem fit_current {commons later : Commons} {frame : Frame}
    (hfit : fit sized look window commons = .ok (frame, later)) :
    frame.Current sized look window (commons.properties.client window.id) := by
  rw [fit_eq, map_eq_ok_iff] at hfit
  rcases hfit with ⟨placed, hlayOut, hresult⟩
  cases hresult
  have hmatches : (outline sized look window
      (commons.properties.client window.id)
      (firstDrawing window commons).1).Matches sized look window
        (commons.properties.client window.id) :=
    outline_matches (Memo.subject_get commons.shadows _)
  exact hmatches.current_of_layOut (fun _ => rfl) hlayOut

theorem shadow_of_layOut {frame next : Frame}
    (hlayOut : frame.layOut = .ok next) : next.shadow = frame.shadow := by
  cases halone : frame.borderAlone with
  | true =>
      rw [layOut_of_borderAlone halone] at hlayOut
      cases hlayOut
      rfl
  | false =>
      rw [layOut_eq halone, map_eq_ok_iff] at hlayOut
      rcases hlayOut with ⟨found, _, hnext⟩
      subst next
      rfl

theorem fit_commons {commons later : Commons} {frame : Frame}
    (hfit : fit sized look window commons = .ok (frame, later)) :
    frame.shadow = (firstDrawing window commons).1 ∧
      later = markedCommons window commons := by
  rw [fit_eq, map_eq_ok_iff] at hfit
  rcases hfit with ⟨placed, hlayOut, hresult⟩
  cases hresult
  exact ⟨shadow_of_layOut hlayOut, rfl⟩

theorem Current.exists_fit {frame : Frame}
    (hframe : frame.Current sized look window client) {commons : Commons}
    (hclient : commons.properties.client window.id = client) :
    ∃ fresh later, fit sized look window commons = .ok (fresh, later) ∧
      fresh.Current sized look window client := by
  subst client
  have houtline : (outline sized look window
      (commons.properties.client window.id)
      (firstDrawing window commons).1).Matches sized look window
        (commons.properties.client window.id) :=
    outline_matches (Memo.subject_get commons.shadows _)
  have hlayOut : ∃ placed, layOut (outline sized look window
      (commons.properties.client window.id)
      (firstDrawing window commons).1) = .ok placed := by
    cases halone : (commons.properties.client window.id).borderAlone with
    | true => exact ⟨_, layOut_of_borderAlone halone⟩
    | false =>
        have hplaced := hframe.placed
        unfold Placed at hplaced
        rw [hframe.borderAlone_eq, if_neg (by simp [halone]),
          hframe.metrics_eq, hframe.borders_eq, hframe.window_eq,
          hframe.leftCount_eq houtline, hframe.rightCount_eq houtline]
          at hplaced
        rw [layOut_eq (show (outline sized look window
          (commons.properties.client window.id)
          (firstDrawing window commons).1).borderAlone = false from halone)]
        refine ⟨_, map_eq_ok_iff.mpr ⟨_, hplaced, rfl⟩⟩
  rcases hlayOut with ⟨placed, hplaced⟩
  have hfit : fit sized look window commons =
      .ok (placed, markedCommons window commons) := by
    rw [fit_eq, hplaced]
    rfl
  exact ⟨placed, _, hfit, fit_current hfit⟩

/-! ## Taking in an event -/

theorem Current.titleBar_eq {frame : Frame}
    (hframe : frame.Current sized look window client)
    (halone : frame.borderAlone = true) : frame.titleBar = .zero := by
  have hplaced := hframe.placed
  unfold Placed at hplaced
  rwa [if_pos halone] at hplaced

theorem layOut_of_relayOut {frame next : Frame} {update : Update}
    (hrelayOut : frame.relayOut = .ok (update, next)) :
    frame.layOut = .ok next := by
  unfold relayOut at hrelayOut
  cases halone : frame.borderAlone with
  | true =>
      rw [if_pos halone] at hrelayOut
      cases hrelayOut
      exact layOut_of_borderAlone halone
  | false =>
      rw [if_neg (by simp [halone])] at hrelayOut
      simp only [bind_eq_ok_iff] at hrelayOut
      rcases hrelayOut with ⟨placed, hlayOut, hresult⟩
      cases hresult
      exact hlayOut

theorem handled_of_handleWindow {frame next : Frame} {event : WindowEvent}
    {update : Update} {shadows later : ShadowMemo}
    {handled : Except Fault (Update × Frame)}
    (hwindow : frame.handleWindow shadows event =
      handled.map fun result => (result.1, result.2, shadows))
    (hhandle : frame.handleWindow shadows event = .ok (update, next, later)) :
    handled = .ok (update, next) ∧ later = shadows := by
  rw [hwindow, map_eq_ok_iff] at hhandle
  obtain ⟨⟨_, _⟩, hhandled, hresult⟩ := hhandle
  cases hresult
  exact ⟨hhandled, rfl⟩

theorem maximize_cases {frame next : Frame} {on : Bool} {update : Update}
    (hmaximize : frame.maximize on = .ok (update, next)) :
    (frame.window.maximized = on ∧ update = .nothing ∧ next = frame) ∨
    ∃ laid,
      relayOut { frame with
        window := { frame.window with maximized := on }
        borders := bordersOf frame.borderAlone on frame.metrics
        resizeBorders := resizeBordersOf frame.borderAlone on } =
          .ok (laid, next) ∧
      update = { laid with geometry := true } := by
  unfold Frame.maximize at hmaximize
  split at hmaximize
  · next hsame =>
      cases hmaximize
      exact .inl ⟨hsame, rfl, rfl⟩
  · simp only [bind_eq_ok_iff] at hmaximize
    obtain ⟨⟨laid, placed⟩, hrelayOut, hresult⟩ := hmaximize
    cases hresult
    exact .inr ⟨laid, hrelayOut, rfl⟩

theorem enable_cases {frame next : Frame} {capabilities : Capabilities}
    {update : Update}
    (henable : frame.enable capabilities = .ok (update, next)) :
    relayOut { frame with
      window := { frame.window with capabilities }
      left := (frame.left.refresh capabilities).2
      right := (frame.right.refresh capabilities).2 } = .ok (update, next) ∨
    ((frame.left.refresh capabilities).1 = false ∧
      (frame.right.refresh capabilities).1 = false ∧ update = .nothing ∧
      next = { frame with window := { frame.window with capabilities } }) := by
  unfold Frame.enable at henable
  simp only at henable
  split at henable
  · exact .inl henable
  · next hsame =>
      cases henable
      rw [Bool.or_eq_true, not_or, Bool.not_eq_true, Bool.not_eq_true] at hsame
      rw [Button.Group.refresh_eq_self hsame.1,
        Button.Group.refresh_eq_self hsame.2]
      exact .inr ⟨hsame.1, hsame.2, rfl, rfl⟩

theorem layout_cases {frame next : Frame} {left right : List Button.Kind}
    {update : Update} {shadows later : ShadowMemo}
    (hhandle : frame.handle shadows (.layout left right) =
      .ok (update, next, later)) :
    later = shadows ∧
    ((frame.borderAlone = true ∧ update = .nothing ∧ next = frame) ∨
      (frame.borderAlone = false ∧
        relayOut { frame with
          left := .ofConfigured .left left frame.window.capabilities
          right := .ofConfigured .right right frame.window.capabilities } =
            .ok (update, next))) := by
  unfold Frame.handle at hhandle
  simp only at hhandle
  split at hhandle
  · next halone =>
      cases hhandle
      exact ⟨rfl, .inl ⟨halone, rfl, rfl⟩⟩
  · next hchrome =>
      simp only [bind_eq_ok_iff] at hhandle
      obtain ⟨⟨_, placed⟩, hrelayOut, hresult⟩ := hhandle
      cases hresult
      exact ⟨rfl, .inr ⟨Bool.eq_false_iff.mpr hchrome, hrelayOut⟩⟩

theorem Current.matches_resized {frame : Frame}
    (hframe : frame.Current sized look window client) (width height : Int) :
    Frame.Matches { frame with
      window := { frame.window with width, height } }
      sized look (window.after (.resized width height)) client :=
  { hframe.toMatches with window_eq := by rw [hframe.window_eq]; rfl }

theorem Current.matches_maximized {frame : Frame}
    (hframe : frame.Current sized look window client) (on : Bool) :
    Frame.Matches { frame with
      window := { frame.window with maximized := on }
      borders := bordersOf frame.borderAlone on frame.metrics
      resizeBorders := resizeBordersOf frame.borderAlone on }
      sized look { window with maximized := on } client :=
  { hframe.toMatches with
    window_eq := by rw [hframe.window_eq]
    borders_eq := by rw [hframe.borderAlone_eq, hframe.metrics_eq]
    resizeBorders_eq := by rw [hframe.borderAlone_eq] }

theorem Current.matches_enabled {frame : Frame}
    (hframe : frame.Current sized look window client)
    (capabilities : Capabilities) :
    Frame.Matches { frame with
      window := { frame.window with capabilities }
      left := (frame.left.refresh capabilities).2
      right := (frame.right.refresh capabilities).2 }
      sized look { window with capabilities } client := by
  have hleft := frame.left.refresh_shows capabilities
  have hright := frame.right.refresh_shows capabilities
  rw [hframe.left_shows.side_eq, hframe.left_shows.configured_eq] at hleft
  rw [hframe.right_shows.side_eq, hframe.right_shows.configured_eq] at hright
  exact { hframe.toMatches with
    window_eq := by rw [hframe.window_eq]
    left_shows := hleft
    right_shows := hright }

theorem Current.matches_layout {frame : Frame}
    (hframe : frame.Current sized look window client)
    (hchrome : frame.borderAlone = false) (left right : List Button.Kind) :
    Frame.Matches { frame with
      left := .ofConfigured .left left frame.window.capabilities
      right := .ofConfigured .right right frame.window.capabilities }
      sized { look with left, right } window client := by
  have hclient : client.borderAlone = false := by
    rw [← hframe.borderAlone_eq, hchrome]
  have hlayout : ∀ layout, layoutFor client layout = layout := by
    intro layout
    rw [layoutFor, if_neg (by simp [hclient])]
  exact { hframe.toMatches with
    left_shows := by
      rw [hlayout, ← hframe.window_eq]
      exact Button.Group.ofConfigured_shows _ _ _
    right_shows := by
      rw [hlayout, ← hframe.window_eq]
      exact Button.Group.ofConfigured_shows _ _ _ }

theorem Current.maximize {frame next : Frame} {on : Bool} {update : Update}
    (hframe : frame.Current sized look window client)
    (hmaximize : frame.maximize on = .ok (update, next)) :
    next.Current sized look { window with maximized := on } client := by
  rcases maximize_cases hmaximize with
    ⟨hsame, -, rfl⟩ | ⟨laid, hrelayOut, -⟩
  · have hwindow : { window with maximized := on } = window := by
      rw [← hsame, hframe.window_eq]
    rw [hwindow]
    exact hframe
  · exact (hframe.matches_maximized on).current_of_layOut hframe.titleBar_eq
      (layOut_of_relayOut hrelayOut)

theorem Current.enable {frame next : Frame} {capabilities : Capabilities}
    {update : Update} (hframe : frame.Current sized look window client)
    (henable : frame.enable capabilities = .ok (update, next)) :
    next.Current sized look { window with capabilities } client := by
  have hmatches := hframe.matches_enabled capabilities
  rcases enable_cases henable with hrelayOut | ⟨hleft, hright, -, rfl⟩
  · exact hmatches.current_of_layOut hframe.titleBar_eq
      (layOut_of_relayOut hrelayOut)
  · rw [Button.Group.refresh_eq_self hleft,
      Button.Group.refresh_eq_self hright] at hmatches
    exact { hmatches with placed := hframe.placed }

theorem shape_renewShadow (frame : Frame) (shadows : ShadowMemo) :
    (frame.renewShadow shadows).2.1.shape =
      shapeOf frame.borderAlone frame.window.active frame.clientRadii :=
  Memo.subject_get shadows _

theorem Current.handleWindow {frame next : Frame} {event : WindowEvent}
    {update : Update} {shadows later : ShadowMemo}
    (hframe : frame.Current sized look window client)
    (hhandle : frame.handleWindow shadows event = .ok (update, next, later)) :
    next.Current sized look (window.after event) client := by
  cases event with
  | resized width height =>
      obtain ⟨hrelayOut, -⟩ := handled_of_handleWindow rfl hhandle
      exact (hframe.matches_resized width height).current_of_layOut
        hframe.titleBar_eq (layOut_of_relayOut hrelayOut)
  | maximized on =>
      obtain ⟨hmaximize, -⟩ := handled_of_handleWindow rfl hhandle
      exact hframe.maximize hmaximize
  | activated on =>
      cases hhandle
      have hshape : shapeOf frame.borderAlone on frame.clientRadii =
          shapeOf client.borderAlone on client.radii := by
        rw [hframe.borderAlone_eq, hframe.clientRadii_eq]
      exact { hframe with
        window_eq := by rw [hframe.window_eq]; rfl
        shape_eq := (shape_renewShadow _ shadows).trans hshape }
  | retitled caption =>
      cases hhandle
      exact { hframe with window_eq := by rw [hframe.window_eq]; rfl }
  | enabled capabilities =>
      obtain ⟨henable, -⟩ := handled_of_handleWindow rfl hhandle
      exact hframe.enable henable
  | pointerMoved pointer =>
      obtain ⟨hhover, -⟩ := handled_of_handleWindow rfl hhandle
      exact hframe.of_atRest_eq (hover_atRest hhover)
  | pointerPressed point =>
      obtain ⟨hpress, -⟩ := handled_of_handleWindow rfl hhandle
      exact hframe.of_atRest_eq (press_atRest hpress)
  | pointerReleased point =>
      obtain ⟨hrelease, -⟩ := handled_of_handleWindow rfl hhandle
      exact hframe.of_atRest_eq (release_atRest hrelease)

theorem Current.handle {frame next : Frame} {event : Decoration.Event}
    {update : Update} {shadows later : ShadowMemo}
    (hframe : frame.Current sized look window client)
    (hhandle : frame.handle shadows event = .ok (update, next, later)) :
    next.Current sized (look.afterEvent event) (window.afterEvent event)
      client := by
  cases event with
  | window event => exact hframe.handleWindow hhandle
  | theme id =>
      cases hhandle
      have hshape :
          shapeOf frame.borderAlone frame.window.active frame.clientRadii =
            shapeOf client.borderAlone window.active client.radii := by
        rw [hframe.borderAlone_eq, hframe.clientRadii_eq, hframe.window_eq]
      exact { hframe with
        themeId_eq := rfl
        palette_eq := rfl
        shape_eq := (shape_renewShadow _ shadows).trans hshape }
  | font font =>
      cases hhandle
      exact { hframe with font_eq := rfl }
  | layout left right =>
      obtain ⟨-, ⟨halone, -, rfl⟩ | ⟨hchrome, hrelayOut⟩⟩ :=
        layout_cases hhandle
      · have hclient : client.borderAlone = true := by
          rw [← hframe.borderAlone_eq, halone]
        have hlayout : ∀ layout, layoutFor client layout = [] := by
          intro layout
          rw [layoutFor, if_pos hclient]
        exact { hframe with
          left_shows := {
            hframe.left_shows with
            configured_eq := by
              rw [hframe.left_shows.configured_eq, hlayout, hlayout]
            kinds_eq := by
              rw [hframe.left_shows.kinds_eq, hlayout, hlayout]
              rfl }
          right_shows := {
            hframe.right_shows with
            configured_eq := by
              rw [hframe.right_shows.configured_eq, hlayout, hlayout]
            kinds_eq := by
              rw [hframe.right_shows.kinds_eq, hlayout, hlayout]
              rfl } }
      · exact (hframe.matches_layout hchrome left right).current_of_layOut
          hframe.titleBar_eq (layOut_of_relayOut hrelayOut)

/-! ## Frames through events -/

theorem Past.current {meanwhile : ShadowMemo → ShadowMemo → Prop}
    {first frame : Frame} {made shadows : ShadowMemo} {history : List Moment}
    (hpast : Past meanwhile first made history frame shadows)
    (hfirst : first.Current sized look window client) :
    frame.Current sized (look.afterAll (history.map Moment.event))
      (window.afterAll (history.map Moment.event)) client := by
  induction hpast with
  | refl => exact hfirst
  | handle _ hhandle ih => exact ih.handle hhandle
  | takeAction _ ih => exact ih.of_atRest_eq (takeAction_atRest _)
  | share _ _ ih => exact ih

theorem Follows.current {first frame : Frame} {events : List Decoration.Event}
    (hfollows : first.Follows events frame)
    (hfirst : first.Current sized look window client) :
    frame.Current sized (look.afterAll events) (window.afterAll events)
      client := by
  obtain ⟨made, history, shadows, hpast, rfl⟩ := hfollows
  exact hpast.current hfirst

theorem MadeAmong.current {commons : Commons} {events : List Decoration.Event}
    {frame : Frame} (hmade : MadeAmong sized look window commons events frame) :
    frame.Current sized (look.afterAll events) (window.afterAll events)
      (commons.properties.client window.id) := by
  obtain ⟨first, made, hfit, hfollows⟩ := hmade
  exact hfollows.current (fit_current hfit)

theorem Undergone.exists_current {events : List Decoration.Event}
    {frame : Frame} (hundergone : Undergone sized look window events frame) :
    ∃ client, frame.Current sized (look.afterAll events)
      (window.afterAll events) client := by
  obtain ⟨commons, hmade⟩ := hundergone
  exact ⟨_, hmade.current⟩

theorem Reached.exists_current {frame : Frame} (hreached : frame.Reached) :
    ∃ sized look window client, frame.Current sized look window client := by
  obtain ⟨sized, look, window, events, hundergone⟩ := hreached
  exact ⟨_, _, _, hundergone.exists_current⟩

theorem Chronicled.exists_current {frame : Frame} {history : List Moment}
    (hchronicled : frame.Chronicled history) :
    ∃ sized look window client, frame.Current sized look window client := by
  obtain ⟨sized, look, window, commons, first, made, shadows, hfit, hpast⟩ :=
    hchronicled
  exact ⟨_, _, _, _, hpast.current (fit_current hfit)⟩

/-- However many events a frame has been through, making it anew from the
window and the look as they are now gives the same frame, without a fault. -/
theorem atRest_eq_fit_of_follows {commons made : Commons}
    {first frame : Frame} {events : List Decoration.Event}
    (hfit : fit sized look window commons = .ok (first, made))
    (hfollows : first.Follows events frame) (anew : Commons)
    (hclient : anew.properties.client window.id =
      commons.properties.client window.id) :
    ∃ fresh later,
      fit sized (look.afterAll events) (window.afterAll events) anew =
        .ok (fresh, later) ∧
      frame.atRest = fresh.atRest ∧
      frame.borders = fresh.borders ∧
      frame.resizeBorders = fresh.resizeBorders ∧
      frame.titleBar = fresh.titleBar ∧
      frame.left.rects = fresh.left.rects ∧
      frame.right.rects = fresh.right.rects := by
  have hcurrent := hfollows.current (fit_current hfit)
  have hnow : anew.properties.client (window.afterAll events).id =
      commons.properties.client window.id := by
    rw [Window.id_afterAll, hclient]
  rcases hcurrent.exists_fit hnow with ⟨fresh, later, hfresh, hfreshCurrent⟩
  have hrest := hcurrent.atRest_eq hfreshCurrent
  have hfield : ∀ {α : Type} (field : Frame → α),
      field frame.atRest = field fresh.atRest := fun field => by rw [hrest]
  refine ⟨fresh, later, hfresh, hrest, hfield Frame.borders,
    hfield Frame.resizeBorders, hfield Frame.titleBar, ?_, ?_⟩
  · rw [← Button.Group.rects_atRest frame.left,
      ← Button.Group.rects_atRest fresh.left]
    exact hfield fun rest => rest.left.rects
  · rw [← Button.Group.rects_atRest frame.right,
      ← Button.Group.rects_atRest fresh.right]
    exact hfield fun rest => rest.right.rects

/-- A window that was maximized, lost a button meanwhile, and was restored in
another size. -/
theorem atRest_eq_fit_after_restore :
    ∃ first made frame fresh later,
      fit true { left := [.menu], right := [.minimize, .close] }
        { id := 1, width := 800, height := 600 } {} = .ok (first, made) ∧
      first.Follows
        [.window (.maximized false), .window (.resized 640 480),
          .window (.enabled .closeable), .window (.maximized true)] frame ∧
      fit true { left := [.menu], right := [.minimize, .close] }
        { id := 1, width := 640, height := 480, capabilities := .closeable }
        {} = .ok (fresh, later) ∧
      frame.atRest = fresh.atRest := by
  obtain ⟨first, made, frame, hfit, hfollows⟩ : ∃ first made frame,
      fit true { left := [.menu], right := [.minimize, .close] }
        { id := 1, width := 800, height := 600 } {} = .ok (first, made) ∧
      first.Follows
        [.window (.maximized false), .window (.resized 640 480),
          .window (.enabled .closeable), .window (.maximized true)]
        frame := by
    have hstep : ∀ {first frame next : Frame} {event : Decoration.Event}
        {events : List Decoration.Event} {update : Update}
        {later : ShadowMemo}, first.Follows events frame →
        frame.handle {} event = .ok (update, next, later) →
        first.Follows (event :: events) next := .handle
    exact ⟨_, _, _, rfl, hstep (hstep (hstep (hstep .refl (by exact rfl))
      (by exact rfl)) (by exact rfl)) (by exact rfl)⟩
  rcases atRest_eq_fit_of_follows hfit hfollows {} rfl with
      ⟨fresh, later, hfresh, hrest, _⟩
  exact ⟨first, made, frame, fresh, later, hfit, hfollows, hfresh, hrest⟩

end Frame
end WindowChrome
