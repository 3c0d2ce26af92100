import WindowChrome.Proofs.Frame.Places
import WindowChrome.Proofs.Frame.Rest

/-!
# Current frames

A frame is current if every field of it, the pointer's marks apart, is what it
has to be for a window, a look and a client, whichever way it came about.
-/

namespace WindowChrome

structure Client where
  borderAlone : Bool
  radii : CornerRadii
  deriving DecidableEq, Repr

def PropertyTable.client (table : PropertyTable) (window : WindowId) :
    Client where
  borderAlone := (table.motifHints? window).any (·.wantsBorderAlone)
  radii := ((table.cornerRadii? window).getD (.uniform 0)).orEach
    Frame.standardRadius

theorem PropertyTable.client_set_decorated (table : PropertyTable)
    (marked window : WindowId) (words : List UInt32) :
    (table.set marked .decorated words).client window =
      table.client window := by
  have hget : ∀ property, property ≠ .decorated →
      (table.set marked .decorated words).get window property =
        table.get window property := by
    intro property hproperty
    unfold PropertyTable.get PropertyTable.set
    rw [Keyed.find?_insert, if_neg]
    intro hkey
    exact hproperty (congrArg Prod.snd hkey).symm
  unfold PropertyTable.client PropertyTable.motifHints?
    PropertyTable.cornerRadii?
  rw [hget .motifHints (by decide), hget .cornerRadii (by decide)]

namespace Button.Group

structure Shows (group : Group) (side : Side) (layout : List Kind)
    (capabilities : Capabilities) : Prop where
  side_eq : group.side = side
  configured_eq : group.configured = layout
  kinds_eq : group.kinds = layout.filter (·.isVisible capabilities)

def rects (group : Group) : List Rect := group.buttons.map (·.rect)

theorem length_kinds (group : Group) :
    group.kinds.length = group.buttons.length := by
  simp [kinds]

theorem kinds_atRest (group : Group) : group.atRest.kinds = group.kinds := by
  simp only [kinds, atRest, List.map_map]
  rfl

theorem rects_atRest (group : Group) : group.atRest.rects = group.rects := by
  simp only [rects, atRest, List.map_map]
  rfl

theorem refresh_shows (group : Group) (now : Capabilities) :
    (group.refresh now).2.Shows group.side group.configured now := by
  unfold Group.refresh
  by_cases hsame : group.visibleKinds now = group.kinds
  · simp only [hsame, if_true]
    exact ⟨rfl, rfl, hsame.symm⟩
  · simp only [hsame, if_false]
    refine ⟨rfl, rfl, ?_⟩
    simp [kinds, idle, Function.comp_def, visibleKinds]

theorem refresh_eq_self {group : Group} {now : Capabilities}
    (hsame : (group.refresh now).1 = false) : (group.refresh now).2 = group := by
  unfold Group.refresh at hsame ⊢
  by_cases hvisible : group.visibleKinds now = group.kinds
  · simp [hvisible]
  · simp [hvisible] at hsame

theorem ofConfigured_shows (side : Side) (layout : List Kind)
    (capabilities : Capabilities) :
    (ofConfigured side layout capabilities).Shows side layout capabilities :=
  refresh_shows { side, configured := layout, buttons := [] } capabilities

theorem atRest_eq {group other : Group} (hside : group.side = other.side)
    (hconfigured : group.configured = other.configured)
    (hkinds : group.kinds = other.kinds) (hrects : group.rects = other.rects) :
    group.atRest = other.atRest := by
  have hbuttons : ∀ buttons : List Button,
      buttons.map Button.atRest =
        List.zipWith (fun kind rect => { kind, rect })
          (buttons.map (·.kind)) (buttons.map (·.rect)) := by
    intro buttons
    induction buttons with
    | nil => rfl
    | cons button rest ih =>
        simp only [List.map_cons, List.zipWith_cons_cons, ← ih]
        rfl
  unfold kinds at hkinds
  unfold rects at hrects
  simp only [atRest, hside, hconfigured, hbuttons, hkinds, hrects]

variable {group other : Group} {side : Side} {layout : List Kind}
  {capabilities : Capabilities}

theorem length_eq_of_kinds_eq (hkinds : group.kinds = other.kinds) :
    group.buttons.length = other.buttons.length := by
  rw [← length_kinds, hkinds, length_kinds]

theorem kinds_eq_of_atRest_eq (hrest : group.atRest = other.atRest) :
    group.kinds = other.kinds := by
  rw [← kinds_atRest, hrest, kinds_atRest]

theorem rects_eq_of_atRest_eq (hrest : group.atRest = other.atRest) :
    group.rects = other.rects := by
  rw [← rects_atRest, hrest, rects_atRest]

namespace Shows

theorem atRest_eq (hshows : group.Shows side layout capabilities)
    (hother : other.Shows side layout capabilities)
    (hrects : group.rects = other.rects) : group.atRest = other.atRest := by
  apply Group.atRest_eq _ _ _ hrects
  · rw [hshows.side_eq, hother.side_eq]
  · rw [hshows.configured_eq, hother.configured_eq]
  · rw [hshows.kinds_eq, hother.kinds_eq]

theorem of_atRest_eq (hshows : group.Shows side layout capabilities)
    (hrest : other.atRest = group.atRest) :
    other.Shows side layout capabilities where
  side_eq := (congrArg Group.side hrest).trans hshows.side_eq
  configured_eq := (congrArg Group.configured hrest).trans hshows.configured_eq
  kinds_eq := (kinds_eq_of_atRest_eq hrest).trans hshows.kinds_eq

theorem length_buttons_eq (hshows : group.Shows side layout capabilities)
    (hother : other.Shows side layout capabilities) :
    group.buttons.length = other.buttons.length :=
  length_eq_of_kinds_eq (hshows.kinds_eq.trans hother.kinds_eq.symm)

end Shows
end Button.Group

namespace Frame

theorem kinds_moveRow {buttons : List Button} {rects : List Rect}
    (hlength : rects.length = buttons.length) :
    (moveRow buttons rects).map (·.kind) = buttons.map (·.kind) := by
  induction buttons generalizing rects with
  | nil => rfl
  | cons button rest ih =>
      cases rects with
      | nil => simp at hlength
      | cons rect others =>
          have hrest : others.length = rest.length := by simpa using hlength
          simp only [moveRow, List.zipWith_cons_cons, List.map_cons]
          congr 1
          exact ih hrest

theorem rects_moveRow {buttons : List Button} {rects : List Rect}
    (hlength : rects.length = buttons.length) :
    (moveRow buttons rects).map (·.rect) = rects := by
  induction buttons generalizing rects with
  | nil =>
      have hrects : rects = [] := List.length_eq_zero_iff.mp hlength
      subst rects
      rfl
  | cons button rest ih =>
      cases rects with
      | nil => rfl
      | cons rect others =>
          have hrest : others.length = rest.length := by simpa using hlength
          simp only [moveRow, List.zipWith_cons_cons, List.map_cons]
          congr 1
          exact ih hrest

/-- Title bar and buttons are where laying the frame out would move them. -/
def Placed (frame : Frame) : Prop :=
  if frame.borderAlone then frame.titleBar = .zero
  else
    places frame.metrics frame.borders frame.window.width
        frame.left.buttons.length frame.right.buttons.length =
      .ok ⟨frame.titleBar, frame.left.rects, frame.right.rects⟩

def metricsFor (sized : Bool) (look : Look) : Metrics :=
  if sized then (Metrics.ofDpi look.dpi).withBorders look.borderSize
  else .ofDpi look.dpi

def layoutFor (client : Client) (layout : List Button.Kind) :
    List Button.Kind :=
  if client.borderAlone then [] else layout

/-- Every field of the frame but the places is what it is for a window, a look
and a client. -/
structure Matches (frame : Frame) (sized : Bool) (look : Look)
    (window : Window) (client : Client) : Prop where
  window_eq : frame.window = window
  borderAlone_eq : frame.borderAlone = client.borderAlone
  themeId_eq : frame.themeId = look.themeId
  theme_eq : frame.theme = look.theme
  font_eq : frame.font = look.font
  palette_eq : frame.palette = .ofTheme look.themeId
  metrics_eq : frame.metrics = metricsFor sized look
  borders_eq : frame.borders =
    bordersOf client.borderAlone window.maximized (metricsFor sized look)
  resizeBorders_eq : frame.resizeBorders =
    resizeBordersOf client.borderAlone window.maximized
  left_shows : frame.left.Shows .left (layoutFor client look.left)
    window.capabilities
  right_shows : frame.right.Shows .right (layoutFor client look.right)
    window.capabilities
  clientRadii_eq : frame.clientRadii = client.radii
  shape_eq : frame.shape =
    shapeOf client.borderAlone window.active client.radii

structure Current (frame : Frame) (sized : Bool) (look : Look)
    (window : Window) (client : Client) : Prop
    extends frame.Matches sized look window client where
  placed : frame.Placed

section

variable {sized : Bool} {look : Look} {window : Window} {client : Client}

theorem Matches.leftCount_eq {frame other : Frame}
    (hframe : frame.Matches sized look window client)
    (hother : other.Matches sized look window client) :
    frame.left.buttons.length = other.left.buttons.length :=
  hframe.left_shows.length_buttons_eq hother.left_shows

theorem Matches.rightCount_eq {frame other : Frame}
    (hframe : frame.Matches sized look window client)
    (hother : other.Matches sized look window client) :
    frame.right.buttons.length = other.right.buttons.length :=
  hframe.right_shows.length_buttons_eq hother.right_shows

theorem Matches.left_nil {frame : Frame}
    (hframe : frame.Matches sized look window client)
    (halone : client.borderAlone = true) : frame.left.buttons = [] := by
  have hkinds := hframe.left_shows.kinds_eq
  simpa [layoutFor, halone, Button.Group.kinds] using hkinds

theorem Matches.right_nil {frame : Frame}
    (hframe : frame.Matches sized look window client)
    (halone : client.borderAlone = true) : frame.right.buttons = [] := by
  have hkinds := hframe.right_shows.kinds_eq
  simpa [layoutFor, halone, Button.Group.kinds] using hkinds

theorem Matches.moveTo {frame : Frame} {found : Places}
    (hframe : frame.Matches sized look window client)
    (hleft : found.left.length = frame.left.buttons.length)
    (hright : found.right.length = frame.right.buttons.length) :
    (frame.moveTo found).Matches sized look window client :=
  { hframe with
    left_shows := {
      hframe.left_shows with
      kinds_eq := (kinds_moveRow hleft).trans hframe.left_shows.kinds_eq }
    right_shows := {
      hframe.right_shows with
      kinds_eq := (kinds_moveRow hright).trans hframe.right_shows.kinds_eq } }

theorem Matches.current_of_layOut {frame next : Frame}
    (hframe : frame.Matches sized look window client)
    (hbare : frame.borderAlone = true → frame.titleBar = .zero)
    (hlayOut : frame.layOut = .ok next) :
    next.Current sized look window client := by
  cases halone : frame.borderAlone with
  | true =>
      rw [layOut_of_borderAlone halone] at hlayOut
      cases hlayOut
      refine { hframe with placed := ?_ }
      unfold Placed
      rw [if_pos halone]
      exact hbare halone
  | false =>
      rw [layOut_eq halone, map_eq_ok_iff] at hlayOut
      rcases hlayOut with ⟨found, hfound, hnext⟩
      subst next
      rcases length_of_places hfound with ⟨hleft, hright⟩
      refine { hframe.moveTo hleft hright with placed := ?_ }
      have hleftRow := rects_moveRow hleft
      have hrightRow := rects_moveRow hright
      have hleftCount : (moveRow frame.left.buttons found.left).length =
          frame.left.buttons.length := by
        simp [moveRow, hleft]
      have hrightCount : (moveRow frame.right.buttons found.right).length =
          frame.right.buttons.length := by
        simp [moveRow, hright]
      unfold Placed
      rw [if_neg (by simp [Frame.moveTo, halone])]
      simp only [Frame.moveTo, Button.Group.rects, hleftRow, hrightRow,
        hleftCount, hrightCount]
      exact hfound

theorem Current.places_eq {frame other : Frame}
    (hframe : frame.Current sized look window client)
    (hother : other.Current sized look window client) :
    frame.titleBar = other.titleBar ∧
      frame.left.rects = other.left.rects ∧
      frame.right.rects = other.right.rects := by
  have hplaced := hframe.placed
  have hotherPlaced := hother.placed
  unfold Placed at hplaced hotherPlaced
  rw [hframe.borderAlone_eq] at hplaced
  rw [hother.borderAlone_eq] at hotherPlaced
  cases halone : client.borderAlone with
  | true =>
      rw [if_pos halone] at hplaced hotherPlaced
      refine ⟨hplaced.trans hotherPlaced.symm, ?_, ?_⟩
      · simp [Button.Group.rects, hframe.left_nil halone,
          hother.left_nil halone]
      · simp [Button.Group.rects, hframe.right_nil halone,
          hother.right_nil halone]
  | false =>
      rw [if_neg (by simp [halone])] at hplaced hotherPlaced
      rw [hframe.metrics_eq, hframe.borders_eq, hframe.window_eq,
        hframe.leftCount_eq hother.toMatches,
        hframe.rightCount_eq hother.toMatches] at hplaced
      rw [hother.metrics_eq, hother.borders_eq, hother.window_eq,
        hplaced] at hotherPlaced
      simpa using hotherPlaced

/-- Two frames that are current for the same window, look and client differ in
nothing but the pointer's marks. -/
theorem Current.atRest_eq {frame other : Frame}
    (hframe : frame.Current sized look window client)
    (hother : other.Current sized look window client) :
    frame.atRest = other.atRest := by
  rcases hframe.places_eq hother with ⟨htitleBar, hleftRects, hrightRects⟩
  have hleft : frame.left.atRest = other.left.atRest :=
    hframe.left_shows.atRest_eq hother.left_shows hleftRects
  have hright : frame.right.atRest = other.right.atRest :=
    hframe.right_shows.atRest_eq hother.right_shows hrightRects
  have hshadow : frame.shadow.unnumbered = other.shadow.unnumbered :=
    Drawing.unnumbered_eq (hframe.shape_eq.trans hother.shape_eq.symm)
  unfold atRest
  rw [hframe.window_eq, hframe.borderAlone_eq, hframe.themeId_eq,
    hframe.theme_eq, hframe.font_eq, hframe.palette_eq, hframe.metrics_eq,
    hframe.borders_eq, hframe.resizeBorders_eq, hframe.clientRadii_eq,
    htitleBar, hleft, hright, hshadow, hother.window_eq,
    hother.borderAlone_eq, hother.themeId_eq, hother.theme_eq,
    hother.font_eq, hother.palette_eq, hother.metrics_eq, hother.borders_eq,
    hother.resizeBorders_eq, hother.clientRadii_eq]

theorem Current.of_atRest_eq {frame next : Frame}
    (hframe : frame.Current sized look window client)
    (hrest : next.atRest = frame.atRest) :
    next.Current sized look window client := by
  have hfield : ∀ {α : Type} (field : Frame → α),
      field next.atRest = field frame.atRest := fun field => by rw [hrest]
  have hwindow : next.window = frame.window := hfield Frame.window
  have hborderAlone : next.borderAlone = frame.borderAlone :=
    hfield Frame.borderAlone
  have hmetrics : next.metrics = frame.metrics := hfield Frame.metrics
  have hborders : next.borders = frame.borders := hfield Frame.borders
  have htitleBar : next.titleBar = frame.titleBar := hfield Frame.titleBar
  have hleft : next.left.atRest = frame.left.atRest := hfield Frame.left
  have hright : next.right.atRest = frame.right.atRest := hfield Frame.right
  have hleftShows := hframe.left_shows.of_atRest_eq hleft
  have hrightShows := hframe.right_shows.of_atRest_eq hright
  exact {
    window_eq := hwindow.trans hframe.window_eq
    borderAlone_eq := hborderAlone.trans hframe.borderAlone_eq
    themeId_eq := (hfield Frame.themeId).trans hframe.themeId_eq
    theme_eq := (hfield Frame.theme).trans hframe.theme_eq
    font_eq := (hfield Frame.font).trans hframe.font_eq
    palette_eq := (hfield Frame.palette).trans hframe.palette_eq
    metrics_eq := hmetrics.trans hframe.metrics_eq
    borders_eq := hborders.trans hframe.borders_eq
    resizeBorders_eq :=
      (hfield Frame.resizeBorders).trans hframe.resizeBorders_eq
    left_shows := hleftShows
    right_shows := hrightShows
    clientRadii_eq := (hfield Frame.clientRadii).trans hframe.clientRadii_eq
    shape_eq := (hfield Frame.shape).trans hframe.shape_eq
    placed := by
      have hplaced := hframe.placed
      unfold Placed at hplaced ⊢
      rw [hborderAlone, htitleBar, hmetrics, hborders, hwindow,
        hleftShows.length_buttons_eq hframe.left_shows,
        hrightShows.length_buttons_eq hframe.right_shows,
        Button.Group.rects_eq_of_atRest_eq hleft,
        Button.Group.rects_eq_of_atRest_eq hright]
      exact hplaced }

end

end Frame
end WindowChrome
