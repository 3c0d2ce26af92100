import WindowChrome.Proofs.Frame.Headroom

/-!
# Corners given by clients

The words of a client are read when its frame is made.  What remains of them is
in the range of shapes, so making a shape of it alters nothing.
-/

namespace WindowChrome

def AsksForBorder (words : Option (List UInt32)) : Prop :=
  ∃ flags functions rest,
    words = some (flags :: functions :: 2 :: rest) ∧ flags &&& 2 ≠ 0

/-- The radius that a word stands for as a signed number, if this is one of
1, …, 128, and 6 if it is not. -/
def cornerOf (word : UInt32) : Int32 :=
  if 1 ≤ word.toInt32.toInt ∧ word.toInt32.toInt ≤ 128 then word.toInt32 else 6

def cornersOf : Option (List UInt32) → CornerRadii
  | some [topLeft, topRight, bottomLeft, bottomRight] =>
      ⟨cornerOf topLeft, cornerOf topRight, cornerOf bottomLeft,
        cornerOf bottomRight⟩
  | _ => .uniform 6

theorem cornerOf_mem (word : UInt32) :
    1 ≤ (cornerOf word).toInt ∧ (cornerOf word).toInt ≤ 128 := by
  unfold cornerOf
  split
  · next hmem => exact hmem
  · decide

theorem cornersOf_mem (words : Option (List UInt32)) :
    ∀ radius ∈ (cornersOf words).toList,
      1 ≤ radius.toInt ∧ radius.toInt ≤ 128 := by
  rw [CornerRadii.forall_mem_toList]
  unfold cornersOf
  split
  · exact ⟨cornerOf_mem _, cornerOf_mem _, cornerOf_mem _, cornerOf_mem _⟩
  · decide

theorem map_clampRadius_cornersOf (words : Option (List UInt32)) :
    (cornersOf words).map Shape.clampRadius = cornersOf words :=
  CornerRadii.map_eq_self fun radius hmem =>
    Shape.clampRadius_eq_self (cornersOf_mem words radius hmem)

theorem cornerOf_eq (word : UInt32) :
    cornerOf word =
      if 1 ≤ word.toInt32 ∧ word.toInt32 ≤ CornerRadii.greatest then
        word.toInt32
      else Frame.standardRadius := by
  have hone : (1 : Int32).toInt = 1 := by decide
  simp only [Int32.le_iff_toInt_le, hone, CornerRadii.toInt_greatest]
  rfl

namespace PropertyTable

theorem borderAlone_client_iff (table : PropertyTable) (window : WindowId) :
    (table.client window).borderAlone = true ↔
      AsksForBorder (table.get window .motifHints) := by
  unfold client motifHints? AsksForBorder
  simp only
  cases table.get window .motifHints with
  | none => simp
  | some words =>
      match words with
      | [] | [_] | [_, _] => simp [MotifHints.ofWords?]
      | flags :: functions :: decorations :: rest =>
          simp [MotifHints.ofWords?, MotifHints.wantsBorderAlone,
            MotifHints.decorationsValid, MotifHints.borderAlone, and_comm]

theorem radii_client_eq (table : PropertyTable) (window : WindowId) :
    (table.client window).radii =
      cornersOf (table.get window .cornerRadii) := by
  unfold client cornerRadii?
  cases table.get window .cornerRadii with
  | none => rfl
  | some words =>
      match words with
      | [] | [_] | [_, _] | [_, _, _] | _ :: _ :: _ :: _ :: _ :: _ => rfl
      | [_, _, _, _] =>
          simp only [cornersOf, cornerOf_eq]
          rfl

end PropertyTable

namespace Frame

variable {sized : Bool} {look : Look} {window : Window} {commons : Commons}

structure RoundedBy (frame : Frame) (words : Option (List UInt32)) :
    Prop where
  clientRadii_eq : frame.clientRadii = cornersOf words
  radii_eq : frame.shape.radii = frame.clientRadii
  drawn : Shadow.draw frame.shape = .ok frame.shadow.contents
  square : frame.shadow.contents.bitmap.IsSquare
    (2 * max 12 frame.shape.radii.largest.toInt.toNat + 160)
  side_le : 2 * max 12 frame.shape.radii.largest.toInt.toNat + 160 ≤ 416

theorem MadeAmong.roundedBy {events : List Decoration.Event} {frame : Frame}
    (hmade : MadeAmong sized look window commons events frame)
    (halone : (commons.properties.client window.id).borderAlone = true) :
    frame.RoundedBy (commons.properties.get window.id .cornerRadii) := by
  have hcurrent := hmade.current
  have hradii :=
    PropertyTable.radii_client_eq commons.properties window.id
  have hclientRadii := hcurrent.clientRadii_eq.trans hradii
  have hshape := hcurrent.shape_eq
  rw [shapeOf, if_pos halone, hradii] at hshape
  have hinRange : frame.shape.InRange := by
    rw [hshape]
    exact Shape.inRange_clamped _ _ _ _
  have hroom := Shadow.cornerRoom_eq hinRange
  obtain ⟨shadow, hdraw, hframed⟩ := Shadow.exists_draw hinRange
  have hcontents : frame.shadow.contents = shadow := by
    rw [← Except.ok.inj frame.shadow.drawn]
    exact Shadow.ofShape_of_draw hdraw
  have hsquare := hframed.square
  have hborder : frame.shape.border.toNat = 30 := by
    rw [hshape]
    rfl
  have hside : 2 * max 12 frame.shape.radii.largest.toInt.toNat + 160 =
      2 * Shadow.cornerRoom frame.shape + 2 * 30 + 100 := by
    rw [hroom]
  have hle := Shadow.cornerRoom_le frame.shape
  rw [hborder, ← hside] at hsquare
  exact {
    clientRadii_eq := hclientRadii
    radii_eq := by
      rw [hclientRadii, hshape]
      exact map_clampRadius_cornersOf _
    drawn := hdraw.trans (congrArg Except.ok hcontents.symm)
    square := hcontents ▸ hsquare
    side_le := by omega }

/-- A client can fill its properties with any words.  A border alone is what it
gets exactly if the hints ask for that, and then its corners are those its
words stand for and nothing faults. -/
theorem shape_of_client (sized : Bool) (look : Look) (window : Window)
    (commons : Commons) :
    let hints := commons.properties.get window.id .motifHints
    let words := commons.properties.get window.id .cornerRadii
    (AsksForBorder hints → ∃ frame made,
      fit sized look window commons = .ok (frame, made)) ∧
    ∀ events frame, MadeAmong sized look window commons events frame →
      (frame.borderAlone = true ↔ AsksForBorder hints) ∧
      (AsksForBorder hints → frame.RoundedBy words ∧
        ∀ event shadows, ∃ update next later,
          frame.handle shadows event = .ok (update, next, later)) ∧
      (¬ AsksForBorder hints → frame.shape =
        .clamped .black chromeRadii
          (darkness (window.afterAll events).active) haloWidth) := by
  intro hints words
  have halone : (commons.properties.client window.id).borderAlone = true ↔
      AsksForBorder hints :=
    PropertyTable.borderAlone_client_iff commons.properties window.id
  have hroom : AsksForBorder hints → ∀ look window',
      HasRoom (commons.properties.client window.id) look window' := by
    intro hasks _ _ hchrome
    rw [halone.mpr hasks] at hchrome
    cases hchrome
  constructor
  · intro hasks
    exact exists_fit_of_hasRoom sized (hroom hasks look window)
  · intro events frame hmade
    have hcurrent := hmade.current
    refine ⟨?_, ?_, ?_⟩
    · rw [hcurrent.borderAlone_eq]
      exact halone
    · intro hasks
      refine ⟨hmade.roundedBy (halone.mpr hasks), ?_⟩
      intro event shadows
      exact hcurrent.exists_handle_of_hasRoom (hroom hasks _ _)
        (hroom hasks _ _) shadows
    · intro hnot
      rw [hcurrent.shape_eq, shapeOf, if_neg (mt halone.mp hnot)]

def hugeCorner : Commons where
  properties := (PropertyTable.set .empty 5 .motifHints [2, 0, 2]).set 5
    .cornerRadii [0x7fffffff, 1, 1, 1]

theorem shape_of_client_with_huge_corner :
    ∃ frame,
      MadeAmong true { left := [], right := [] }
        { id := 5, width := 400, height := 300 } hugeCorner
        [.window (.activated true)] frame ∧
      frame.shape.radii = ⟨6, 1, 1, 1⟩ ∧
      Shadow.draw frame.shape = .ok frame.shadow.contents ∧
      frame.shadow.contents.bitmap.width = 184 := by
  obtain ⟨hfit, hkept⟩ := shape_of_client true { left := [], right := [] }
    { id := 5, width := 400, height := 300 } hugeCorner
  have hasks : AsksForBorder (hugeCorner.properties.get 5 .motifHints) :=
    ⟨2, 0, [], rfl, by decide⟩
  obtain ⟨first, made, hfirst⟩ := hfit hasks
  obtain ⟨-, halone, -⟩ := hkept [] first (.fit hfirst)
  obtain ⟨update, frame, later, hframe⟩ :=
    (halone hasks).2 (.window (.activated true)) {}
  have hmade := (MadeAmong.fit hfirst).handle hframe
  obtain ⟨-, hfocused, -⟩ := hkept _ frame hmade
  obtain ⟨hrounded, -⟩ := hfocused hasks
  have hcorners : cornersOf (hugeCorner.properties.get 5 .cornerRadii) =
      ⟨6, 1, 1, 1⟩ := by
    decide
  have hradii : frame.shape.radii = ⟨6, 1, 1, 1⟩ := by
    rw [hrounded.radii_eq, hrounded.clientRadii_eq]
    exact hcorners
  refine ⟨frame, hmade, hradii, hrounded.drawn, ?_⟩
  rw [hrounded.square.width_eq, hradii]
  decide

end Frame

end WindowChrome
