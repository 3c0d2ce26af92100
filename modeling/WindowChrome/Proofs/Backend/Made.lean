import WindowChrome.Backend.Basic
import WindowChrome.Proofs.Frame.Upkeep

/-!
# What backends make

A frame counts as made by a backend if it differs from what the backend would
make now in nothing but the pointer's marks, a guest if the backend invited it.
-/

namespace WindowChrome
namespace Backend

variable {backend : Backend} {look : Look} {window : Window}
  {commons later : Commons}

def Make.framed (sized : Bool) : Make := if sized then .sized else .plain

theorem create_declined (hdeclined : window.id ∈ backend.declined) :
    backend.create look window commons = .ok (none, commons) := by
  unfold create
  rw [if_pos (List.contains_iff_mem.mpr hdeclined)]

theorem create_framed {sized : Bool} (hwilling : window.id ∉ backend.declined)
    (hmake : backend.make = .framed sized) :
    backend.create look window commons =
      (Frame.fit sized look window commons).map fun made =>
        (some (.framed made.1), made.2) := by
  have hmap : ∀ computation : Except Fault (Frame × Commons),
      (computation >>= fun made =>
        pure (some (Decoration.framed made.1), made.2)) =
      computation.map fun made => (some (Decoration.framed made.1), made.2) := by
    intro computation
    cases computation <;> rfl
  unfold create
  rw [if_neg fun hmem => hwilling (List.contains_iff_mem.mp hmem), hmake,
    ← hmap]
  cases sized <;> rfl

theorem create_guests {invite : Invitation}
    (hwilling : window.id ∉ backend.declined)
    (hmake : backend.make = .guests invite) :
    backend.create look window commons =
      .ok ((invite look window commons).1.map
          (fun guest => .foreign { guest with window := window.id }),
        { commons with
          shadows := commons.shadows.askedEach
            (invite look window commons).2 }) := by
  unfold create
  rw [if_neg fun hmem => hwilling (List.contains_iff_mem.mp hmem), hmake]

def Make.offers : Make → Bool
  | .nothing => false
  | _ => true

def decorates (backend : Backend) (id : WindowId) : Bool :=
  backend.make.offers && !backend.declined.contains id

/-- Whether the backend decorates a window depends on its identity alone. -/
def Steady (backend : Backend) : Prop :=
  ∀ invite, backend.make = .guests invite →
    ∀ look window commons, (invite look window commons).1.isSome

theorem create_cases {decoration : Option Decoration}
    (hcreate : backend.create look window commons = .ok (decoration, later)) :
    (decoration = none ∧ later = commons ∧
      backend.decorates window.id = false) ∨
    (window.id ∉ backend.declined ∧ ∃ sized frame,
      backend.make = .framed sized ∧ decoration = some (.framed frame) ∧
      Frame.fit sized look window commons = .ok (frame, later)) ∨
    (window.id ∉ backend.declined ∧ ∃ invite guest? shapes,
      backend.make = .guests invite ∧
      invite look window commons = (guest?, shapes) ∧
      decoration = guest?.map
        (fun guest => .foreign { guest with window := window.id }) ∧
      later = { commons with shadows := commons.shadows.askedEach shapes }) := by
  by_cases hdeclined : window.id ∈ backend.declined
  · rw [create_declined hdeclined] at hcreate
    cases hcreate
    exact .inl ⟨rfl, rfl, by simp [decorates, hdeclined]⟩
  · have hframed : ∀ sized, backend.make = .framed sized →
        ∃ frame, decoration = some (.framed frame) ∧
          Frame.fit sized look window commons = .ok (frame, later) := by
      intro sized hmake
      rw [create_framed hdeclined hmake, map_eq_ok_iff] at hcreate
      rcases hcreate with ⟨⟨frame, marked⟩, hfit, hresult⟩
      cases hresult
      exact ⟨frame, rfl, hfit⟩
    cases hmake : backend.make with
    | plain =>
        rcases hframed false hmake with ⟨frame, hdecoration, hfit⟩
        exact .inr (.inl ⟨hdeclined, false, frame, rfl, hdecoration, hfit⟩)
    | sized =>
        rcases hframed true hmake with ⟨frame, hdecoration, hfit⟩
        exact .inr (.inl ⟨hdeclined, true, frame, rfl, hdecoration, hfit⟩)
    | guests invite =>
        rw [create_guests hdeclined hmake] at hcreate
        cases hcreate
        exact .inr (.inr ⟨hdeclined, invite, _, _, rfl, rfl, rfl, rfl⟩)
    | nothing =>
        unfold create at hcreate
        rw [if_neg fun hmem => hdeclined (List.contains_iff_mem.mp hmem),
          hmake] at hcreate
        cases hcreate
        exact .inl ⟨rfl, rfl, by simp [decorates, Make.offers, hmake]⟩

theorem isSome_of_create (hsteady : backend.Steady)
    {decoration : Option Decoration}
    (hcreate : backend.create look window commons = .ok (decoration, later)) :
    decoration.isSome = backend.decorates window.id := by
  rcases create_cases hcreate with ⟨hdecoration, _, hdecorates⟩ |
    ⟨hwilling, sized, frame, hmake, hdecoration, _⟩ |
    ⟨hwilling, invite, guest?, shapes, hmake, hinvite, hdecoration, _⟩
  · rw [hdecoration, hdecorates]
    rfl
  · rw [hdecoration]
    cases sized <;> simp [decorates, hwilling, hmake, Make.framed, Make.offers]
  · have hguest := hsteady invite hmake look window commons
    rw [hinvite] at hguest
    rw [hdecoration, Option.isSome_map, hguest]
    simp [decorates, hwilling, hmake, Make.offers]

theorem client_of_create {decoration : Option Decoration}
    (hcreate : backend.create look window commons = .ok (decoration, later))
    (other : WindowId) :
    later.properties.client other = commons.properties.client other := by
  rcases create_cases hcreate with ⟨_, hlater, _⟩ | ⟨_, _, _, _, _, hfit⟩ |
    ⟨_, _, _, _, _, _, _, hlater⟩
  · rw [hlater]
  · rw [(Frame.fit_commons hfit).2]
    unfold Frame.markedCommons
    simp only
    split
    · rfl
    · exact PropertyTable.client_set_decorated _ _ _ _
  · rw [hlater]

/-- The guest was invited for the window of an identity, and may have gone
through something since. -/
inductive Hosted (invite : Invitation) (id : WindowId) : Guest → Prop
  | invited {look : Look} {window : Window} {commons : Commons}
      {guest : Guest} {shapes : List Shape} (hid : window.id = id)
      (hinvite : invite look window commons = (some guest, shapes)) :
      Hosted invite id { guest with window := id }
  | after {guest : Guest} (hhosted : Hosted invite id guest)
      (occasion : Guest.Occasion) : Hosted invite id (guest.after occasion)

theorem Hosted.window_eq {invite : Invitation} {id : WindowId}
    {guest : Guest} (hhosted : Hosted invite id guest) :
    guest.window = id := by
  induction hhosted with
  | invited hid hinvite => rfl
  | after hhosted occasion ih => exact ih

inductive Made (backend : Backend) (look : Look) (window : Window)
    (client : Client) : Decoration → Prop
  | framed {sized : Bool} {frame : Frame}
      (hwilling : window.id ∉ backend.declined)
      (hmake : backend.make = .framed sized)
      (hframe : frame.Current sized look window client) :
      Made backend look window client (.framed frame)
  | foreign {invite : Invitation} {guest : Guest} (hwilling : window.id ∉ backend.declined)
      (hmake : backend.make = .guests invite)
      (hhosted : Hosted invite window.id guest) :
      Made backend look window client (.foreign guest)

theorem made_of_create {decoration : Decoration}
    (hcreate : backend.create look window commons =
      .ok (some decoration, later)) :
    backend.Made look window (commons.properties.client window.id)
      decoration := by
  rcases create_cases hcreate with ⟨hnone, _⟩ |
    ⟨hwilling, sized, frame, hmake, hdecoration, hfit⟩ |
    ⟨hwilling, invite, guest?, shapes, hmake, hinvite, hdecoration, _⟩
  · cases hnone
  · cases hdecoration
    exact .framed hwilling hmake (Frame.fit_current hfit)
  · cases guest? with
    | none => cases hdecoration
    | some guest =>
        cases hdecoration
        exact .foreign hwilling hmake (.invited rfl hinvite)

/-- The backend makes frames, or guests that never change, or nothing. -/
inductive Make.Ordinary : Make → Prop
  | plain : Ordinary .plain
  | sized : Ordinary .sized
  | still (update : Update) : Ordinary (.still update)
  | nothing : Ordinary .nothing

theorem Hosted.eq_still {update : Update} {id : WindowId} {guest : Guest}
    (hhosted : Hosted
      (fun _ window _ => (some (.still window.id update), [])) id guest) :
    guest = .still id update := by
  induction hhosted with
  | invited hid hinvite =>
      cases hinvite
      rfl
  | after hhosted occasion ih =>
      rw [ih]
      rfl

theorem Made.exists_create {client : Client} {decoration : Decoration}
    (hmade : backend.Made look window client decoration)
    (hordinary : ∀ guest, decoration = .foreign guest → backend.make.Ordinary)
    (hclient : commons.properties.client window.id = client) :
    ∃ fresh later,
      backend.create look window commons = .ok (some fresh, later) ∧
      decoration.atRest = fresh.atRest := by
  cases hmade with
  | framed hwilling hmake hframe =>
      rcases hframe.exists_fit hclient with ⟨fresh, later, hfit, hfresh⟩
      refine ⟨.framed fresh, later, ?_, ?_⟩
      · rw [create_framed hwilling hmake, hfit]
        rfl
      · simp only [Decoration.atRest, hframe.atRest_eq hfresh]
  | foreign hwilling hmake hhosted =>
      have hcreate := @create_guests backend look window commons _ hwilling
        hmake
      have hstill := hordinary _ rfl
      rw [hmake] at hstill
      cases hstill with
      | still update =>
          rw [hhosted.eq_still]
          exact ⟨_, _, hcreate, rfl⟩

theorem Made.handle {client : Client} {decoration next : Decoration}
    {shadows drawn : ShadowMemo} {event : Decoration.Event} {update : Update}
    (hmade : backend.Made look window client decoration)
    (hhandle : decoration.handle shadows event = .ok (update, next, drawn)) :
    backend.Made (look.afterEvent event) (window.afterEvent event) client
      next := by
  have hid : (window.afterEvent event).id = window.id :=
    Window.id_afterAll window [event]
  cases hmade with
  | framed hwilling hmake hframe =>
      rcases Decoration.framed_of_handle hhandle with
        ⟨handled, rfl, hframeHandle⟩
      rw [← hid] at hwilling
      exact .framed hwilling hmake (hframe.handle hframeHandle)
  | foreign hwilling hmake hhosted =>
      cases hhandle
      rw [← hid] at hwilling hhosted
      exact .foreign hwilling hmake (hhosted.after _)

theorem Made.takeAction {client : Client} {decoration : Decoration}
    (hmade : backend.Made look window client decoration) :
    backend.Made look window client decoration.takeAction.2 := by
  cases hmade with
  | framed hwilling hmake hframe =>
      exact .framed hwilling hmake
        (hframe.of_atRest_eq (Frame.takeAction_atRest _))
  | foreign hwilling hmake hhosted =>
      exact .foreign hwilling hmake (hhosted.after .taken)

def MadeFor (backend : Backend) (id : WindowId) (decoration : Decoration) :
    Prop :=
  ∃ (look : Look) (window : Window) (client : Client),
    backend.Made look window client decoration ∧ window.id = id

namespace MadeFor

variable {id : WindowId} {decoration : Decoration}

theorem window_eq (hmade : backend.MadeFor id decoration) :
    decoration.window = id := by
  rcases hmade with ⟨look, window, client, hmade, hid⟩
  cases hmade with
  | framed hwilling hmake hframe =>
      rw [← hid, ← hframe.window_eq]
      rfl
  | foreign hwilling hmake hhosted => exact hhosted.window_eq.trans hid

end MadeFor

end Backend
end WindowChrome
