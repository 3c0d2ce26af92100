import WindowChrome.Proofs.Decorator.Assignment

/-!
# The order of decorations

One operation does to the keys of the table what its marks do to the roll, so
the keys are the roll of the whole history.
-/

namespace WindowChrome
namespace Decorator

def listing (decorator : Decorator) : List WindowId :=
  decorator.decorations.values.map (·.window)

def marks (before : Decorator) (operation : Operation) (later : Decorator) :
    List Mark :=
  match operation with
  | .undecorate id => [.bare id]
  | _ => (before.redecorated operation later).map later.host.mark

/-- The decorators that can be reached, with the marks of all operations, the
latest first.  Whatever backend is live, it does not decorate a window at one
time and decline it at another. -/
inductive Marked : Decorator → List Mark → Prop
  | new (catalog : Catalog) (store : Config.Store)
      (properties : PropertyTable) :
      Marked (.new catalog store properties) []
  | perform {decorator later : Decorator} {history : List Mark}
      (operation : Operation) (hmarked : Marked decorator history)
      (hperform : decorator.perform operation = .ok later)
      (hsteady : later.host.Steady) :
      Marked later ((decorator.marks operation later).reverse ++ history)

/-- Every decoration is listed once and found under its own window, and the
windows are listed by the moment since which they are decorated. -/
structure Lists (decorator : Decorator) (history : List Mark) : Prop where
  nodup : decorator.listing.Nodup
  find?_iff : ∀ id decoration,
    decorator.decorations.find? id = some decoration ↔
      decoration ∈ decorator.decorations.values ∧ decoration.window = id
  isSome_iff : ∀ id,
    (decorator.decorations.find? id).isSome ↔ id ∈ decorator.listing
  mem_iff : ∀ id, id ∈ decorator.listing ↔ (Mark.since? id history).isSome
  sorted : decorator.listing.Pairwise fun id other =>
    Mark.since? id history < Mark.since? other history

variable {decorator ready later : Decorator} {operation : Operation}
  {history : List Mark}

theorem Ready.marks_eq (hready : decorator.Ready operation ready) :
    decorator.marks operation later =
      (decorator.redecorated operation later).map later.host.mark := by
  cases hready <;> rfl

theorem Performed.keys_eq (hperformed : decorator.Performed operation later)
    (hsteady : later.host.Steady) :
    later.decorations.keys = (decorator.marks operation later).foldl
      Mark.enter decorator.decorations.keys := by
  cases hperformed with
  | @turned _ ready done signals hready houtcome =>
      have hhost : done.host = ready.host := by
        rcases houtcome.eq with ⟨commons, decorations, hdone⟩
        rw [hdone]
      rcases houtcome.marked with ⟨marks, hkeys, _, hmarks⟩
      rw [← hhost] at hmarks
      rw [hready.marks_eq, ← hready.decorations_eq]
      show done.decorations.keys =
        ((decorator.redecorated operation done).map done.host.mark).foldl
          Mark.enter ready.decorations.keys
      rw [← hmarks hsteady]
      exact hkeys
  | decorated window hremade =>
      have hhost : later.host = decorator.host := by
        rcases hremade.eq with ⟨commons, decorations, hlater⟩
        rw [hlater]
      rcases hremade.marked with ⟨marks, hkeys, _, hmarks⟩
      rw [← hhost] at hmarks
      rw [hkeys, hmarks hsteady]
      rfl
  | undecorated id => exact Keyed.keys_erase decorator.decorations id
  | written group key value => rfl
  | spared properties => rfl

theorem host_of_decorate {window : Window} {decorated : Bool}
    (hdecorate : decorator.decorate window = .ok (decorated, later)) :
    later.host = decorator.host := by
  rcases decorate_cases hdecorate with
      ⟨decoration, commons, decorations, _, hlater, _⟩
  rw [hlater]

theorem mem_keys_of_decorate {window : Window} {decorated : Bool}
    (hdecorate : decorator.decorate window = .ok (decorated, later)) :
    decorated = true ↔ window.id ∈ later.decorations.keys := by
  rcases decorate_cases hdecorate with
      ⟨decoration, commons, decorations, _, hlater, hdecorated, hkeys, _⟩
  rw [hlater, hkeys]
  cases decorated with
  | true =>
      simp only [true_iff, Mark.of, if_true, Mark.enter]
      split <;> simp_all
  | false => simp [Mark.of, Mark.enter]

theorem marks_decorate {window : Window} {decorated : Bool}
    (hsteady : decorator.host.Steady)
    (hdecorate : decorator.decorate window = .ok (decorated, later)) :
    decorator.marks (.decorate window) later =
      [if decorated then .decorated window.id else .bare window.id] := by
  rcases decorate_cases hdecorate with
      ⟨decoration, commons, decorations, hcreate, hlater, hdecorated, _, _⟩
  rw [hlater, hdecorated, isSome_of_host_create hsteady hcreate]
  rfl

theorem Marked.run (hmarked : Marked decorator history) :
    ∃ ledger, Run (fun _ _ => True) decorator ledger := by
  induction hmarked with
  | new catalog store properties => exact ⟨_, .new catalog store properties⟩
  | perform operation _ hperform _ ih =>
      rcases ih with ⟨ledger, hrun⟩
      exact ⟨_, .perform operation hrun trivial hperform⟩

theorem Marked.steady (hmarked : Marked decorator history) :
    decorator.host.Steady := by
  cases hmarked with
  | new catalog store properties =>
      intro live hlive
      cases hlive
  | perform operation _ hperform hsteady => exact hsteady

theorem Marked.orders (hmarked : Marked decorator history) :
    Mark.Orders history decorator.decorations.keys := by
  induction hmarked with
  | new catalog store properties => exact Mark.orders_nil
  | perform operation _ hperform hsteady ih =>
      rw [(performed_of_perform hperform).keys_eq hsteady]
      exact ih.enterAll _

theorem Marked.window_eq (hmarked : Marked decorator history) {id : WindowId}
    {decoration : Decoration}
    (hfind : decorator.decorations.find? id = some decoration) :
    decoration.window = id := by
  rcases hmarked.run with ⟨ledger, hrun⟩
  rcases hrun.forall_decorations Makes.owned Told.owned id decoration hfind
    with ⟨backend, hmade⟩
  exact hmade.window_eq

theorem Marked.listing_eq (hmarked : Marked decorator history) :
    decorator.listing = decorator.decorations.keys := by
  unfold listing Keyed.values Keyed.keys
  rw [List.map_map]
  apply List.map_congr_left
  intro entry hentry
  rcases entry with ⟨id, decoration⟩
  exact hmarked.window_eq
    (Keyed.find?_of_mem_entries hmarked.orders.nodup hentry)

theorem Marked.lists (hmarked : Marked decorator history) :
    decorator.Lists history := by
  have horders := hmarked.orders
  have hlisting := hmarked.listing_eq
  constructor
  · rw [hlisting]
    exact horders.nodup
  · intro id decoration
    constructor
    · intro hfind
      have hentry := Keyed.mem_entries_of_find? hfind
      exact ⟨List.mem_map_of_mem hentry, hmarked.window_eq hfind⟩
    · intro hlisted
      rcases hlisted with ⟨hvalue, hwindow⟩
      rcases List.mem_map.mp hvalue with ⟨⟨other, found⟩, hentry, hsame⟩
      change found = decoration at hsame
      have hfind := Keyed.find?_of_mem_entries horders.nodup hentry
      rw [hsame] at hfind
      rw [← hwindow, hmarked.window_eq hfind]
      exact hfind
  · intro id
    rw [hlisting]
    constructor
    · intro hsome
      rcases Option.isSome_iff_exists.mp hsome with ⟨decoration, hfind⟩
      exact Keyed.mem_keys_of_find? hfind
    · intro hmem
      rcases Keyed.exists_find?_of_mem_keys hmem with ⟨decoration, hfind⟩
      rw [hfind]
      rfl
  · rw [hlisting]
    exact horders.mem_iff
  · rw [hlisting]
    exact horders.sorted

/-- The decorations are listed once each, by the moment since which their
windows are decorated.  Decorating a window says whether it is listed then, and
windows that an operation does not leave bare stay at the front. -/
theorem listing_of_marked (hmarked : Marked decorator history) :
    decorator.Lists history ∧
    (∀ window decorated later,
      decorator.decorate window = .ok (decorated, later) →
        (decorated = true ↔ window.id ∈ later.listing) ∧
        decorator.marks (.decorate window) later =
          [if decorated then .decorated window.id else .bare window.id]) ∧
    ∀ operation later, decorator.perform operation = .ok later →
      later.host.Steady →
      decorator.listing.filter
          (fun id => .bare id ∉ decorator.marks operation later) <+:
        later.listing := by
  refine ⟨hmarked.lists, ?_, ?_⟩
  · intro window decorated later hdecorate
    have hperform : decorator.perform (.decorate window) = .ok later := by
      simp only [perform, hdecorate]
      rfl
    have hsteady := hmarked.steady
    rw [← host_of_decorate hdecorate] at hsteady
    rw [(hmarked.perform _ hperform hsteady).listing_eq]
    exact ⟨mem_keys_of_decorate hdecorate,
      marks_decorate hmarked.steady hdecorate⟩
  · intro operation later hperform hsteady
    rw [hmarked.listing_eq, (hmarked.perform _ hperform hsteady).listing_eq,
      (performed_of_perform hperform).keys_eq hsteady]
    exact Mark.prefix_enterAll _ _

/-- Window 1, which the workspace lists twice, goes and comes back, and then
all windows are decorated again in the order of the workspace. -/
theorem listing_after_return :
    ∃ decorator history,
      Marked decorator history ∧
      decorator.listing = [2, 1] ∧
      history = [.decorated 1, .bare 3, .decorated 2, .decorated 1,
        .decorated 1, .bare 1,
        .decorated 1, .bare 3, .decorated 2, .decorated 1] ∧
      Mark.since? 2 history = some 1 ∧ Mark.since? 1 history = some 5 ∧
      decorator.Lists history := by
  have hreached : ∃ decorator history,
      Marked decorator history ∧
      decorator.listing = [2, 1] ∧
      history = [.decorated 1, .bare 3, .decorated 2, .decorated 1,
        .decorated 1, .bare 1,
        .decorated 1, .bare 3, .decorated 2, .decorated 1] :=
    ⟨_, _,
      .perform (.handle ⟨[⟨1, 800, 600, false, false, "", .standard⟩,
          ⟨2, 640, 480, false, false, "", .standard⟩,
          ⟨3, 320, 240, false, false, "", .standard⟩,
          ⟨1, 800, 600, false, false, "", .standard⟩], 1, true⟩ (.dpi 192))
        (.perform (.decorate ⟨1, 800, 600, false, false, "", .standard⟩)
          (.perform (.undecorate 1)
            (.perform (.start {} ⟨[⟨1, 800, 600, false, false, "", .standard⟩,
                ⟨2, 640, 480, false, false, "", .standard⟩,
                ⟨3, 320, 240, false, false, "", .standard⟩,
                ⟨1, 800, 600, false, false, "", .standard⟩], 1, true⟩)
              (.new (Catalog.standard.register Host.defaultBackend
                  { deliver := fun _ => .ok { declined := [3] } })
                {} .empty)
              (by exact rfl) (.of_plain (by exact rfl) (by exact rfl)))
            (by exact rfl) (.of_plain (by exact rfl) (by exact rfl)))
          (by exact rfl) (.of_plain (by exact rfl) (by exact rfl)))
        (by exact rfl) (.of_plain (by exact rfl) (by exact rfl)),
      by exact rfl, by exact rfl⟩
  rcases hreached with ⟨decorator, history, hmarked, hlisting, hhistory⟩
  refine ⟨decorator, history, hmarked, hlisting, hhistory, ?_, ?_,
    (listing_of_marked hmarked).1⟩
  · rw [hhistory]
    decide
  · rw [hhistory]
    decide

end Decorator
end WindowChrome
