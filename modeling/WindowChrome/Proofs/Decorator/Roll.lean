import WindowChrome.Geometry

/-!
# Marks and the roll

Every attempt to decorate a window, and every removal, leaves a mark.  A place
on the roll stands for the mark since which the window is decorated, and these
only grow along it.
-/

namespace WindowChrome

inductive Mark where
  | decorated (id : WindowId)
  | bare (id : WindowId)
  deriving DecidableEq, Repr

namespace Mark

def of (id : WindowId) (decorated : Bool) : Mark :=
  if decorated then .decorated id else .bare id

def window : Mark → WindowId
  | decorated id => id
  | bare id => id

theorem window_of (id : WindowId) (isDecorated : Bool) :
    (of id isDecorated).window = id := by
  cases isDecorated <;> rfl

def enter (roll : List WindowId) : Mark → List WindowId
  | decorated id => if id ∈ roll then roll else roll ++ [id]
  | bare id => roll.filter (· != id)

/-- How many marks there had been when a window was first decorated since it
was last bare.  The latest mark of a history comes first. -/
def since? (id : WindowId) : List Mark → Option Nat
  | [] => none
  | decorated other :: earlier =>
      if other = id then some ((since? id earlier).getD earlier.length)
      else since? id earlier
  | bare other :: earlier => if other = id then none else since? id earlier

variable {id other : WindowId} {history : List Mark}

theorem since?_decorated_self (id : WindowId) (history : List Mark) :
    since? id (decorated id :: history) =
      some ((since? id history).getD history.length) := by
  simp only [since?, if_true]

theorem since?_bare_self (id : WindowId) (history : List Mark) :
    since? id (bare id :: history) = none := by
  simp only [since?, if_true]

theorem since?_decorated_of_ne (hother : other ≠ id) :
    since? id (decorated other :: history) = since? id history := by
  simp only [since?, hother, if_false]

theorem since?_bare_of_ne (hother : other ≠ id) :
    since? id (bare other :: history) = since? id history := by
  simp only [since?, hother, if_false]

theorem since?_decorated_of_isSome (hsome : (since? other history).isSome) :
    since? id (decorated other :: history) = since? id history := by
  by_cases hother : other = id
  · subst hother
    rcases Option.isSome_iff_exists.mp hsome with ⟨time, htime⟩
    rw [since?_decorated_self, htime, Option.getD_some]
  · exact since?_decorated_of_ne hother

theorem since?_cons_eq_some_iff {mark : Mark} {time : Nat} :
    since? id (mark :: history) = some time ↔
      (since? id history = some time ∧ mark ≠ bare id) ∨
      (since? id history = none ∧ mark = decorated id ∧
        history.length = time) := by
  cases mark with
  | decorated other =>
      by_cases hother : other = id
      · rw [hother, since?_decorated_self]
        cases since? id history <;> simp
      · simp [since?_decorated_of_ne hother, hother]
  | bare other =>
      by_cases hother : other = id
      · simp [hother, since?_bare_self]
      · simp [since?_bare_of_ne hother, hother]

theorem since?_eq_some_iff {time : Nat} :
    since? id history = some time ↔
      ∃ later earlier, history = later ++ decorated id :: earlier ∧
        earlier.length = time ∧ since? id earlier = none ∧
        bare id ∉ later := by
  induction history with
  | nil => simp [since?]
  | cons mark history ih =>
      rw [since?_cons_eq_some_iff]
      constructor
      · intro hcases
        rcases hcases with ⟨hbefore, hmark⟩ | ⟨hnone, hmark, hlength⟩
        · rcases ih.mp hbefore with
              ⟨later, earlier, hhistory, hlength, hnone, hbare⟩
          refine ⟨mark :: later, earlier, ?_, hlength, hnone, ?_⟩
          · rw [hhistory, List.cons_append]
          · simp only [List.mem_cons, not_or]
            exact ⟨hmark.symm, hbare⟩
        · exact ⟨[], history, by rw [hmark, List.nil_append], hlength, hnone,
            List.not_mem_nil⟩
      · intro hmoment
        rcases hmoment with
            ⟨later, earlier, hhistory, hlength, hnone, hbare⟩
        cases later with
        | nil =>
            simp only [List.nil_append, List.cons.injEq] at hhistory
            rw [hhistory.2]
            exact .inr ⟨hnone, hhistory.1, hlength⟩
        | cons first later =>
            simp only [List.cons_append, List.cons.injEq] at hhistory
            simp only [List.mem_cons, not_or] at hbare
            rw [hhistory.1]
            exact .inl ⟨ih.mpr ⟨later, earlier, hhistory.2, hlength, hnone,
              hbare.2⟩, Ne.symm hbare.1⟩

theorem since?_lt {time : Nat} (hsince : since? id history = some time) :
    time < history.length := by
  rcases since?_eq_some_iff.mp hsince with
      ⟨later, earlier, hhistory, hlength, -, -⟩
  rw [hhistory, List.length_append, List.length_cons]
  omega

/-- A roll lists the windows that are decorated after a history, by the moment
since which they are. -/
structure Orders (history : List Mark) (roll : List WindowId) : Prop where
  mem_iff : ∀ id, id ∈ roll ↔ (since? id history).isSome
  sorted : roll.Pairwise fun id other => since? id history < since? other history

variable {roll : List WindowId}

theorem orders_nil : Orders [] [] := by
  constructor
  · intro id
    simp [since?]
  · exact List.Pairwise.nil

theorem Orders.nodup (horders : Orders history roll) : roll.Nodup := by
  apply horders.sorted.imp
  intro id other hlt hsame
  rw [hsame] at hlt
  cases hsince : since? other history <;> simp [hsince] at hlt

theorem pairwise_since?_congr {later : List Mark}
    (hsorted : roll.Pairwise fun id other =>
      since? id history < since? other history)
    (hsame : ∀ id ∈ roll, since? id later = since? id history) :
    roll.Pairwise fun id other => since? id later < since? other later := by
  apply hsorted.imp_of_mem
  intro first second hfirst hsecond hlt
  rw [hsame first hfirst, hsame second hsecond]
  exact hlt

theorem Orders.redecorated (horders : Orders history roll) (hid : id ∈ roll) :
    Orders (.decorated id :: history) roll := by
  have hsame : ∀ other, since? other (.decorated id :: history) =
      since? other history :=
    fun other => since?_decorated_of_isSome ((horders.mem_iff id).mp hid)
  constructor
  · intro other
    rw [hsame, horders.mem_iff]
  · exact pairwise_since?_congr horders.sorted fun other _ => hsame other

theorem Orders.appended (horders : Orders history roll) (hid : id ∉ roll) :
    Orders (.decorated id :: history) (roll ++ [id]) := by
  have hnone : since? id history = none := by
    rw [horders.mem_iff, Option.not_isSome_iff_eq_none] at hid
    exact hid
  have hnow : since? id (.decorated id :: history) = some history.length := by
    rw [since?_decorated_self, hnone, Option.getD_none]
  have hsame : ∀ other ∈ roll, since? other (.decorated id :: history) =
      since? other history := by
    intro other hother
    apply since?_decorated_of_ne
    intro heq
    rw [heq] at hid
    exact hid hother
  constructor
  · intro other
    rw [List.mem_append, List.mem_singleton]
    by_cases hother : id = other
    · subst hother
      simp [hnow]
    · rw [since?_decorated_of_ne hother, horders.mem_iff]
      simp [Ne.symm hother]
  · rw [List.pairwise_append]
    refine ⟨pairwise_since?_congr horders.sorted hsame,
      List.pairwise_singleton _ _, ?_⟩
    intro other hother last hlast
    rw [List.mem_singleton] at hlast
    rcases Option.isSome_iff_exists.mp ((horders.mem_iff other).mp hother)
      with ⟨time, htime⟩
    rw [hlast, hnow, hsame other hother, htime, Option.some_lt_some]
    exact since?_lt htime

theorem Orders.decorated (horders : Orders history roll) (id : WindowId) :
    Orders (.decorated id :: history) ((Mark.decorated id).enter roll) := by
  by_cases hid : id ∈ roll
  · simp only [enter, hid, if_true]
    exact horders.redecorated hid
  · simp only [enter, hid, if_false]
    exact horders.appended hid

theorem Orders.bare (horders : Orders history roll) (id : WindowId) :
    Orders (.bare id :: history) ((Mark.bare id).enter roll) := by
  simp only [enter]
  constructor
  · intro other
    rw [List.mem_filter, horders.mem_iff]
    by_cases hother : id = other
    · subst hother
      simp [since?_bare_self]
    · rw [since?_bare_of_ne hother]
      simp [Ne.symm hother]
  · apply pairwise_since?_congr (horders.sorted.filter _)
    intro other hother
    apply since?_bare_of_ne
    intro heq
    simp [heq] at hother

theorem Orders.enterAll (horders : Orders history roll) (marks : List Mark) :
    Orders (marks.reverse ++ history) (marks.foldl enter roll) := by
  induction marks generalizing history roll with
  | nil => exact horders
  | cons mark rest ih =>
      rw [List.reverse_cons, List.append_assoc, List.foldl_cons]
      cases mark with
      | decorated id => exact ih (horders.decorated id)
      | bare id => exact ih (horders.bare id)

theorem prefix_enterAll (roll : List WindowId) (marks : List Mark) :
    roll.filter (fun id => .bare id ∉ marks) <+: marks.foldl enter roll := by
  induction marks generalizing roll with
  | nil =>
      rw [List.filter_eq_self.mpr (by simp)]
      exact List.prefix_refl _
  | cons mark rest ih =>
      rw [List.foldl_cons]
      apply List.IsPrefix.trans _ (ih (mark.enter roll))
      cases mark with
      | decorated id =>
          simp only [enter, List.mem_cons, reduceCtorEq, false_or]
          split
          · exact List.prefix_refl _
          · rw [List.filter_append]
            exact List.prefix_append _ _
      | bare id =>
          have hsame : (roll.filter (· != id)).filter
              (fun other => .bare other ∉ rest) =
              roll.filter (fun other => .bare other ∉ .bare id :: rest) := by
            rw [List.filter_filter]
            apply List.filter_congr
            intro other _
            by_cases hother : other = id <;> simp [hother]
          simp only [enter, hsame, List.prefix_refl]

end Mark
end WindowChrome
