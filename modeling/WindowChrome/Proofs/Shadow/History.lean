import WindowChrome.Proofs.Shadow.Corner
import Mathlib.Data.Finset.Card

/-!
# The history of a memo

Letting go of all drawings begins a new epoch.  What a memo answers follows
from the subjects drawn in each epoch.
-/

namespace WindowChrome
namespace Memo

variable {α κ β : Type} {draw : κ → Except Fault β}

inductive Request (α : Type) where
  | get (asked : α)
  | contains (asked : α)
  | size
  | made
  | clear

inductive Answer {κ β : Type} (draw : κ → Except Fault β) where
  | drawing (drawing : Drawing draw)
  | fault (fault : Fault)
  | truth (truth : Bool)
  | count (count : Nat)
  | done

section

variable [DecidableEq κ] (key : α → κ)

def perform (memo : Memo draw) : Request α → Answer draw × Memo draw
  | .get asked =>
      match memo.fetch (key asked) with
      | .ok (drawing, later) => (.drawing drawing, later)
      | .error fault => (.fault fault, memo)
  | .contains asked => (.truth (memo.contains (key asked)), memo)
  | .size => (.count memo.size, memo)
  | .made => (.count memo.made, memo)
  | .clear => (.done, memo.clear)

def performAll (memo : Memo draw) (requests : List (Request α)) : Memo draw :=
  requests.foldl (fun memo request => (memo.perform key request).2) memo

variable (draw)

def answer (earlier : List (Request α)) (request : Request α) : Answer draw :=
  (perform key (performAll key {} earlier) request).1

end

/-- The subjects drawn, by epoch. -/
structure Epochs (κ : Type) where
  current : Finset κ := ∅
  past : List (Finset κ) := []

namespace Epochs

variable [DecidableEq κ] (draw) (key : α → κ)

def next (epochs : Epochs κ) : Request α → Epochs κ
  | .get asked =>
      match draw (key asked) with
      | .ok _ => { epochs with current := insert (key asked) epochs.current }
      | .error _ => epochs
  | .clear => { current := ∅, past := epochs.current :: epochs.past }
  | .contains _ | .size | .made => epochs

def of (requests : List (Request α)) : Epochs κ :=
  requests.foldl (next draw key) {}

def total (epochs : Epochs κ) : Nat :=
  (epochs.current :: epochs.past).foldr
    (fun subjects total => subjects.card + total) 0

end Epochs

/-! ## What comes of a request -/

section

variable [DecidableEq κ] {memo : Memo draw} (key : α → κ)

theorem perform_get_cases (memo : Memo draw) (asked : α) :
    (∃ drawing later,
      memo.perform key (.get asked) = (.drawing drawing, later) ∧
      memo.Answers (key asked) (drawing, later) ∧
      draw (key asked) = .ok drawing.contents) ∨
    ∃ fault, memo.perform key (.get asked) = (.fault fault, memo) ∧
      draw (key asked) = .error fault := by
  rcases memo.fetch_cases (key asked) with
    ⟨drawing, later, hfetch, hanswers, hdrawn⟩ | ⟨fault, hfetch, hdraw⟩
  · refine .inl ⟨drawing, later, ?_, hanswers, hdrawn⟩
    simp only [perform, hfetch]
  · refine .inr ⟨fault, ?_, hdraw⟩
    simp only [perform, hfetch]

theorem grown_perform {request : Request α} (hkept : request ≠ .clear) :
    memo.Grown (memo.perform key request).2 := by
  cases request with
  | get asked =>
      rcases memo.perform_get_cases key asked with
        ⟨drawing, later, hperform, hanswers, _⟩ | ⟨fault, hperform, _⟩
      · rw [hperform]
        exact Grown.refl.ask hanswers
      · rw [hperform]
        exact .refl
  | contains asked => exact .refl
  | size => exact .refl
  | made => exact .refl
  | clear => exact absurd rfl hkept

theorem performAll_append (memo : Memo draw)
    (first second : List (Request α)) :
    memo.performAll key (first ++ second) =
      (memo.performAll key first).performAll key second :=
  List.foldl_append

end

/-! ## A memo and its epochs -/

section

variable [DecidableEq κ] {memo : Memo draw}

structure Follows (memo : Memo draw) (epochs : Epochs κ) : Prop where
  wellFormed : memo.WellFormed
  subjects_nodup : (memo.kept.map Drawing.subject).Nodup
  subjects_eq : (memo.kept.map Drawing.subject).toFinset = epochs.current
  made_eq : memo.made = epochs.total

namespace Follows

variable {epochs : Epochs κ}

theorem contains_iff_mem (hfollows : memo.Follows epochs) (subject : κ) :
    memo.contains subject = true ↔ subject ∈ epochs.current := by
  rw [contains_iff, ← hfollows.subjects_eq, List.mem_toFinset]

theorem size_eq (hfollows : memo.Follows epochs) :
    memo.size = epochs.current.card := by
  rw [← hfollows.subjects_eq,
    List.toFinset_card_of_nodup hfollows.subjects_nodup, List.length_map]
  rfl

theorem ask {subject : κ} {answer : Drawing draw × Memo draw}
    (hfollows : memo.Follows epochs)
    (hanswers : memo.Answers subject answer) :
    answer.2.Follows
      { epochs with current := insert subject epochs.current } := by
  have hcontains := hfollows.contains_iff_mem subject
  cases hanswers with
  | found hfind =>
      have hmem : subject ∈ epochs.current := by
        rw [← hcontains, contains, hfind]
        rfl
      simp only [Finset.insert_eq_of_mem hmem]
      exact hfollows
  | drawn hunkept hdrawn =>
      have hfresh : subject ∉ epochs.current := by
        rw [← hcontains, contains, hunkept]
        simp
      have hnew : subject ∉ memo.kept.map Drawing.subject := by
        rw [← List.mem_toFinset, hfollows.subjects_eq]
        exact hfresh
      constructor
      · exact hfollows.wellFormed.keep
      · simpa [keep, List.nodup_append, hfollows.subjects_nodup] using hnew
      · simp [keep, ← hfollows.subjects_eq]
      · simp only [keep, hfollows.made_eq, Epochs.total, List.foldr_cons,
          Finset.card_insert_of_notMem hfresh]
        omega

theorem clear (hfollows : memo.Follows epochs) :
    memo.clear.Follows
      { current := ∅, past := epochs.current :: epochs.past } where
  wellFormed := .clear
  subjects_nodup := by simp [Memo.clear]
  subjects_eq := by simp [Memo.clear]
  made_eq := by simp [Memo.clear, hfollows.made_eq, Epochs.total]

variable (key : α → κ)

theorem perform (hfollows : memo.Follows epochs) (request : Request α) :
    (memo.perform key request).2.Follows (epochs.next draw key request) := by
  cases request with
  | get asked =>
      rcases memo.perform_get_cases key asked with
        ⟨drawing, later, hperform, hanswers, hdrawn⟩ |
        ⟨fault, hperform, hdraw⟩
      · rw [hperform]
        simp only [Epochs.next, hdrawn]
        exact hfollows.ask hanswers
      · rw [hperform]
        simp only [Epochs.next, hdraw]
        exact hfollows
  | contains asked => exact hfollows
  | size => exact hfollows
  | made => exact hfollows
  | clear => exact hfollows.clear

theorem performAll (hfollows : memo.Follows epochs)
    (requests : List (Request α)) :
    (memo.performAll key requests).Follows
      (requests.foldl (Epochs.next draw key) epochs) := by
  induction requests generalizing memo epochs with
  | nil => exact hfollows
  | cons request rest ih => exact ih (hfollows.perform key request)

end Follows

theorem follows_of (draw : κ → Except Fault β) (key : α → κ)
    (requests : List (Request α)) :
    (performAll key ({} : Memo draw) requests).Follows
      (Epochs.of draw key requests) := by
  apply Follows.performAll
  exact ⟨wellFormed_new, by simp, by simp, by simp [Epochs.total]⟩

/-! ## Two requests for drawings -/

variable (key : α → κ)

theorem grown_of_clear_notMem (memo : Memo draw)
    (requests : List (Request α)) (hkept : Request.clear ∉ requests) :
    memo.Grown (memo.performAll key requests) := by
  induction requests generalizing memo with
  | nil => exact .refl
  | cons request rest ih =>
      rw [List.mem_cons, not_or] at hkept
      exact (grown_perform key (Ne.symm hkept.1)).trans (ih _ hkept.2)

theorem made_le_perform (memo : Memo draw) (request : Request α) :
    memo.made ≤ (memo.perform key request).2.made := by
  cases request with
  | clear => exact Nat.le_refl _
  | _ => exact (grown_perform key (by simp)).made_le

theorem made_le_performAll (memo : Memo draw) (requests : List (Request α)) :
    memo.made ≤ (memo.performAll key requests).made := by
  induction requests generalizing memo with
  | nil => exact Nat.le_refl _
  | cons request rest ih =>
      exact Nat.le_trans (memo.made_le_perform key request) (ih _)

/-- Every drawing that is kept, or will be made, has a number from the bound
on. -/
structure From (bound : Nat) (memo : Memo draw) : Prop where
  made_le : bound ≤ memo.made
  kept_le : ∀ drawing ∈ memo.kept, bound ≤ drawing.number

namespace From

variable {bound : Nat}

theorem grown {later : Memo draw} (hfrom : From bound memo)
    (hgrown : memo.Grown later) : From bound later where
  made_le := Nat.le_trans hfrom.made_le hgrown.made_le
  kept_le := by
    intro drawing hdrawing
    rcases hgrown.mem_or_made_le hdrawing with hold | hnew
    · exact hfrom.kept_le drawing hold
    · exact Nat.le_trans hfrom.made_le hnew

theorem perform (hfrom : From bound memo) (request : Request α) :
    From bound (memo.perform key request).2 := by
  cases request with
  | clear => exact ⟨hfrom.made_le, by simp [Memo.perform, Memo.clear]⟩
  | _ => exact hfrom.grown (grown_perform key (by simp))

theorem performAll (hfrom : From bound memo) (requests : List (Request α)) :
    From bound (memo.performAll key requests) := by
  induction requests generalizing memo with
  | nil => exact hfrom
  | cons request rest ih => exact ih (hfrom.perform key request)

end From

theorem from_of_clear_mem (memo : Memo draw) (requests : List (Request α))
    (hclear : Request.clear ∈ requests) :
    From memo.made (memo.performAll key requests) := by
  obtain ⟨before, after, rfl⟩ := List.append_of_mem hclear
  have hcleared : From memo.made (memo.performAll key before).clear :=
    ⟨memo.made_le_performAll key before, by simp [Memo.clear]⟩
  rw [performAll_append]
  exact hcleared.performAll key after

theorem number_eq_iff_of_answers {subject again : κ}
    {drawing other : Drawing draw} {middle last : Memo draw}
    (hmemo : memo.WellFormed)
    (hanswers : memo.Answers subject (drawing, middle))
    (between : List (Request α))
    (hagain : (middle.performAll key between).Answers again (other, last)) :
    drawing.number = other.number ↔ .clear ∉ between ∧ subject = again := by
  have hformed : middle.WellFormed := hanswers.wellFormed hmemo
  have hheld : middle.Holds drawing := hanswers.holds
  have hlast : last.Holds other := hagain.holds
  have hsubject : drawing.subject = subject := hanswers.subject_eq
  have hother : other.subject = again := hagain.subject_eq
  have hstep : (middle.performAll key between).Grown last :=
    Grown.refl.ask hagain
  by_cases hclear : .clear ∈ between
  · have hfrom := (from_of_clear_mem key middle between hclear).grown hstep
    have hbound := hfrom.kept_le _ (mem_kept_of_holds hlast)
    have hfirst := hformed.number_lt _ (mem_kept_of_holds hheld)
    constructor
    · intro hnumber
      omega
    · intro hsame
      exact absurd hclear hsame.1
  · have hgrown := (grown_of_clear_notMem key middle between hclear).trans hstep
    rw [(hgrown.wellFormed hformed).number_eq_iff
      (hgrown.memo_extends _ hheld) hlast, hsubject, hother]
    simp [hclear]

end

/-! ## The contract of a memo -/

/-- What callers can rely on who ask a memo by `key` for what `draw` draws. -/
structure Contract [DecidableEq κ] (key : α → κ) (draw : κ → Except Fault β) :
    Prop where
  contains : ∀ (earlier : List (Request α)) (asked : α),
    answer draw key earlier (.contains asked) =
      .truth (key asked ∈ (Epochs.of draw key earlier).current)
  size : ∀ earlier : List (Request α),
    answer draw key earlier .size =
      .count (Epochs.of draw key earlier).current.card
  made : ∀ earlier : List (Request α),
    answer draw key earlier .made = .count (Epochs.of draw key earlier).total
  get : ∀ (earlier : List (Request α)) (asked : α) (contents : β),
    draw (key asked) = .ok contents → ∃ drawing,
      answer draw key earlier (.get asked) = .drawing drawing ∧
      drawing.contents = contents
  fault : ∀ (earlier : List (Request α)) (asked : α) (fault : Fault),
    draw (key asked) = .error fault →
      answer draw key earlier (.get asked) = .fault fault ∧
      performAll key ({} : Memo draw) (earlier ++ [.get asked]) =
        performAll key {} earlier
  shared : ∀ (earlier between : List (Request α)) (asked again : α)
    (drawing other : Drawing draw),
    answer draw key earlier (.get asked) = .drawing drawing →
    answer draw key (earlier ++ .get asked :: between) (.get again) =
      .drawing other →
      (drawing.number = other.number ↔
        .clear ∉ between ∧ key asked = key again)

section

variable [DecidableEq κ] {key : α → κ} {earlier : List (Request α)} {asked : α}

theorem answers_of_answer {drawing : Drawing draw}
    (hanswer : answer draw key earlier (.get asked) = .drawing drawing) :
    ∃ later,
      (performAll key {} earlier).Answers (key asked) (drawing, later) ∧
      performAll key {} (earlier ++ [.get asked]) = later := by
  rw [performAll_append]
  unfold answer at hanswer
  rcases (performAll key ({} : Memo draw) earlier).perform_get_cases key asked
    with ⟨made, later, hperform, hanswers, _⟩ | ⟨fault, hperform, _⟩
  · rw [hperform] at hanswer
    cases hanswer
    exact ⟨later, hanswers, congrArg (·.2) hperform⟩
  · rw [hperform] at hanswer
    cases hanswer

theorem exists_answer {contents : β}
    (hcontents : draw (key asked) = .ok contents) :
    ∃ drawing, answer draw key earlier (.get asked) = .drawing drawing ∧
      drawing.contents = contents := by
  rcases (performAll key ({} : Memo draw) earlier).perform_get_cases key asked
    with ⟨drawing, later, hperform, _, hdrawn⟩ | ⟨fault, _, hdraw⟩
  · rw [hcontents] at hdrawn
    exact ⟨drawing, congrArg (·.1) hperform, (Except.ok.inj hdrawn).symm⟩
  · rw [hcontents] at hdraw
    cases hdraw

theorem answer_eq_fault {fault : Fault}
    (hfault : draw (key asked) = .error fault) :
    answer draw key earlier (.get asked) = .fault fault ∧
      performAll key ({} : Memo draw) (earlier ++ [.get asked]) =
        performAll key {} earlier := by
  rcases (performAll key ({} : Memo draw) earlier).perform_get_cases key asked
    with ⟨drawing, later, _, _, hdrawn⟩ | ⟨other, hperform, hdraw⟩
  · rw [hfault] at hdrawn
    cases hdrawn
  · rw [hfault] at hdraw
    cases hdraw
    rw [performAll_append]
    exact ⟨congrArg (·.1) hperform, congrArg (·.2) hperform⟩

end

theorem contract [DecidableEq κ] (key : α → κ)
    (draw : κ → Except Fault β) : Contract key draw where
  contains earlier asked := by
    have hiff := (follows_of draw key earlier).contains_iff_mem (key asked)
    simp only [answer, perform, Answer.truth.injEq]
    rw [Bool.eq_iff_iff, hiff, decide_eq_true_iff]
  size earlier := congrArg Answer.count (follows_of draw key earlier).size_eq
  made earlier := congrArg Answer.count (follows_of draw key earlier).made_eq
  get _ _ _ hcontents := exists_answer hcontents
  fault _ _ _ hfault := answer_eq_fault hfault
  shared earlier between asked again drawing other hdrawing hother := by
    obtain ⟨middle, hanswers, hmiddle⟩ := answers_of_answer hdrawing
    obtain ⟨last, hagain, -⟩ := answers_of_answer hother
    rw [List.append_cons, performAll_append, hmiddle] at hagain
    exact number_eq_iff_of_answers key (follows_of draw key earlier).wellFormed
      hanswers between hagain

end Memo

/-! ## Shadows and corner masks -/

structure Shape.Wish where
  color : Color
  radii : CornerRadii
  darkness : UInt64
  border : Int

def Shape.Wish.shape (wish : Shape.Wish) : Shape :=
  .clamped wish.color wish.radii wish.darkness wish.border

theorem Shape.Wish.shape_eq_iff (wish other : Shape.Wish) :
    wish.shape = other.shape ↔
      wish.color = other.color ∧
      wish.radii.map Shape.clampRadius = other.radii.map Shape.clampRadius ∧
      wish.darkness = other.darkness ∧
      max 0 (min wish.border Shape.widestBorder) =
        max 0 (min other.border Shape.widestBorder) := by
  simp only [shape, clamped, Shape.mk.injEq]

theorem Shape.fed_eq_iff {shape other : Shape} (hshape : shape.InRange)
    (hother : other.InRange) : shape.fed = other.fed ↔ shape = other := by
  have hborder : ∀ {border : Int}, 0 ≤ border → border ≤ 256 →
      (Int32.ofInt border).toInt = border := by
    intro border hnonneg hle
    exact Int32.toInt_ofInt_of_le (by omega) (by omega)
  constructor
  · intro hfed
    simp only [fed, List.cons.injEq, Fed.word.injEq, Fed.signed.injEq,
      Fed.long.injEq, and_true] at hfed
    rcases hfed with ⟨hcolor, htopLeft, htopRight, hbottomLeft, hbottomRight,
      hdarkness, hwidth⟩
    have hsame := congrArg Int32.toInt hwidth
    rw [hborder hshape.border_nonneg hshape.border_le,
      hborder hother.border_nonneg hother.border_le] at hsame
    rcases shape with ⟨⟨bits⟩, radii, darkness, border⟩
    rcases other with ⟨⟨otherBits⟩, otherRadii, otherDarkness, otherBorder⟩
    cases radii
    cases otherRadii
    simp_all
  · intro hsame
    rw [hsame]

/-- Shadows are shared by what is left of a wish when radii and border are
brought into range, with darkness compared bit by bit, and corner masks by the
radius that they are drawn with. -/
theorem shadow_and_corner_contracts :
    Memo.Contract Shape.Wish.shape (Fault.never Shadow.ofShape) ∧
    (∀ wish : Shape.Wish,
      Shadow.draw wish.shape = .ok (Shadow.ofShape wish.shape) ∧
      ∀ memo : ShadowMemo,
        memo.fetch wish.shape = .ok (memo.get wish.shape)) ∧
    (∀ wish other : Shape.Wish,
      (wish.shape = other.shape ↔
        wish.color = other.color ∧
        wish.radii.map Shape.clampRadius =
          other.radii.map Shape.clampRadius ∧
        wish.darkness = other.darkness ∧
        max 0 (min wish.border Shape.widestBorder) =
          max 0 (min other.border Shape.widestBorder)) ∧
      (wish.shape.agrees other.shape = true ↔ wish.shape = other.shape) ∧
      (wish.shape.fed = other.shape.fed ↔ wish.shape = other.shape)) ∧
    Memo.Contract (fun radius => max radius 1) Corner.draw ∧
    (∀ radius ≤ 65536, ∃ mask, Corner.draw radius = .ok mask) ∧
    ∀ (memo : CornerMemo) (radius : Int),
      memo.corner radius = memo.fetch (max radius 1) := by
  have hshadows := Memo.contract Shape.Wish.shape (Fault.never Shadow.ofShape)
  have hcorners := Memo.contract (fun radius => max radius 1) Corner.draw
  have hwishes : ∀ wish : Shape.Wish, wish.shape.InRange := fun wish =>
    Shape.inRange_clamped wish.color wish.radii wish.darkness wish.border
  refine ⟨hshadows, ?_, ?_, hcorners, ?_, ?_⟩
  · intro wish
    exact ⟨Shadow.draw_eq_ofShape (hwishes wish),
      fun memo => memo.fetch_eq_get wish.shape⟩
  · intro wish other
    exact ⟨wish.shape_eq_iff other, Shape.agrees_iff,
      Shape.fed_eq_iff (hwishes wish) (hwishes other)⟩
  · intro radius hle
    exact Corner.exists_draw_iff.mpr (Corner.countable_of_le (by omega))
  · intro memo radius
    rfl

end WindowChrome
