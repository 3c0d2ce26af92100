import WindowChrome.Shadow.Memo
import Mathlib.Data.List.Nodup

/-! # Shared drawings -/

namespace WindowChrome

variable {κ β : Type} {draw : κ → Except Fault β} {f : κ → β}

namespace Memo

/-- Drawings are numbered in the order in which they are made. -/
structure WellFormed (memo : Memo draw) : Prop where
  number_lt : ∀ drawing ∈ memo.kept, drawing.number < memo.made
  numbers_nodup : (memo.kept.map Drawing.number).Nodup

theorem wellFormed_new : ({} : Memo draw).WellFormed where
  number_lt := by simp
  numbers_nodup := by simp

theorem WellFormed.clear {memo : Memo draw} : memo.clear.WellFormed where
  number_lt := by simp [Memo.clear]
  numbers_nodup := by simp [Memo.clear]

/-- The drawing was made for the memo at some time.  It need not be kept any
more, but no other drawing is ever kept under its number. -/
structure Issued (memo : Memo draw) (drawing : Drawing draw) : Prop where
  number_lt : drawing.number < memo.made
  eq_of_kept : ∀ other ∈ memo.kept, other.number = drawing.number →
    other = drawing

theorem Issued.clear {memo : Memo draw} {drawing : Drawing draw}
    (hissued : memo.Issued drawing) : memo.clear.Issued drawing where
  number_lt := hissued.number_lt
  eq_of_kept := by simp [Memo.clear]

variable [DecidableEq κ]

def Holds (memo : Memo draw) (drawing : Drawing draw) : Prop :=
  memo.find? drawing.subject = some drawing

def Extends (memo later : Memo draw) : Prop :=
  ∀ drawing, memo.Holds drawing → later.Holds drawing

theorem subject_of_find? {memo : Memo draw} {subject : κ} {drawing : Drawing draw}
    (hfind : memo.find? subject = some drawing) : drawing.subject = subject := by
  have hmatch := List.find?_some hfind
  exact of_decide_eq_true hmatch

theorem contains_iff (memo : Memo draw) (subject : κ) :
    memo.contains subject = true ↔
      subject ∈ memo.kept.map Drawing.subject := by
  simp [contains, find?, List.find?_isSome]

theorem mem_kept_of_holds {memo : Memo draw} {drawing : Drawing draw}
    (hholds : memo.Holds drawing) : drawing ∈ memo.kept :=
  List.mem_of_find?_eq_some hholds

theorem Extends.refl (memo : Memo draw) : memo.Extends memo :=
  fun _ hholds => hholds

theorem Extends.trans {first middle last : Memo draw}
    (hfirst : first.Extends middle) (hlast : middle.Extends last) :
    first.Extends last :=
  fun drawing hholds => hlast drawing (hfirst drawing hholds)

section

variable {memo : Memo draw} {subject : κ} {contents : β}
  {hdrawn : draw subject = .ok contents}

theorem extends_keep :
    memo.Extends (memo.keep subject contents hdrawn).2 := by
  intro drawing hholds
  unfold Holds find? at hholds ⊢
  simp only [keep, List.find?_append, hholds, Option.some_or]

theorem keep_holds (hunkept : memo.find? subject = none) :
    (memo.keep subject contents hdrawn).2.Holds
      (memo.keep subject contents hdrawn).1 := by
  unfold find? at hunkept
  show (memo.kept ++ [_]).find?
    (fun drawing : Drawing draw => drawing.subject = subject) = _
  rw [List.find?_append, hunkept, Option.none_or, List.find?_singleton,
    if_pos (decide_eq_true rfl)]
  rfl

omit [DecidableEq κ] in
theorem WellFormed.keep (hmemo : memo.WellFormed) :
    (memo.keep subject contents hdrawn).2.WellFormed := by
  constructor
  · intro drawing hdrawing
    rcases List.mem_append.mp hdrawing with hold | hnew
    · exact Nat.lt_succ_of_lt (hmemo.number_lt drawing hold)
    · rw [List.mem_singleton] at hnew
      subst drawing
      exact Nat.lt_succ_self memo.made
  · simp only [Memo.keep]
    rw [List.map_append, List.map_singleton, List.nodup_append]
    refine ⟨hmemo.numbers_nodup, by simp, ?_⟩
    intro number hnumber other hother heq
    rw [List.mem_singleton] at hother
    rcases List.mem_map.mp hnumber with ⟨drawing, hdrawing, hdrawn⟩
    have hlt := hmemo.number_lt drawing hdrawing
    have hmade : other = memo.made := hother
    omega

end

/-- What a memo can answer if it is asked for a subject: the drawing that it
keeps, or one that it keeps from now on. -/
inductive Answers (memo : Memo draw) (subject : κ) :
    Drawing draw × Memo draw → Prop
  | found {drawing : Drawing draw}
      (hfind : memo.find? subject = some drawing) :
      Answers memo subject (drawing, memo)
  | drawn {contents : β} (hunkept : memo.find? subject = none)
      (hdrawn : draw subject = .ok contents) :
      Answers memo subject (memo.keep subject contents hdrawn)

theorem answers_get (memo : Memo (Fault.never f)) (subject : κ) :
    memo.Answers subject (memo.get subject) := by
  unfold get
  cases hfind : memo.find? subject with
  | some drawing => exact .found hfind
  | none => exact .drawn hfind rfl

theorem answers_of_fetch {memo : Memo draw} {subject : κ}
    {answer : Drawing draw × Memo draw}
    (hfetch : memo.fetch subject = .ok answer) :
    memo.Answers subject answer := by
  unfold fetch at hfetch
  split at hfetch
  · next drawing hfind =>
      cases hfetch
      exact .found hfind
  · next hunkept =>
      split at hfetch
      · next contents hdrawn =>
          cases hfetch
          exact .drawn hunkept hdrawn
      · cases hfetch

theorem fetch_eq_get (memo : Memo (Fault.never f)) (subject : κ) :
    memo.fetch subject = .ok (memo.get subject) := by
  unfold fetch get
  cases memo.find? subject <;> rfl

namespace Answers

variable {memo : Memo draw} {subject : κ} {answer : Drawing draw × Memo draw}

theorem subject_eq (hanswers : memo.Answers subject answer) :
    answer.1.subject = subject := by
  cases hanswers with
  | found hfind => exact subject_of_find? hfind
  | drawn _ _ => rfl

theorem holds (hanswers : memo.Answers subject answer) :
    answer.2.Holds answer.1 := by
  cases hanswers with
  | found hfind =>
      unfold Holds
      rw [subject_of_find? hfind]
      exact hfind
  | drawn hunkept hdrawn => exact keep_holds hunkept

theorem wellFormed (hanswers : memo.Answers subject answer)
    (hmemo : memo.WellFormed) : answer.2.WellFormed := by
  cases hanswers with
  | found _ => exact hmemo
  | drawn _ _ => exact hmemo.keep

end Answers

theorem fetch_cases (memo : Memo draw) (subject : κ) :
    (∃ drawing later, memo.fetch subject = .ok (drawing, later) ∧
      memo.Answers subject (drawing, later) ∧
      draw subject = .ok drawing.contents) ∨
    ∃ fault, memo.fetch subject = .error fault ∧
      draw subject = .error fault := by
  cases hfetch : memo.fetch subject with
  | ok answer =>
      have hanswers := answers_of_fetch hfetch
      have hdrawn := answer.1.drawn
      rw [hanswers.subject_eq] at hdrawn
      exact .inl ⟨answer.1, answer.2, rfl, hanswers, hdrawn⟩
  | error fault =>
      refine .inr ⟨fault, rfl, ?_⟩
      unfold fetch at hfetch
      split at hfetch
      · cases hfetch
      · split at hfetch
        · cases hfetch
        · next hdraw =>
            cases hfetch
            exact hdraw

theorem subject_get (memo : Memo (Fault.never f)) (subject : κ) :
    (memo.get subject).1.subject = subject :=
  (memo.answers_get subject).subject_eq

theorem get_of_holds {memo : Memo (Fault.never f)}
    {drawing : Drawing (Fault.never f)} (hholds : memo.Holds drawing) :
    memo.get drawing.subject = (drawing, memo) := by
  unfold Holds at hholds
  unfold get
  rw [hholds]

theorem get_of_unkept {memo : Memo (Fault.never f)} {subject : κ}
    (hfind : memo.find? subject = none) :
    memo.get subject = memo.keep subject (f subject) rfl := by
  unfold get
  rw [hfind]

theorem get_holds (memo : Memo (Fault.never f)) (subject : κ) :
    (memo.get subject).2.Holds (memo.get subject).1 :=
  (memo.answers_get subject).holds

theorem WellFormed.number_eq_iff {memo : Memo draw} (hmemo : memo.WellFormed)
    {drawing other : Drawing draw} (hdrawing : memo.Holds drawing)
    (hother : memo.Holds other) :
    drawing.number = other.number ↔ drawing.subject = other.subject := by
  constructor
  · intro hnumber
    have hsame : drawing = other :=
      List.inj_on_of_nodup_map hmemo.numbers_nodup
        (mem_kept_of_holds hdrawing) (mem_kept_of_holds hother) hnumber
    rw [hsame]
  · intro hsubject
    unfold Holds at hdrawing hother
    rw [hsubject, hother] at hdrawing
    rw [Option.some.inj hdrawing]

inductive Grown (memo : Memo draw) : Memo draw → Prop
  | refl : Grown memo memo
  | ask {later : Memo draw} {subject : κ} {answer : Drawing draw × Memo draw}
      (hgrown : Grown memo later) (hanswers : later.Answers subject answer) :
      Grown memo answer.2

namespace Grown

variable {memo later : Memo draw}

theorem get {memo later : Memo (Fault.never f)} (hgrown : memo.Grown later)
    (subject : κ) : memo.Grown (later.get subject).2 :=
  hgrown.ask (later.answers_get subject)

theorem askedEach {memo later : Memo (Fault.never f)}
    (hgrown : memo.Grown later) (subjects : List κ) :
    memo.Grown (later.askedEach subjects) := by
  induction subjects generalizing later with
  | nil => exact hgrown
  | cons subject rest ih => exact ih (hgrown.get subject)

theorem trans {last : Memo draw} (hgrown : memo.Grown later)
    (hlast : later.Grown last) : memo.Grown last := by
  induction hlast with
  | refl => exact hgrown
  | ask _ hanswers ih => exact ih.ask hanswers

theorem memo_extends (hgrown : memo.Grown later) : memo.Extends later := by
  induction hgrown with
  | refl => exact .refl memo
  | ask _ hanswers ih =>
      cases hanswers with
      | found _ => exact ih
      | drawn _ _ => exact ih.trans extends_keep

theorem wellFormed (hgrown : memo.Grown later) (hmemo : memo.WellFormed) :
    later.WellFormed := by
  induction hgrown with
  | refl => exact hmemo
  | ask _ hanswers ih => exact hanswers.wellFormed ih

theorem made_le (hgrown : memo.Grown later) : memo.made ≤ later.made := by
  induction hgrown with
  | refl => exact Nat.le_refl _
  | ask _ hanswers ih =>
      cases hanswers with
      | found _ => exact ih
      | drawn _ _ => exact Nat.le_succ_of_le ih

theorem kept_subset (hgrown : memo.Grown later) : memo.kept ⊆ later.kept := by
  induction hgrown with
  | refl => exact List.Subset.refl _
  | ask _ hanswers ih =>
      cases hanswers with
      | found _ => exact ih
      | drawn _ _ => exact List.subset_append_of_subset_left _ ih

theorem mem_or_made_le (hgrown : memo.Grown later) {drawing : Drawing draw}
    (hkept : drawing ∈ later.kept) :
    drawing ∈ memo.kept ∨ memo.made ≤ drawing.number := by
  induction hgrown with
  | refl => exact .inl hkept
  | ask hmiddle hanswers ih =>
      cases hanswers with
      | found _ => exact ih hkept
      | drawn _ _ =>
          rcases List.mem_append.mp hkept with hold | hlast
          · exact ih hold
          · rw [List.mem_singleton] at hlast
            rw [hlast]
            exact .inr hmiddle.made_le

end Grown

namespace Issued

variable {memo later : Memo draw} {drawing : Drawing draw}

theorem of_holds (hmemo : memo.WellFormed) (hholds : memo.Holds drawing) :
    memo.Issued drawing where
  number_lt := hmemo.number_lt drawing (mem_kept_of_holds hholds)
  eq_of_kept _ hother hnumber := List.inj_on_of_nodup_map hmemo.numbers_nodup
    hother (mem_kept_of_holds hholds) hnumber

theorem grown (hissued : memo.Issued drawing) (hgrown : memo.Grown later) :
    later.Issued drawing where
  number_lt := Nat.lt_of_lt_of_le hissued.number_lt hgrown.made_le
  eq_of_kept := by
    intro other hother hnumber
    rcases hgrown.mem_or_made_le hother with hold | hnew
    · exact hissued.eq_of_kept other hold hnumber
    · have hlt := hissued.number_lt
      omega

end Issued

end Memo
end WindowChrome
