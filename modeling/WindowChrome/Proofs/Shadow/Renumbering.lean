import WindowChrome.Proofs.Shadow.Sharing
import Mathlib.Logic.Equiv.Basic

/-!
# Asking in another order

Two requests in either order leave the same memo, up to a renumbering that
leaves alone every number given before them.
-/

namespace WindowChrome

variable {κ β : Type} {draw : κ → Except Fault β} {f : κ → β}

namespace Drawing

def renumber (numbers : Equiv.Perm Nat) (drawing : Drawing draw) : Drawing draw :=
  { drawing with number := numbers drawing.number }

theorem renumber_refl (drawing : Drawing draw) :
    drawing.renumber (Equiv.refl Nat) = drawing := rfl

theorem renumber_eq_self {numbers : Equiv.Perm Nat} {drawing : Drawing draw}
    (hfixed : numbers drawing.number = drawing.number) :
    drawing.renumber numbers = drawing := by
  unfold renumber
  rw [hfixed]

theorem renumber_symm (numbers : Equiv.Perm Nat) (drawing : Drawing draw) :
    (drawing.renumber numbers).renumber numbers.symm = drawing := by
  simp [renumber]

end Drawing

namespace Memo

/-- A memo keeps the same drawings as another under other numbers, not
necessarily in the same order, and has made as many. -/
structure Renumbered (numbers : Equiv.Perm Nat) (memo other : Memo draw) :
    Prop where
  kept_perm : other.kept.Perm (memo.kept.map (Drawing.renumber numbers))
  made_eq : other.made = memo.made

theorem Renumbered.refl (memo : Memo draw) :
    Renumbered (Equiv.refl Nat) memo memo where
  kept_perm := by
    have hsame : memo.kept.map (Drawing.renumber (Equiv.refl Nat)) =
        memo.kept :=
      List.map_id'' Drawing.renumber_refl memo.kept
    rw [hsame]
  made_eq := rfl

theorem Renumbered.symm {numbers : Equiv.Perm Nat} {memo other : Memo draw}
    (hrenumbered : Renumbered numbers memo other) :
    Renumbered numbers.symm other memo where
  kept_perm := by
    have hself : Drawing.renumber numbers.symm ∘ Drawing.renumber numbers =
        (id : Drawing draw → Drawing draw) :=
      funext (Drawing.renumber_symm numbers)
    have hback := hrenumbered.kept_perm.map (Drawing.renumber numbers.symm)
    rw [List.map_map, hself, List.map_id] at hback
    exact hback.symm
  made_eq := hrenumbered.made_eq.symm

variable [DecidableEq κ]

theorem Renumbered.contains_eq {numbers : Equiv.Perm Nat}
    {memo other : Memo draw} (hrenumbered : Renumbered numbers memo other)
    (subject : κ) : other.contains subject = memo.contains subject := by
  have hsubjects := hrenumbered.kept_perm.map Drawing.subject
  have hsame : Drawing.subject ∘ Drawing.renumber numbers =
      (Drawing.subject : Drawing draw → κ) := rfl
  rw [List.map_map, hsame] at hsubjects
  rw [Bool.eq_iff_iff, contains_iff, contains_iff, hsubjects.mem_iff]

def asked (memo : Memo (Fault.never f)) : Option κ → Memo (Fault.never f)
  | none => memo
  | some subject => (memo.get subject).2

/-- What two requests come to in one order is what they come to in the other,
up to the numbers. -/
structure Exchange (memo : Memo (Fault.never f)) (first second : Option κ)
    (numbers : Equiv.Perm Nat) : Prop where
  fixed : ∀ number < memo.made, numbers number = number
  first_eq : ∀ subject ∈ first,
    ((memo.asked second).get subject).1 =
      (memo.get subject).1.renumber numbers
  second_eq : ∀ subject ∈ second,
    (memo.get subject).1 =
      ((memo.asked first).get subject).1.renumber numbers
  renumbered : Renumbered numbers ((memo.asked first).asked second)
    ((memo.asked second).asked first)

variable {memo : Memo (Fault.never f)} {subject other : κ}

theorem Exchange.symm {first second : Option κ} {numbers : Equiv.Perm Nat}
    (hexchange : memo.Exchange first second numbers) :
    memo.Exchange second first numbers.symm where
  fixed := by
    intro number hnumber
    rw [Equiv.symm_apply_eq]
    exact (hexchange.fixed number hnumber).symm
  first_eq := by
    intro subject hsubject
    rw [hexchange.second_eq subject hsubject, Drawing.renumber_symm]
  second_eq := by
    intro subject hsubject
    rw [hexchange.first_eq subject hsubject, Drawing.renumber_symm]
  renumbered := hexchange.renumbered.symm

theorem get_get_self (memo : Memo (Fault.never f)) (subject : κ) :
    (memo.get subject).2.get subject =
      ((memo.get subject).1, (memo.get subject).2) := by
  have hagain := get_of_holds (memo.get_holds subject)
  rwa [subject_get] at hagain

theorem exchange_of_kept {drawing : Drawing (Fault.never f)}
    (hholds : memo.Holds drawing) (other : κ) :
    memo.Exchange (some drawing.subject) (some other) (Equiv.refl Nat) := by
  have hnow := get_of_holds hholds
  have hlater := get_of_holds
    ((Grown.refl.get other).memo_extends drawing hholds)
  constructor
  · exact fun _ _ => rfl
  · rintro subject ⟨⟩
    simp only [asked, hnow, hlater, Drawing.renumber_refl]
  · rintro subject ⟨⟩
    simp only [asked, hnow, Drawing.renumber_refl]
  · simp only [asked, hnow, hlater]
    exact .refl _

theorem exchange_self (memo : Memo (Fault.never f)) (subject : κ) :
    memo.Exchange (some subject) (some subject) (Equiv.refl Nat) := by
  have hagain := memo.get_get_self subject
  constructor
  · exact fun _ _ => rfl
  · rintro subject ⟨⟩
    simp only [asked, hagain, Drawing.renumber_refl]
  · rintro subject ⟨⟩
    simp only [asked, hagain, Drawing.renumber_refl]
  · exact .refl _

theorem exchange_of_unkept (hmemo : memo.WellFormed)
    (hother : subject ≠ other) (hsubject : memo.find? subject = none)
    (hunkept : memo.find? other = none) :
    memo.Exchange (some subject) (some other)
      (Equiv.swap memo.made (memo.made + 1)) := by
  have hfixed : ∀ number < memo.made,
      Equiv.swap memo.made (memo.made + 1) number = number := by
    intro number hnumber
    apply Equiv.swap_apply_of_ne_of_ne <;> omega
  have hstill : ∀ first second : κ, first ≠ second →
      memo.find? second = none →
      (memo.keep first (f first) rfl).2.find? second = none := by
    intro first second hne hnone
    unfold find? at hnone ⊢
    simp [keep, List.find?_append, hnone, hne]
  have hfirst := get_of_unkept hsubject
  have hsecond := get_of_unkept hunkept
  have hsubjectLast := get_of_unkept
    (hstill other subject (Ne.symm hother) hsubject)
  have hotherLast := get_of_unkept (hstill subject other hother hunkept)
  constructor
  · exact hfixed
  · rintro subject ⟨⟩
    simp only [asked, hsecond, hfirst, hsubjectLast]
    simp [keep, Drawing.renumber]
  · rintro subject ⟨⟩
    simp only [asked, hfirst, hsecond, hotherLast]
    simp [keep, Drawing.renumber]
  · have hkept : memo.kept.map
        (Drawing.renumber (Equiv.swap memo.made (memo.made + 1))) =
          memo.kept := by
      apply (List.map_congr_left fun drawing hdrawing => ?_).trans
        (List.map_id memo.kept)
      exact Drawing.renumber_eq_self
        (hfixed _ (hmemo.number_lt drawing hdrawing))
    constructor
    · simp only [asked, hfirst, hsecond, hsubjectLast, hotherLast]
      simp only [keep, List.map_append, hkept, List.append_assoc]
      apply List.Perm.append_left
      simp [Drawing.renumber, List.Perm.swap]
    · simp only [asked, hfirst, hsecond, hsubjectLast, hotherLast]
      simp only [keep]

theorem exchange_none (memo : Memo (Fault.never f)) (second : Option κ) :
    memo.Exchange none second (Equiv.refl Nat) :=
  ⟨fun _ _ => rfl, by simp, fun _ _ => rfl, .refl _⟩

theorem exists_exchange (hmemo : memo.WellFormed) (first second : Option κ) :
    ∃ numbers, memo.Exchange first second numbers := by
  cases first with
  | none => exact ⟨_, memo.exchange_none second⟩
  | some subject =>
      cases second with
      | none => exact ⟨_, (memo.exchange_none (some subject)).symm⟩
      | some other =>
          by_cases hother : subject = other
          · rw [hother]
            exact ⟨_, memo.exchange_self other⟩
          · cases hsubject : memo.find? subject with
            | some drawing =>
                have hsame := subject_of_find? hsubject
                rw [← hsame] at hsubject ⊢
                exact ⟨_, exchange_of_kept hsubject other⟩
            | none =>
                cases hunkept : memo.find? other with
                | some drawing =>
                    have hsame := subject_of_find? hunkept
                    rw [← hsame] at hunkept ⊢
                    exact ⟨_, (exchange_of_kept hunkept subject).symm⟩
                | none =>
                    exact ⟨_, exchange_of_unkept hmemo hother hsubject hunkept⟩

end Memo
end WindowChrome
