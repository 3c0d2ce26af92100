import WindowChrome.Shadow.Drawing

/-! # Sharing drawings -/

namespace WindowChrome

abbrev Fault.never {α β : Type} (f : α → β) (a : α) : Except Fault β :=
  .ok (f a)

/-- A drawing of a subject, with the number that identifies it and what was
drawn when it was made. -/
structure Drawing {κ β : Type} (draw : κ → Except Fault β) where
  number : Nat
  subject : κ
  contents : β
  drawn : draw subject = .ok contents
  deriving DecidableEq, Repr

namespace Drawing

variable {κ β : Type} {draw : κ → Except Fault β}

def unnumbered (drawing : Drawing draw) : Drawing draw :=
  { drawing with number := 0 }

theorem eq_of_subject {drawing other : Drawing draw}
    (hnumber : drawing.number = other.number)
    (hsubject : drawing.subject = other.subject) : drawing = other := by
  rcases drawing with ⟨number, subject, contents, hdrawn⟩
  rcases other with ⟨otherNumber, otherSubject, otherContents, hother⟩
  cases hnumber
  cases hsubject
  have hsame : contents = otherContents :=
    Except.ok.inj (hdrawn.symm.trans hother)
  cases hsame
  rfl

theorem unnumbered_eq {drawing other : Drawing draw}
    (hsubject : drawing.subject = other.subject) :
    drawing.unnumbered = other.unnumbered :=
  eq_of_subject rfl hsubject

end Drawing

/-- The drawings that can be had without drawing again, and the number of
drawings ever made. -/
structure Memo {κ β : Type} (draw : κ → Except Fault β) where
  kept : List (Drawing draw) := []
  made : Nat := 0
  deriving DecidableEq, Repr

namespace Memo

variable {κ β : Type} {draw : κ → Except Fault β} {f : κ → β}

def size (memo : Memo draw) : Nat := memo.kept.length

def keep (memo : Memo draw) (subject : κ) (contents : β)
    (drawn : draw subject = .ok contents) : Drawing draw × Memo draw :=
  let drawing := ⟨memo.made, subject, contents, drawn⟩
  (drawing, ⟨memo.kept ++ [drawing], memo.made + 1⟩)

def clear (memo : Memo draw) : Memo draw := { memo with kept := [] }

variable [DecidableEq κ]

def find? (memo : Memo draw) (subject : κ) : Option (Drawing draw) :=
  memo.kept.find? fun drawing => drawing.subject = subject

def contains (memo : Memo draw) (subject : κ) : Bool :=
  (memo.find? subject).isSome

/-- The drawing of a subject.  If none is kept it is drawn now; a fault in
doing so leaves nothing behind. -/
def fetch (memo : Memo draw) (subject : κ) :
    Except Fault (Drawing draw × Memo draw) :=
  match memo.find? subject with
  | some drawing => .ok (drawing, memo)
  | none =>
      match hdrawn : draw subject with
      | .ok contents => .ok (memo.keep subject contents hdrawn)
      | .error fault => .error fault

def get (memo : Memo (Fault.never f)) (subject : κ) :
    Drawing (Fault.never f) × Memo (Fault.never f) :=
  match memo.find? subject with
  | some drawing => (drawing, memo)
  | none => memo.keep subject (f subject) rfl

def askedEach (memo : Memo (Fault.never f)) (subjects : List κ) :
    Memo (Fault.never f) :=
  subjects.foldl (fun memo subject => (memo.get subject).2) memo

end Memo

abbrev Shadow.Drawn := Drawing (Fault.never Shadow.ofShape)

abbrev ShadowMemo := Memo (Fault.never Shadow.ofShape)

abbrev CornerMemo := Memo Corner.draw

def CornerMemo.corner (memo : CornerMemo) (radius : Int) :
    Except Fault (Drawing Corner.draw × CornerMemo) :=
  memo.fetch (Corner.radiusFor radius)

end WindowChrome
