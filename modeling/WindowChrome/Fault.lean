/-!
# Faults of fixed-width arithmetic

Coordinates are signed 32-bit numbers and positions in a pixel buffer unsigned
ones.  A result that does not fit ends the computation with a fault.
-/

namespace WindowChrome

/-- Why a computation on fixed-width numbers has no result. -/
inductive Fault where
  | sum
  | difference
  | product
  /-- A position past the end of a sequence. -/
  | position (index size : Nat)
  deriving DecidableEq, Repr

def Fault.message : Fault → String
  | .sum => "attempt to add with overflow"
  | .difference => "attempt to subtract with overflow"
  | .product => "attempt to multiply with overflow"
  | .position index size =>
      s!"index out of bounds: the len is {size} but the index is {index}"

theorem bind_eq_ok_iff {ε α β : Type} {first : Except ε α}
    {second : α → Except ε β} {result : β} :
    (first >>= second) = .ok result ↔
      ∃ value, first = .ok value ∧ second value = .ok result := by
  cases first with
  | error fault =>
      constructor
      · intro herror
        cases herror
      · rintro ⟨value, hvalue, _⟩
        cases hvalue
  | ok value =>
      constructor
      · intro hsecond
        exact ⟨value, rfl, hsecond⟩
      · rintro ⟨other, hother, hsecond⟩
        cases hother
        exact hsecond

theorem bind_map {ε α β γ : Type} (first : Except ε α)
    (second : α → Except ε β) (f : β → γ) :
    (first >>= second).map f = first >>= fun value => (second value).map f := by
  cases first <;> rfl

theorem map_bind {ε α β γ : Type} (first : Except ε α) (f : α → β)
    (second : β → Except ε γ) :
    first.map f >>= second = first >>= fun value => second (f value) := by
  cases first <;> rfl

theorem map_eq_ok_iff {ε α β : Type} {computation : Except ε α}
    {f : α → β} {result : β} :
    computation.map f = .ok result ↔
      ∃ value, computation = .ok value ∧ f value = result := by
  cases computation <;> simp [Except.map]

namespace Coord

def least : Int := -2147483648

def greatest : Int := 2147483647

def Fits (value : Int) : Prop :=
  least ≤ value ∧ value ≤ greatest

instance (value : Int) : Decidable (Fits value) :=
  inferInstanceAs (Decidable (_ ∧ _))

/-- The value itself if it is a coordinate, and the given fault otherwise. -/
def checked (fault : Fault) (value : Int) : Except Fault Int :=
  if Fits value then .ok value else .error fault

def add (a b : Int) : Except Fault Int := checked .sum (a + b)

def sub (a b : Int) : Except Fault Int := checked .difference (a - b)

def mul (a b : Int) : Except Fault Int := checked .product (a * b)

theorem checked_eq_ok_iff {fault : Fault} {value result : Int} :
    checked fault value = .ok result ↔ Fits value ∧ result = value := by
  by_cases hfits : Fits value <;> simp [checked, hfits, eq_comm]

theorem checked_of_fits {value : Int} (fault : Fault) (hfits : Fits value) :
    checked fault value = .ok value := by
  simp [checked, hfits]

theorem add_eq_ok_iff {a b c : Int} :
    add a b = .ok c ↔ Fits (a + b) ∧ c = a + b :=
  checked_eq_ok_iff

theorem sub_eq_ok_iff {a b c : Int} :
    sub a b = .ok c ↔ Fits (a - b) ∧ c = a - b :=
  checked_eq_ok_iff

theorem mul_eq_ok_iff {a b c : Int} :
    mul a b = .ok c ↔ Fits (a * b) ∧ c = a * b :=
  checked_eq_ok_iff

end Coord

namespace Index

/-- The number of positions an unsigned 32-bit number can tell apart. -/
def bound : Nat := 4294967296

def checked (fault : Fault) (value : Nat) : Except Fault Nat :=
  if value < bound then .ok value else .error fault

def add (a b : Nat) : Except Fault Nat := checked .sum (a + b)

def mul (a b : Nat) : Except Fault Nat := checked .product (a * b)

theorem checked_eq_ok_iff {fault : Fault} {value result : Nat} :
    checked fault value = .ok result ↔ value < bound ∧ result = value := by
  by_cases hlt : value < bound <;> simp [checked, hlt, eq_comm]

end Index

def entryAt {α : Type} (entries : Array α) (index : Nat) : Except Fault α :=
  match entries[index]? with
  | some entry => .ok entry
  | none => .error (.position index entries.size)

theorem entryAt_of_lt {α : Type} {entries : Array α} {index : Nat}
    (hlt : index < entries.size) :
    entryAt entries index = .ok entries[index] := by
  simp [entryAt, hlt]

end WindowChrome
