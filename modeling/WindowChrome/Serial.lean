import WindowChrome.Color
import WindowChrome.Metrics
import WindowChrome.Session

/-! # Exchanging values with other programs -/

namespace WindowChrome.Serial

inductive Value where
  | nothing
  | flag (on : Bool)
  | whole (value : Int)
  /-- A number that is not written as a whole one. -/
  | decimal
  | text (value : String)
  | list (values : List Value)
  | record (fields : List (String × Value))
  deriving Inhabited

namespace Value

def field? (name : String) : List (String × Value) → Option Value
  | [] => none
  | (other, value) :: rest =>
      if other = name then some value else field? name rest

def wholeIn? (least greatest : Int) : Value → Option Int
  | whole value =>
      if least ≤ value ∧ value ≤ greatest then some value else none
  | _ => none

def text? : Value → Option String
  | text value => some value
  | _ => none

end Value

class Exchanged (α : Type) where
  ofValue? : Value → Option α
  toValue : α → Value

instance : Exchanged Color where
  ofValue? value :=
    (value.wholeIn? 0 4294967295).map fun bits => ⟨UInt32.ofNat bits.toNat⟩
  toValue color := .whole color.bits.toNat

def fontOf? (family size : Value) : Option Font := do
  let family ← family.text?
  let pixelSize ← size.wholeIn? (-2147483648) 2147483647
  return { family, pixelSize }

instance : Exchanged Font where
  ofValue?
    | .record fields => do
        fontOf? (← Value.field? "family" fields)
          (← Value.field? "pixel_size" fields)
    | .list [family, size] => fontOf? family size
    | _ => none
  toValue font := .record
    [("family", .text font.family), ("pixel_size", .whole font.pixelSize)]

instance : Exchanged BorderSize where
  ofValue?
    | .text name => BorderSize.ofName? name
    | .record [(name, .nothing)] => BorderSize.ofName? name
    | _ => none
  toValue size := .text size.name

/-- The value sent back for one that is received as a given type. -/
def exchange? (α : Type) [Exchanged α] (value : Value) : Option Value :=
  (Exchanged.ofValue? value : Option α).map Exchanged.toValue

end WindowChrome.Serial
