import WindowChrome.Config.Store
import WindowChrome.Metrics
import WindowChrome.Text

/-!
# Typed entries

A text that is missing or is no written form of the type counts as the default.
-/

namespace WindowChrome.Config

class Entry (α : Type) where
  /-- The value a text without blanks at its ends is the written form of. -/
  read? : String → Option α
  written : α → String

instance : Entry String where
  read? text := some text
  written text := text

instance : Entry Bool where
  read? := Text.readBool?
  written flag := if flag then "true" else "false"

instance : Entry Int where
  read? := Text.readInt?
  written value := toString value

instance : Entry Int32 where
  read? text := do
    let value ← Text.readInt? text
    if -2147483648 ≤ value ∧ value ≤ 2147483647 then
      some (Int32.ofInt value)
    else none
  written value := toString value.toInt

instance : Entry UInt32 where
  read? text := do
    let value ← Text.readNat? text
    if value < 4294967296 then some (UInt32.ofNat value) else none
  written value := toString value.toNat

instance : Entry BorderSize where
  read? := BorderSize.ofName?
  written := BorderSize.name

namespace Store

def entry {α : Type} [Entry α] (store : Store) (group key : String)
    (default : α) : α :=
  ((store.read group key).bind fun text =>
    Entry.read? (Text.trim text)).getD default

def writeEntry {α : Type} [Entry α] (store : Store) (group key : String)
    (value : α) : Store :=
  store.write group key (Entry.written value)

end Store

end WindowChrome.Config
