import WindowChrome.Decorator
import WindowChrome.Proofs.Frame.Upkeep

/-!
# Runs of a decorator

Along with a run goes a ledger of what was last said of each window.  It is
kept from what is asked of the decorator and never looks at the decorations.
-/

namespace WindowChrome

/-- What was last said of each window. -/
abbrev Ledger := Keyed WindowId Window

namespace Ledger

def deliver (ledger : Ledger) (windows : List Window) : Ledger :=
  windows.foldl (fun ledger window => ledger.insert window.id window) ledger

def tell (ledger : Ledger) (id : WindowId) (event : WindowEvent) : Ledger :=
  match ledger.find? id with
  | none => ledger
  | some window => ledger.insert id (window.after event)

theorem find?_tell {ledger : Ledger} {id : WindowId} {window : Window}
    (event : WindowEvent) (hfind : ledger.find? id = some window) :
    (ledger.tell id event).find? id = some (window.after event) := by
  unfold tell
  rw [hfind]
  simp only [Keyed.find?_insert, if_true]

theorem find?_tell_of_ne {ledger : Ledger} {id other : WindowId}
    {event : WindowEvent} (hother : id ≠ other) :
    (ledger.tell id event).find? other = ledger.find? other := by
  unfold tell
  cases ledger.find? id with
  | none => rfl
  | some window => simp only [Keyed.find?_insert, hother, if_false]

end Ledger

namespace Decorator

inductive Operation where
  | start (session : Session) (workspace : Workspace)
  | handle (workspace : Workspace) (event : Event)
  | decorate (window : Window)
  | undecorate (id : WindowId)
  | write (group key value : String)
  | setProperties (properties : PropertyTable)
  deriving DecidableEq, Repr

def perform (decorator : Decorator) : Operation → Except Fault Decorator
  | .start session workspace => decorator.start session workspace
  | .handle workspace event => decorator.handle workspace event
  | .decorate window => (decorator.decorate window).map (·.2)
  | .undecorate id => .ok (decorator.undecorate id).2
  | .write group key value => .ok { decorator with
      hub := { decorator.hub with
        store := decorator.hub.store.write group key value } }
  | .setProperties properties => .ok { decorator with
      commons := { decorator.commons with properties } }

/-- The windows decorated again by an operation that led from one decorator to
another.  A start and another resolution decorate all of them; what the
backend declares does so if it brings another border size, and the
configuration also if it brings another backend, theme name or mode. -/
def redecorated (before : Decorator) (operation : Operation)
    (later : Decorator) : List Window :=
  match operation with
  | .start _ workspace => workspace.windows
  | .decorate window => [window]
  | .handle workspace (.dpi _) => workspace.windows
  | .handle workspace .declared =>
      if before.preferences.borderSize = later.preferences.borderSize then []
      else workspace.windows
  | .handle workspace .reconfigured =>
      if before.backendState = later.backendState ∧
          before.preferences.borderSize = later.preferences.borderSize then []
      else workspace.windows
  | _ => []

def record (ledger : Ledger) (before : Decorator) (operation : Operation)
    (later : Decorator) : Ledger :=
  match operation with
  | .handle _ (.window id event) => ledger.tell id event
  | _ => ledger.deliver (before.redecorated operation later)

/-- The workspace that comes with an operation lists every decorated window. -/
def Covers (decorator : Decorator) : Operation → Prop
  | .start _ workspace | .handle workspace _ =>
      ∀ id ∈ decorator.decorations.keys, id ∈ workspace.ids
  | _ => True

instance (decorator : Decorator) (operation : Operation) :
    Decidable (decorator.Covers operation) :=
  match operation with
  | .start _ workspace | .handle workspace _ =>
      List.decidableBAll (· ∈ workspace.ids) decorator.decorations.keys
  | .decorate _ | .undecorate _ | .write _ _ _ | .setProperties _ =>
      inferInstanceAs (Decidable True)

def Spares (decorator : Decorator) : Operation → Prop
  | .setProperties properties =>
      ∀ id ∈ decorator.decorations.keys, ∀ property,
        properties.get id property =
          decorator.commons.properties.get id property
  | _ => True

def Orderly (decorator : Decorator) (operation : Operation) : Prop :=
  decorator.Covers operation ∧ decorator.Spares operation

/-- The decorators that can be reached, with their ledgers, by operations that
are allowed. -/
inductive Run (allowed : Decorator → Operation → Prop) :
    Decorator → Ledger → Prop
  | new (catalog : Catalog) (store : Config.Store)
      (properties : PropertyTable) :
      Run allowed (.new catalog store properties) .empty
  | perform {decorator later : Decorator} {ledger : Ledger}
      (operation : Operation) (hrun : Run allowed decorator ledger)
      (hallowed : allowed decorator operation)
      (hperform : decorator.perform operation = .ok later) :
      Run allowed later (record ledger decorator operation later)

end Decorator
end WindowChrome
