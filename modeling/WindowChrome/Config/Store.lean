import WindowChrome.Keyed
import WindowChrome.LoadError

/-! # Configuration stores -/

namespace WindowChrome.Config

/-- What can be asked of a store, reading apart. -/
inductive Request where
  | write (group key value : String)
  | sync
  deriving DecidableEq, Repr

structure Store where
  entries : Keyed (String × String) String := .empty
  /-- What a sync fails with. -/
  syncFault : Option LoadError := none
  journal : List Request := []
  deriving DecidableEq, Repr

namespace Store

/-- A store that holds the given entries and has not been asked for anything
yet.  A later entry replaces an earlier one of the same key. -/
def ofEntries (entries : List ((String × String) × String))
    (syncFault : Option LoadError) : Store where
  entries := entries.foldl (fun table entry => table.insert entry.1 entry.2)
    .empty
  syncFault

def read (store : Store) (group key : String) : Option String :=
  store.entries.find? (group, key)

def write (store : Store) (group key value : String) : Store :=
  { store with
    entries := store.entries.insert (group, key) value
    journal := store.journal ++ [.write group key value] }

def sync (store : Store) : Except LoadError Unit × Store :=
  (match store.syncFault with
    | none => .ok ()
    | some error => .error error,
    { store with journal := store.journal ++ [.sync] })

/-- The store after a sync whose outcome does not matter. -/
def synced (store : Store) : Store := store.sync.2

def syncs (store : Store) : Nat := store.journal.count .sync

theorem read_write (store : Store) (group key value : String)
    (otherGroup otherKey : String) :
    (store.write group key value).read otherGroup otherKey =
      if (group, key) = (otherGroup, otherKey) then some value
      else store.read otherGroup otherKey :=
  Keyed.find?_insert store.entries (group, key) (otherGroup, otherKey) value

theorem read_synced (store : Store) (group key : String) :
    store.synced.read group key = store.read group key := rfl

end Store

end WindowChrome.Config
