import WindowChrome.Backend.Basic
import WindowChrome.LoadError

/-!
# The catalog of backends

The catalog lists by name how backends are had.  What comes of a load is told
by how many loads went before it.
-/

namespace WindowChrome

structure Supplier where
  /-- What the load with a given number delivers, the first having number 0. -/
  deliver : Nat → Except LoadError Backend
  /-- A load does not end before its guard gives up on it. -/
  hangs : Bool := false
  builtIn : Bool := false

namespace Catalog

structure Item where
  supplier : Supplier
  loads : Nat

end Catalog

abbrev Catalog := Keyed String Catalog.Item

namespace Catalog

def register (catalog : Catalog) (name : String) (supplier : Supplier) :
    Catalog :=
  catalog.insert name { supplier, loads := 0 }

def names (catalog : Catalog) : List String := catalog.keys

/-- A load from a known supplier, which is counted whatever comes of it. -/
def loadItem (catalog : Catalog) (name : String) (item : Item) :
    Except LoadError Backend × Catalog :=
  (item.supplier.deliver item.loads,
    catalog.insert name { item with loads := item.loads + 1 })

def load (catalog : Catalog) (name : String) :
    Except LoadError Backend × Catalog :=
  match catalog.find? name with
  | none => (.error (.unknown name), catalog)
  | some item => catalog.loadItem name item

def builtIn (backend : Backend) : Supplier where
  deliver _ := .ok backend
  builtIn := true

def standard : Catalog :=
  let catalog : Catalog := .empty
  (catalog.register Backend.plainName (builtIn .plain)).register
    Backend.themedName (builtIn .themed)

end Catalog

end WindowChrome
