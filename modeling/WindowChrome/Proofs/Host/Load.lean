import WindowChrome.Host

/-! # Loads under guard -/

namespace WindowChrome
namespace Config

theorem flagKey_injective {backend other : String}
    (hkey : flagKey backend = flagKey other) : backend = other := by
  have happend : backend ++ "IsUnsafe" = other ++ "IsUnsafe" := hkey
  simpa using happend

theorem decorationGroup_ne : decorationGroup ≠ compositingGroup := by decide

namespace Store

def AlikeBut (before : Store) (backend : String) (after : Store) : Prop :=
  ∀ group key, (group, key) ≠ (compositingGroup, flagKey backend) →
    after.read group key = before.read group key

def AlikeIn (before : Store) (group : String) (after : Store) : Prop :=
  ∀ key, after.read group key = before.read group key

variable {before middle after : Store} {backend group : String}

theorem AlikeBut.refl (store : Store) (backend : String) :
    store.AlikeBut backend store :=
  fun _ _ _ => rfl

theorem AlikeBut.trans (hfirst : before.AlikeBut backend middle)
    (hsecond : middle.AlikeBut backend after) :
    before.AlikeBut backend after := by
  intro group key hother
  exact (hsecond group key hother).trans (hfirst group key hother)

theorem AlikeBut.read_flag_eq (halike : before.AlikeBut backend after)
    {other : String} (hother : other ≠ backend) :
    after.read compositingGroup (flagKey other) =
      before.read compositingGroup (flagKey other) := by
  apply halike
  intro hsame
  exact hother (flagKey_injective (congrArg Prod.snd hsame))

theorem isFlagged_of_read_eq
    (hread : after.read compositingGroup (flagKey backend) =
      before.read compositingGroup (flagKey backend)) :
    after.isFlagged backend = before.isFlagged backend := by
  unfold isFlagged entry
  rw [hread]

theorem AlikeBut.alikeIn (halike : before.AlikeBut backend after)
    (hgroup : group ≠ compositingGroup) : before.AlikeIn group after := by
  intro key
  apply halike
  intro hsame
  exact hgroup (congrArg Prod.fst hsame)

theorem AlikeIn.refl (store : Store) (group : String) :
    store.AlikeIn group store :=
  fun _ => rfl

theorem AlikeIn.trans (hfirst : before.AlikeIn group middle)
    (hsecond : middle.AlikeIn group after) : before.AlikeIn group after := by
  intro key
  exact (hsecond key).trans (hfirst key)

theorem AlikeIn.entry_eq {α : Type} [Entry α]
    (halike : before.AlikeIn group after) (key : String) (default : α) :
    after.entry group key default = before.entry group key default := by
  unfold entry
  rw [halike key]

theorem AlikeIn.theme_eq (halike : before.AlikeIn decorationGroup after) :
    after.theme = before.theme :=
  funext fun default => halike.entry_eq "theme" default

def marked (store : Store) (backend : String) (on : Bool) : Store :=
  (store.writeEntry compositingGroup (flagKey backend) on).synced

theorem read_marked (store : Store) (backend : String) (on : Bool)
    (group key : String) :
    (store.marked backend on).read group key =
      if (compositingGroup, flagKey backend) = (group, key) then
        some (Entry.written on)
      else store.read group key := by
  unfold marked writeEntry
  rw [read_synced, read_write]

theorem isFlagged_marked (store : Store) (backend : String) (on : Bool) :
    (store.marked backend on).isFlagged backend = on := by
  unfold isFlagged entry
  rw [read_marked, if_pos rfl]
  cases on <;> decide

theorem alikeBut_marked (store : Store) (backend : String) (on : Bool) :
    store.AlikeBut backend (store.marked backend on) := by
  intro group key hother
  rw [read_marked, if_neg (Ne.symm hother)]

end Store
end Config

open Config (Store)

/-- A guarded load took the configuration from one state to another.  When it
began its backend was flagged and a sync had been asked for since; when it was
over the flag was off; and nothing else reads otherwise than before. -/
structure LoadRun.Guarded (run : LoadRun) (before after : Store) : Prop where
  unflagged : before.isFlagged run.name = false
  flagged : run.store.isFlagged run.name = true
  journal_eq : run.store.journal = before.journal ++
    [.write Config.compositingGroup (Config.flagKey run.name) "true", .sync]
  alike_begun : before.AlikeBut run.name run.store
  cleared : after.isFlagged run.name = false
  alike : before.AlikeBut run.name after

theorem LoadRun.guarded_marked {store during : Store} {name : String}
    (builtIn : Bool) (hunflagged : store.isFlagged name = false)
    (hduring : store.AlikeBut name during) :
    LoadRun.Guarded ⟨name, builtIn, store.marked name true⟩ store
      (during.marked name false) where
  unflagged := hunflagged
  flagged := store.isFlagged_marked name true
  journal_eq := by
    simp [Store.marked, Store.writeEntry, Store.write, Store.synced,
      Store.sync, Config.Entry.written]
  alike_begun := store.alikeBut_marked name true
  cleared := during.isFlagged_marked name false
  alike := hduring.trans (during.alikeBut_marked name false)

namespace Catalog

variable {catalog : Catalog} {name : String}

theorem load_of_find? {item : Item} (hfind : catalog.find? name = some item) :
    catalog.load name = catalog.loadItem name item := by
  unfold load
  rw [hfind]

theorem exists_find?_of_load {backend : Backend}
    (hload : (catalog.load name).1 = .ok backend) :
    ∃ item, catalog.find? name = some item ∧
      item.supplier.deliver item.loads = .ok backend := by
  unfold load at hload
  cases hfind : catalog.find? name with
  | none =>
      rw [hfind] at hload
      cases hload
  | some item =>
      rw [hfind] at hload
      exact ⟨item, rfl, hload⟩

theorem find?_load_of_ne {other : String} (hother : other ≠ name) :
    (catalog.load name).2.find? other = catalog.find? other := by
  unfold load
  cases catalog.find? name with
  | none => rfl
  | some item =>
      simp only [loadItem]
      rw [Keyed.find?_insert, if_neg (Ne.symm hother)]

theorem load_fst_of_find?_eq {catalog other : Catalog} {name : String}
    (hfind : other.find? name = catalog.find? name) :
    (other.load name).1 = (catalog.load name).1 := by
  unfold load
  rw [hfind]
  cases catalog.find? name <;> rfl

end Catalog

namespace Host

variable {host : Host} {hub : Hub} {name : String}

theorem loadGuarded_of_unknown (hfind : host.catalog.find? name = none) :
    host.loadGuarded hub name = (.error (.unknown name), host, hub) := by
  unfold loadGuarded
  rw [hfind]

theorem loadGuarded_of_flagged {item : Catalog.Item}
    (hfind : host.catalog.find? name = some item)
    (hflagged : hub.store.isFlagged name = true) :
    host.loadGuarded hub name = (.error (.hung name), host, hub) := by
  unfold loadGuarded
  simp only [hfind, hflagged, if_true]

theorem loadGuarded_of_unflagged {item : Catalog.Item}
    (hfind : host.catalog.find? name = some item)
    (hunflagged : hub.store.isFlagged name = false) :
    ∃ (run : LoadRun) (store : Store) (frozen : List String),
      run.name = name ∧ run.Guarded hub.store store ∧
      host.loadGuarded hub name =
        ((host.catalog.load name).1,
          { host with catalog := (host.catalog.load name).2 },
          { hub with store, frozen, loads := hub.loads ++ [run] }) := by
  have hmark := hub.store.alikeBut_marked name true
  have hagain := (hub.store.marked name true).alikeBut_marked name true
  rw [Catalog.load_of_find? hfind]
  unfold loadGuarded
  simp only [hfind, hunflagged, Bool.false_eq_true, if_false]
  cases hhangs : item.supplier.hangs with
  | false =>
      exact ⟨_, _, hub.frozen, rfl,
        LoadRun.guarded_marked item.supplier.builtIn hunflagged hmark, rfl⟩
  | true =>
      exact ⟨_, _, hub.frozen ++ [name], rfl,
        LoadRun.guarded_marked item.supplier.builtIn hunflagged
          (hmark.trans hagain), rfl⟩

end Host
end WindowChrome
