/-! # Tables in order of first insertion -/

namespace WindowChrome

structure Keyed (κ α : Type) where
  entries : List (κ × α)
  deriving DecidableEq, Repr

namespace Keyed

variable {κ α : Type} [DecidableEq κ]

def empty : Keyed κ α := ⟨[]⟩

def keys (table : Keyed κ α) : List κ := table.entries.map (·.1)

def values (table : Keyed κ α) : List α := table.entries.map (·.2)

def lookup (key : κ) : List (κ × α) → Option α
  | [] => none
  | (other, value) :: rest =>
      if other = key then some value else lookup key rest

def find? (table : Keyed κ α) (key : κ) : Option α :=
  lookup key table.entries

def contains (table : Keyed κ α) (key : κ) : Bool :=
  (table.find? key).isSome

/-- The entries with the value of a key replaced, or the key put last. -/
def put (key : κ) (value : α) : List (κ × α) → List (κ × α)
  | [] => [(key, value)]
  | (other, old) :: rest =>
      if other = key then (key, value) :: rest
      else (other, old) :: put key value rest

def insert (table : Keyed κ α) (key : κ) (value : α) : Keyed κ α :=
  ⟨put key value table.entries⟩

def eraseWhere (table : Keyed κ α) (condition : κ → Bool) : Keyed κ α :=
  ⟨table.entries.filter fun entry => !condition entry.1⟩

def erase (table : Keyed κ α) (key : κ) : Keyed κ α :=
  table.eraseWhere (· == key)

theorem lookup_put (key other : κ) (value : α) (entries : List (κ × α)) :
    lookup other (put key value entries) =
      if key = other then some value else lookup other entries := by
  induction entries with
  | nil => simp [put, lookup]
  | cons entry rest ih =>
      obtain ⟨first, old⟩ := entry
      simp only [put]
      split
      · next hfirst => subst hfirst; simp only [lookup]; split <;> rfl
      · next hfirst =>
          simp only [lookup, ih]
          split
          · next hother => subst hother; simp [Ne.symm hfirst]
          · rfl

theorem find?_insert (table : Keyed κ α) (key other : κ) (value : α) :
    (table.insert key value).find? other =
      if key = other then some value else table.find? other :=
  lookup_put key other value table.entries

theorem keys_insert (table : Keyed κ α) (key : κ) (value : α) :
    (table.insert key value).keys =
      if key ∈ table.keys then table.keys else table.keys ++ [key] := by
  obtain ⟨entries⟩ := table
  simp only [insert, keys]
  induction entries with
  | nil => simp [put]
  | cons entry rest ih =>
      obtain ⟨first, old⟩ := entry
      by_cases hfirst : first = key
      · simp [put, hfirst]
      · have hne : key ≠ first := Ne.symm hfirst
        simp only [put, hfirst, if_false, List.map_cons, List.mem_cons, hne,
          false_or, ih]
        by_cases hmem : key ∈ rest.map (·.1) <;> simp only [hmem, if_true,
          if_false, List.cons_append]

theorem lookup_filter (condition : κ → Bool) (key : κ)
    (entries : List (κ × α)) :
    lookup key (entries.filter fun entry => condition entry.1) =
      if condition key then lookup key entries else none := by
  induction entries with
  | nil => simp [lookup]
  | cons entry rest ih =>
      obtain ⟨first, value⟩ := entry
      by_cases hfirst : first = key
      · subst hfirst
        by_cases hcondition : condition first
        · simp [lookup, hcondition]
        · rw [if_neg hcondition] at ih ⊢
          simp [hcondition, ih]
      · by_cases hcondition : condition first
        · simp [lookup, hcondition, hfirst, ih]
        · simp [lookup, hcondition, hfirst, ih]

theorem find?_erase (table : Keyed κ α) (key other : κ) :
    (table.erase key).find? other =
      if key = other then none else table.find? other := by
  have hfilter := lookup_filter (fun first => !(first == key)) other
    table.entries
  refine hfilter.trans ?_
  by_cases hother : key = other
  · simp [hother]
  · simp [hother, Ne.symm hother, find?]

theorem find?_of_find?_erase {table : Keyed κ α} {key other : κ} {value : α}
    (hfind : (table.erase key).find? other = some value) :
    table.find? other = some value := by
  rw [find?_erase] at hfind
  split at hfind
  · cases hfind
  · exact hfind

theorem mem_keys_of_find? {table : Keyed κ α} {key : κ} {value : α}
    (hfind : table.find? key = some value) : key ∈ table.keys := by
  obtain ⟨entries⟩ := table
  simp only [find?, keys] at hfind ⊢
  induction entries with
  | nil => cases hfind
  | cons entry rest ih =>
      obtain ⟨first, old⟩ := entry
      rw [List.map_cons, List.mem_cons]
      by_cases hfirst : first = key
      · exact .inl hfirst.symm
      · simp only [lookup, hfirst, if_false] at hfind
        exact .inr (ih hfind)

theorem exists_find?_of_mem_keys {table : Keyed κ α} {key : κ}
    (hkey : key ∈ table.keys) : ∃ value, table.find? key = some value := by
  obtain ⟨entries⟩ := table
  simp only [find?, keys] at hkey ⊢
  induction entries with
  | nil => cases hkey
  | cons entry rest ih =>
      obtain ⟨first, value⟩ := entry
      by_cases hfirst : first = key
      · exact ⟨value, by simp only [lookup, hfirst, if_true]⟩
      · simp only [lookup, hfirst, if_false]
        rw [List.map_cons, List.mem_cons] at hkey
        exact ih (hkey.resolve_left (Ne.symm hfirst))

theorem mem_entries_of_find? {table : Keyed κ α} {key : κ} {value : α}
    (hfind : table.find? key = some value) : (key, value) ∈ table.entries := by
  obtain ⟨entries⟩ := table
  simp only [find?] at hfind ⊢
  induction entries with
  | nil => cases hfind
  | cons entry rest ih =>
      obtain ⟨first, old⟩ := entry
      by_cases hfirst : first = key
      · simp only [lookup, hfirst, if_true, Option.some.injEq] at hfind
        rw [hfirst, hfind]
        exact List.mem_cons_self
      · simp only [lookup, hfirst, if_false] at hfind
        exact List.mem_cons_of_mem _ (ih hfind)

theorem find?_of_mem_entries {table : Keyed κ α} {key : κ} {value : α}
    (hnodup : table.keys.Nodup) (hmem : (key, value) ∈ table.entries) :
    table.find? key = some value := by
  obtain ⟨entries⟩ := table
  simp only [find?, keys] at hnodup hmem ⊢
  induction entries with
  | nil => cases hmem
  | cons entry rest ih =>
      obtain ⟨first, old⟩ := entry
      rw [List.map_cons, List.nodup_cons] at hnodup
      rw [List.mem_cons] at hmem
      by_cases hfirst : first = key
      · have hrest : (key, value) ∉ rest := by
          intro hrest
          rw [hfirst] at hnodup
          exact hnodup.1 (List.mem_map.mpr ⟨_, hrest, rfl⟩)
        have hentry := hmem.resolve_right hrest
        rw [Prod.mk.injEq] at hentry
        simp only [lookup, hfirst, if_true, hentry.2]
      · have hrest : (key, value) ∈ rest := by
          apply hmem.resolve_left
          intro hentry
          rw [Prod.mk.injEq] at hentry
          exact hfirst hentry.1.symm
        simp only [lookup, hfirst, if_false]
        exact ih hnodup.2 hrest

theorem keys_erase (table : Keyed κ α) (key : κ) :
    (table.erase key).keys = table.keys.filter (· != key) := by
  simp only [erase, eraseWhere, keys, List.filter_map]
  rfl

end Keyed

end WindowChrome
