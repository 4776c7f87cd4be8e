import Mathlib.Data.Finset.Basic

/-!
# `Lib.Table` — finite maps by their lookup function

A `Table κ α` is a partial function with the finite set of its keys. Three operations make all others: `alter` changes
what one key holds, `alterAll` what each of some keys holds, `filterMap` goes over all entries. Lookup after each is an equation, so a client never looks at
the keys except to ask whether there are any, or to list them.

Nothing here mentions a particular program.
-/

namespace Lib

variable {κ α : Type*}

/-- A finite map. -/
structure Table (κ α : Type*) where
  get : κ → Option α
  keys : Finset κ
  mem_keys : ∀ k, k ∈ keys ↔ (get k).isSome

namespace Table

/-- Tables with the same lookups are the same. -/
theorem ext {t t' : Table κ α} (h : ∀ k, t.get k = t'.get k) : t = t' := by
  obtain ⟨get, keys, hkeys⟩ := t
  obtain ⟨get', keys', hkeys'⟩ := t'
  obtain rfl : get = get' := funext h
  obtain rfl : keys = keys' := Finset.ext fun k => by rw [hkeys, hkeys']
  rfl

def empty : Table κ α := ⟨fun _ => none, ∅, fun _ => by simp⟩

instance : EmptyCollection (Table κ α) := ⟨empty⟩

instance : Inhabited (Table κ α) := ⟨∅⟩

@[simp] theorem get_empty (k : κ) : (∅ : Table κ α).get k = none := rfl

@[simp] theorem keys_empty : (∅ : Table κ α).keys = ∅ := rfl

/-- Every entry is kept, changed or removed. -/
def filterMap (t : Table κ α) (f : κ → α → Option α) : Table κ α where
  get k := (t.get k).bind (f k)
  keys := t.keys.filter fun k => ((t.get k).bind (f k)).isSome
  mem_keys k := by
    rw [Finset.mem_filter, t.mem_keys]
    cases t.get k <;> simp

@[simp] theorem get_filterMap (t : Table κ α) (f : κ → α → Option α) (k : κ) :
    (t.filterMap f).get k = (t.get k).bind (f k) := rfl

/-- Every entry is changed. -/
def map (t : Table κ α) (f : κ → α → α) : Table κ α := t.filterMap fun k a => some (f k a)

@[simp] theorem get_map (t : Table κ α) (f : κ → α → α) (k : κ) : (t.map f).get k = (t.get k).map (f k) := by
  unfold map
  rw [get_filterMap]
  cases t.get k <;> rfl

/-- Only the entries that meet `p` stay. -/
def retain (t : Table κ α) (p : κ → α → Bool) : Table κ α := t.filterMap fun k a => if p k a then some a else none

@[simp] theorem get_retain (t : Table κ α) (p : κ → α → Bool) (k : κ) : (t.retain p).get k = (t.get k).filter (p k) := by
  unfold retain
  rw [get_filterMap]
  cases t.get k <;> rfl

variable [DecidableEq κ]

/-- What `k` holds becomes `f` of it. -/
def alter (t : Table κ α) (k : κ) (f : Option α → Option α) : Table κ α where
  get j := if j = k then f (t.get k) else t.get j
  keys := if (f (t.get k)).isSome then insert k t.keys else t.keys.erase k
  mem_keys j := by
    by_cases hj : j = k
    · subst hj
      rw [if_pos rfl]
      cases f (t.get j) <;> simp
    · rw [if_neg hj, ← t.mem_keys]
      cases f (t.get k) <;> simp [hj]

@[simp] theorem get_alter (t : Table κ α) (k : κ) (f : Option α → Option α) (j : κ) :
    (t.alter k f).get j = if j = k then f (t.get k) else t.get j := rfl

def insert (t : Table κ α) (k : κ) (a : α) : Table κ α := t.alter k fun _ => some a

@[simp] theorem get_insert (t : Table κ α) (k : κ) (a : α) (j : κ) :
    (t.insert k a).get j = if j = k then some a else t.get j := rfl

def erase (t : Table κ α) (k : κ) : Table κ α := t.alter k fun _ => none

@[simp] theorem get_erase (t : Table κ α) (k j : κ) : (t.erase k).get j = if j = k then none else t.get j := rfl

/-- `get_mut(k)`: nothing happens without an entry. -/
def modify (t : Table κ α) (k : κ) (f : α → α) : Table κ α := t.alter k (Option.map f)

@[simp] theorem get_modify (t : Table κ α) (k : κ) (f : α → α) (j : κ) :
    (t.modify k f).get j = if j = k then (t.get k).map f else t.get j := rfl

/-- What each of the keys `ks` holds becomes `f` of it. -/
def alterAll (t : Table κ α) (ks : Finset κ) (f : Option α → Option α) : Table κ α where
  get j := if j ∈ ks then f (t.get j) else t.get j
  keys := (t.keys ∪ ks).filter fun j => (if j ∈ ks then f (t.get j) else t.get j).isSome
  mem_keys j := by
    rw [Finset.mem_filter, Finset.mem_union, t.mem_keys]
    by_cases hj : j ∈ ks <;> simp [hj]

@[simp] theorem get_alterAll (t : Table κ α) (ks : Finset κ) (f : Option α → Option α) (j : κ) :
    (t.alterAll ks f).get j = if j ∈ ks then f (t.get j) else t.get j := rfl

omit [DecidableEq κ] in
/-- A table without keys holds nothing. -/
theorem keys_eq_empty_iff (t : Table κ α) : t.keys = ∅ ↔ ∀ k, t.get k = none := by
  constructor
  · intro h k
    have hk : k ∉ t.keys := h ▸ Finset.notMem_empty k
    rw [t.mem_keys, Bool.not_eq_true, Option.isSome_eq_false_iff, Option.isNone_iff_eq_none] at hk
    exact hk
  · intro h
    refine Finset.eq_empty_of_forall_notMem fun k hk => ?_
    rw [t.mem_keys, h] at hk
    cases hk

end Table

end Lib
