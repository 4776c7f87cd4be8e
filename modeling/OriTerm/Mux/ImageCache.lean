import Mathlib.Data.List.AList
import OriTerm.Mux.PaneSnapshot

/-!
# `Mux.ImageCache` — the bounded LRU store of image pixels

Used on both sides of the link: by the server as the source of inline pixel data, by the client to resolve
placements whose pixels were filtered out. Eviction is **reachability-bounded**: the caller passes an oracle
and an entry the oracle calls reachable is never evicted, even past the memory cap.
-/

namespace OriTerm

open List AList

/-- An image of a pane. -/
abbrev ImageKey := PaneId × ImageId

/-- Pixel data by key, the access order (most recent last) and the byte count. -/
structure ImageCache where
  images : AList (fun _ : ImageKey => RenderableImageData)
  lru : List ImageKey
  memoryUsed : Nat
  memoryCap : Nat

namespace ImageCache

variable (c : ImageCache) (reachable : ImageKey → Bool) (key : ImageKey)

/-- 320 MiB. -/
def defaultMemoryCapBytes : Nat := 320 * 1024 * 1024

def withMemoryCap (memoryCap : Nat) : ImageCache := ⟨∅, [], 0, memoryCap⟩

def new : ImageCache := withMemoryCap defaultMemoryCapBytes

/-- Removes an entry and takes its bytes off the count. -/
def removeImage : ImageCache :=
  match c.images.lookup key with
  | some removed =>
    { c with images := c.images.erase key, memoryUsed := c.memoryUsed - removed.data.length }
  | none => c

/-- Drops a victim from the store and from the access order. -/
def evict : ImageCache :=
  { c.removeImage key with lru := c.lru.filter (· ≠ key) }

/-- Evicts the oldest unreachable entry until the cap is met or every entry is reachable. Each round takes
    a key out of `lru`, so its length is fuel enough (`evictUntilUnderCap_done`). -/
def evictLoop (reachable : ImageKey → Bool) : Nat → ImageCache → ImageCache × List ImageKey
  | 0, c => (c, [])
  | fuel + 1, c =>
    if c.memoryUsed ≤ c.memoryCap then (c, [])
    else
      match c.lru.find? (fun k => !reachable k) with
      | none => (c, [])
      | some key =>
        let r := evictLoop reachable fuel (c.evict key)
        (r.1, key :: r.2)

/-- Reachability-bounded eviction, with the evicted keys in order. -/
def evictUntilUnderCap : ImageCache × List ImageKey :=
  evictLoop reachable c.lru.length c

/-- Inserts or replaces the pixels of a key, then evicts. -/
def insert (c : ImageCache) (key : ImageKey) (data : RenderableImageData)
    (reachable : ImageKey → Bool) : ImageCache × List ImageKey :=
  let c :=
    match c.images.lookup key with
    | some prev =>
      { c with memoryUsed := c.memoryUsed - prev.data.length, lru := c.lru.filter (· ≠ key) }
    | none => c
  evictUntilUnderCap
    { c with
      memoryUsed := c.memoryUsed + data.data.length
      images := c.images.insert key data
      lru := c.lru ++ [key] }
    reachable

/-- Looks a key up; a hit becomes the most recent. -/
def get : ImageCache × Option RenderableImageData :=
  match c.images.lookup key with
  | some entry => ({ c with lru := c.lru.filter (· ≠ key) ++ [key] }, some entry)
  | none => (c, none)

/-- Drops every entry of a pane. -/
def dropPane (paneId : PaneId) : ImageCache :=
  let toRemove := c.images.keys.filter (·.1 = paneId)
  { toRemove.foldl removeImage c with lru := c.lru.filter (·.1 ≠ paneId) }

/-! ## What eviction leaves -/

theorem lookup_removeImage (key k : ImageKey) :
    (c.removeImage key).images.lookup k = if k = key then none else c.images.lookup k := by
  by_cases hk : k = key
  · subst hk
    cases hl : c.images.lookup k <;> simp [removeImage, hl]
  · cases hl : c.images.lookup key <;> simp [removeImage, hl, hk]

theorem lookup_evict (key k : ImageKey) : (c.evict key).images.lookup k = if k = key then none else c.images.lookup k :=
  lookup_removeImage c key k

/-- Eviction only ever takes unreachable keys. -/
theorem not_reachable_of_mem_evictLoop {reachable : ImageKey → Bool} (fuel : Nat) {c : ImageCache}
    {k : ImageKey} (h : k ∈ (evictLoop reachable fuel c).2) : reachable k = false := by
  induction fuel generalizing c with
  | zero => simp [evictLoop] at h
  | succ fuel ih =>
    unfold evictLoop at h
    split at h
    · simp at h
    · cases hfind : c.lru.find? (fun k => !reachable k) with
      | none => simp [hfind] at h
      | some key =>
        simp only [hfind, mem_cons] at h
        rcases h with rfl | h
        · simpa using find?_some hfind
        · exact ih h

/-- The evicted keys are gone, every other entry is as before. -/
theorem lookup_evictLoop (fuel : Nat) (c : ImageCache) (k : ImageKey) :
    (evictLoop reachable fuel c).1.images.lookup k =
      if k ∈ (evictLoop reachable fuel c).2 then none else c.images.lookup k := by
  induction fuel generalizing c with
  | zero => simp [evictLoop]
  | succ fuel ih =>
    unfold evictLoop
    split
    · simp
    · cases hfind : c.lru.find? (fun k => !reachable k) with
      | none => simp
      | some key =>
        simp only [ih, lookup_evict]
        by_cases hk : k = key <;> simp [hk]

/-- **The soft cap.** When the loop ends, the cap is met or every remaining entry is reachable. -/
theorem evictLoop_done (fuel : Nat) (c : ImageCache) (hfuel : c.lru.length ≤ fuel) :
    (evictLoop reachable fuel c).1.memoryUsed ≤ (evictLoop reachable fuel c).1.memoryCap ∨
      ∀ k ∈ (evictLoop reachable fuel c).1.lru, reachable k = true := by
  induction fuel generalizing c with
  | zero =>
    right
    have hnil : c.lru = [] := eq_nil_of_length_eq_zero (Nat.le_zero.mp hfuel)
    simp [evictLoop, hnil]
  | succ fuel ih =>
    unfold evictLoop
    split
    · exact Or.inl ‹_›
    · cases hfind : c.lru.find? (fun k => !reachable k) with
      | none =>
        right
        intro k hk
        have := find?_eq_none.mp hfind k hk
        simpa using this
      | some key =>
        have hmem := mem_of_find?_eq_some hfind
        have hlt : (c.lru.filter (· ≠ key)).length < c.lru.length :=
          length_filter_lt_length_iff_exists.mpr ⟨key, hmem, by simp⟩
        exact ih (c.evict key) (by show (c.lru.filter (· ≠ key)).length ≤ fuel; omega)

theorem evictUntilUnderCap_done :
    (c.evictUntilUnderCap reachable).1.memoryUsed ≤ (c.evictUntilUnderCap reachable).1.memoryCap ∨
      ∀ k ∈ (c.evictUntilUnderCap reachable).1.lru, reachable k = true :=
  evictLoop_done reachable _ c (Nat.le_refl _)

/-! ## Inserting, looking up, dropping -/

/-- After an insert a key has its new pixels, its old ones, or was evicted. -/
theorem lookup_insert (c : ImageCache) (key : ImageKey) (data : RenderableImageData)
    (reachable : ImageKey → Bool) (k : ImageKey) :
    (c.insert key data reachable).1.images.lookup k =
      if k ∈ (c.insert key data reachable).2 then none
      else if k = key then some data else c.images.lookup k := by
  unfold insert evictUntilUnderCap
  rw [lookup_evictLoop]
  by_cases hk : k = key
  · subst hk
    simp
  · rw [if_neg hk]
    split <;> simp [lookup_insert_ne hk]

theorem not_reachable_of_mem_insert {c : ImageCache} {key : ImageKey} {data : RenderableImageData}
    {reachable : ImageKey → Bool} {k : ImageKey} (h : k ∈ (c.insert key data reachable).2) :
    reachable k = false :=
  not_reachable_of_mem_evictLoop _ h

theorem lookup_removeImages (keys : List ImageKey) (k : ImageKey) :
    (keys.foldl removeImage c).images.lookup k = if k ∈ keys then none else c.images.lookup k := by
  induction keys generalizing c with
  | nil => simp
  | cons key keys ih =>
    rw [foldl_cons, ih, lookup_removeImage]
    by_cases hmem : k ∈ keys <;> by_cases hk : k = key <;> simp [hmem]

/-- Dropping a pane takes its entries and no others. -/
theorem lookup_dropPane (paneId : PaneId) (k : ImageKey) :
    (c.dropPane paneId).images.lookup k = if k.1 = paneId then none else c.images.lookup k := by
  unfold dropPane
  simp only [lookup_removeImages, mem_filter, decide_eq_true_eq]
  by_cases hp : k.1 = paneId
  · by_cases hmem : k ∈ c.images.keys
    · rw [if_pos ⟨hmem, hp⟩, if_pos hp]
    · rw [if_neg (fun h => hmem h.1), if_pos hp]
      exact lookup_eq_none.mpr hmem
  · rw [if_neg (fun h => hp h.2), if_neg hp]

end ImageCache

end OriTerm
