import Mathlib.Algebra.GroupWithZero.Nat
import OriTerm.Lib.Lru
import OriTerm.Mux.ImageCache

/-!
# `Mux.ImageCacheLru` — the three views of the image cache agree

The cache keeps its entries in a map, their order of use in a list and their size in a counter. `ImageCache.InStep uses c`
says what the three have to do with each other, and with the history `uses` of the keys that were inserted or hit: the
list is the history without all but the last use of each key that is still cached, and the counter is the sum.

An insert may evict: `ImageCache.InsertSpec`. **`ImageCache.inStep_run`**: both hold in every state of every run.
-/

namespace OriTerm

open Lib List AList

namespace ImageCache

variable {c : ImageCache} {uses : List ImageKey} {key : ImageKey}

/-! ## The three views -/

/-- The key is cached. -/
def Holds (c : ImageCache) (key : ImageKey) : Prop := (c.images.lookup key).isSome

instance (c : ImageCache) (key : ImageKey) : Decidable (c.Holds key) := inferInstanceAs (Decidable (_ = true))

/-- The size of an entry. -/
def sizeOf (c : ImageCache) (key : ImageKey) : Nat := ((c.images.lookup key).map (·.data.length)).getD 0

/-- The size of all entries. -/
def storedBytes (c : ImageCache) : Nat := ∑ key ∈ c.images.keys.toFinset, c.sizeOf key

/-- **In step**: the order of use, and the counter. -/
structure InStep (uses : List ImageKey) (c : ImageCache) : Prop where
  used : ∀ key, c.Holds key → key ∈ uses
  order : c.lru = uses.dedup.filter fun key => c.Holds key
  counted : c.memoryUsed = c.storedBytes

theorem InStep.nodup (h : c.InStep uses) : c.lru.Nodup := by
  rw [h.order]
  exact (nodup_dedup uses).filter _

theorem InStep.mem_lru (h : c.InStep uses) (key : ImageKey) : key ∈ c.lru ↔ c.Holds key := by
  rw [h.order, mem_filter, mem_dedup, decide_eq_true_eq]
  exact ⟨fun hmem => hmem.2, fun hkey => ⟨h.used key hkey, hkey⟩⟩

theorem sizeOf_eq_zero (h : key ∉ c.images.keys.toFinset) : c.sizeOf key = 0 := by
  rw [mem_toFinset] at h
  unfold sizeOf
  rw [lookup_eq_none.mpr h]
  rfl

/-- **One key changes the size of all by its own.** -/
theorem storedBytes_exchange {c d : ImageCache} (key : ImageKey)
    (h : ∀ k, k ≠ key → d.images.lookup k = c.images.lookup k) :
    d.storedBytes + c.sizeOf key = c.storedBytes + d.sizeOf key := by
  refine sum_exchange (fun _ => sizeOf_eq_zero) (fun _ => sizeOf_eq_zero) key fun k hk => ?_
  unfold sizeOf
  rw [h k hk]

theorem sizeOf_le_storedBytes (c : ImageCache) (key : ImageKey) : c.sizeOf key ≤ c.storedBytes := by
  by_cases h : key ∈ c.images.keys.toFinset
  · exact Finset.single_le_sum (fun _ _ => Nat.zero_le _) h
  · rw [sizeOf_eq_zero h]
    exact Nat.zero_le _

/-! ## Removal -/

/-- Taking an entry out takes its size off the counter. -/
theorem counted_removeImage (h : c.memoryUsed = c.storedBytes) (key : ImageKey) :
    (c.removeImage key).memoryUsed = (c.removeImage key).storedBytes := by
  have hexchange := storedBytes_exchange (c := c) key fun k hk => by
    rw [lookup_removeImage, if_neg hk]
  have hgone : (c.removeImage key).sizeOf key = 0 := by
    unfold sizeOf
    rw [lookup_removeImage, if_pos rfl]
    rfl
  have hused : (c.removeImage key).memoryUsed = c.memoryUsed - c.sizeOf key := by
    unfold removeImage sizeOf
    cases c.images.lookup key <;> rfl
  omega

theorem holds_removeImage (c : ImageCache) (key k : ImageKey) : (c.removeImage key).Holds k ↔ k ≠ key ∧ c.Holds k := by
  unfold Holds
  rw [lookup_removeImage]
  by_cases hk : k = key <;> simp [hk]

/-- **One eviction.** -/
theorem InStep.evict (h : c.InStep uses) (key : ImageKey) : (c.evict key).InStep uses := by
  have hholds : ∀ k, (c.evict key).Holds k ↔ k ≠ key ∧ c.Holds k := holds_removeImage c key
  refine ⟨fun k hk => h.used k ((hholds k).mp hk).2, ?_, counted_removeImage h.counted key⟩
  show c.lru.filter (· ≠ key) = _
  rw [h.order, filter_filter]
  refine filter_congr fun k _ => ?_
  rw [Bool.eq_iff_iff]
  simp [hholds]

theorem InStep.evictLoop {reachable : ImageKey → Bool} (fuel : Nat) (h : c.InStep uses) :
    (evictLoop reachable fuel c).1.InStep uses := by
  induction fuel generalizing c with
  | zero => exact h
  | succ fuel ih =>
    unfold ImageCache.evictLoop
    split
    · exact h
    · split
      · exact h
      · exact ih (h.evict _)

/-- **What is evicted** are the least recently used of the unreachable keys, in order. -/
theorem evictLoop_oldest {reachable : ImageKey → Bool} (fuel : Nat) (h : c.lru.Nodup) :
    (evictLoop reachable fuel c).2 <+: c.lru.filter (!reachable ·) := by
  induction fuel generalizing c with
  | zero => exact nil_prefix
  | succ fuel ih =>
    unfold ImageCache.evictLoop
    split
    · exact nil_prefix
    · split
      · exact nil_prefix
      · next victim hfind =>
        have hrest := ih (c := c.evict victim) (h.filter _)
        rw [filter_find h hfind]
        exact prefix_cons_inj victim |>.mpr hrest

theorem sizeOf_evict (c : ImageCache) (key k : ImageKey) (hk : k ≠ key) : (c.evict key).sizeOf k = c.sizeOf k := by
  unfold sizeOf
  rw [lookup_evict, if_neg hk]

theorem memoryUsed_evict (c : ImageCache) (key : ImageKey) : (c.evict key).memoryUsed = c.memoryUsed - c.sizeOf key := by
  unfold evict removeImage sizeOf
  cases c.images.lookup key <;> rfl

@[simp] theorem memoryCap_evict (c : ImageCache) (key : ImageKey) : (c.evict key).memoryCap = c.memoryCap := by
  unfold evict removeImage
  cases c.images.lookup key <;> rfl

/-- **The key has to go**: it is unreachable, and the bytes left without the unreachable keys used before it are still
    more than the cap allows. -/
def Squeezed (c : ImageCache) (reachable : ImageKey → Bool) (key : ImageKey) : Prop :=
  key ∈ c.lru ∧ reachable key = false ∧
    c.memoryCap < c.memoryUsed - (((c.lru.filter (!reachable ·)).takeWhile (· ≠ key)).map c.sizeOf).sum

instance (c : ImageCache) (reachable : ImageKey → Bool) (key : ImageKey) : Decidable (c.Squeezed reachable key) :=
  inferInstanceAs (Decidable (_ ∧ _ ∧ _))

/-- **Eviction takes exactly the keys that have to go.** -/
theorem mem_evictLoop_iff {reachable : ImageKey → Bool} {k : ImageKey} (fuel : Nat) (h : c.lru.Nodup)
    (hfuel : c.lru.length ≤ fuel) : k ∈ (evictLoop reachable fuel c).2 ↔ c.Squeezed reachable k := by
  induction fuel generalizing c with
  | zero =>
    have hnil : c.lru = [] := eq_nil_of_length_eq_zero (Nat.le_zero.mp hfuel)
    unfold Squeezed
    rw [hnil]
    simp [evictLoop]
  | succ fuel ih =>
    unfold ImageCache.evictLoop
    split
    · next hwithin =>
      constructor
      · intro hmem
        cases hmem
      · rintro ⟨-, -, hover⟩
        omega
    · next hover =>
      cases hfind : c.lru.find? (!reachable ·) with
      | none =>
        constructor
        · intro hmem
          cases hmem
        · rintro ⟨hmem, hunreachable, -⟩
          have hall := find?_eq_none.mp hfind k hmem
          rw [hunreachable] at hall
          exact absurd rfl hall
      | some victim =>
        have hvictim : victim ∈ c.lru := mem_of_find?_eq_some hfind
        have hunreachable : reachable victim = false := by simpa using find?_some hfind
        have hshorter : (c.evict victim).lru.length < c.lru.length :=
          length_filter_lt_length_iff_exists.mpr ⟨victim, hvictim, by simp⟩
        have hrest := ih (c := c.evict victim) (h.filter _) (by omega)
        rw [mem_cons, hrest]
        have hsplit := filter_find h hfind
        unfold Squeezed
        by_cases hk : k = victim
        · subst hk
          rw [hsplit]
          exact ⟨fun _ => ⟨hvictim, hunreachable, by simpa using hover⟩, fun _ => .inl rfl⟩
        · -- the victim's bytes are gone before the turn of `k` comes
          have hsizes : (((c.lru.filter (· ≠ victim)).filter (!reachable ·)).takeWhile (· ≠ k)).map
              (c.evict victim).sizeOf =
              (((c.lru.filter (· ≠ victim)).filter (!reachable ·)).takeWhile (· ≠ k)).map c.sizeOf := by
            refine map_congr_left fun j hj => sizeOf_evict c victim j ?_
            have hkept := mem_of_mem_filter ((takeWhile_subset _) hj)
            simpa using (mem_filter.mp hkept).2
          have hlru : (c.evict victim).lru = c.lru.filter (· ≠ victim) := rfl
          rw [hlru, hsplit, takeWhile_cons_of_pos (by simpa using Ne.symm hk), map_cons, memoryCap_evict,
            memoryUsed_evict, hsizes, Nat.sub_sub]
          have hmem : k ∈ c.lru.filter (· ≠ victim) ↔ k ∈ c.lru := by simp [hk]
          rw [hmem]
          exact ⟨fun hor => hor.resolve_left hk, .inr⟩

/-! ## Insert, lookup, drop -/

/-- The cache with the new pixels, in front of the eviction. -/
def stored (c : ImageCache) (key : ImageKey) (data : RenderableImageData) : ImageCache :=
  { c with
    memoryUsed := c.memoryUsed - c.sizeOf key + data.data.length
    images := c.images.insert key data
    lru := touch key c.lru }

section

variable (h : c.InStep uses) (key : ImageKey) (data : RenderableImageData)
include h

theorem insert_eq (reachable : ImageKey → Bool) :
    c.insert key data reachable = (c.stored key data).evictUntilUnderCap reachable := by
  unfold insert stored sizeOf
  cases hk : c.images.lookup key with
  | some prev => rfl
  | none =>
    have hnew : c.lru.filter (· ≠ key) = c.lru := by
      refine filter_eq_self.mpr fun k hmem => decide_eq_true ?_
      rintro rfl
      have hheld := (h.mem_lru k).mp hmem
      unfold Holds at hheld
      rw [hk] at hheld
      cases hheld
    unfold touch
    rw [hnew]
    rfl

theorem InStep.stored : (c.stored key data).InStep (uses ++ [key]) := by
  have hholds : ∀ k, (c.stored key data).Holds k ↔ k = key ∨ c.Holds k := by
    intro k
    unfold Holds ImageCache.stored
    by_cases hk : k = key
    · subst hk
      simp [AList.lookup_insert]
    · simp [hk]
  refine ⟨fun k hk => ?_, ?_, ?_⟩
  · rcases (hholds k).mp hk with rfl | hold
    · exact mem_append_right _ (mem_singleton_self _)
    · exact mem_append_left _ (h.used k hold)
  · show touch key c.lru = _
    rw [dedup_concat]
    unfold touch
    have hkey : ([key].filter fun k => (c.stored key data).Holds k) = [key] :=
      filter_eq_self.mpr fun k hk => decide_eq_true ((hholds k).mpr (.inl (mem_singleton.mp hk)))
    rw [filter_append, hkey, h.order, filter_filter, filter_filter]
    congr 1
    refine filter_congr fun k _ => ?_
    rw [Bool.eq_iff_iff]
    simp only [hholds, Bool.and_eq_true, decide_eq_true_eq]
    tauto
  · have hexchange := storedBytes_exchange (d := c.stored key data) key fun k hk =>
      lookup_insert_ne hk
    have hnew : (c.stored key data).sizeOf key = data.data.length := by
      unfold sizeOf ImageCache.stored
      rw [AList.lookup_insert]
      rfl
    have hle := c.sizeOf_le_storedBytes key
    show c.memoryUsed - c.sizeOf key + data.data.length = _
    rw [h.counted]
    omega

theorem InStep.insert (reachable : ImageKey → Bool) : (c.insert key data reachable).1.InStep (uses ++ [key]) := by
  rw [insert_eq h]
  exact (h.stored key data).evictLoop _

end

theorem InStep.get (h : c.InStep uses) (key : ImageKey) :
    (c.get key).1.InStep (if c.Holds key then uses ++ [key] else uses) := by
  unfold ImageCache.get
  cases hentry : c.images.lookup key with
  | some entry =>
    have hheld : c.Holds key := by
      unfold Holds
      rw [hentry]
      rfl
    rw [if_pos hheld]
    refine ⟨fun k hk => mem_append_left _ (h.used k hk), ?_, h.counted⟩
    show touch key c.lru = (uses ++ [key]).dedup.filter fun k => c.Holds k
    rw [dedup_concat]
    unfold touch
    have hkey : ([key].filter fun k => c.Holds k) = [key] :=
      filter_eq_self.mpr fun k hk => decide_eq_true (mem_singleton.mp hk ▸ hheld)
    rw [filter_append, hkey, h.order, filter_filter, filter_filter]
    congr 1
    exact filter_congr fun k _ => Bool.and_comm ..
  | none =>
    have hmissing : ¬c.Holds key := by
      unfold Holds
      rw [hentry]
      exact nofun
    rw [if_neg hmissing]
    exact h

theorem counted_removeImages (keys : List ImageKey) (h : c.memoryUsed = c.storedBytes) :
    (keys.foldl removeImage c).memoryUsed = (keys.foldl removeImage c).storedBytes := by
  induction keys generalizing c with
  | nil => exact h
  | cons key keys ih => exact ih (counted_removeImage h key)

theorem InStep.dropPane (h : c.InStep uses) (paneId : PaneId) : (c.dropPane paneId).InStep uses := by
  have hholds : ∀ k, (c.dropPane paneId).Holds k ↔ k.1 ≠ paneId ∧ c.Holds k := by
    intro k
    unfold Holds
    rw [lookup_dropPane]
    by_cases hk : k.1 = paneId <;> simp [hk]
  refine ⟨fun k hk => h.used k ((hholds k).mp hk).2, ?_, counted_removeImages _ h.counted⟩
  show c.lru.filter (·.1 ≠ paneId) = _
  rw [h.order, filter_filter]
  refine filter_congr fun k _ => ?_
  rw [Bool.eq_iff_iff]
  simp [hholds]

/-- What an insert evicts. -/
theorem mem_insert_iff (h : c.InStep uses) (key : ImageKey) (data : RenderableImageData) (reachable : ImageKey → Bool)
    (k : ImageKey) : k ∈ (c.insert key data reachable).2 ↔ (c.stored key data).Squeezed reachable k := by
  rw [insert_eq h]
  exact mem_evictLoop_iff _ (h.stored key data).nodup le_rfl

/-! ## Runs -/

/-- **What an insert does besides**: the soft cap, and what it evicts. -/
structure InsertSpec (c : ImageCache) (key : ImageKey) (data : RenderableImageData) (reachable : ImageKey → Bool) :
    Prop where
  /-- Within the cap, or nothing is left that may be evicted. -/
  bounded : (c.insert key data reachable).1.memoryUsed ≤ c.memoryCap
    ∨ ∀ k, (c.insert key data reachable).1.Holds k → reachable k = true
  /-- No reachable entry is evicted. -/
  spared : ∀ k ∈ (c.insert key data reachable).2, reachable k = false
  /-- The keys returned are those removed. -/
  exact : ∀ k, k ∈ (c.insert key data reachable).2
    ↔ (k = key ∨ c.Holds k) ∧ ¬(c.insert key data reachable).1.Holds k
  /-- They are the least recently used of the unreachable keys, in order. -/
  oldest : (c.insert key data reachable).2 <+: (touch key c.lru).filter (!reachable ·)
  /-- What stays is unchanged. -/
  kept : ∀ k, (c.insert key data reachable).1.Holds k →
    (c.insert key data reachable).1.images.lookup k = if k = key then some data else c.images.lookup k

theorem memoryCap_evictLoop (reachable : ImageKey → Bool) (fuel : Nat) (c : ImageCache) :
    (evictLoop reachable fuel c).1.memoryCap = c.memoryCap := by
  induction fuel generalizing c with
  | zero => rfl
  | succ fuel ih =>
    unfold evictLoop
    split
    · rfl
    · split
      · rfl
      · next victim _ =>
        rw [ih]
        unfold evict removeImage
        split <;> rfl

theorem InStep.insertSpec (h : c.InStep uses) (key : ImageKey) (data : RenderableImageData)
    (reachable : ImageKey → Bool) : c.InsertSpec key data reachable := by
  have heq := insert_eq h key data reachable
  have hafter := h.insert key data reachable
  have hlookup := lookup_insert c key data reachable
  refine ⟨?_, fun k => not_reachable_of_mem_insert, fun k => ?_, ?_, fun k hk => ?_⟩
  · have hdone := evictUntilUnderCap_done (c.stored key data) reachable
    rw [← heq] at hdone
    have hcap : (c.insert key data reachable).1.memoryCap = c.memoryCap := by
      rw [heq]
      exact memoryCap_evictLoop ..
    rw [hcap] at hdone
    exact hdone.imp_right fun hall k hk => hall k ((hafter.mem_lru k).mpr hk)
  · have hstored := (h.stored key data).nodup
    unfold Holds
    rw [hlookup]
    constructor
    · intro hmem
      rw [if_pos hmem]
      refine ⟨?_, nofun⟩
      rw [heq] at hmem
      have hfirst : ((c.stored key data).evictUntilUnderCap reachable).2 <+: (touch key c.lru).filter (!reachable ·) :=
        evictLoop_oldest _ hstored
      have htouched : k ∈ touch key c.lru := mem_of_mem_filter (hfirst.subset hmem)
      exact (mem_touch.mp htouched).imp_right (h.mem_lru k).mp
    · rintro ⟨hold, hgone⟩
      by_contra hmem
      rw [if_neg hmem] at hgone
      by_cases hk : k = key
      · rw [if_pos hk] at hgone
        exact hgone rfl
      · rw [if_neg hk] at hgone
        exact hgone (hold.resolve_left hk)
  · rw [heq]
    exact evictLoop_oldest _ (h.stored key data).nodup
  · have hnot : k ∉ (c.insert key data reachable).2 := by
      intro hmem
      unfold Holds at hk
      rw [hlookup, if_pos hmem] at hk
      cases hk
    rw [hlookup, if_neg hnot]

end ImageCache

/-- The operations of the cache; the oracle of an insert says what is reachable at that time. -/
inductive ImageCacheOp where
  | insert (key : ImageKey) (data : RenderableImageData) (reachable : ImageKey → Bool)
  | get (key : ImageKey)
  | dropPane (paneId : PaneId)

namespace ImageCacheOp

/-- Performs an operation. -/
def apply (c : ImageCache) : ImageCacheOp → ImageCache
  | insert key data reachable => (c.insert key data reachable).1
  | get key => (c.get key).1
  | dropPane paneId => c.dropPane paneId

/-- The key that the operation uses: an insert its own, a lookup the key it hits. -/
def uses (c : ImageCache) : ImageCacheOp → List ImageKey
  | insert key _ _ => [key]
  | get key => if c.Holds key then [key] else []
  | dropPane _ => []

/-- Performs an operation and records the use. -/
def step (s : ImageCache × List ImageKey) (op : ImageCacheOp) : ImageCache × List ImageKey :=
  (op.apply s.1, s.2 ++ op.uses s.1)

end ImageCacheOp

namespace ImageCache

theorem inStep_withMemoryCap (memoryCap : Nat) : (withMemoryCap memoryCap).InStep [] := ⟨nofun, rfl, rfl⟩

theorem InStep.step {s : ImageCache × List ImageKey} (h : s.1.InStep s.2) (op : ImageCacheOp) :
    (op.step s).1.InStep (op.step s).2 := by
  cases op with
  | insert key data reachable => exact h.insert key data reachable
  | get key =>
    have hget := h.get key
    show (s.1.get key).1.InStep (s.2 ++ if s.1.Holds key then [key] else [])
    split at hget
    · next hheld =>
      rw [if_pos hheld]
      exact hget
    · next hmissing =>
      rw [if_neg hmissing, append_nil]
      exact hget
  | dropPane paneId =>
    show (s.1.dropPane paneId).InStep (s.2 ++ [])
    rw [append_nil]
    exact h.dropPane paneId

/-- **Map, order and counter agree in every run.** The list of the order has each cached key once and nothing else, in
    the order of last use; the counter is the size of all entries; and every insert from there is bounded, spares what
    is reachable, and returns what it removed, oldest first. -/
theorem inStep_run (memoryCap : Nat) (ops : List ImageCacheOp) :
    let s := run ImageCacheOp.step (withMemoryCap memoryCap, []) ops
    s.1.lru.Nodup ∧ (∀ key, key ∈ s.1.lru ↔ s.1.Holds key)
      ∧ s.1.lru = s.2.dedup.filter (fun key => s.1.Holds key)
      ∧ s.1.memoryUsed = s.1.storedBytes
      ∧ ∀ key data reachable, s.1.InsertSpec key data reachable := by
  intro s
  have h : s.1.InStep s.2 :=
    run_invariant (I := fun s : ImageCache × List ImageKey => s.1.InStep s.2) (fun _ op hs => hs.step op) (inStep_withMemoryCap memoryCap) ops
  exact ⟨h.nodup, h.mem_lru, h.order, h.counted, fun key data reachable => h.insertSpec key data reachable⟩

end ImageCache

end OriTerm
