import OriTerm.Lib.Ring
import OriTerm.Core.Row

/-!
# `Core.ScrollbackBuffer` — the scrollback ring

Rows that leave the top of the screen are kept in a ring that grows up to `maxScrollback` rows and then
overwrites its oldest entry. The structure carries the layout facts that the index arithmetic of the source
relies on: the slots in use exist, the storage never exceeds the limit, and the start moves only once the
storage has reached it.

`rows` is what the ring means, its rows from the oldest to the newest, and each operation is described by its
effect on `rows`: a bounded queue at whose new end rows may also be taken back (`rows_push`,
`rows_popNewest`).
-/

namespace OriTerm

open Lib List

/-- Default maximum scrollback lines. -/
def defaultMaxScrollback : Nat := 10000

/-- Ring buffer for scrollback history. -/
structure ScrollbackBuffer where
  inner : List Row
  maxScrollback : Nat
  len : Nat
  /-- Index of the oldest row when the buffer is full. -/
  start : Nat
  len_le : len ≤ inner.length
  inner_le : inner.length ≤ maxScrollback
  start_lt : start ≠ 0 → start < inner.length ∧ inner.length = maxScrollback

namespace ScrollbackBuffer

/-- An empty buffer with the given limit. -/
def new (maxScrollback : Nat) : ScrollbackBuffer :=
  { inner := [], maxScrollback, len := 0, start := 0
    len_le := Nat.le_refl 0
    inner_le := Nat.zero_le _
    start_lt := fun h => absurd rfl h }

/-- Adds a row. Once the buffer is full the oldest row is evicted and returned; with no room at all the
    pushed row itself is. -/
def push (sb : ScrollbackBuffer) (row : Row) : ScrollbackBuffer × Option Row :=
  if h0 : sb.maxScrollback = 0 then (sb, some row)
  else if h : sb.len < sb.maxScrollback then
    if h' : sb.len < sb.inner.length then
      -- A slot left behind by `popNewest` is used again.
      ({ inner := sb.inner.set ((sb.start + sb.len) % sb.inner.length) row
         maxScrollback := sb.maxScrollback, len := sb.len + 1, start := sb.start
         len_le := by rw [length_set]; exact h'
         inner_le := by rw [length_set]; exact sb.inner_le
         start_lt := by rw [length_set]; exact sb.start_lt }, none)
    else
      ({ inner := sb.inner ++ [row]
         maxScrollback := sb.maxScrollback, len := sb.len + 1, start := sb.start
         len_le := by rw [length_append, length_singleton]; have := sb.len_le; omega
         inner_le := by rw [length_append, length_singleton]; have := sb.len_le; omega
         start_lt := fun hs => by have := sb.start_lt hs; omega }, none)
  else
    ({ inner := sb.inner.set sb.start row
       maxScrollback := sb.maxScrollback, len := sb.len
       start := (sb.start + 1) % sb.maxScrollback
       len_le := by rw [length_set]; exact sb.len_le
       inner_le := by rw [length_set]; exact sb.inner_le
       start_lt := fun _ => by
         have hmod := Nat.mod_lt (sb.start + 1) (Nat.pos_of_ne_zero h0)
         have := sb.len_le
         have := sb.inner_le
         rw [length_set]
         omega }, some (sb.inner.getD sb.start (Row.new 0)))

/-- Physical index of a logical one (0 = newest). -/
def physicalIndex (sb : ScrollbackBuffer) (logical : Nat) : Nat :=
  (sb.start + sb.len - 1 - logical) % sb.inner.length

/-- A row by logical index: 0 is the most recent, `len - 1` the oldest. -/
def get (sb : ScrollbackBuffer) (index : Nat) : Option Row :=
  if index ≥ sb.len then none else sb.inner[sb.physicalIndex index]?

/-- Takes the most recently pushed row back. Its slot stays, logically unused. -/
def popNewest (sb : ScrollbackBuffer) : ScrollbackBuffer × Option Row :=
  if sb.len = 0 then (sb, none)
  else
    let newestIdx := sb.physicalIndex 0
    ({ inner := sb.inner.set newestIdx (Row.new 0)
       maxScrollback := sb.maxScrollback, len := sb.len - 1, start := sb.start
       len_le := by rw [length_set]; exact Nat.le_trans (Nat.sub_le ..) sb.len_le
       inner_le := by rw [length_set]; exact sb.inner_le
       start_lt := by rw [length_set]; exact sb.start_lt }, sb.inner[newestIdx]?)

/-- Forgets all rows; the limit stays. -/
def clear (sb : ScrollbackBuffer) : ScrollbackBuffer := new sb.maxScrollback

/-- Pushes the rows in order and counts the evictions. -/
def pushAll (sb : ScrollbackBuffer) (rows : List Row) : ScrollbackBuffer × Nat :=
  rows.foldl (fun (sb, evicted) row =>
    let (sb, out) := sb.push row
    (sb, if out.isSome then evicted + 1 else evicted)) (sb, 0)

/-- Takes the `n` most recent rows off the buffer. -/
def popMany (sb : ScrollbackBuffer) : Nat → ScrollbackBuffer
  | 0 => sb
  | n + 1 => sb.popNewest.1.popMany n

/-- All rows oldest first; the buffer is left empty. -/
def drainOldestFirst (sb : ScrollbackBuffer) : ScrollbackBuffer × List Row :=
  if sb.len = 0 then (sb, [])
  else (sb.clear, (List.range sb.len).reverse.filterMap fun i => sb.inner[sb.physicalIndex i]?)

/-! ## What the ring holds -/

/-- The rows of the buffer, oldest first. -/
def rows (sb : ScrollbackBuffer) : List Row := window sb.inner sb.start sb.len

@[simp] theorem length_rows (sb : ScrollbackBuffer) : sb.rows.length = sb.len :=
  length_window sb.start sb.len_le

@[simp] theorem rows_new (maxScrollback : Nat) : (new maxScrollback).rows = [] := by simp [rows, new]

section

variable (sb : ScrollbackBuffer)
include sb

@[simp] theorem rows_clear : sb.clear.rows = [] := by simp [clear]

@[simp] theorem len_clear : sb.clear.len = 0 := rfl

@[simp] theorem maxScrollback_clear :
    sb.clear.maxScrollback = sb.maxScrollback := rfl

theorem len_le_max : sb.len ≤ sb.maxScrollback :=
  Nat.le_trans sb.len_le sb.inner_le

/-- A logical index counted from the newest row is a position counted from the oldest. -/
theorem getElem?_physicalIndex {i : Nat} (h : i < sb.len) :
    sb.inner[sb.physicalIndex i]? = sb.rows[sb.len - 1 - i]? := by
  have hpos : sb.len - 1 - i < sb.len := by omega
  have hidx : sb.start + sb.len - 1 - i = sb.start + (sb.len - 1 - i) := by omega
  unfold rows physicalIndex
  rw [getElem?_window hpos sb.len_le, hidx]

/-- **Reading by logical index** reads `rows` from its end. -/
theorem get_eq (i : Nat) : sb.get i = if i < sb.len then sb.rows[sb.len - 1 - i]? else none := by
  unfold get
  by_cases h : i < sb.len
  · rw [if_neg (by omega), if_pos h, getElem?_physicalIndex sb h]
  · rw [if_pos (by omega), if_neg h]

/-- **Push**: with room the row is appended and nothing is evicted; a full buffer drops its oldest row; a
    buffer without capacity hands the row back. -/
theorem rows_push (row : Row) :
    (sb.push row).1.rows
        = (if sb.len < sb.maxScrollback then sb.rows ++ [row]
            else if sb.maxScrollback = 0 then [] else sb.rows.tail ++ [row])
      ∧ ((sb.push row).2.isSome ↔ sb.maxScrollback ≤ sb.len) := by
  have hle := sb.len_le_max
  unfold push
  by_cases h0 : sb.maxScrollback = 0
  · have hlen : sb.len = 0 := by omega
    have hrows : sb.rows = [] := length_eq_zero_iff.mp (by rw [length_rows, hlen])
    simp [h0, hrows]
  · rw [dif_neg h0]
    by_cases h : sb.len < sb.maxScrollback
    · rw [dif_pos h, if_pos h]
      by_cases h' : sb.len < sb.inner.length
      · rw [dif_pos h']
        exact ⟨window_set_end sb.start row h', by simp; omega⟩
      · rw [dif_neg h']
        have hlen : sb.len = sb.inner.length := Nat.le_antisymm sb.len_le (by omega)
        have hstart : sb.start = 0 := by
          by_contra hs
          have := sb.start_lt hs
          omega
        refine ⟨?_, by simp; omega⟩
        unfold rows
        dsimp only
        rw [hstart, hlen, window_append]
    · rw [dif_neg h, if_neg h, if_neg h0]
      have hlen : sb.inner.length = sb.maxScrollback := by
        have := sb.len_le
        have := sb.inner_le
        omega
      have hfull : sb.len = sb.inner.length := by omega
      have hs : sb.start < sb.inner.length := by
        by_cases hs : sb.start = 0
        · omega
        · exact (sb.start_lt hs).1
      refine ⟨?_, by simp; omega⟩
      unfold rows
      dsimp only
      rw [hfull, ← hlen]
      exact window_advance row hs

/-- What `push` evicts is the oldest row. -/
theorem evicted_push (row : Row) (h0 : sb.maxScrollback ≠ 0) (hfull : sb.maxScrollback ≤ sb.len) :
    (sb.push row).2 = sb.rows.head? := by
  have := sb.len_le
  have hs : sb.start < sb.inner.length := by
    by_cases hs : sb.start = 0
    · omega
    · exact (sb.start_lt hs).1
  unfold push rows
  rw [dif_neg h0, dif_neg (by omega), head?_window hs (by omega) sb.len_le]
  simp [hs]

@[simp] theorem maxScrollback_push (row : Row) : (sb.push row).1.maxScrollback = sb.maxScrollback := by
  unfold push
  split
  · rfl
  · split
    · split <;> rfl
    · rfl

/-- The number of rows after a push. -/
theorem len_push (row : Row) : (sb.push row).1.len = min (sb.len + 1) sb.maxScrollback := by
  have hle := sb.len_le_max
  unfold push
  split
  · dsimp only
    omega
  · split
    · split <;> (dsimp only; omega)
    · dsimp only
      omega

/-- **Pop**: the newest row leaves. -/
theorem rows_popNewest : sb.popNewest.1.rows = sb.rows.dropLast ∧ sb.popNewest.2 = sb.rows.getLast? := by
  unfold popNewest
  by_cases h0 : sb.len = 0
  · have hrows : sb.rows = [] := length_eq_zero_iff.mp (by rw [length_rows, h0])
    simp [h0, hrows]
  · rw [if_neg h0]
    have hle := sb.len_le
    refine ⟨?_, ?_⟩
    · have hslot : sb.physicalIndex 0 = (sb.start + (sb.len - 1)) % sb.inner.length := by
        unfold physicalIndex
        congr 1
        omega
      unfold rows
      dsimp only
      rw [hslot, window_set_behind sb.start _ (by omega)]
      conv_rhs => rw [show sb.len = sb.len - 1 + 1 by omega]
      rw [dropLast_window sb.start (by omega)]
    · dsimp only
      rw [getElem?_physicalIndex sb (by omega), getLast?_eq_getElem?, length_rows]
      rfl

@[simp] theorem maxScrollback_popNewest : sb.popNewest.1.maxScrollback = sb.maxScrollback := by
  unfold popNewest
  split <;> rfl

@[simp] theorem len_popNewest : sb.popNewest.1.len = sb.len - 1 := by
  unfold popNewest
  split
  · dsimp only
    omega
  · rfl

@[simp] theorem maxScrollback_popMany (n : Nat) : (sb.popMany n).maxScrollback = sb.maxScrollback := by
  induction n generalizing sb with
  | zero => rfl
  | succ n ih => rw [popMany, ih, maxScrollback_popNewest]

/-- Popping `n` rows leaves the older ones. -/
theorem rows_popMany (n : Nat) : (sb.popMany n).rows = sb.rows.take (sb.len - n) := by
  induction n generalizing sb with
  | zero => simp [popMany]
  | succ n ih =>
    rw [popMany, ih, (rows_popNewest sb).1, len_popNewest, dropLast_eq_take, take_take,
      length_rows]
    congr 1
    omega

/-- One push in terms of the rows and the eviction it may cause. -/
theorem rows_push_eq_drop (row : Row) :
    (sb.push row).1.rows = (sb.rows ++ [row]).drop (if (sb.push row).2.isSome then 1 else 0) := by
  obtain ⟨hrows, hout⟩ := rows_push sb row
  have hlen := length_rows sb
  by_cases hroom : sb.len < sb.maxScrollback
  · rw [if_neg (by rw [hout]; omega), hrows, if_pos hroom, drop_zero]
  · rw [if_pos (by rw [hout]; omega), hrows, if_neg hroom]
    cases hr : sb.rows with
    | nil =>
      have hmax : sb.maxScrollback = 0 := by rw [hr] at hlen; simp at hlen; omega
      simp [hmax]
    | cons r rs =>
      have hmax : sb.maxScrollback ≠ 0 := by
        have := sb.len_le_max
        rw [hr] at hlen
        simp at hlen
        omega
      simp [hmax]

theorem pushAll_concat (rows : List Row) (row : Row) :
    sb.pushAll (rows ++ [row])
      = (((sb.pushAll rows).1.push row).1,
          if ((sb.pushAll rows).1.push row).2.isSome then (sb.pushAll rows).2 + 1
          else (sb.pushAll rows).2) := by
  unfold pushAll
  rw [foldl_append]
  rfl

/-- **Pushing many rows** appends them and drops as many of the oldest as it counts. -/
theorem rows_pushAll (rows : List Row) :
    (sb.pushAll rows).1.rows = (sb.rows ++ rows).drop (sb.pushAll rows).2
      ∧ (sb.pushAll rows).1.maxScrollback = sb.maxScrollback
      ∧ (sb.pushAll rows).2 ≤ sb.len + rows.length := by
  induction rows using List.reverseRecOn with
  | nil => simp [pushAll]
  | append_singleton rows row ih =>
    obtain ⟨hrows, hmax, hle⟩ := ih
    have hlen : (sb.rows ++ rows).length = sb.len + rows.length := by
      rw [length_append, length_rows]
    rw [pushAll_concat]
    refine ⟨?_, ?_, ?_⟩
    · rw [rows_push_eq_drop, hrows, ← append_assoc,
        ← drop_append_of_le_length (by omega : (sb.pushAll rows).2 ≤ (sb.rows ++ rows).length),
        drop_drop]
      congr 1
      split <;> omega
    · rw [maxScrollback_push, hmax]
    · rw [length_append, length_singleton]
      split <;> omega

/-- The number of rows after many pushes. -/
theorem len_pushAll (rows : List Row) : (sb.pushAll rows).1.len = min (sb.len + rows.length) sb.maxScrollback := by
  induction rows using List.reverseRecOn with
  | nil => exact (Nat.min_eq_left sb.len_le_max).symm
  | append_singleton rows row ih =>
    rw [pushAll_concat, len_push, (sb.rows_pushAll rows).2.1, length_append, length_singleton]
    omega

@[simp] theorem len_popMany (n : Nat) : (sb.popMany n).len = sb.len - n := by
  rw [← length_rows, rows_popMany, length_take, length_rows]
  omega

/-- **Drain**: all rows oldest first, and an empty buffer. -/
theorem drainOldestFirst_eq :
    sb.drainOldestFirst.2 = sb.rows ∧ sb.drainOldestFirst.1.rows = []
      ∧ sb.drainOldestFirst.1.maxScrollback = sb.maxScrollback := by
  unfold drainOldestFirst
  by_cases h0 : sb.len = 0
  · have hrows : sb.rows = [] := length_eq_zero_iff.mp (by rw [length_rows, h0])
    simp [h0, hrows]
  · rw [if_neg h0]
    refine ⟨?_, rows_clear sb, rfl⟩
    have hread : ∀ i ∈ (List.range sb.len).reverse,
        sb.inner[sb.physicalIndex i]? = sb.rows.reverse[i]? := by
      intro i hi
      have hi : i < sb.len := by simpa using hi
      rw [getElem?_physicalIndex sb hi, getElem?_reverse (by simpa using hi), length_rows]
    rw [filterMap_congr hread, filterMap_reverse, ← length_rows, ← @length_reverse _ sb.rows,
      filterMap_range_getElem?, reverse_reverse]

end

end ScrollbackBuffer

end OriTerm
