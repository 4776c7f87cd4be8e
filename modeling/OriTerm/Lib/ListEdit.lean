import Mathlib.Data.List.Rotate

/-!
# `Lib.ListEdit` — editing a list in place

Counterparts of the in-place slice operations of imperative code, over arbitrary elements: rewriting an index
range (`mapRange`), resizing with a fill value (`resize`), exchanging two positions (`swap`) and inserting
a whole slice by rotation. Each one is described position by position through `getElem?`, which also fixes
the length.
-/

namespace Lib

open List Option

variable {α : Type*}

/-- Editing at the seam of an append edits the head of the second part. -/
theorem modify_length_append (l r : List α) (a : α) (f : α → α) : (l ++ a :: r).modify l.length f = l ++ f a :: r := by
  induction l with
  | nil => simp
  | cons b l ih => simp [ih]

/-- Reading every position of a list in order gives the list. -/
theorem filterMap_range_getElem? (l : List α) : (List.range l.length).filterMap (fun i => l[i]?) = l := by
  induction l with
  | nil => rfl
  | cons a l ih =>
    rw [length_cons, range_succ_eq_map]
    simpa [Function.comp_def] using ih

/-! ## A range of positions -/

/-- `f` applied at the positions `s ≤ i < e`. -/
def mapRange (s e : Nat) (f : α → α) (l : List α) : List α :=
  l.mapIdx fun i a => if s ≤ i ∧ i < e then f a else a

@[simp] theorem length_mapRange (s e : Nat) (f : α → α) (l : List α) : (mapRange s e f l).length = l.length := by
  simp [mapRange]

theorem getElem?_mapRange (s e : Nat) (f : α → α) (l : List α) (i : Nat) :
    (mapRange s e f l)[i]? = l[i]?.map fun a => if s ≤ i ∧ i < e then f a else a := by
  simp [mapRange]

theorem mem_mapRange {s e : Nat} {f : α → α} {l : List α} {b : α} (h : b ∈ mapRange s e f l) :
    b ∈ l ∨ ∃ a ∈ l, b = f a := by
  obtain ⟨i, hi⟩ := mem_iff_getElem?.mp h
  rw [getElem?_mapRange] at hi
  cases ha : l[i]? with
  | none => simp [ha] at hi
  | some a =>
    have hmem := mem_of_getElem? ha
    rw [ha] at hi
    by_cases hr : s ≤ i ∧ i < e
    · exact .inr ⟨a, hmem, by simpa [hr] using hi.symm⟩
    · left
      have hab : a = b := by simpa [hr] using hi
      exact hab ▸ hmem

/-! ## Resizing -/

/-- Cut to `n` elements, or padded with `a` up to `n`. -/
def resize (n : Nat) (a : α) (l : List α) : List α := l.take n ++ List.replicate (n - l.length) a

@[simp] theorem length_resize (n : Nat) (a : α) (l : List α) : (resize n a l).length = n := by
  simp [resize]
  omega

theorem getElem?_resize (n : Nat) (a : α) (l : List α) (i : Nat) :
    (resize n a l)[i]? = if i < n then some (l[i]?.getD a) else none := by
  unfold resize
  rw [getElem?_append, getElem?_take, getElem?_replicate, length_take]
  by_cases hl : i < l.length
  · by_cases hn : i < n
    · have hmin : i < min n l.length := by omega
      simp [hl, hmin]
    · have hmin : ¬ i < min n l.length := by omega
      have hpad : ¬ i - min n l.length < n - l.length := by omega
      simp only [hn, hmin, hpad, if_false]
  · have hmin : ¬ i < min n l.length := by omega
    have hnone : l[i]? = none := getElem?_eq_none (by omega)
    by_cases hn : i < n
    · have hpad : i - min n l.length < n - l.length := by omega
      simp only [hn, hmin, hpad, hnone, if_false, getD_none]
    · have hpad : ¬ i - min n l.length < n - l.length := by omega
      simp [hn, hpad]

/-! ## Rotating a range of positions -/

/-- The positions `s ≤ i < e` rotated left by `k`. -/
def rotateRange (s e k : Nat) (l : List α) : List α :=
  l.take s ++ (((l.drop s).take (e - s)).rotate k ++ l.drop (s + (e - s)))

theorem perm_rotateRange (s e k : Nat) (l : List α) : (rotateRange s e k l).Perm l := by
  have hmid : (((l.drop s).take (e - s)).rotate k).Perm ((l.drop s).take (e - s)) :=
    rotate_perm ..
  have hsplit : (l.drop s).take (e - s) ++ l.drop (s + (e - s)) = l.drop s := by
    rw [← drop_drop, take_append_drop]
  have hwhole : l.take s ++ ((l.drop s).take (e - s) ++ l.drop (s + (e - s))) = l := by
    rw [hsplit, take_append_drop]
  have hperm := (hmid.append_right (l.drop (s + (e - s)))).append_left (l.take s)
  rw [hwhole] at hperm
  exact hperm

@[simp] theorem length_rotateRange (s e k : Nat) (l : List α) :
    (rotateRange s e k l).length = l.length := (perm_rotateRange s e k l).length_eq

/-- Outside the range nothing moves. -/
theorem getElem?_rotateRange {s e i : Nat} (k : Nat) (l : List α) (h : i < s ∨ e ≤ i) :
    (rotateRange s e k l)[i]? = l[i]? := by
  unfold rotateRange
  rcases Nat.lt_or_ge i s with hs | hs
  · by_cases hl : i < l.length
    · rw [getElem?_append_left (by rw [length_take]; omega), getElem?_take,
        if_pos hs]
    · rw [getElem?_eq_none (by simp; omega), getElem?_eq_none (by omega)]
  · by_cases hl : i < l.length
    · rw [getElem?_append_right (by rw [length_take]; omega),
        getElem?_append_right (by simp; omega), getElem?_drop]
      congr 1
      simp only [length_take, length_rotate, length_drop]
      omega
    · rw [getElem?_eq_none (by simp; omega), getElem?_eq_none (by omega)]

/-- A range rotated by one: each element moves to the front by one, and the first becomes the last. -/
theorem getElem?_rotateRange_one {s e : Nat} (l : List α) (hs : s < e) (he : e ≤ l.length) (i : Nat) :
    (rotateRange s e 1 l)[i]? = if s ≤ i ∧ i + 1 < e then l[i + 1]? else if i + 1 = e then l[s]? else l[i]? := by
  by_cases hin : s ≤ i ∧ i < e
  · have hlen : ((l.drop s).take (e - s)).length = e - s := by
      rw [length_take, length_drop]
      omega
    have htake : (l.take s).length = s := by
      rw [length_take]
      omega
    unfold rotateRange
    rw [getElem?_append_right (by omega), htake, getElem?_append_left (by rw [length_rotate]; omega),
      getElem?_rotate (by omega), hlen, getElem?_take, getElem?_drop]
    by_cases hlast : i + 1 = e
    · have hmod : (i - s + 1) % (e - s) = 0 := by
        have heq : i - s + 1 = e - s := by omega
        rw [heq, Nat.mod_self]
      rw [hmod, if_pos (by omega), if_neg (by omega), if_pos hlast, Nat.add_zero]
    · have hmod : (i - s + 1) % (e - s) = i - s + 1 := Nat.mod_eq_of_lt (by omega)
      have hpos : s + (i - s + 1) = i + 1 := by omega
      rw [hmod, if_pos (by omega), if_pos (by omega), hpos]
  · rw [getElem?_rotateRange 1 l (by omega), if_neg (by omega), if_neg (by omega)]

/-- Rotating a whole list by the length of its first part exchanges the two parts. -/
theorem rotateRange_append (a b : List α) : rotateRange 0 (a ++ b).length a.length (a ++ b) = b ++ a := by
  unfold rotateRange
  rw [Nat.sub_zero, Nat.zero_add, take_zero, drop_zero, take_length, drop_length,
    nil_append, append_nil, rotate_append_length_eq]

/-- A range that is the second part of a list. -/
theorem mapRange_append (f : α → α) (a b : List α) : mapRange a.length (a ++ b).length f (a ++ b) = a ++ b.map f := by
  apply ext_getElem?
  intro i
  rw [getElem?_mapRange]
  rcases Nat.lt_or_ge i a.length with hi | hi
  · rw [getElem?_append_left hi, getElem?_append_left hi]
    have hnot : ¬ (a.length ≤ i ∧ i < (a ++ b).length) := by omega
    simp only [if_neg hnot, Option.map_id']
  · rw [getElem?_append_right hi, getElem?_append_right hi, getElem?_map]
    cases hb : b[i - a.length]? with
    | none => rfl
    | some x =>
      have hlt := (List.getElem?_eq_some_iff.mp hb).1
      rw [map_some, map_some, if_pos ⟨hi, by rw [length_append]; omega⟩]

/-! ## Exchanging two positions -/

/-- The elements at `i` and `j` exchanged; out of range nothing happens. -/
def swap (i j : Nat) (l : List α) : List α :=
  match l[i]?, l[j]? with
  | some a, some b => (l.set i b).set j a
  | _, _ => l

@[simp] theorem length_swap (i j : Nat) (l : List α) : (swap i j l).length = l.length := by
  unfold swap
  split <;> simp

/-- The first position receives the element of the second. -/
theorem getElem?_swap_left {i j : Nat} {l : List α} (hi : i < l.length) (hj : j < l.length) :
    (swap i j l)[i]? = l[j]? := by
  unfold swap
  rw [getElem?_eq_getElem hi, getElem?_eq_getElem hj]
  by_cases hij : j = i
  · subst hij
    rw [getElem?_set_self (by simpa using hj)]
  · rw [getElem?_set_ne hij, getElem?_set_self hi]

/-- Other positions are not touched. -/
theorem getElem?_swap {i j k : Nat} (l : List α) (hi : i ≠ k) (hj : j ≠ k) : (swap i j l)[k]? = l[k]? := by
  unfold swap
  split
  · rw [getElem?_set_ne hj, getElem?_set_ne hi]
  · rfl

end Lib
