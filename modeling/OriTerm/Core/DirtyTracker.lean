import Mathlib.Algebra.Group.Nat.Defs
import OriTerm.Lib.ListEdit

/-!
# `Core.DirtyTracker` — which columns of which lines changed

Each visible line has damage bounds: a dirty flag and an inclusive column range. `markAll` is the shortcut for
operations that invalidate everything.

`Covers d line col` is what a mark promises: a renderer that repaints what the tracker reports repaints the
cell `(line, col)`. `Grows d d'` says that `d'` covers whatever `d` covered, which every marking operation
satisfies; only `drain` forgets. `mark` sets the full-width bounds instead of widening the old ones, so
`Grows` speaks about the columns of the screen only.
-/

namespace OriTerm

open Lib

/-- `usize::MAX`. -/
def usizeMax : Nat := 2 ^ 64 - 1

/-- Damage bounds of one line. The columns of a clean line mean nothing. -/
structure LineDamageBounds where
  dirty : Bool
  left : Nat
  right : Nat
  deriving DecidableEq, Repr

namespace LineDamageBounds

def clean : LineDamageBounds := { dirty := false, left := usizeMax, right := 0 }

/-- Widens the damage to include `[left, right]`. -/
def expand (b : LineDamageBounds) (left right : Nat) : LineDamageBounds :=
  { dirty := true, left := min b.left left, right := max b.right right }

/-- The whole line. -/
def markFull (_b : LineDamageBounds) (cols : Nat) : LineDamageBounds :=
  { dirty := true, left := 0, right := cols - 1 }

def reset (_b : LineDamageBounds) : LineDamageBounds := clean

end LineDamageBounds

/-- A dirty line as reported by `drain`. -/
structure DirtyLine where
  line : Nat
  left : Nat
  right : Nat
  deriving DecidableEq, Repr

/-- Tracks which rows have changed since the last read. -/
structure DirtyTracker where
  lines : List LineDamageBounds
  cols : Nat
  /-- Everything changed: resize, scroll, alternate screen swap. -/
  allDirty : Bool
  deriving DecidableEq, Repr

namespace DirtyTracker

def new (numLines cols : Nat) : DirtyTracker :=
  { lines := List.replicate numLines .clean, cols, allDirty := false }

/-- Marks a line fully dirty. -/
def mark (d : DirtyTracker) (line : Nat) : DirtyTracker :=
  { d with lines := d.lines.modify line (·.markFull d.cols) }

/-- Marks the columns `left ..= right` of a line. -/
def markCols (d : DirtyTracker) (line left right : Nat) : DirtyTracker :=
  { d with lines := d.lines.modify line (·.expand left right) }

/-- Marks everything dirty. -/
def markAll (d : DirtyTracker) : DirtyTracker := { d with allDirty := true }

/-- Marks the lines `start ≤ i < stop`; a range over all lines takes the `markAll` shortcut. -/
def markRange (d : DirtyTracker) (start stop : Nat) : DirtyTracker :=
  if start = 0 ∧ stop ≥ d.lines.length then d.markAll
  else { d with lines := mapRange start stop (·.markFull d.cols) d.lines }

def isAnyDirty (d : DirtyTracker) : Bool := d.allDirty || d.lines.any (·.dirty)

/-- Inclusive column bounds of a line, if it is dirty. -/
def colBounds (d : DirtyTracker) (line : Nat) : Option (Nat × Nat) :=
  if d.allDirty then some (0, d.cols - 1)
  else (d.lines[line]?.filter (·.dirty)).map fun b => (b.left, b.right)

/-- The dirty lines, and the tracker reset to clean. -/
def drain (d : DirtyTracker) : DirtyTracker × List DirtyLine :=
  let report := d.lines.zipIdx.filterMap fun (b, i) =>
    if d.allDirty && !b.dirty then some { line := i, left := 0, right := d.cols - 1 }
    else if b.dirty then some { line := i, left := b.left, right := b.right }
    else none
  ({ d with lines := d.lines.map (·.reset), allDirty := false }, report)

/-- New dimensions; everything becomes dirty only when one of them changed. -/
def resize (d : DirtyTracker) (numLines cols : Nat) : DirtyTracker :=
  let changed := d.cols ≠ cols ∨ d.lines.length ≠ numLines
  let d' := { d with cols := cols, lines := Lib.resize numLines .clean d.lines }
  if changed then d'.markAll else d'

/-! ## What is covered -/

/-- The damage covers the cell `(line, col)`. -/
def Covers (d : DirtyTracker) (line col : Nat) : Prop :=
  d.allDirty = true ∨ ∃ b, d.lines[line]? = some b ∧ b.dirty = true ∧ b.left ≤ col ∧ col ≤ b.right

/-- Same dimensions, and everything covered stays covered. -/
structure Grows (d d' : DirtyTracker) : Prop where
  cols : d'.cols = d.cols
  lines : d'.lines.length = d.lines.length
  all : d.allDirty = true → d'.allDirty = true
  covers : ∀ line col, col < d.cols → d.Covers line col → d'.Covers line col

@[refl] theorem Grows.refl (d : DirtyTracker) : Grows d d := ⟨rfl, rfl, id, fun _ _ _ h => h⟩

variable {d : DirtyTracker}

theorem Grows.trans {d' d'' : DirtyTracker} (h : Grows d d') (h' : Grows d' d'') : Grows d d'' :=
  ⟨h'.cols.trans h.cols, h'.lines.trans h.lines, h'.all ∘ h.all,
    fun line col hc hcov => h'.covers line col (by rw [h.cols]; exact hc) (h.covers line col hc hcov)⟩

/-- Editing the bounds of some lines grows the damage when each edit keeps what its bounds covered. -/
theorem Grows.of_bounds {lines : List LineDamageBounds} (hlen : lines.length = d.lines.length)
    (h : ∀ (i : Nat) (b : LineDamageBounds), d.lines[i]? = some b → ∃ b', lines[i]? = some b' ∧ ∀ col < d.cols, b.dirty = true → b.left ≤ col → col ≤ b.right → b'.dirty = true ∧ b'.left ≤ col ∧ col ≤ b'.right) :
    Grows d { d with lines := lines } := by
  refine ⟨rfl, hlen, id, ?_⟩
  intro line col hc hcov
  rcases hcov with hall | ⟨b, hb, hd, hl, hr⟩
  · exact .inl hall
  · obtain ⟨b', hb', hkeep⟩ := h line b hb
    exact .inr ⟨b', hb', hkeep col hc hd hl hr⟩

section

variable (d : DirtyTracker)

theorem grows_mark (line : Nat) : Grows d (d.mark line) := by
  apply Grows.of_bounds (by simp)
  intro i b hb
  by_cases hi : line = i
  · refine ⟨b.markFull d.cols, by simp [hi, hb], ?_⟩
    intro col hc _ _ _
    exact ⟨rfl, Nat.zero_le _, by simp only [LineDamageBounds.markFull]; omega⟩
  · exact ⟨b, by simp [hi, hb], fun _ _ hd hl hr => ⟨hd, hl, hr⟩⟩

theorem grows_markCols (line left right : Nat) : Grows d (d.markCols line left right) := by
  apply Grows.of_bounds (by simp)
  intro i b hb
  by_cases hi : line = i
  · refine ⟨b.expand left right, by simp [hi, hb], ?_⟩
    intro col _ _ hl hr
    refine ⟨rfl, ?_, ?_⟩
    · exact Nat.le_trans (Nat.min_le_left ..) hl
    · exact Nat.le_trans hr (Nat.le_max_left ..)
  · exact ⟨b, by simp [hi, hb], fun _ _ hd hl hr => ⟨hd, hl, hr⟩⟩

theorem grows_markAll : Grows d d.markAll :=
  ⟨rfl, rfl, fun _ => rfl, fun _ _ _ _ => .inl rfl⟩

theorem grows_markRange (start stop : Nat) : Grows d (d.markRange start stop) := by
  unfold markRange
  split
  · exact grows_markAll d
  · apply Grows.of_bounds (by simp)
    intro i b hb
    rw [getElem?_mapRange, hb]
    by_cases hi : start ≤ i ∧ i < stop
    · refine ⟨b.markFull d.cols, by simp [hi], ?_⟩
      intro col hc _ _ _
      exact ⟨rfl, Nat.zero_le _, by simp only [LineDamageBounds.markFull]; omega⟩
    · exact ⟨b, by simp [hi], fun _ _ hd hl hr => ⟨hd, hl, hr⟩⟩

theorem covers_markAll (line col : Nat) : d.markAll.Covers line col := .inl rfl

end

theorem covers_mark {line col : Nat} (hl : line < d.lines.length) (hc : col < d.cols) :
    (d.mark line).Covers line col := by
  refine .inr ⟨d.lines[line].markFull d.cols, ?_, rfl, Nat.zero_le _, ?_⟩
  · simp [mark, hl]
  · simp only [LineDamageBounds.markFull]
    omega

theorem covers_markCols {line left right col : Nat} (h : line < d.lines.length) (hl : left ≤ col) (hr : col ≤ right) :
    (d.markCols line left right).Covers line col := by
  refine .inr ⟨d.lines[line].expand left right, ?_, rfl, ?_, ?_⟩
  · simp [markCols, h]
  · exact Nat.le_trans (Nat.min_le_right ..) hl
  · exact Nat.le_trans hr (Nat.le_max_right ..)

theorem covers_markRange {start stop line col : Nat} (h : line < d.lines.length) (hs : start ≤ line)
    (he : line < stop) (hc : col < d.cols) : (d.markRange start stop).Covers line col := by
  unfold markRange
  split
  · exact covers_markAll d line col
  · refine .inr ⟨d.lines[line].markFull d.cols, ?_, rfl, Nat.zero_le _, ?_⟩
    · rw [getElem?_mapRange, List.getElem?_eq_getElem h, Option.map_some, if_pos ⟨hs, he⟩]
    · simp only [LineDamageBounds.markFull]
      omega

/-- A resize to other dimensions invalidates everything. -/
theorem allDirty_resize {numLines cols : Nat} (h : d.allDirty = true ∨ d.cols ≠ cols ∨ d.lines.length ≠ numLines) :
    (d.resize numLines cols).allDirty = true := by
  unfold resize
  by_cases hchanged : d.cols ≠ cols ∨ d.lines.length ≠ numLines
  · rw [if_pos hchanged]
    rfl
  · rw [if_neg hchanged]
    exact h.resolve_right hchanged

@[simp] theorem cols_resize (d : DirtyTracker) (numLines cols : Nat) : (d.resize numLines cols).cols = cols := by
  unfold resize
  dsimp only
  split <;> rfl

@[simp] theorem length_lines_resize (d : DirtyTracker) (numLines cols : Nat) :
    (d.resize numLines cols).lines.length = numLines := by
  unfold resize
  dsimp only
  split <;> simp [markAll]

end DirtyTracker

end OriTerm
