import OriTerm.Image.SixelSheet
import Mathlib.Tactic.Positivity

/-!
# `Image.SixelDecode` — the decoder draws the sheet

The decoder's buffer shows the sheet as far as it reaches: `Shows` says that each pixel of the buffer has the bytes of
the plane, and that the buffer reaches all that is drawn within the limits; `Tight` that its sides are not larger than
what is drawn asks for. Setting one pixel keeps both or aborts (`tracks_setPixel`), from which a draw command, a byte
and a stream follow (`follows_run`). The rest of the parser's state is the lexer's and the sheet's (`Controls`).

The two differ in the pixels past the limit: the decoder stops at column `maxSixelDimension` and does not count what
it leaves out, whereas a row past the limit is counted and not drawn. **`decodeSixel_cases`** says what the decoder
returns for a stream, in terms of the sheet only.
-/

namespace OriTerm.Image

open Lib Lib.Raster List

open private Nat.nextPowerOfTwo.go from Init.Data.Nat.Power2.Basic

/-! ## Rounding -/

/-- The search for a power of two ends above `n`. -/
theorem le_nextPowerOfTwo_go {n : Nat} (power : Nat) (hpos : power > 0) : n ≤ Nat.nextPowerOfTwo.go n power hpos := by
  unfold Nat.nextPowerOfTwo.go
  split
  · exact le_nextPowerOfTwo_go (power * 2) (by omega)
  · omega
termination_by n - power

/-- It stops at the first one. -/
theorem nextPowerOfTwo_go_le {n k : Nat} (hn : n ≤ 2 ^ k) (j : Nat) (hj : j ≤ k) (hpos : 2 ^ j > 0) :
    Nat.nextPowerOfTwo.go n (2 ^ j) hpos ≤ 2 ^ k := by
  unfold Nat.nextPowerOfTwo.go
  split
  · next h =>
    have hlt : 2 ^ j < 2 ^ k := by omega
    have hj : j < k := (Nat.pow_lt_pow_iff_right (by omega)).mp hlt
    have hnext := nextPowerOfTwo_go_le hn (j + 1) hj (by positivity)
    simpa [Nat.pow_succ] using hnext
  · exact Nat.pow_le_pow_right (by omega) hj
termination_by k - j

theorem le_nextPowerOfTwo (n : Nat) : n ≤ n.nextPowerOfTwo := le_nextPowerOfTwo_go 1 (by decide)

theorem nextPowerOfTwo_le {n k : Nat} (hn : n ≤ 2 ^ k) : n.nextPowerOfTwo ≤ 2 ^ k :=
  nextPowerOfTwo_go_le hn 0 (Nat.zero_le k) (by decide)

theorem rounded_le (n : Nat) : rounded n ≤ maxSixelDimension := min_le_right _ _

/-- What is within the limit fits. -/
theorem le_rounded {n : Nat} (hn : n ≤ maxSixelDimension) : n ≤ rounded n := le_min (le_nextPowerOfTwo n) hn

/-- A side holds whatever it was not rounded up for, too. -/
theorem rounded_le_rounded {m n : Nat} (h : m ≤ rounded n) : rounded m ≤ rounded n := by
  obtain ⟨k, hk⟩ := Nat.isPowerOfTwo_nextPowerOfTwo n
  have hm : m ≤ 2 ^ k := hk ▸ h.trans (min_le_left _ _)
  unfold rounded
  rw [hk]
  exact min_le_min_right _ (nextPowerOfTwo_le hm)

/-! ## The buffer -/

namespace SixelParser

/-- The bytes of a pixel of the working buffer. -/
def bytesAt (p : SixelParser) (x y : Nat) : List UInt8 :=
  (List.range 4).map fun k => p.pixels.getD (offset p.width 4 x y + k) 0

end SixelParser

/-- The bytes of a pixel in the working buffer, undrawn ones are clear. -/
def drawnBytes (color : Option Rgb) : List UInt8 := (color.map rgbaOf).getD [0, 0, 0, 0]

/-- The plane with one pixel drawn. -/
def plot (canvas : Nat → Nat → Option Rgb) (x y : Nat) (rgb : Rgb) : Nat → Nat → Option Rgb :=
  fun x' y' => if x' = x ∧ y' = y then some rgb else canvas x' y'

/-- The working buffer has the size its sides say, within the limits. -/
structure SixelParser.Sized (p : SixelParser) : Prop where
  length : p.pixels.length = p.width * p.height * 4
  limit : p.pixels.length ≤ maxSixelPixelBytes
  width : p.width ≤ maxSixelDimension
  height : p.height ≤ maxSixelDimension

/-- **The buffer shows the plane**, as far as it reaches, and it reaches what is drawn within the limits. -/
structure SixelParser.Shows (p : SixelParser) (canvas : Nat → Nat → Option Rgb) : Prop extends SixelParser.Sized p where
  pixel : ∀ x y, x < p.width → y < p.height → p.bytesAt x y = drawnBytes (canvas x y)
  reach : ∀ x y, x < maxSixelDimension → (canvas x y).isSome → rounded (x + 1) ≤ p.width ∧ rounded (y + 1) ≤ p.height

/-- The sides of the buffer are what some drawn pixel asked for. -/
structure SixelParser.Tight (p : SixelParser) (canvas : Nat → Nat → Option Rgb) : Prop where
  width : p.width = 0 ∨ ∃ x y, x < maxSixelDimension ∧ (canvas x y).isSome ∧ p.width = rounded (x + 1)
  height : p.height = 0 ∨ ∃ x y, x < maxSixelDimension ∧ (canvas x y).isSome ∧ p.height = rounded (y + 1)

/-- Only the buffer differs. -/
def SameControls (p p' : SixelParser) : Prop :=
  p' = { p with pixels := p'.pixels, width := p'.width, height := p'.height, aborted := p'.aborted }

/-- The decoder has drawn the plane, or has given up on it. -/
def Tracks (p : SixelParser) (canvas : Nat → Nat → Option Rgb) : Prop :=
  p.aborted = true ∧ BufferTooLarge canvas ∨ p.aborted = false ∧ SixelParser.Shows p canvas ∧ SixelParser.Tight p canvas

theorem SameControls.refl (p : SixelParser) : SameControls p p := rfl

theorem SameControls.trans {p p' p'' : SixelParser} (h : SameControls p p') (h' : SameControls p' p'') :
    SameControls p p'' := by
  unfold SameControls at h h' ⊢
  rw [h', h]

variable {canvas : Nat → Nat → Option Rgb}

/-- Drawing more leaves what is too large too large. -/
theorem BufferTooLarge.mono {canvas' : Nat → Nat → Option Rgb}
    (hmono : ∀ x y, x < maxSixelDimension → (canvas x y).isSome → (canvas' x y).isSome) (h : BufferTooLarge canvas) :
    BufferTooLarge canvas' := by
  obtain ⟨x, y, x', y', hx, hx', hdrawn, hdrawn', hlarge⟩ := h
  exact ⟨x, y, x', y', hx, hx', hmono x y hx hdrawn, hmono x' y' hx' hdrawn', hlarge⟩

/-- A buffer that shows the plane was not too large. -/
theorem SixelParser.Shows.not_tooLarge {p : SixelParser} (h : SixelParser.Shows p canvas) :
    ¬ BufferTooLarge canvas := by
  rintro ⟨x, y, x', y', hx, hx', hdrawn, hdrawn', hlarge⟩
  have hw := (h.reach x y hx hdrawn).1
  have hh := (h.reach x' y' hx' hdrawn').2
  have hfits := h.limit
  rw [h.length] at hfits
  have hmul := Nat.mul_le_mul_right 4 (Nat.mul_le_mul hw hh)
  omega

/-- Only the columns within the limit matter. -/
theorem Tracks.congr {p : SixelParser} {canvas' : Nat → Nat → Option Rgb}
    (heq : ∀ x y, x < maxSixelDimension → canvas x y = canvas' x y) (h : Tracks p canvas) : Tracks p canvas' := by
  rcases h with ⟨habort, hlarge⟩ | ⟨hgoes, hshows, htight⟩
  · exact .inl ⟨habort, hlarge.mono fun x y hx hdrawn => heq x y hx ▸ hdrawn⟩
  · refine .inr ⟨hgoes, { hshows with pixel := ?_, reach := ?_ }, ⟨?_, ?_⟩⟩
    · intro x y hx hy
      rw [← heq x y (lt_of_lt_of_le hx hshows.width)]
      exact hshows.pixel x y hx hy
    · intro x y hx hdrawn
      exact hshows.reach x y hx (heq x y hx ▸ hdrawn)
    · exact htight.width.imp id fun ⟨x, y, hx, hdrawn, he⟩ => ⟨x, y, hx, heq x y hx ▸ hdrawn, he⟩
    · exact htight.height.imp id fun ⟨x, y, hx, hdrawn, he⟩ => ⟨x, y, hx, heq x y hx ▸ hdrawn, he⟩

/-- Only the buffer matters. -/
theorem Tracks.of_buffer {p p' : SixelParser} (hpixels : p'.pixels = p.pixels) (hw : p'.width = p.width)
    (hh : p'.height = p.height) (habort : p'.aborted = p.aborted) (h : Tracks p canvas) : Tracks p' canvas := by
  have hbytes : p'.bytesAt = p.bytesAt := by
    unfold SixelParser.bytesAt
    rw [hpixels, hw]
  unfold Tracks
  rw [habort]
  refine h.imp id (And.imp id (And.imp (fun hshows => ?_) fun htight => ?_))
  · refine ⟨⟨by rw [hpixels, hw, hh, hshows.length], by rw [hpixels]; exact hshows.limit, hw ▸ hshows.width,
      hh ▸ hshows.height⟩, ?_, ?_⟩
    · rw [hw, hh, hbytes]
      exact hshows.pixel
    · rw [hw, hh]
      exact hshows.reach
  · exact ⟨by rw [hw]; exact htight.width, by rw [hh]; exact htight.height⟩

/-! ### Growing -/

/-- The rows of a raster, copied into a wider and higher one that is blank. -/
def copyRows (old : List UInt8) (w h newW newH : Nat) : List UInt8 :=
  forRange 0 h (fun row pixels =>
    if row * w * 4 + w * 4 ≤ old.length then
      pixels.take (row * newW * 4) ++ (old.drop (row * w * 4)).take (w * 4) ++ pixels.drop (row * newW * 4 + w * 4)
    else pixels) (List.replicate (newW * newH * 4) 0)

/-- The copy has the old pixels where the old raster was, and is blank elsewhere. -/
theorem copyRows_spec {old : List UInt8} {w h newW newH : Nat} (hlen : old.length = w * h * 4) (hw : w ≤ newW)
    (hh : h ≤ newH) :
    (copyRows old w h newW newH).length = newW * newH * 4 ∧ ∀ x y k, x < newW → y < newH → k < 4 →
      (copyRows old w h newW newH).getD (offset newW 4 x y + k) 0 =
        if x < w ∧ y < h then old.getD (offset w 4 x y + k) 0 else 0 := by
  refine forRange_induction (P := fun rows (pixels : List UInt8) => pixels.length = newW * newH * 4 ∧
    ∀ x y k, x < newW → y < newH → k < 4 → pixels.getD (offset newW 4 x y + k) 0 =
      if x < w ∧ y < rows then old.getD (offset w 4 x y + k) 0 else 0) (Nat.zero_le h) ?_ ?_
  · rintro row pixels - hrow ⟨hlength, hbytes⟩
    have hslice : row * w * 4 + w * 4 ≤ old.length := by
      have hspan := span_le (w := w) (b := 4) (x := 0) (n := w) (by omega) hrow
      rw [hlen]
      simpa [offset] using hspan
    have hroom : row * newW * 4 + w * 4 ≤ pixels.length := by
      have hspan := span_le (w := newW) (h := newH) (b := 4) (x := 0) (y := row) (n := w) (by omega) (by omega)
      rw [hlength]
      simpa [offset] using hspan
    have hpiece : ((old.drop (row * w * 4)).take (w * 4)).length = w * 4 := by
      rw [length_take, length_drop]
      omega
    rw [if_pos hslice]
    refine ⟨(length_splice hpiece hroom).trans hlength, fun x y k hx hy hk => ?_⟩
    rw [getD_splice hpiece hroom]
    have hindex : offset newW 4 x y + k = y * newW * 4 + x * 4 + k := by
      unfold offset
      ring
    rcases Nat.lt_trichotomy y row with hlt | rfl | hgt
    · have hbelow : y * newW + newW ≤ row * newW := by
        rw [← Nat.succ_mul]
        exact Nat.mul_le_mul_right newW hlt
      rw [if_neg (by omega), hbytes x y k hx hy hk]
      simp [show y < row from hlt, show y < row + 1 by omega]
    · by_cases hcol : x < w
      · rw [if_pos (by omega), if_pos ⟨hcol, by omega⟩, getD_eq_getElem?_getD, getElem?_take_of_lt (by omega),
          getElem?_drop, ← getD_eq_getElem?_getD]
        congr 1
        unfold offset
        omega
      · rw [if_neg (by omega), hbytes x y k hx hy hk, if_neg (by omega), if_neg (by omega)]
    · have habove : row * newW + newW ≤ y * newW := by
        rw [← Nat.succ_mul]
        exact Nat.mul_le_mul_right newW hgt
      rw [if_neg (by omega), hbytes x y k hx hy hk, if_neg (by omega), if_neg (by omega)]
  · refine ⟨length_replicate .., fun x y k _ _ _ => ?_⟩
    rw [if_neg (by omega), getD_eq_getElem?_getD, getElem?_replicate]
    split <;> rfl

namespace SixelParser

/-- The side the buffer gets when it has to hold `need` pixels. -/
def newSide (side need : Nat) : Nat := if need > side then rounded need else side

theorem le_newSide {side : Nat} (hside : side ≤ maxSixelDimension) (need : Nat) : side ≤ newSide side need := by
  unfold newSide
  split
  · next h =>
    rcases Nat.lt_or_ge need maxSixelDimension with hlt | hge
    · exact (Nat.le_of_lt h).trans (le_rounded hlt.le)
    · exact le_min ((hside.trans hge).trans (le_nextPowerOfTwo need)) hside
  · exact le_rfl

theorem newSide_le {side need : Nat} (hside : side ≤ maxSixelDimension) : newSide side need ≤ maxSixelDimension := by
  unfold newSide
  split
  · exact rounded_le need
  · exact hside

variable {p : SixelParser}

/-- Growing gives up when the buffer would be too large. -/
theorem growBuffer_aborts {needW needH : Nat}
    (hlarge : newSide p.width needW * newSide p.height needH * 4 > maxSixelPixelBytes) :
    p.growBuffer needW needH = { p with aborted := true } := if_pos hlarge

theorem growBuffer_grows {needW needH : Nat}
    (hlarge : ¬ newSide p.width needW * newSide p.height needH * 4 > maxSixelPixelBytes) :
    p.growBuffer needW needH =
      { p with pixels := copyRows p.pixels p.width p.height (newSide p.width needW) (newSide p.height needH)
               width := newSide p.width needW, height := newSide p.height needH } := if_neg hlarge

/-- **Growing keeps within the limit**, whatever size is asked for. -/
theorem sized_growBuffer (h : Sized p) (needW needH : Nat) : Sized (p.growBuffer needW needH) := by
  by_cases hlarge : newSide p.width needW * newSide p.height needH * 4 > maxSixelPixelBytes
  · rw [growBuffer_aborts hlarge]
    exact ⟨h.length, h.limit, h.width, h.height⟩
  · obtain ⟨hlen, -⟩ := copyRows_spec h.length (le_newSide h.width needW)
      (le_newSide h.height needH)
    rw [growBuffer_grows hlarge]
    exact ⟨hlen, by dsimp only; omega, newSide_le h.width, newSide_le h.height⟩

variable {canvas : Nat → Nat → Option Rgb}

/-- Growing leaves what the buffer shows. -/
theorem shows_growBuffer (hshows : Shows p canvas) {needW needH : Nat}
    (hlarge : ¬ newSide p.width needW * newSide p.height needH * 4 > maxSixelPixelBytes) :
    Shows (p.growBuffer needW needH) canvas := by
  have hsized := sized_growBuffer hshows.toSized needW needH
  have hw := le_newSide hshows.width needW
  have hh := le_newSide hshows.height needH
  obtain ⟨-, hbytes⟩ := copyRows_spec hshows.length hw hh
  rw [growBuffer_grows hlarge] at hsized ⊢
  refine ⟨hsized, ?_, ?_⟩
  · intro x y hx hy
    refine (map_congr_left fun k hk => hbytes x y k hx hy (mem_range.mp hk)).trans ?_
    by_cases hin : x < p.width ∧ y < p.height
    · simp only [if_pos hin]
      exact hshows.pixel x y hin.1 hin.2
    · -- nothing is drawn where the old buffer did not reach
      have hundrawn : canvas x y = none := by
        by_contra hdrawn
        have hlimitX : x < maxSixelDimension := lt_of_lt_of_le hx (newSide_le hshows.width)
        have hlimitY : y < maxSixelDimension := lt_of_lt_of_le hy (newSide_le hshows.height)
        have hreach := hshows.reach x y hlimitX (Option.isSome_iff_ne_none.mpr hdrawn)
        have hx' := le_rounded (n := x + 1) hlimitX
        have hy' := le_rounded (n := y + 1) hlimitY
        omega
      simp only [if_neg hin, hundrawn]
      rfl
  · intro x y hx hdrawn
    have hreach := hshows.reach x y hx hdrawn
    exact ⟨hreach.1.trans hw, hreach.2.trans hh⟩

/-! ### Setting a pixel -/

/-- The four bytes of a colour, written from `off` on. -/
theorem getD_set_rgba {bytes : List UInt8} {off : Nat} (hfit : off + 3 < bytes.length) (rgb : Rgb) (i : Nat) :
    ((((bytes.set off rgb.r).set (off + 1) rgb.g).set (off + 2) rgb.b).set (off + 3) 255).getD i 0 =
      if off ≤ i ∧ i < off + 4 then (rgbaOf rgb).getD (i - off) 0 else bytes.getD i 0 := by
  simp only [getD_eq_getElem?_getD, getElem?_set]
  by_cases hin : off ≤ i ∧ i < off + 4
  · obtain rfl | rfl | rfl | rfl : i = off ∨ i = off + 1 ∨ i = off + 2 ∨ i = off + 3 := by omega
    · simp [rgbaOf, show i < bytes.length by omega]
    · simp [rgbaOf, show off + 1 < bytes.length by omega]
    · simp [rgbaOf, show off + 2 < bytes.length by omega]
    · simp [rgbaOf, hfit]
  · rw [if_neg hin, if_neg (by omega), if_neg (by omega), if_neg (by omega), if_neg (by omega)]

/-- A pixel of the buffer has its four bytes in it, one past the last row has none. -/
theorem offset_lt_iff (hlen : p.pixels.length = p.width * p.height * 4) {x y : Nat} (hx : x < p.width) :
    (y * p.width + x) * 4 + 3 < p.pixels.length ↔ y < p.height := by
  constructor
  · intro h
    by_contra hy
    have hrows : p.height * p.width ≤ y * p.width := Nat.mul_le_mul_right _ (by omega)
    rw [Nat.mul_comm] at hrows
    omega
  · intro hy
    have hpixel := pixel_le (b := 4) hx hy
    unfold offset at hpixel
    omega

/-- The write of a pixel, when the buffer has it. -/
def writePixel (p : SixelParser) (x y : Nat) (rgb : Rgb) : SixelParser :=
  let off := (y * p.width + x) * 4
  if off + 3 < p.pixels.length then
    { p with pixels := (((p.pixels.set off rgb.r).set (off + 1) rgb.g).set (off + 2) rgb.b).set (off + 3) 255 }
  else p

theorem setPixel_eq (p : SixelParser) (x y : Nat) (rgb : Rgb) :
    p.setPixel x y rgb =
      let grown := if x + 1 > p.width ∨ y + 1 > p.height then p.growBuffer (x + 1) (y + 1) else p
      if grown.aborted then grown else grown.writePixel x y rgb := rfl

theorem writePixel_eq (p : SixelParser) (x y : Nat) (rgb : Rgb) :
    ∃ pixels, p.writePixel x y rgb = { p with pixels := pixels } := by
  unfold writePixel
  dsimp only
  split
  · exact ⟨_, rfl⟩
  · exact ⟨p.pixels, rfl⟩

/-- Writing a pixel into a buffer that reaches it. -/
theorem shows_write (hshows : Shows p canvas) {x y : Nat} (hx : x < maxSixelDimension)
    (hw : rounded (x + 1) ≤ p.width) (hh : rounded (y + 1) ≤ p.height) (rgb : Rgb) :
    Shows (p.writePixel x y rgb) (plot canvas x y rgb) := by
  have hcol : x < p.width := lt_of_lt_of_le (Nat.lt_of_succ_le (le_rounded hx)) hw
  have hreach : ∀ x' y', x' < maxSixelDimension → (plot canvas x y rgb x' y').isSome →
      rounded (x' + 1) ≤ p.width ∧ rounded (y' + 1) ≤ p.height := by
    intro x' y' hx' hdrawn
    by_cases hsame : x' = x ∧ y' = y
    · rw [hsame.1, hsame.2]
      exact ⟨hw, hh⟩
    · rw [plot, if_neg hsame] at hdrawn
      exact hshows.reach x' y' hx' hdrawn
  unfold writePixel
  by_cases hfit : (y * p.width + x) * 4 + 3 < p.pixels.length
  · rw [if_pos hfit]
    refine ⟨⟨by simpa using hshows.length, by simpa using hshows.limit, hshows.width, hshows.height⟩, ?_, hreach⟩
    intro x' y' hx' hy'
    by_cases hsame : x' = x ∧ y' = y
    · obtain ⟨rfl, rfl⟩ := hsame
      have hcolor : drawnBytes (plot canvas x' y' rgb x' y') = (List.range 4).map fun k => (rgbaOf rgb).getD k 0 := by
        rw [plot, if_pos ⟨rfl, rfl⟩]
        rfl
      rw [hcolor]
      refine map_congr_left fun k hk => ?_
      have hk := mem_range.mp hk
      show List.getD _ ((y' * p.width + x') * 4 + k) 0 = _
      rw [getD_set_rgba hfit, if_pos ⟨by omega, by omega⟩, Nat.add_sub_cancel_left]
    · rw [plot, if_neg hsame, ← hshows.pixel x' y' hx' hy']
      refine map_congr_left fun k hk => ?_
      have hk := mem_range.mp hk
      show List.getD _ (offset p.width 4 x' y' + k) 0 = _
      rw [getD_set_rgba hfit, if_neg]
      rintro ⟨hlow, hhigh⟩
      -- otherwise the byte would be one of the pixel written
      have hbyte : offset p.width 4 x' y' + k =
          offset p.width 4 x y + (offset p.width 4 x' y' + k - (y * p.width + x) * 4) := by
        show _ = (y * p.width + x) * 4 + _
        omega
      have hinj := offset_inj hx' hcol hk (by omega) hbyte
      exact hsame ⟨hinj.1, hinj.2.1⟩
  · rw [if_neg hfit]
    have hbelow : ¬ y < p.height := fun hy => hfit ((offset_lt_iff hshows.length hcol).mpr hy)
    refine { hshows with pixel := fun x' y' hx' hy' => ?_, reach := hreach }
    rw [plot, if_neg (by omega)]
    exact hshows.pixel x' y' hx' hy'

/-- One side of a buffer that has grown for a pixel. -/
theorem newSide_tight {side : Nat} (need : Nat) (asked : Nat → Prop) (htight : side = 0 ∨ ∃ n, asked n ∧ side = rounded n)
    (hneed : 0 < need) : rounded need ≤ newSide side need ∧
      ∃ n, (asked n ∨ n = need) ∧ newSide side need = rounded n := by
  unfold newSide
  split
  · exact ⟨le_rfl, need, .inr rfl, rfl⟩
  · next hfits =>
    obtain rfl | ⟨n, hn, rfl⟩ := htight
    · omega
    · exact ⟨rounded_le_rounded (by omega), n, .inl hn, rfl⟩

theorem growBuffer_eq (p : SixelParser) (needW needH : Nat) :
    p.growBuffer needW needH = { p with aborted := true } ∨
      ∃ pixels, p.growBuffer needW needH =
        { p with pixels := pixels, width := newSide p.width needW, height := newSide p.height needH } := by
  by_cases hlarge : newSide p.width needW * newSide p.height needH * 4 > maxSixelPixelBytes
  · exact .inl (growBuffer_aborts hlarge)
  · exact .inr ⟨_, growBuffer_grows hlarge⟩

/-- Setting a pixel touches the buffer only, and what was given up stays so. -/
theorem setPixel_same (p : SixelParser) (x y : Nat) (rgb : Rgb) :
    SameControls p (p.setPixel x y rgb) ∧ (p.aborted = true → (p.setPixel x y rgb).aborted = true) := by
  have hgrown : SameControls p (if x + 1 > p.width ∨ y + 1 > p.height then p.growBuffer (x + 1) (y + 1) else p) ∧
      (p.aborted = true →
        (if x + 1 > p.width ∨ y + 1 > p.height then p.growBuffer (x + 1) (y + 1) else p).aborted = true) := by
    split
    · rcases growBuffer_eq p (x + 1) (y + 1) with heq | ⟨pixels, heq⟩
      · rw [heq]
        exact ⟨rfl, fun _ => rfl⟩
      · rw [heq]
        exact ⟨rfl, id⟩
    · exact ⟨.refl p, id⟩
  rw [setPixel_eq]
  generalize (if x + 1 > p.width ∨ y + 1 > p.height then p.growBuffer (x + 1) (y + 1) else p) = grown at hgrown ⊢
  dsimp only
  split
  · exact hgrown
  · obtain ⟨pixels, heq⟩ := writePixel_eq grown x y rgb
    rw [heq]
    exact ⟨hgrown.1.trans rfl, hgrown.2⟩

/-- **Setting a pixel** draws it on the plane, or gives up on it. -/
theorem tracks_setPixel (h : Tracks p canvas) {x : Nat} (hx : x < maxSixelDimension) (y : Nat) (rgb : Rgb) :
    Tracks (p.setPixel x y rgb) (plot canvas x y rgb) := by
  have hmono : ∀ x' y', (canvas x' y').isSome → (plot canvas x y rgb x' y').isSome := by
    intro x' y' hdrawn
    unfold plot
    split
    · rfl
    · exact hdrawn
  have hplotted : (plot canvas x y rgb x y).isSome := by
    rw [plot, if_pos ⟨rfl, rfl⟩]
    rfl
  rcases h with ⟨habort, hlarge⟩ | ⟨hgoes, hshows, htight⟩
  · exact .inl ⟨(setPixel_same p x y rgb).2 habort, hlarge.mono fun x' y' _ => hmono x' y'⟩
  -- the pixels that ask for the sides of the buffer, once it has grown
  have hwidth := newSide_tight (x + 1) (fun n => ∃ x' y', x' < maxSixelDimension ∧
    (canvas x' y').isSome ∧ n = x' + 1) (htight.width.imp id fun ⟨x', y', hx', hd, he⟩ => ⟨_, ⟨x', y', hx', hd, rfl⟩, he⟩)
    (Nat.succ_pos x)
  have hheight := newSide_tight (y + 1) (fun n => ∃ x' y', x' < maxSixelDimension ∧
    (canvas x' y').isSome ∧ n = y' + 1) (htight.height.imp id fun ⟨x', y', hx', hd, he⟩ => ⟨_, ⟨x', y', hx', hd, rfl⟩, he⟩)
    (Nat.succ_pos y)
  obtain ⟨hw, n, hn, hnw⟩ := hwidth
  obtain ⟨hh, m, hm, hmh⟩ := hheight
  obtain ⟨x₁, y₁, hx₁, hdrawn₁, hn⟩ : ∃ x₁ y₁, x₁ < maxSixelDimension ∧ (plot canvas x y rgb x₁ y₁).isSome ∧
      n = x₁ + 1 := by
    rcases hn with ⟨x', y', hx', hd, he⟩ | rfl
    · exact ⟨x', y', hx', hmono x' y' hd, he⟩
    · exact ⟨x, y, hx, hplotted, rfl⟩
  obtain ⟨x₂, y₂, hx₂, hdrawn₂, hm⟩ : ∃ x₂ y₂, x₂ < maxSixelDimension ∧ (plot canvas x y rgb x₂ y₂).isSome ∧
      m = y₂ + 1 := by
    rcases hm with ⟨x', y', hx', hd, he⟩ | rfl
    · exact ⟨x', y', hx', hmono x' y' hd, he⟩
    · exact ⟨x, y, hx, hplotted, rfl⟩
  subst hn hm
  -- the buffer that the pixel is written to
  have hwritten : ∀ p₁ : SixelParser, p₁.aborted = false → Shows p₁ canvas → p₁.width = newSide p.width (x + 1) →
      p₁.height = newSide p.height (y + 1) →
      Tracks (if p₁.aborted then p₁ else p₁.writePixel x y rgb) (plot canvas x y rgb) := by
    intro p₁ hgoes₁ hshows₁ hw₁ hh₁
    rw [if_neg (by simp [hgoes₁])]
    have hshown := shows_write hshows₁ hx (hw₁ ▸ hw) (hh₁ ▸ hh) rgb
    obtain ⟨pixels, heq⟩ := writePixel_eq p₁ x y rgb
    rw [heq] at hshown ⊢
    exact .inr ⟨hgoes₁, hshown, .inr ⟨x₁, y₁, hx₁, hdrawn₁, hw₁.trans hnw⟩,
      .inr ⟨x₂, y₂, hx₂, hdrawn₂, hh₁.trans hmh⟩⟩
  rw [setPixel_eq]
  by_cases hgrow : x + 1 > p.width ∨ y + 1 > p.height
  · rw [if_pos hgrow]
    by_cases hlarge : newSide p.width (x + 1) * newSide p.height (y + 1) * 4 > maxSixelPixelBytes
    · rw [growBuffer_aborts hlarge]
      refine .inl ⟨rfl, x₁, y₁, x₂, y₂, hx₁, hx₂, hdrawn₁, hdrawn₂, ?_⟩
      rw [← hnw, ← hmh]
      exact hlarge
    · have hshows₁ := shows_growBuffer hshows hlarge
      rw [growBuffer_grows hlarge] at hshows₁ ⊢
      exact hwritten _ hgoes hshows₁ rfl rfl
  · rw [if_neg hgrow]
    refine hwritten p hgoes hshows ?_ ?_
    · rw [newSide, if_neg (by omega)]
    · rw [newSide, if_neg (by omega)]

/-! ### Drawing columns -/

/-- A loop that keeps the controls and the abort. -/
theorem drawColumn_same (p : SixelParser) (value : UInt8) (rgb : Rgb) :
    SameControls p (p.drawColumn value rgb) ∧ (p.aborted = true → (p.drawColumn value rgb).aborted = true) := by
  refine forRange_invariant (P := fun p' => SameControls p p' ∧ (p.aborted = true → p'.aborted = true)) ?_ ⟨.refl p, id⟩
  rintro bit p' - - ⟨hsame, habort⟩
  split
  · obtain ⟨hset, hset'⟩ := setPixel_same p' p'.x (p'.y + bit) rgb
    exact ⟨hsame.trans hset, hset' ∘ habort⟩
  · exact ⟨hsame, habort⟩

/-- The six pixels of a column. -/
theorem tracks_drawColumn (h : Tracks p canvas) (hx : p.x < maxSixelDimension) (value : UInt8) (rgb : Rgb) :
    Tracks (p.drawColumn value rgb) (drawBits canvas value rgb p.x (p.x + 1) p.y) := by
  have hloop := forRange_induction (P := fun bits p' => SameControls p p' ∧ Tracks p' fun x y =>
      if x = p.x ∧ p.y ≤ y ∧ y < p.y + bits ∧ value.toNat.testBit (y - p.y) then some rgb else canvas x y)
    (f := fun bit p => if value.toNat.testBit bit then p.setPixel p.x (p.y + bit) rgb else p) (Nat.zero_le 6) ?_
    ⟨.refl p, h.congr fun x y _ => by rw [if_neg (by omega)]⟩
  · refine hloop.2.congr fun x y _ => ?_
    refine if_congr ?_ rfl rfl
    constructor
    · rintro ⟨h₁, h₂⟩
      exact ⟨by omega, by omega, h₂⟩
    · rintro ⟨h₁, h₂, h₃⟩
      exact ⟨by omega, h₃⟩
  · rintro bit p' - - ⟨hsame, htracks⟩
    have hx' : p'.x = p.x := by rw [hsame]
    have hy' : p'.y = p.y := by rw [hsame]
    split
    · next hset =>
      rw [hx', hy']
      refine ⟨hsame.trans (setPixel_same p' p.x (p.y + bit) rgb).1, ?_⟩
      refine (tracks_setPixel htracks hx (p.y + bit) rgb).congr fun x y _ => ?_
      unfold plot
      by_cases hhere : x = p.x ∧ y = p.y + bit
      · rw [if_pos hhere, if_pos ⟨hhere.1, by omega, by omega, by rw [hhere.2, Nat.add_sub_cancel_left]; exact hset⟩]
      · rw [if_neg hhere]
        exact if_congr (by constructor <;> rintro ⟨h₁, h₂, h₃, h₄⟩ <;> exact ⟨h₁, h₂, by omega, h₄⟩) rfl rfl
    · next hclear =>
      refine ⟨hsame, htracks.congr fun x y _ => if_congr ?_ rfl rfl⟩
      constructor
      · rintro ⟨h₁, h₂, h₃, h₄⟩
        exact ⟨h₁, h₂, by omega, h₄⟩
      · rintro ⟨h₁, h₂, h₃, h₄⟩
        refine ⟨h₁, h₂, ?_, h₄⟩
        by_contra hlast
        have hbit : y - p.y = bit := by omega
        exact hclear (hbit ▸ h₄)

/-- A parser that has given up keeps to it. -/
theorem aborted_emitColumns (value : UInt8) (rgb : Rgb) (count : Nat) (habort : p.aborted = true) :
    (emitColumns value rgb count p).aborted = true := by
  induction count generalizing p with
  | zero => exact habort
  | succ count ih =>
    unfold emitColumns
    split
    · exact habort
    · exact ih ((drawColumn_same p value rgb).2 habort)

/-- What a run of columns does to the controls: it moves the pen up to the limit. -/
theorem emitColumns_same (value : UInt8) (rgb : Rgb) (count : Nat) :
    ∀ p : SixelParser, p.x ≤ maxSixelDimension → p.x ≤ p.maxX →
      SameControls { p with x := min (p.x + count) maxSixelDimension
                            maxX := max p.maxX (min (p.x + count) maxSixelDimension) } (emitColumns value rgb count p) := by
  induction count with
  | zero =>
    intro p hx hmax
    rw [Nat.add_zero, min_eq_left hx, max_eq_left hmax]
    rfl
  | succ count ih =>
    intro p hx hmax
    unfold emitColumns
    split
    · next hlimit =>
      rw [min_eq_right (by omega), ← Nat.le_antisymm hx hlimit, max_eq_left hmax]
      rfl
    · next hlimit =>
      obtain ⟨hsame, -⟩ := drawColumn_same p value rgb
      have hx' : (p.drawColumn value rgb).x = p.x := by rw [hsame]
      have hmax' : (p.drawColumn value rgb).maxX = p.maxX := by rw [hsame]
      have hrest := ih { p.drawColumn value rgb with
        x := (p.drawColumn value rgb).x + 1, maxX := max (p.drawColumn value rgb).maxX ((p.drawColumn value rgb).x + 1) }
        (by dsimp only; omega) (by dsimp only; omega)
      dsimp only at hrest ⊢
      rw [hx', hmax'] at hrest ⊢
      have hright : p.x + 1 + count = p.x + (count + 1) := by omega
      have hmaxX : max (max p.maxX (p.x + 1)) (min (p.x + (count + 1)) maxSixelDimension) =
          max p.maxX (min (p.x + (count + 1)) maxSixelDimension) := by omega
      rw [hright, hmaxX] at hrest
      refine SameControls.trans ?_ hrest
      unfold SameControls at hsame ⊢
      rw [hsame]

/-- A run of columns, up to the limit. -/
theorem tracks_emitColumns (value : UInt8) (rgb : Rgb) (count : Nat) :
    ∀ {p : SixelParser} {canvas : Nat → Nat → Option Rgb}, Tracks p canvas →
      Tracks (emitColumns value rgb count p)
        (drawBits canvas value rgb p.x (min (p.x + count) maxSixelDimension) p.y) := by
  induction count with
  | zero =>
    intro p canvas h
    refine h.congr fun x y _ => ?_
    rw [drawBits, if_neg (by omega)]
  | succ count ih =>
    intro p canvas h
    unfold emitColumns
    split
    · next hlimit =>
      refine h.congr fun x y hx => ?_
      rw [drawBits, if_neg (by omega)]
    · next hlimit =>
      obtain ⟨hsame, -⟩ := drawColumn_same p value rgb
      have hx' : (p.drawColumn value rgb).x = p.x := by rw [hsame]
      have hy' : (p.drawColumn value rgb).y = p.y := by rw [hsame]
      have hcolumn := tracks_drawColumn h (by omega) value rgb
      have hmoved : Tracks { p.drawColumn value rgb with x := (p.drawColumn value rgb).x + 1
                                                         maxX := max (p.drawColumn value rgb).maxX
                                                           ((p.drawColumn value rgb).x + 1) }
          (drawBits canvas value rgb p.x (p.x + 1) p.y) :=
        Tracks.of_buffer (p := p.drawColumn value rgb) rfl rfl rfl rfl hcolumn
      have hrest := ih hmoved
      dsimp only at hrest ⊢
      rw [hx', hy'] at hrest ⊢
      refine hrest.congr fun x y _ => ?_
      unfold drawBits
      by_cases hlater : p.x + 1 ≤ x ∧ x < min (p.x + 1 + count) maxSixelDimension ∧ p.y ≤ y ∧ y < p.y + 6 ∧
          value.toNat.testBit (y - p.y)
      · rw [if_pos hlater, if_pos ⟨by omega, by omega, hlater.2.2⟩]
      · rw [if_neg hlater]
        refine if_congr ⟨?_, ?_⟩ rfl rfl
        · rintro ⟨h₁, h₂, h₃⟩
          exact ⟨h₁, by omega, h₃⟩
        · rintro ⟨h₁, h₂, h₃⟩
          refine ⟨h₁, ?_, h₃⟩
          by_contra hx
          exact hlater ⟨by omega, by omega, h₃⟩

end SixelParser

/-! ## The stream -/

/-- The parser's state besides the buffer: the lexer's, and the sheet's up to the column limit. The background is
    fixed. -/
structure SixelParser.Controls (p : SixelParser) (lx : SixelLexer) (s : SixelSheet) (colorRegisters : Nat) (background : List UInt8) :
    Prop where
  lexer : lx = { cmd := p.cmd, params := p.params, paramIdx := p.paramIdx }
  registers : p.colorRegisters = colorRegisters
  background : p.background = background
  palette : s.palette = p.palette
  currentColor : s.currentColor = p.currentColor
  x : p.x = min s.x maxSixelDimension
  y : p.y = s.y
  maxX : p.maxX = min s.maxX maxSixelDimension
  maxY : p.maxY = s.maxY
  pen : s.x ≤ s.maxX
  rasterWidth : p.rasterWidth = s.declared.head?.map Prod.fst
  rasterHeight : p.rasterHeight = s.declared.head?.map Prod.snd

/-- **The parser follows the sheet**, or it has given up on a stream that it should. -/
def Follows (p : SixelParser) (lx : SixelLexer) (s : SixelSheet) (colorRegisters : Nat) (background : List UInt8) : Prop :=
  p.aborted = true ∧ s.Aborts ∨
    p.aborted = false ∧ SixelParser.Controls p lx s colorRegisters background ∧ SixelParser.Shows p s.canvas ∧ SixelParser.Tight p s.canvas ∧
      ∀ size ∈ s.declared, ¬ DeclaredTooLarge size

variable (hlsToRgb : Nat → Nat → Nat → Rgb) {p : SixelParser} {lx : SixelLexer} {s : SixelSheet} {colorRegisters : Nat}
  {background : List UInt8}

/-- A stream that is given up stays given up. -/
theorem SixelSheet.Aborts.perform (h : s.Aborts) (c : SixelCommand) : (s.perform hlsToRgb colorRegisters c).Aborts := by
  cases c with
  | draw value count =>
    refine h.imp id (BufferTooLarge.mono fun x y _ hdrawn => ?_)
    show (drawBits ..).isSome
    unfold drawBits
    split
    · rfl
    · exact hdrawn
  | color | carriageReturn | newLine => exact h
  | raster width height =>
    exact h.imp (fun ⟨size, hmem, hlarge⟩ => ⟨size, mem_cons_of_mem _ hmem, hlarge⟩) id

theorem SixelSheet.Aborts.performAll (h : s.Aborts) (cs : List SixelCommand) :
    (cs.foldl (SixelSheet.perform hlsToRgb colorRegisters) s).Aborts := by
  induction cs generalizing s with
  | nil => exact h
  | cons c cs ih => exact ih (h.perform hlsToRgb c)

/-- The draw command. -/
theorem follows_emitSixel (h : Follows p lx s colorRegisters background) (value : UInt8) (count : Nat) :
    Follows (p.emitSixel value count) lx (s.perform hlsToRgb colorRegisters (.draw value count)) colorRegisters
      background := by
  rcases h with ⟨habort, haborts⟩ | ⟨hgoes, hcontrols, hshows, htight, hdeclared⟩
  · exact .inl ⟨SixelParser.aborted_emitColumns _ _ _ habort, haborts.perform hlsToRgb _⟩
  have hx := hcontrols.x
  have hmaxX := hcontrols.maxX
  have hpen := hcontrols.pen
  have hsame := SixelParser.emitColumns_same value (p.palette.getD p.currentColor ⟨0, 0, 0⟩)
    (min count maxSixelDimension) p (by omega) (by omega)
  have htracks := SixelParser.tracks_emitColumns value (p.palette.getD p.currentColor ⟨0, 0, 0⟩)
    (min count maxSixelDimension) (.inr ⟨hgoes, hshows, htight⟩)
  have hdrawn : Tracks (p.emitSixel value count) (s.perform hlsToRgb colorRegisters (.draw value count)).canvas := by
    refine Tracks.of_buffer (p := SixelParser.emitColumns value (p.palette.getD p.currentColor ⟨0, 0, 0⟩)
      (min count maxSixelDimension) p) rfl rfl rfl rfl (htracks.congr fun x y hlimit => ?_)
    show drawBits .. = drawBits ..
    rw [hcontrols.palette, hcontrols.currentColor, ← hcontrols.y]
    refine if_congr ⟨?_, ?_⟩ rfl rfl
    · rintro ⟨h₁, h₂, h₃⟩
      exact ⟨by omega, by omega, h₃⟩
    · rintro ⟨h₁, h₂, h₃⟩
      exact ⟨by omega, by omega, h₃⟩
  rcases hdrawn with ⟨habort, hlarge⟩ | ⟨hgoes', hshows', htight'⟩
  · exact .inl ⟨habort, .inr hlarge⟩
  refine .inr ⟨hgoes', ?_, hshows', htight', hdeclared⟩
  have hemit : p.emitSixel value count =
      { p with x := min (p.x + min count maxSixelDimension) maxSixelDimension
               maxX := max p.maxX (min (p.x + min count maxSixelDimension) maxSixelDimension)
               maxY := max p.maxY (p.y + 6)
               pixels := (p.emitSixel value count).pixels, width := (p.emitSixel value count).width
               height := (p.emitSixel value count).height, aborted := (p.emitSixel value count).aborted } := by
    conv_lhs => unfold SixelParser.emitSixel
    dsimp only
    rw [hsame]
    rfl
  rw [hemit]
  exact
    { lexer := hcontrols.lexer
      registers := hcontrols.registers
      background := hcontrols.background
      palette := hcontrols.palette
      currentColor := hcontrols.currentColor
      x := by show min _ _ = min (s.x + count) _; omega
      y := hcontrols.y
      maxX := by show max _ _ = min (max s.maxX (s.x + count)) _; omega
      maxY := by show max p.maxY (p.y + 6) = max s.maxY (s.y + 6); rw [hcontrols.maxY, hcontrols.y]
      pen := le_max_right _ _
      rasterWidth := hcontrols.rasterWidth
      rasterHeight := hcontrols.rasterHeight }

/-- Controls that do not concern the buffer. -/
theorem Follows.of_controls {p' : SixelParser} {lx' : SixelLexer} {s' : SixelSheet}
    (h : Follows p lx s colorRegisters background)
    (hbuffer : p' = { p' with pixels := p.pixels, width := p.width, height := p.height, aborted := p.aborted })
    (hcanvas : s'.canvas = s.canvas) (hdeclared : s'.declared = s.declared)
    (hcontrols : SixelParser.Controls p lx s colorRegisters background → SixelParser.Controls p' lx' s' colorRegisters background) :
    Follows p' lx' s' colorRegisters background := by
  have hpixels : p'.pixels = p.pixels := by rw [hbuffer]
  have hw : p'.width = p.width := by rw [hbuffer]
  have hh : p'.height = p.height := by rw [hbuffer]
  have habort' : p'.aborted = p.aborted := by rw [hbuffer]
  rcases h with ⟨habort, haborts⟩ | ⟨hgoes, hctl, hshows, htight, hsizes⟩
  · refine .inl ⟨habort'.trans habort, ?_⟩
    unfold SixelSheet.Aborts
    rw [hcanvas, hdeclared]
    exact haborts
  · have htracks : Tracks p' s.canvas := Tracks.of_buffer hpixels hw hh habort' (.inr ⟨hgoes, hshows, htight⟩)
    rcases htracks with ⟨habort, -⟩ | ⟨hgoes', hshows', htight'⟩
    · rw [habort', hgoes] at habort
      cases habort
    · rw [← hcanvas] at hshows' htight'
      exact .inr ⟨hgoes', hcontrols hctl, hshows', htight', hdeclared ▸ hsizes⟩

/-- Colour commands: both define and select the same register. -/
theorem controls_applyColor (h : SixelParser.Controls p lx s colorRegisters background) :
    SixelParser.Controls ({ p with cmd := 0 }.applyColor hlsToRgb) lx.idle
      (s.perform hlsToRgb colorRegisters (.color p.params p.paramIdx)) colorRegisters background := by
  refine { h with lexer := ?_, registers := h.registers, background := h.background, palette := ?_, currentColor := ?_ }
  · rw [h.lexer]
    rfl
  · show (if p.paramIdx ≥ 2 then _ else _) = (if p.paramIdx ≥ 2 then _ else _)
    rw [h.palette, ← h.registers]
    split
    · have hsystem : ({ p with cmd := 0 } : SixelParser).param 1 = p.params.getD 1 0 := rfl
      rw [hsystem]
      unfold definedColor
      generalize p.params.getD 1 0 = system
      match system with
      | 0 => rfl
      | 1 => rfl
      | 2 => rfl
      | _ + 3 => rfl
    · rfl
  · show p.params.getD 0 0 % colorRegisters = p.params.getD 0 0 % p.colorRegisters
    rw [h.registers]

/-- Raster attributes: the decoder gives up on a size that is too large. -/
theorem follows_applyRasterAttrs (hgoes : p.aborted = false) (hcontrols : SixelParser.Controls p lx s colorRegisters background)
    (hshows : SixelParser.Shows p s.canvas) (htight : SixelParser.Tight p s.canvas) (hsizes : ∀ size ∈ s.declared, ¬ DeclaredTooLarge size)
    (hcomplete : p.paramIdx ≥ 3) :
    Follows ({ p with cmd := 0 }.applyRasterAttrs) lx.idle
      (s.perform hlsToRgb colorRegisters (.raster (p.param 2) (p.param 3))) colorRegisters background := by
  have hparams : ∀ i, ({ p with cmd := 0 } : SixelParser).param i = p.param i := fun _ => rfl
  unfold SixelParser.applyRasterAttrs
  rw [if_pos hcomplete]
  dsimp only
  rw [hparams, hparams]
  by_cases hlarge : DeclaredTooLarge (p.param 2, p.param 3)
  · have haborts : (s.perform hlsToRgb colorRegisters (.raster (p.param 2) (p.param 3))).Aborts :=
      .inl ⟨_, mem_cons_self, hlarge⟩
    refine .inl ⟨?_, haborts⟩
    split
    · rfl
    · split
      · rfl
      · next h₁ h₂ => exact absurd hlarge (by unfold DeclaredTooLarge; dsimp only; omega)
  · rw [if_neg (fun h => hlarge (h.imp id .inl)), if_neg (fun h => hlarge (.inr (.inr h)))]
    have htracks : Tracks ({ p with cmd := 0, rasterWidth := some (p.param 2), rasterHeight := some (p.param 3) })
        s.canvas := Tracks.of_buffer (p := p) rfl rfl rfl rfl (.inr ⟨hgoes, hshows, htight⟩)
    rcases htracks with ⟨habort, -⟩ | ⟨-, hshows', htight'⟩
    · rw [hgoes] at habort
      cases habort
    have hnew : SixelParser.Controls { p with cmd := 0, rasterWidth := some (p.param 2), rasterHeight := some (p.param 3) } lx.idle
        (s.perform hlsToRgb colorRegisters (.raster (p.param 2) (p.param 3))) colorRegisters background :=
      { hcontrols with
        lexer := by rw [hcontrols.lexer]; rfl
        registers := hcontrols.registers
        background := hcontrols.background
        rasterWidth := rfl
        rasterHeight := rfl }
    refine .inr ⟨hgoes, hnew, hshows', htight', ?_⟩
    · intro size hmem
      rcases mem_cons.mp hmem with rfl | hmem
      · exact hlarge
      · exact hsizes size hmem

/-- A pending command is carried out by both. -/
theorem follows_finishPending (h : Follows p lx s colorRegisters background) :
    Follows (p.finishPending hlsToRgb) lx.idle (lx.pending.foldl (SixelSheet.perform hlsToRgb colorRegisters) s)
      colorRegisters background := by
  rcases h with ⟨habort, haborts⟩ | ⟨hgoes, hcontrols, hshows, htight, hsizes⟩
  · refine .inl ⟨?_, haborts.performAll hlsToRgb _⟩
    unfold SixelParser.finishPending SixelParser.finishCommand
    split
    · dsimp only
      split
      · exact habort
      · split
        · unfold SixelParser.applyRasterAttrs
          dsimp only
          split
          · split
            · rfl
            · split
              · rfl
              · exact habort
          · exact habort
        · exact habort
    · exact habort
  have hfollows : Follows p lx s colorRegisters background := .inr ⟨hgoes, hcontrols, hshows, htight, hsizes⟩
  have hlx := hcontrols.lexer
  have hidle : SixelParser.Controls p lx s colorRegisters background →
      SixelParser.Controls { p with cmd := 0 } lx.idle s colorRegisters background := by
    intro hctl
    refine { hctl with lexer := ?_, registers := hctl.registers, background := hctl.background }
    rw [hctl.lexer]
    rfl
  unfold SixelParser.finishPending SixelParser.finishCommand
  by_cases hnone : p.cmd = 0
  · rw [if_neg (by simp [hnone])]
    have hpending : lx.pending = [] := by
      rw [hlx]
      simp [SixelLexer.pending, hnone]
    have hsame : lx.idle = lx := by
      rw [hlx]
      simp [SixelLexer.idle, hnone]
    rw [hpending, hsame]
    exact hfollows
  rw [if_pos hnone]
  by_cases hcolor : p.cmd = 35
  · rw [if_pos hcolor]
    have hpending : lx.pending = [.color p.params p.paramIdx] := by
      rw [hlx]
      simp [SixelLexer.pending, hcolor]
    rw [hpending]
    exact Follows.of_controls hfollows rfl rfl rfl (controls_applyColor hlsToRgb)
  rw [if_neg hcolor]
  by_cases hraster : p.cmd = 34
  · rw [if_pos hraster]
    by_cases hcomplete : p.paramIdx ≥ 3
    · have hpending : lx.pending = [.raster (p.param 2) (p.param 3)] := by
        rw [hlx]
        simp [SixelLexer.pending, hraster, hcomplete, SixelLexer.param, SixelParser.param]
      rw [hpending]
      exact follows_applyRasterAttrs hlsToRgb hgoes hcontrols hshows htight hsizes hcomplete
    · have hpending : lx.pending = [] := by
        rw [hlx]
        simp [SixelLexer.pending, hraster, hcomplete]
      have hignored : ({ p with cmd := 0 } : SixelParser).applyRasterAttrs = { p with cmd := 0 } := if_neg hcomplete
      rw [hpending, hignored]
      exact Follows.of_controls hfollows rfl rfl rfl hidle
  · rw [if_neg hraster]
    have hpending : lx.pending = [] := by
      rw [hlx]
      simp [SixelLexer.pending, hcolor, hraster]
    rw [hpending]
    exact Follows.of_controls hfollows rfl rfl rfl hidle

/-- **One byte.** -/
theorem follows_feed (h : Follows p lx s colorRegisters background) (byte : UInt8) :
    Follows (p.feed hlsToRgb byte) (sixelStep hlsToRgb colorRegisters (lx, s) byte).1
      (sixelStep hlsToRgb colorRegisters (lx, s) byte).2 colorRegisters background := by
  show Follows (p.feed hlsToRgb byte) (lx.feed byte).1
    ((lx.feed byte).2.foldl (SixelSheet.perform hlsToRgb colorRegisters) s) colorRegisters background
  rcases h with ⟨habort, haborts⟩ | ⟨hgoes, hcontrols, hrest⟩
  · have hkeeps : p.feed hlsToRgb byte = p := if_pos habort
    rw [hkeeps]
    exact .inl ⟨habort, haborts.performAll hlsToRgb _⟩
  have hfollows : Follows p lx s colorRegisters background := .inr ⟨hgoes, hcontrols, hrest⟩
  have hpending := follows_finishPending hlsToRgb hfollows
  have hlx := hcontrols.lexer
  have hcmd : lx.cmd = p.cmd := by rw [hlx]
  have hparam : lx.param = p.param := by rw [hlx]; rfl
  have hidx : lx.paramIdx = p.paramIdx := by rw [hlx]
  -- a command that moves the pen, after the pending one
  have hmove : ∀ (c : SixelCommand) (p' : SixelParser),
      Follows p' lx.idle ((lx.pending ++ [c]).foldl (SixelSheet.perform hlsToRgb colorRegisters) s) colorRegisters
        background ↔ Follows p' lx.idle
          ((lx.pending.foldl (SixelSheet.perform hlsToRgb colorRegisters) s).perform hlsToRgb colorRegisters c)
          colorRegisters background := by
    intro c p'
    rw [foldl_append]
    rfl
  unfold SixelParser.feed SixelLexer.feed
  rw [if_neg (by simp [hgoes]), hcmd, hidx, hparam]
  by_cases hdata : 0x3F ≤ byte ∧ byte ≤ 0x7E
  · rw [if_pos hdata, if_pos hdata]
    by_cases hrepeat : p.cmd = 33
    · rw [if_pos hrepeat, if_pos hrepeat]
      have hidle : Follows { p with cmd := 0 } lx.idle s colorRegisters background := by
        refine Follows.of_controls hfollows rfl rfl rfl fun hctl => ?_
        exact { hctl with lexer := by rw [hctl.lexer]; rfl
                          registers := hctl.registers
                          background := hctl.background }
      exact follows_emitSixel hlsToRgb hidle (byte - 0x3F) (max (p.param 0) 1)
    · rw [if_neg hrepeat, if_neg hrepeat]
      exact (hmove _ _).mpr (follows_emitSixel hlsToRgb hpending (byte - 0x3F) 1)
  rw [if_neg hdata, if_neg hdata]
  by_cases hdigit : 48 ≤ byte ∧ byte ≤ 57 ∧ p.cmd ≠ 0 ∧ p.paramIdx < 5
  · rw [if_pos hdigit, if_pos hdigit]
    refine Follows.of_controls hfollows rfl rfl rfl fun hctl => ?_
    exact { hctl with lexer := by rw [hctl.lexer]
                      registers := hctl.registers
                      background := hctl.background }
  rw [if_neg hdigit, if_neg hdigit]
  by_cases hsemicolon : byte = 59 ∧ p.cmd ≠ 0 ∧ p.paramIdx < 4
  · rw [if_pos hsemicolon, if_pos hsemicolon]
    refine Follows.of_controls hfollows rfl rfl rfl fun hctl => ?_
    exact { hctl with lexer := by rw [hctl.lexer]
                      registers := hctl.registers
                      background := hctl.background }
  rw [if_neg hsemicolon, if_neg hsemicolon]
  by_cases hreturn : byte = 36
  · rw [if_pos hreturn, if_pos hreturn]
    refine (hmove _ _).mpr (Follows.of_controls hpending rfl rfl rfl fun hctl => ?_)
    exact { hctl with x := (Nat.zero_min _).symm
                      pen := Nat.zero_le _
                      registers := hctl.registers
                      background := hctl.background }
  rw [if_neg hreturn, if_neg hreturn]
  by_cases hline : byte = 45
  · rw [if_pos hline, if_pos hline]
    refine (hmove _ _).mpr (Follows.of_controls hpending rfl rfl rfl fun hctl => ?_)
    exact { hctl with x := (Nat.zero_min _).symm
                      y := congrArg (· + 6) hctl.y
                      pen := Nat.zero_le _
                      registers := hctl.registers
                      background := hctl.background }
  rw [if_neg hline, if_neg hline]
  by_cases hstart : byte = 33 ∨ byte = 35 ∨ byte = 34
  · rw [if_pos hstart, if_pos hstart]
    refine Follows.of_controls hpending rfl rfl rfl fun hctl => ?_
    exact { hctl with lexer := rfl
                      registers := hctl.registers
                      background := hctl.background }
  · rw [if_neg hstart, if_neg hstart]
    exact hfollows

section

variable (params : List Nat) (terminalBg : Rgb) (colorRegisters : Nat)

/-- A new parser follows the blank sheet. -/
theorem follows_new :
    Follows (SixelParser.new params terminalBg colorRegisters) {} SixelSheet.blank colorRegisters
      (sixelBackground params terminalBg) := by
  refine .inr ⟨rfl, ?_, ?_, ⟨.inl rfl, .inl rfl⟩, fun size hmem => nomatch hmem⟩
  · refine ⟨rfl, rfl, ?_, rfl, rfl, (Nat.zero_min _).symm, rfl, (Nat.zero_min _).symm, rfl, le_rfl, rfl, rfl⟩
    unfold SixelParser.background sixelBackground SixelParser.new
    generalize params[1]?.getD 0 = mode
    match mode with
    | 0 => rfl
    | 1 => rfl
    | 2 => rfl
    | _ + 3 => rfl
  · refine ⟨⟨rfl, Nat.zero_le _, Nat.zero_le _, Nat.zero_le _⟩, fun x y hx => absurd hx (Nat.not_lt_zero x), ?_⟩
    intro x y _ hdrawn
    cases hdrawn

/-- **The decoder follows the sheet** along every stream. -/
theorem follows_run (bytes : List UInt8) :
    Follows (run (SixelParser.feed hlsToRgb) (SixelParser.new params terminalBg colorRegisters) bytes)
      (sixelState hlsToRgb colorRegisters bytes).1 (sixelState hlsToRgb colorRegisters bytes).2 colorRegisters
      (sixelBackground params terminalBg) :=
  run_simulation (R := fun p (state : SixelLexer × SixelSheet) =>
      Follows p state.1 state.2 colorRegisters (sixelBackground params terminalBg))
    (fun _ _ byte h => follows_feed hlsToRgb h byte) (follows_new params terminalBg colorRegisters) bytes

end

/-! ## The picture -/

/-- A sixel sequence, from its introducer to its end. -/
def decodeSixel (params : List Nat) (terminalBg : Rgb) (colorRegisters : Nat) (bytes : List UInt8) :
    Except String (List UInt8 × Nat × Nat) :=
  (run (SixelParser.feed hlsToRgb) (SixelParser.new params terminalBg colorRegisters) bytes).finish hlsToRgb

/-- The error of a picture that is too large. -/
def oversizedImage : String := "image exceeds maximum size limit"

/-- What a parser that follows the sheet shows of it: all rows within the limit, the background below. -/
theorem pictureColor_eq (hcontrols : SixelParser.Controls p lx s colorRegisters background) (hshows : SixelParser.Shows p s.canvas) {x : Nat}
    (hx : x < maxSixelDimension) (y : Nat) :
    p.pictureColor x y = if y < maxSixelDimension then s.colorAt background x y else background := by
  unfold SixelParser.pictureColor SixelParser.pixelOffset
  rw [hcontrols.background]
  by_cases hin : x < p.width ∧ y < p.height
  · rw [if_pos hin, if_pos (lt_of_lt_of_le hin.2 hshows.height)]
    dsimp only
    have hfit := (SixelParser.offset_lt_iff hshows.length hin.1).mpr hin.2
    have hbytes : [p.pixels.getD ((y * p.width + x) * 4) 0, p.pixels.getD ((y * p.width + x) * 4 + 1) 0,
        p.pixels.getD ((y * p.width + x) * 4 + 2) 0, p.pixels.getD ((y * p.width + x) * 4 + 3) 0] =
        drawnBytes (s.canvas x y) := hshows.pixel x y hin.1 hin.2
    unfold SixelSheet.colorAt
    cases hdrawn : s.canvas x y with
    | none =>
      rw [hdrawn] at hbytes
      have halpha : p.pixels.getD ((y * p.width + x) * 4 + 3) 0 = 0 := by
        injection hbytes with _ h
        injection h with _ h
        injection h with _ h
        injection h
      rw [if_neg (fun h => h.2 halpha)]
      rfl
    | some rgb =>
      rw [hdrawn] at hbytes
      have halpha : p.pixels.getD ((y * p.width + x) * 4 + 3) 0 = 255 := by
        injection hbytes with _ h
        injection h with _ h
        injection h with _ h
        injection h
      rw [if_pos ⟨hfit, by rw [halpha]; decide⟩, hbytes]
      rfl
  · rw [if_neg hin]
    dsimp only
    split
    · next hy =>
      -- nothing is drawn within the limits where the buffer does not reach
      have hundrawn : s.canvas x y = none := by
        by_contra hdrawn
        have hreach := hshows.reach x y hx (Option.isSome_iff_ne_none.mpr hdrawn)
        have hx' := le_rounded (n := x + 1) hx
        have hy' := le_rounded (n := y + 1) hy
        omega
      rw [SixelSheet.colorAt, hundrawn]
      rfl
    · rfl

/-- A sheet that is not given up has declared no side past the limit. -/
theorem clippedWidth_le (hsizes : ∀ size ∈ s.declared, ¬ DeclaredTooLarge size) :
    s.clippedWidth ≤ maxSixelDimension := by
  unfold SixelSheet.clippedWidth
  cases hdeclared : s.declared with
  | nil => exact max_le (min_le_right _ _) (min_le_right _ _)
  | cons size rest =>
    have hsize := hsizes size (by rw [hdeclared]; exact mem_cons_self)
    refine max_le ?_ (min_le_right _ _)
    show size.1 ≤ _
    by_contra hlarge
    exact hsize (.inl (by omega))

/-- **What the decoder returns**: the error of an oversized picture when it refuses the sheet, and otherwise the
    picture, or the error of an empty one. -/
theorem decodeSixel_cases (params : List Nat) (terminalBg : Rgb) (colorRegisters : Nat) (bytes : List UInt8) :
    let s := sheetOf hlsToRgb colorRegisters bytes
    s.Refused ∧ decodeSixel hlsToRgb params terminalBg colorRegisters bytes = .error oversizedImage ∨
    ¬ s.Refused ∧ (s.clippedWidth = 0 ∨ s.height = 0) ∧
      decodeSixel hlsToRgb params terminalBg colorRegisters bytes =
        .error "image decode failed: sixel image has zero dimensions" ∨
    ¬ s.Refused ∧ s.clippedWidth ≠ 0 ∧ s.height ≠ 0 ∧ s.clippedWidth ≤ maxSixelDimension ∧ ∃ rgba,
      decodeSixel hlsToRgb params terminalBg colorRegisters bytes = .ok (rgba, s.clippedWidth, s.height) ∧
      ∀ x y, x < s.clippedWidth → y < s.height → pixelOf rgba s.clippedWidth 4 x y =
        if y < maxSixelDimension then s.colorAt (sixelBackground params terminalBg) x y
        else sixelBackground params terminalBg := by
  intro s
  have h := follows_finishPending hlsToRgb (follows_run hlsToRgb params terminalBg colorRegisters bytes)
  unfold decodeSixel SixelParser.finish
  generalize (run (SixelParser.feed hlsToRgb) (SixelParser.new params terminalBg colorRegisters)
    bytes).finishPending hlsToRgb = p at h ⊢
  rcases h with ⟨habort, haborts⟩ | ⟨hgoes, hcontrols, hshows, htight, hsizes⟩
  · exact .inl ⟨.inl haborts, if_pos habort⟩
  rw [if_neg (by simp [hgoes])]
  have hnot : ¬ s.Aborts := by
    rintro (⟨size, hmem, hlarge⟩ | hlarge)
    · exact hsizes size hmem hlarge
    · exact hshows.not_tooLarge hlarge
  have hw : max (p.rasterWidth.getD p.maxX) p.maxX = s.clippedWidth := by
    rw [hcontrols.rasterWidth, hcontrols.maxX]
    rfl
  have hh : max (p.rasterHeight.getD p.maxY) p.maxY = s.height := by
    rw [hcontrols.rasterHeight, hcontrols.maxY]
    rfl
  rw [hw, hh]
  by_cases hzero : s.clippedWidth = 0 ∨ s.height = 0
  · have hempty : s.clippedWidth * s.height = 0 := by
      rcases hzero with h0 | h0
      · rw [h0, Nat.zero_mul]
      · rw [h0, Nat.mul_zero]
    have hrefused : ¬ s.Refused := by
      rintro (haborts | hlarge)
      · exact hnot haborts
      · omega
    exact .inr (.inl ⟨hrefused, hzero, if_pos hzero⟩)
  rw [if_neg hzero]
  by_cases hlarge : s.clippedWidth * s.height * 4 > maxSixelPixelBytes
  · exact .inl ⟨.inr hlarge, if_pos hlarge⟩
  have hlimit := clippedWidth_le hsizes
  refine .inr (.inr ⟨fun hrefused => hrefused.elim hnot hlarge, by omega, by omega, hlimit, _, if_neg hlarge, ?_⟩)
  intro x y hx hy
  rw [pixelOf_build (fun col row => SixelParser.length_pictureColor p col row) hx hy]
  exact pictureColor_eq hcontrols hshows (lt_of_lt_of_le hx hlimit) y

end OriTerm.Image
