import OriTerm.Image.SixelDecode

/-!
# `Image.SixelLimits` — where the sixel decoder departs from the sheet

`decodeSixel_cases` says what the decoder returns in terms of the sheet. Two questions remain: whether the picture it
returns is the sheet's, and whether it refuses the right ones.

* **`decodeSixel_shows_iff`**: a returned picture is the sheet's exactly when no column past the limit was drawn and
  what was drawn below the last row of the limit cannot be told from the background.
* **`decodeSixel_refuses_iff`**: the decoder is exact about sizes when `Refused` and `Exceeds` agree. They do not where
  the working buffer, rounded up to powers of two, is too large for a picture that fits, and where a picture is too
  high but small in bytes (`sizes_not_exact`).

On the way no buffer is ever larger than the limit (`sized_run`).
-/

namespace OriTerm.Image

open Lib Lib.Raster

/-! ## The extent of the drawing -/

/-- What is drawn lies within the extent that is counted. -/
def Inked (s : SixelSheet) : Prop := ∀ x y, (s.canvas x y).isSome → x < s.maxX ∧ y < s.maxY

variable {hlsToRgb : Nat → Nat → Nat → Rgb} {colorRegisters : Nat} {s : SixelSheet}

theorem Inked.perform (h : Inked s) (c : SixelCommand) : Inked (s.perform hlsToRgb colorRegisters c) := by
  cases c with
  | draw value count =>
    intro x y hdrawn
    have hdrawn : (drawBits s.canvas value (s.palette.getD s.currentColor ⟨0, 0, 0⟩) s.x (s.x + count) s.y x y).isSome :=
      hdrawn
    show x < max s.maxX (s.x + count) ∧ y < max s.maxY (s.y + 6)
    unfold drawBits at hdrawn
    split at hdrawn
    · omega
    · have hold := h x y hdrawn
      omega
  | color | raster | carriageReturn | newLine => exact h

/-- What every command keeps holds of every sheet. -/
theorem sheet_invariant {I : SixelSheet → Prop} (hblank : I .blank)
    (hstep : ∀ s c, I s → I (s.perform hlsToRgb colorRegisters c)) (bytes : List UInt8) :
    I (sheetOf hlsToRgb colorRegisters bytes) := by
  have hall : ∀ (cs : List SixelCommand) s, I s → I (cs.foldl (SixelSheet.perform hlsToRgb colorRegisters) s) := by
    intro cs
    induction cs with
    | nil => exact fun _ h => h
    | cons c cs ih => exact fun s h => ih _ (hstep s c h)
  have hrun : I (sixelState hlsToRgb colorRegisters bytes).2 :=
    run_invariant (I := fun state : SixelLexer × SixelSheet => I state.2) (fun state byte h => hall _ _ h) hblank bytes
  exact hall _ _ hrun

theorem inked_sheetOf (bytes : List UInt8) : Inked (sheetOf hlsToRgb colorRegisters bytes) :=
  sheet_invariant (fun _ _ h => nomatch h) (fun _ c h => h.perform c) bytes

namespace SixelSheet

theorem maxX_le_width (s : SixelSheet) : s.maxX ≤ s.width := le_max_right _ _

theorem maxY_le_height (s : SixelSheet) : s.maxY ≤ s.height := le_max_right _ _

/-- Without columns past the limit the decoder sees the width of the sheet. -/
theorem clippedWidth_eq (h : s.maxX ≤ maxSixelDimension) : s.clippedWidth = s.width := by
  unfold clippedWidth width
  rw [min_eq_left h]

end SixelSheet

/-! ## The pixels of the picture -/

/-- **When the picture is the sheet's.** Of a picture that the decoder returns, dimensions and pixels are those of the
    sheet exactly when no column past the limit was drawn, and all that was drawn below the limit has the colour of the
    background. -/
theorem decodeSixel_shows_iff {params : List Nat} {terminalBg : Rgb} {bytes rgba : List UInt8} {w h : Nat}
    (hok : decodeSixel hlsToRgb params terminalBg colorRegisters bytes = .ok (rgba, w, h)) :
    let s := sheetOf hlsToRgb colorRegisters bytes
    let background := sixelBackground params terminalBg
    (w = s.width ∧ h = s.height ∧ ∀ x y, x < w → y < h → pixelOf rgba w 4 x y = s.colorAt background x y) ↔
      s.maxX ≤ maxSixelDimension ∧
        ∀ x y rgb, maxSixelDimension ≤ y → s.canvas x y = some rgb → rgbaOf rgb = background := by
  intro s background
  obtain ⟨-, herror⟩ | ⟨-, -, herror⟩ | ⟨-, -, -, hlimit, rgba', hreturned, hpixels⟩ :=
    decodeSixel_cases hlsToRgb params terminalBg colorRegisters bytes
  · rw [hok] at herror
    cases herror
  · rw [hok] at herror
    cases herror
  rw [hok] at hreturned
  obtain ⟨rfl, rfl, rfl⟩ : rgba = rgba' ∧ w = s.clippedWidth ∧ h = s.height := by
    injection hreturned with htuple
    injection htuple with h₁ htuple
    injection htuple with h₂ h₃
    exact ⟨h₁, h₂, h₃⟩
  constructor
  · rintro ⟨hwidth, -, hshown⟩
    refine ⟨?_, fun x y rgb hlow hdrawn => ?_⟩
    · calc s.maxX ≤ s.width := s.maxX_le_width
        _ = s.clippedWidth := hwidth.symm
        _ ≤ maxSixelDimension := hlimit
    · have hinked : x < s.maxX ∧ y < s.maxY :=
        inked_sheetOf bytes x y (by show (s.canvas x y).isSome; rw [hdrawn]; rfl)
      have hx : x < s.clippedWidth := hwidth ▸ lt_of_lt_of_le hinked.1 s.maxX_le_width
      have hy : y < s.height := lt_of_lt_of_le hinked.2 s.maxY_le_height
      have hpixel := hshown x y hx hy
      rw [hpixels x y hx hy, if_neg (by omega), SixelSheet.colorAt, hdrawn] at hpixel
      exact hpixel.symm
  · rintro ⟨hcolumns, hrows⟩
    refine ⟨SixelSheet.clippedWidth_eq hcolumns, rfl, fun x y hx hy => ?_⟩
    rw [hpixels x y hx hy]
    split
    · rfl
    · next hlow =>
      unfold SixelSheet.colorAt
      cases hdrawn : s.canvas x y with
      | none => rfl
      | some rgb => exact (hrows x y rgb (by omega) hdrawn).symm

theorem decodeSixel_shows_iff_column :
    ((1 : Nat) = (sheetOf (fun _ _ _ => ⟨0, 0, 0⟩) 256 [35, 49, 80]).width ∧
      6 = (sheetOf (fun _ _ _ => ⟨0, 0, 0⟩) 256 [35, 49, 80]).height ∧
      ∀ x y, x < 1 → y < 6 →
        pixelOf [51, 51, 204, 255, 0, 0, 0, 0, 0, 0, 0, 0, 0, 0, 0, 0, 51, 51, 204, 255, 0, 0, 0, 0] 1 4 x y =
          (sheetOf (fun _ _ _ => ⟨0, 0, 0⟩) 256 [35, 49, 80]).colorAt (sixelBackground [0, 1] ⟨0, 0, 0⟩) x y) ↔
      (sheetOf (fun _ _ _ => ⟨0, 0, 0⟩) 256 [35, 49, 80]).maxX ≤ maxSixelDimension ∧
        ∀ x y rgb, maxSixelDimension ≤ y →
          (sheetOf (fun _ _ _ => ⟨0, 0, 0⟩) 256 [35, 49, 80]).canvas x y = some rgb →
            rgbaOf rgb = sixelBackground [0, 1] ⟨0, 0, 0⟩ :=
  decodeSixel_shows_iff (by decide +kernel)

/-! ### Streams of newlines -/

/-- Newlines move the pen down. -/
theorem sixelStep_newLines (hlsToRgb : Nat → Nat → Nat → Rgb) (colorRegisters n : Nat) {lx : SixelLexer}
    (hidle : lx.cmd = 0) (s : SixelSheet) (hx : s.x = 0) :
    run (sixelStep hlsToRgb colorRegisters) (lx, s) (List.replicate n 45) = (lx, { s with y := s.y + 6 * n }) := by
  induction n generalizing s with
  | zero => rfl
  | succ n ih =>
    have hstep : sixelStep hlsToRgb colorRegisters (lx, s) 45 = (lx, { s with y := s.y + 6 }) := by
      obtain ⟨cmd, params, paramIdx⟩ := lx
      obtain ⟨canvas, palette, currentColor, x, y, maxX, maxY, declared⟩ := s
      obtain rfl : cmd = 0 := hidle
      obtain rfl : x = 0 := hx
      rfl
    have hdown : s.y + 6 + 6 * n = s.y + 6 * (n + 1) := by omega
    rw [List.replicate_succ, run_cons, hstep, ih { s with y := s.y + 6 } hx]
    rw [hdown]

/-- One column of six pixels below 1667 newlines. -/
def tallStream : List UInt8 := List.replicate 1667 45 ++ [126]

/-- The sheet of the tall stream: one black column from row 10002 on. -/
def tallSheet : SixelSheet :=
  { SixelSheet.blank with canvas := drawBits (fun _ _ => none) 63 ⟨0, 0, 0⟩ 0 1 10002, x := 1, y := 10002, maxX := 1
                          maxY := 10008 }

theorem sheetOf_tall (hlsToRgb : Nat → Nat → Nat → Rgb) (colorRegisters : Nat) :
    sheetOf hlsToRgb colorRegisters tallStream = tallSheet := by
  unfold sheetOf sixelState tallStream
  rw [run_append, sixelStep_newLines _ _ _ rfl _ rfl]
  rfl

/-- Where a bit is drawn by a single run. -/
theorem drawBits_isSome {value : UInt8} {rgb : Rgb} {left right top x y : Nat}
    (h : (drawBits (fun _ _ => none) value rgb left right top x y).isSome) :
    left ≤ x ∧ x < right ∧ top ≤ y ∧ y < top + 6 := by
  unfold drawBits at h
  split at h
  · omega
  · cases h

theorem rounded_one : rounded 1 ≤ 1 := (min_le_left _ _).trans (nextPowerOfTwo_le (k := 0) (by decide))

theorem not_refused_tall : ¬ tallSheet.Refused := by
  rintro ((⟨size, hmem, -⟩ | ⟨x, y, x', y', -, -, hdrawn, -, hlarge⟩) | hlarge)
  · cases hmem
  · have hx := (drawBits_isSome hdrawn).2.1
    obtain rfl : x = 0 := by omega
    have hw : rounded (0 + 1) ≤ 1 := rounded_one
    have hh := rounded_le (y' + 1)
    have hmul := Nat.mul_le_mul_right 4 (Nat.mul_le_mul hw hh)
    unfold maxSixelDimension maxSixelPixelBytes at *
    omega
  · exact absurd hlarge (by decide)

/-- The tall stream is decoded into a picture of 10008 rows. -/
theorem decodeSixel_tall : ∃ rgba,
    decodeSixel (fun _ _ _ => ⟨0, 0, 0⟩) [0, 1] ⟨0, 0, 0⟩ 256 tallStream = .ok (rgba, 1, 10008) ∧
      ∀ x y, x < 1 → y < 10008 → pixelOf rgba 1 4 x y =
        if y < maxSixelDimension then tallSheet.colorAt [0, 0, 0, 0] x y else [0, 0, 0, 0] := by
  have hcases := decodeSixel_cases (fun _ _ _ => ⟨0, 0, 0⟩) [0, 1] ⟨0, 0, 0⟩ 256 tallStream
  rw [sheetOf_tall] at hcases
  obtain ⟨hrefused, -⟩ | ⟨-, hzero, -⟩ | ⟨-, -, -, -, hreturned⟩ := hcases
  · exact absurd hrefused not_refused_tall
  · exact absurd hzero (by decide)
  · exact hreturned

/-- What is drawn from row 10000 on is lost: of the column drawn at row 10002, in a picture of 10008 rows, the decoder
    returns a transparent pixel. -/
theorem low_rows_lost : ∃ rgba,
    decodeSixel (fun _ _ _ => ⟨0, 0, 0⟩) [0, 1] ⟨0, 0, 0⟩ 256 tallStream = .ok (rgba, 1, 10008) ∧
      (sheetOf (fun _ _ _ => ⟨0, 0, 0⟩) 256 tallStream).colorAt (sixelBackground [0, 1] ⟨0, 0, 0⟩) 0 10002 =
        [0, 0, 0, 255] ∧
      pixelOf rgba 1 4 0 10002 = [0, 0, 0, 0] := by
  obtain ⟨rgba, hreturned, hpixels⟩ := decodeSixel_tall
  refine ⟨rgba, hreturned, ?_, ?_⟩
  · rw [sheetOf_tall]
    decide
  · rw [hpixels 0 10002 (by decide) (by decide), if_neg (by decide)]

/-! ## The working buffer -/

namespace SixelParser

variable {p : SixelParser}

theorem sized_setPixel (h : Sized p) (x y : Nat) (rgb : Rgb) : Sized (p.setPixel x y rgb) := by
  have hgrown : Sized (if x + 1 > p.width ∨ y + 1 > p.height then p.growBuffer (x + 1) (y + 1) else p) := by
    split
    · exact sized_growBuffer h _ _
    · exact h
  rw [setPixel_eq]
  generalize (if x + 1 > p.width ∨ y + 1 > p.height then p.growBuffer (x + 1) (y + 1) else p) = grown at hgrown ⊢
  dsimp only
  split
  · exact hgrown
  · unfold writePixel
    dsimp only
    split
    · exact ⟨by simpa using hgrown.length, by simpa using hgrown.limit, hgrown.width, hgrown.height⟩
    · exact hgrown

theorem sized_drawColumn (h : Sized p) (value : UInt8) (rgb : Rgb) : Sized (p.drawColumn value rgb) := by
  refine forRange_invariant (fun bit p' _ _ hp => ?_) h
  split
  · exact sized_setPixel hp _ _ _
  · exact hp

theorem sized_emitColumns (value : UInt8) (rgb : Rgb) (count : Nat) (h : Sized p) :
    Sized (emitColumns value rgb count p) := by
  induction count generalizing p with
  | zero => exact h
  | succ count ih =>
    unfold emitColumns
    split
    · exact h
    · have hcolumn := sized_drawColumn h value rgb
      exact ih ⟨hcolumn.length, hcolumn.limit, hcolumn.width, hcolumn.height⟩

theorem sized_emitSixel (h : Sized p) (value : UInt8) (count : Nat) : Sized (p.emitSixel value count) := by
  have hcolumns := sized_emitColumns value (p.palette.getD p.currentColor ⟨0, 0, 0⟩) (min count maxSixelDimension) h
  exact ⟨hcolumns.length, hcolumns.limit, hcolumns.width, hcolumns.height⟩

theorem sized_finishPending (h : Sized p) : Sized (p.finishPending hlsToRgb) := by
  have hidle : Sized { p with cmd := 0 } := ⟨h.length, h.limit, h.width, h.height⟩
  unfold finishPending finishCommand
  dsimp only
  split
  · split
    · exact ⟨h.length, h.limit, h.width, h.height⟩
    · split
      · unfold applyRasterAttrs
        dsimp only
        split
        · split
          · exact ⟨h.length, h.limit, h.width, h.height⟩
          · split <;> exact ⟨h.length, h.limit, h.width, h.height⟩
        · exact hidle
      · exact hidle
  · exact h

theorem sized_feed (h : Sized p) (byte : UInt8) : Sized (p.feed hlsToRgb byte) := by
  have hpending : Sized (p.finishPending hlsToRgb) := sized_finishPending h
  unfold feed
  split
  · exact h
  split
  · split
    · have hidle : Sized { p with cmd := 0 } := ⟨h.length, h.limit, h.width, h.height⟩
      exact sized_emitSixel hidle _ _
    · exact sized_emitSixel hpending _ _
  split
  · exact ⟨h.length, h.limit, h.width, h.height⟩
  split
  · exact ⟨h.length, h.limit, h.width, h.height⟩
  split
  · exact ⟨hpending.length, hpending.limit, hpending.width, hpending.height⟩
  split
  · exact ⟨hpending.length, hpending.limit, hpending.width, hpending.height⟩
  split
  · exact ⟨hpending.length, hpending.limit, hpending.width, hpending.height⟩
  · exact h

end SixelParser

/-- **The buffer stays within the limit** along every stream. -/
theorem sized_run (params : List Nat) (terminalBg : Rgb) (colorRegisters : Nat) (bytes : List UInt8) :
    SixelParser.Sized (run (SixelParser.feed hlsToRgb) (SixelParser.new params terminalBg colorRegisters) bytes) := by
  have hnew : SixelParser.Sized (SixelParser.new params terminalBg colorRegisters) :=
    ⟨rfl, Nat.zero_le _, Nat.zero_le _, Nat.zero_le _⟩
  exact run_invariant (I := SixelParser.Sized) (fun _ byte h => SixelParser.sized_feed h byte) hnew bytes

/-! ## Refusals -/

/-- **The decoder is exact about sizes** on a stream: it refuses the picture when that is too large, and otherwise
    returns all of it, and its buffer was never too large. -/
structure ExactSize (hlsToRgb : Nat → Nat → Nat → Rgb) (params : List Nat) (terminalBg : Rgb) (colorRegisters : Nat)
    (bytes : List UInt8) : Prop where
  refused : decodeSixel hlsToRgb params terminalBg colorRegisters bytes = .error oversizedImage ↔
    (sheetOf hlsToRgb colorRegisters bytes).Exceeds
  shown : ¬ (sheetOf hlsToRgb colorRegisters bytes).Exceeds → 0 < (sheetOf hlsToRgb colorRegisters bytes).width →
    0 < (sheetOf hlsToRgb colorRegisters bytes).height → ∃ rgba,
      decodeSixel hlsToRgb params terminalBg colorRegisters bytes = .ok (rgba,
        (sheetOf hlsToRgb colorRegisters bytes).width, (sheetOf hlsToRgb colorRegisters bytes).height) ∧
      ∀ x y, x < (sheetOf hlsToRgb colorRegisters bytes).width → y < (sheetOf hlsToRgb colorRegisters bytes).height →
        pixelOf rgba (sheetOf hlsToRgb colorRegisters bytes).width 4 x y =
          (sheetOf hlsToRgb colorRegisters bytes).colorAt (sixelBackground params terminalBg) x y
  buffer : ∀ n, (run (SixelParser.feed hlsToRgb) (SixelParser.new params terminalBg colorRegisters)
    (bytes.take n)).pixels.length ≤ maxSixelPixelBytes

/-- The decoder's refusals, in terms of the sheet. -/
theorem decodeSixel_refused (params : List Nat) (terminalBg : Rgb) (bytes : List UInt8) :
    decodeSixel hlsToRgb params terminalBg colorRegisters bytes = .error oversizedImage ↔
      (sheetOf hlsToRgb colorRegisters bytes).Refused := by
  obtain ⟨hrefused, herror⟩ | ⟨hrefused, -, herror⟩ | ⟨hrefused, -, -, -, rgba, hok, -⟩ :=
    decodeSixel_cases hlsToRgb params terminalBg colorRegisters bytes
  · exact ⟨fun _ => hrefused, fun _ => herror⟩
  · refine ⟨fun herror' => ?_, fun h => absurd h hrefused⟩
    rw [herror] at herror'
    exact absurd (Except.error.inj herror') (by decide)
  · refine ⟨fun herror => ?_, fun h => absurd h hrefused⟩
    rw [hok] at herror
    cases herror

/-- **When the decoder is exact about sizes**: on the streams for which what it refuses is what is too large. -/
theorem decodeSixel_refuses_iff (hlsToRgb : Nat → Nat → Nat → Rgb) (params : List Nat) (terminalBg : Rgb)
    (colorRegisters : Nat) (bytes : List UInt8) :
    ExactSize hlsToRgb params terminalBg colorRegisters bytes ↔
      ((sheetOf hlsToRgb colorRegisters bytes).Refused ↔ (sheetOf hlsToRgb colorRegisters bytes).Exceeds) := by
  constructor
  · intro h
    exact (decodeSixel_refused params terminalBg bytes).symm.trans h.refused
  · intro hiff
    refine ⟨(decodeSixel_refused params terminalBg bytes).trans hiff, fun hfits hw hh => ?_, fun n =>
      (sized_run params terminalBg colorRegisters (bytes.take n)).limit⟩
    obtain ⟨hrefused, -⟩ | ⟨-, hzero, -⟩ | ⟨-, -, -, -, rgba, hok, hpixels⟩ :=
      decodeSixel_cases hlsToRgb params terminalBg colorRegisters bytes
    · exact absurd (hiff.mp hrefused) hfits
    all_goals
      have hwidth : (sheetOf hlsToRgb colorRegisters bytes).width ≤ maxSixelDimension := by
        by_contra hlarge
        exact hfits (.inl (by omega))
      have hheight : (sheetOf hlsToRgb colorRegisters bytes).height ≤ maxSixelDimension := by
        by_contra hlarge
        exact hfits (.inr (.inl (by omega)))
      have hclipped := SixelSheet.clippedWidth_eq ((SixelSheet.maxX_le_width _).trans hwidth)
    · rw [hclipped] at hzero
      omega
    · rw [hclipped] at hok hpixels
      refine ⟨rgba, hok, fun x y hx hy => ?_⟩
      rw [hpixels x y hx hy, if_pos (by omega)]

/-! ### Pictures on which the decoder is not exact -/

/-- A side that holds more than a power of two is the next one, up to the limit. -/
theorem le_rounded_of_lt {k n : Nat} (h : 2 ^ k < n) : min (2 ^ (k + 1)) maxSixelDimension ≤ rounded n := by
  obtain ⟨j, hj⟩ := Nat.isPowerOfTwo_nextPowerOfTwo n
  have hlt : 2 ^ k < 2 ^ j := hj ▸ lt_of_lt_of_le h (le_nextPowerOfTwo n)
  have hkj : k + 1 ≤ j := (Nat.pow_lt_pow_iff_right (by omega)).mp hlt
  unfold rounded
  rw [hj]
  exact min_le_min_right _ (Nat.pow_le_pow_right (by omega) hkj)

/-- A stroke of 4097 columns, and a single column 2052 rows below it. -/
def wideStream : List UInt8 := [33, 52, 48, 57, 55, 126] ++ [45] ++ List.replicate 341 45 ++ [126]

/-- The sheet of the wide stream. -/
def wideSheet : SixelSheet :=
  { SixelSheet.blank with canvas := drawBits (drawBits (fun _ _ => none) 63 ⟨0, 0, 0⟩ 0 4097 0) 63 ⟨0, 0, 0⟩ 0 1 2052
                          x := 1, y := 2052, maxX := 4097, maxY := 2058 }

theorem sheetOf_wide (hlsToRgb : Nat → Nat → Nat → Rgb) (colorRegisters : Nat) :
    sheetOf hlsToRgb colorRegisters wideStream = wideSheet := by
  unfold sheetOf sixelState wideStream
  rw [run_append, run_append, run_append]
  have hread : ∀ {lx lx' : SixelLexer} {byte : UInt8} {cs : List SixelCommand} (s : SixelSheet),
      lx.feed byte = (lx', cs) → sixelStep hlsToRgb colorRegisters (lx, s) byte =
        (lx', cs.foldl (SixelSheet.perform hlsToRgb colorRegisters) s) := by
    intro lx lx' byte cs s h
    rw [sixelStep, h]
  have hstroke : run (sixelStep hlsToRgb colorRegisters) ({}, SixelSheet.blank) [33, 52, 48, 57, 55, 126] =
      ({ params := [4097, 0, 0, 0, 0] },
        { SixelSheet.blank with canvas := drawBits (fun _ _ => none) 63 ⟨0, 0, 0⟩ 0 4097 0, x := 4097, maxX := 4097
                                maxY := 6 }) := by
    have h₀ : SixelLexer.feed {} 33 = ({ cmd := 33 }, []) := by decide
    have h₁ : SixelLexer.feed { cmd := 33 } 52 = ({ cmd := 33, params := [4, 0, 0, 0, 0] }, []) := by decide
    have h₂ : SixelLexer.feed { cmd := 33, params := [4, 0, 0, 0, 0] } 48 =
        ({ cmd := 33, params := [40, 0, 0, 0, 0] }, []) := by decide
    have h₃ : SixelLexer.feed { cmd := 33, params := [40, 0, 0, 0, 0] } 57 =
        ({ cmd := 33, params := [409, 0, 0, 0, 0] }, []) := by decide
    have h₄ : SixelLexer.feed { cmd := 33, params := [409, 0, 0, 0, 0] } 55 =
        ({ cmd := 33, params := [4097, 0, 0, 0, 0] }, []) := by decide
    have h₅ : SixelLexer.feed { cmd := 33, params := [4097, 0, 0, 0, 0] } 126 =
        ({ params := [4097, 0, 0, 0, 0] }, [.draw 63 4097]) := by decide
    simp only [run_cons]
    rw [hread _ h₀, hread _ h₁, hread _ h₂, hread _ h₃, hread _ h₄]
    rfl
  rw [hstroke]
  have hline : run (sixelStep hlsToRgb colorRegisters) ({ params := [4097, 0, 0, 0, 0] },
      { SixelSheet.blank with canvas := drawBits (fun _ _ => none) 63 ⟨0, 0, 0⟩ 0 4097 0, x := 4097, maxX := 4097
                              maxY := 6 }) [45] =
      ({ params := [4097, 0, 0, 0, 0] },
        { SixelSheet.blank with canvas := drawBits (fun _ _ => none) 63 ⟨0, 0, 0⟩ 0 4097 0, y := 6, maxX := 4097
                                maxY := 6 }) := rfl
  rw [sixelStep_newLines _ _ _ rfl _ rfl]
  rfl

/-- The decoder gives the wide sheet up: its buffer would have 8192 by 4096 pixels. -/
theorem aborts_wide : wideSheet.Aborts := by
  refine .inr ⟨4096, 0, 0, 2057, by decide, by decide, rfl, rfl, ?_⟩
  have hw : 8192 ≤ rounded (4096 + 1) := le_rounded_of_lt (k := 12) (by decide)
  have hh : 4096 ≤ rounded (2057 + 1) := le_rounded_of_lt (k := 11) (by decide)
  have hmul := Nat.mul_le_mul_right 4 (Nat.mul_le_mul hw hh)
  unfold maxSixelPixelBytes
  omega

/-- Wrong both ways: a picture of 4097 by 2058 pixels, 34 MB, is refused, and one of 10008 rows is not. -/
theorem sizes_not_exact :
    (decodeSixel (fun _ _ _ => ⟨0, 0, 0⟩) [] ⟨0, 0, 0⟩ 256 wideStream = .error oversizedImage ∧
        (sheetOf (fun _ _ _ => ⟨0, 0, 0⟩) 256 wideStream).width = 4097 ∧
        (sheetOf (fun _ _ _ => ⟨0, 0, 0⟩) 256 wideStream).height = 2058 ∧
        ¬ (sheetOf (fun _ _ _ => ⟨0, 0, 0⟩) 256 wideStream).Exceeds ∧
        ¬ ExactSize (fun _ _ _ => ⟨0, 0, 0⟩) [] ⟨0, 0, 0⟩ 256 wideStream) ∧
      (∃ rgba, decodeSixel (fun _ _ _ => ⟨0, 0, 0⟩) [0, 1] ⟨0, 0, 0⟩ 256 tallStream = .ok (rgba, 1, 10008)) ∧
        (sheetOf (fun _ _ _ => ⟨0, 0, 0⟩) 256 tallStream).Exceeds ∧
        ¬ ExactSize (fun _ _ _ => ⟨0, 0, 0⟩) [0, 1] ⟨0, 0, 0⟩ 256 tallStream := by
  have hrefused : decodeSixel (fun _ _ _ => ⟨0, 0, 0⟩) [] ⟨0, 0, 0⟩ 256 wideStream = .error oversizedImage := by
    rw [decodeSixel_refused, sheetOf_wide]
    exact .inl aborts_wide
  have hfits : ¬ (sheetOf (fun _ _ _ => ⟨0, 0, 0⟩) 256 wideStream).Exceeds := by
    rw [sheetOf_wide]
    rintro (h | h | h)
    · exact absurd h (by decide)
    · exact absurd h (by decide)
    · exact absurd h (by decide)
  obtain ⟨rgba, hreturned, -⟩ := decodeSixel_tall
  have hexceeds : (sheetOf (fun _ _ _ => ⟨0, 0, 0⟩) 256 tallStream).Exceeds := by
    rw [sheetOf_tall]
    exact .inr (.inl (by decide))
  have hwide : ¬ ExactSize (fun _ _ _ => ⟨0, 0, 0⟩) [] ⟨0, 0, 0⟩ 256 wideStream := by
    intro h
    exact hfits (h.refused.mp hrefused)
  have htall : ¬ ExactSize (fun _ _ _ => ⟨0, 0, 0⟩) [0, 1] ⟨0, 0, 0⟩ 256 tallStream := by
    intro h
    have herror := h.refused.mpr hexceeds
    rw [hreturned] at herror
    cases herror
  refine ⟨⟨hrefused, ?_, ?_, hfits, hwide⟩, ⟨rgba, hreturned⟩, hexceeds, htall⟩
  · rw [sheetOf_wide]
    rfl
  · rw [sheetOf_wide]
    rfl

end OriTerm.Image
