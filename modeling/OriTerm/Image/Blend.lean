import OriTerm.Image.Frames

/-!
# `Image.Blend` — how far the blend of one pixel strays

`blendPixelOver` divides a weighted sum of two channels by the combined alpha. The destination's weight is
`da·(255 - sa) / 255`, rounded down in the divisor, but the channel it weighs is multiplied first and divided
after, so the numerator may hold more of the destination than the divisor accounts for. The part of the
channel whose weight was rounded away (`blendLost`) is all that can push a quotient over the larger of the
two channels; `blendRoom` is what it would have to reach to do so by more than a unit, or over a byte.

Over an opaque destination no weight is rounded away.
-/

namespace OriTerm.Image

/-! ## One channel -/

/-- What a channel is divided out to before it is made a byte. -/
def blendQuotient (s d sa da : Nat) : Nat :=
  (s * sa + d * da * (255 - sa) / 255) / (sa + da * (255 - sa) / 255)

/-- The part of the destination's channel whose weight is rounded away in the combined alpha. -/
def blendLost (d sa da : Nat) : Nat := d * (da * (255 - sa) % 255) / 255

/-- The combined alpha, twice unless the larger channel is full, and the distance between the channels by the
weight of the smaller one. -/
def blendRoom (s d sa da : Nat) : Nat :=
  (if max s d = 255 then 1 else 2) * (sa + da * (255 - sa) / 255)
    + (d - s) * sa + (s - d) * (da * (255 - sa) / 255)

variable {s d sa da : Nat}

/-- The numerator holds both channels at the weights the divisor counts, and the lost part. -/
theorem numerator_eq (s d sa da : Nat) :
    s * sa + d * da * (255 - sa) / 255 = s * sa + d * (da * (255 - sa) / 255) + blendLost d sa da := by
  have hsplit : d * da * (255 - sa) = 255 * (d * (da * (255 - sa) / 255)) + d * (da * (255 - sa) % 255) := by
    rw [Nat.mul_left_comm, ← Nat.mul_add, Nat.div_add_mod, Nat.mul_assoc]
  rw [hsplit, Nat.mul_add_div (by decide), blendLost, Nat.add_assoc]

/-- A quotient is never below the smaller channel. -/
theorem min_le_blendQuotient (h : 0 < sa) : min s d ≤ blendQuotient s d sa da := by
  rw [blendQuotient, numerator_eq, Nat.le_div_iff_mul_le (by omega), Nat.mul_add]
  have hs := Nat.mul_le_mul_right sa (Nat.min_le_left s d)
  have hd := Nat.mul_le_mul_right (da * (255 - sa) / 255) (Nat.min_le_right s d)
  omega

/-- **A quotient stays a unit over the larger channel, and a byte, exactly when the lost part has room.** -/
theorem blendQuotient_le_iff (h : 0 < sa) :
    blendQuotient s d sa da ≤ (if max s d = 255 then 255 else max s d + 1)
      ↔ blendLost d sa da < blendRoom s d sa da := by
  have hbound : (if max s d = 255 then 255 else max s d + 1) + 1
      = max s d + (if max s d = 255 then 1 else 2) := by
    split <;> omega
  rw [← Nat.lt_succ_iff, blendQuotient, numerator_eq, Nat.div_lt_iff_lt_mul (by omega), Nat.succ_eq_add_one,
    hbound, blendRoom]
  generalize da * (255 - sa) / 255 = k
  generalize (if max s d = 255 then 1 else 2) = slack
  generalize blendLost d sa da = lost
  rcases Nat.le_total s d with hle | hle
  · obtain ⟨t, rfl⟩ := Nat.exists_eq_add_of_le hle
    have hexpand : (s + t + slack) * (sa + k) = s * sa + (s + t) * k + (slack * (sa + k) + t * sa) := by
      simp only [Nat.add_mul, Nat.mul_add]
      omega
    rw [Nat.max_eq_right hle, Nat.add_sub_cancel_left, Nat.sub_eq_zero_of_le hle]
    omega
  · obtain ⟨t, rfl⟩ := Nat.exists_eq_add_of_le hle
    have hexpand : (d + t + slack) * (sa + k) = (d + t) * sa + d * k + (slack * (sa + k) + t * k) := by
      simp only [Nat.add_mul, Nat.mul_add]
      omega
    rw [Nat.max_eq_left hle, Nat.add_sub_cancel_left, Nat.sub_eq_zero_of_le hle]
    omega

/-- The combined alpha fits a byte and holds the source's. -/
theorem combined_le (hsa : sa ≤ 255) (hda : da ≤ 255) : sa + da * (255 - sa) / 255 ≤ 255 := by
  have hle := Nat.div_le_div_right (c := 255) (Nat.mul_le_mul_right (255 - sa) hda)
  omega

/-- A channel laid over itself, on an opaque pixel, is divided back to itself. -/
theorem blendQuotient_same (c : Nat) (h : sa ≤ 255) : blendQuotient c c sa 255 = c := by
  have hsum : c * sa + c * (255 - sa) = c * 255 := by
    rw [← Nat.mul_add, Nat.add_sub_cancel' h]
  rw [blendQuotient, Nat.mul_right_comm, Nat.mul_div_cancel _ (by decide),
    Nat.mul_div_cancel_left _ (by decide), hsum, Nat.add_sub_cancel' h, Nat.mul_div_cancel _ (by decide)]

/-- Over a transparent destination a channel is divided back to itself. -/
theorem blendQuotient_clear (s d : Nat) (h : 0 < sa) : blendQuotient s d sa 0 = s := by
  rw [blendQuotient, Nat.mul_zero, Nat.zero_mul, Nat.add_zero, Nat.add_zero, Nat.mul_div_cancel _ h]

/-- A full source alpha leaves nothing of the destination to lose. -/
theorem blendLost_full (s d da : Nat) : blendLost d 255 da < blendRoom s d 255 da := by
  rw [blendLost, Nat.mul_zero, Nat.mul_zero, blendRoom]
  split <;> omega

/-- A channel made a byte is within a unit of the two it mixes, and the quotient was a byte, exactly when the
lost part has room. -/
theorem channel_iff (hs : s ≤ 255) (hd : d ≤ 255) (h : 0 < sa) :
    (min s d ≤ (UInt8.ofNat (blendQuotient s d sa da)).toNat + 1
        ∧ (UInt8.ofNat (blendQuotient s d sa da)).toNat ≤ max s d + 1) ∧ blendQuotient s d sa da ≤ 255
      ↔ blendLost d sa da < blendRoom s d sa da := by
  rw [← blendQuotient_le_iff h]
  have hmin : min s d ≤ blendQuotient s d sa da := min_le_blendQuotient h
  constructor
  · rintro ⟨⟨-, hle⟩, hbyte⟩
    rw [UInt8.toNat_ofNat_of_lt' (Nat.lt_succ_of_le hbyte)] at hle
    split <;> assumption
  · intro hle
    have hbyte : blendQuotient s d sa da ≤ 255 := by
      split at hle <;> omega
    rw [UInt8.toNat_ofNat_of_lt' (Nat.lt_succ_of_le hbyte)]
    refine ⟨⟨Nat.le_succ_of_le hmin, hle.trans ?_⟩, hbyte⟩
    split <;> omega

/-! ## One pixel -/

/-- What the blend of `src` over `dst` is to keep: channels within a unit of the interval between the two
inputs, an input whose partner is transparent, an alpha no smaller than the source's, and quotients that are
bytes. -/
structure BlendBounded (dst src : List UInt8) : Prop where
  channel : ∀ i < 3,
    min (src.getD i 0).toNat (dst.getD i 0).toNat ≤ ((blendPixelOver dst src).getD i 0).toNat + 1
      ∧ ((blendPixelOver dst src).getD i 0).toNat ≤ max (src.getD i 0).toNat (dst.getD i 0).toNat + 1
  clearSource : src.getD 3 0 = 0 → blendPixelOver dst src = dst
  clearDest : dst.getD 3 0 = 0 → src.getD 3 0 ≠ 0 → ∀ i < 3, (blendPixelOver dst src).getD i 0 = src.getD i 0
  alpha : (src.getD 3 0).toNat ≤ ((blendPixelOver dst src).getD 3 0).toNat
  quotient : 0 < (src.getD 3 0).toNat → (src.getD 3 0).toNat < 255 → ∀ i < 3,
    blendQuotient (src.getD i 0).toNat (dst.getD i 0).toNat (src.getD 3 0).toNat (dst.getD 3 0).toNat ≤ 255

/-- A pixel by its colours. -/
theorem getD_colour (f : Nat → UInt8) (a : UInt8) {i : Nat} (h : i < 3) : [f 0, f 1, f 2, a].getD i 0 = f i := by
  obtain rfl | rfl | rfl : i = 0 ∨ i = 1 ∨ i = 2 := by omega
  all_goals rfl

section
variable {dst src : List UInt8}

/-- A transparent source leaves the pixel. -/
theorem blendPixelOver_clear (h : (src.getD 3 0).toNat = 0) : blendPixelOver dst src = dst := if_pos h

/-- An opaque source replaces the colours. -/
theorem blendPixelOver_full (h : (src.getD 3 0).toNat = 255) :
    (∀ i < 3, (blendPixelOver dst src).getD i 0 = src.getD i 0) ∧ (blendPixelOver dst src).getD 3 0 = 255 := by
  have hout : blendPixelOver dst src = [src.getD 0 0, src.getD 1 0, src.getD 2 0, 255] :=
    (if_neg (fun hzero => absurd (h.symm.trans hzero) (by decide))).trans (if_pos h)
  rw [hout]
  exact ⟨fun i hi => getD_colour (src.getD · 0) 255 hi, rfl⟩

/-- A translucent source: every colour is its quotient made a byte, beside the combined alpha. -/
theorem blendPixelOver_mix (h : 0 < (src.getD 3 0).toNat) (hlt : (src.getD 3 0).toNat < 255) :
    (∀ i < 3, (blendPixelOver dst src).getD i 0 = UInt8.ofNat (blendQuotient (src.getD i 0).toNat
        (dst.getD i 0).toNat (src.getD 3 0).toNat (dst.getD 3 0).toNat))
      ∧ ((blendPixelOver dst src).getD 3 0).toNat
        = (src.getD 3 0).toNat + (dst.getD 3 0).toNat * (255 - (src.getD 3 0).toNat) / 255 := by
  have hcombined := combined_le hlt.le (Nat.le_of_lt_succ (dst.getD 3 0).toNat_lt)
  unfold blendPixelOver
  dsimp only
  rw [if_neg (by omega), if_neg (by omega), if_neg (by omega), Nat.min_eq_left hcombined]
  exact ⟨fun i hi => getD_colour (fun i => UInt8.ofNat (blendQuotient (src.getD i 0).toNat (dst.getD i 0).toNat
    (src.getD 3 0).toNat (dst.getD 3 0).toNat)) _ hi, UInt8.toNat_ofNat_of_lt' (Nat.lt_succ_of_le hcombined)⟩

theorem toNat_le (c : UInt8) : c.toNat ≤ 255 := Nat.le_of_lt_succ c.toNat_lt

/-- What a bounded blend loses has room. -/
theorem BlendBounded.room (hkeeps : BlendBounded dst src) (hpos : 0 < (src.getD 3 0).toNat) {i : Nat} (hi : i < 3) :
    blendLost (dst.getD i 0).toNat (src.getD 3 0).toNat (dst.getD 3 0).toNat
      < blendRoom (src.getD i 0).toNat (dst.getD i 0).toNat (src.getD 3 0).toNat (dst.getD 3 0).toNat := by
  rcases (toNat_le (src.getD 3 0)).lt_or_eq with hlt | hfull
  · have hchannel := hkeeps.channel i hi
    rw [(blendPixelOver_mix hpos hlt).1 i hi] at hchannel
    exact (channel_iff (toNat_le _) (toNat_le _) hpos).mp ⟨hchannel, hkeeps.quotient hpos hlt i hi⟩
  · rw [hfull]
    exact blendLost_full _ _ _

/-- A blend whose lost parts have room is bounded. -/
theorem BlendBounded.of_room (hroom : 0 < (src.getD 3 0).toNat → ∀ i < 3,
    blendLost (dst.getD i 0).toNat (src.getD 3 0).toNat (dst.getD 3 0).toNat
      < blendRoom (src.getD i 0).toNat (dst.getD i 0).toNat (src.getD 3 0).toNat (dst.getD 3 0).toNat) :
    BlendBounded dst src := by
  rcases Nat.eq_zero_or_pos (src.getD 3 0).toNat with hzero | hpos
  · have hout : blendPixelOver dst src = dst := blendPixelOver_clear hzero
    refine ⟨fun i _ => ?_, fun _ => hout, fun _ hne => absurd (UInt8.toNat.inj hzero) hne, ?_, fun hpos => ?_⟩
    · rw [hout]
      omega
    all_goals omega
  · have hclear : ¬ src.getD 3 0 = 0 := fun h => absurd (h ▸ hpos) (by decide)
    rcases (toNat_le (src.getD 3 0)).lt_or_eq with hlt | hfull
    · obtain ⟨hcolour, halpha⟩ := blendPixelOver_mix hpos hlt
      have hchannels := fun i hi => (channel_iff (toNat_le (src.getD i 0)) (toNat_le (dst.getD i 0)) hpos).mpr
        (hroom hpos i hi)
      refine ⟨fun i hi => ?_, fun h => absurd h hclear, fun h _ i hi => ?_, ?_, fun _ _ i hi => (hchannels i hi).2⟩
      · rw [hcolour i hi]
        exact (hchannels i hi).1
      · rw [hcolour i hi, h]
        exact (congrArg UInt8.ofNat (blendQuotient_clear _ _ hpos)).trans UInt8.ofNat_toNat
      · rw [halpha]
        exact Nat.le_add_right _ _
    · obtain ⟨hcolour, halpha⟩ := blendPixelOver_full hfull
      refine ⟨fun i hi => ?_, fun h => absurd h hclear, fun _ _ => hcolour, ?_, fun _ hlt => ?_⟩
      · rw [hcolour i hi]
        omega
      · rw [halpha, hfull]
        rfl
      · omega

/-- An opaque pixel under its own colour stays. -/
theorem blendPixelOver_same (r g b a : UInt8) : blendPixelOver [r, g, b, 255] [r, g, b, a] = [r, g, b, 255] := by
  have hmix : ∀ c : UInt8, UInt8.ofNat (blendQuotient c.toNat c.toNat a.toNat 255) = c := fun c => by
    rw [blendQuotient_same _ (toNat_le a), UInt8.ofNat_toNat]
  have halpha : a.toNat + 255 * (255 - a.toNat) / 255 = 255 := by
    rw [Nat.mul_div_cancel_left _ (by decide), Nat.add_sub_cancel' (toNat_le a)]
  unfold blendPixelOver
  dsimp only
  split
  · rfl
  · split
    · rfl
    · split
      · rfl
      · exact congrArg₂ List.cons (hmix r) (congrArg₂ List.cons (hmix g) (congrArg₂ List.cons (hmix b)
          (congrArg (fun n => [UInt8.ofNat (min n 255)]) halpha)))

end

/-- **The blend keeps its bounds exactly when, under a source not transparent, what is lost of each channel has
room; over an opaque pixel of its own colour it changes nothing, however often.** -/
theorem blendPixelOver_bounded_iff (dst src : List UInt8) :
    (BlendBounded dst src ↔ (0 < (src.getD 3 0).toNat → ∀ i < 3,
      blendLost (dst.getD i 0).toNat (src.getD 3 0).toNat (dst.getD 3 0).toNat
        < blendRoom (src.getD i 0).toNat (dst.getD i 0).toNat (src.getD 3 0).toNat (dst.getD 3 0).toNat))
    ∧ ∀ (r g b : UInt8) (alphas : List UInt8),
        alphas.foldl (fun dst a => blendPixelOver dst [r, g, b, a]) [r, g, b, 255] = [r, g, b, 255] := by
  refine ⟨⟨fun hkeeps hpos i hi => hkeeps.room hpos hi, BlendBounded.of_room⟩, ?_⟩
  intro r g b alphas
  induction alphas with
  | nil => rfl
  | cons a alphas ih => rw [List.foldl_cons, blendPixelOver_same, ih]

/-- White at alpha 1 over white at alpha 100 divides to 256, which a byte makes 0. -/
theorem white_wraps_to_black :
    ¬ BlendBounded [255, 255, 255, 100] [255, 255, 255, 1]
      ∧ blendPixelOver [255, 255, 255, 100] [255, 255, 255, 1] = [0, 0, 0, 100] :=
  ⟨fun h => absurd (h.quotient (by decide) (by decide) 0 (by decide)) (by decide), by decide⟩

end OriTerm.Image
