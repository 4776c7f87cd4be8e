import OriTerm.Image.Iterm2

/-!
# `Image.Iterm2Base64` — the base64 payload of an iTerm2 image

The decoder reads symbol by symbol and skips `=` wherever it stands; what is left over at the end is dropped
(`decodeIterm2Base64_eq`). So an encoding comes back, with padding or without and with white space anywhere.

**`iterm2_base64_iff`** — other texts are to be rejected: that is so for a text with a foreign byte, but not for one of
symbols and `=` that is no encoding.
-/

namespace OriTerm.Image

open Lib List Option
open Base64 (Encodes Canonical symbol pad octets encode padding)

/-- The payload without its white space. -/
def cleanBase64 (data : List UInt8) : List UInt8 := data.filter (!isAsciiWhitespace ·)

/-- A byte that is neither a symbol nor `=`. -/
def Foreign (b : UInt8) : Prop := symbol b = none ∧ b ≠ pad

/-- **Decoding is exact**: the encoding of a byte string decodes to it, and what is no encoding is rejected. -/
def DecodesExactly (data : List UInt8) : Prop :=
  (∀ bytes, Encodes (cleanBase64 data) bytes → decodeIterm2Base64 data = some bytes) ∧
    ((∀ bytes, ¬Encodes (cleanBase64 data) bytes) → decodeIterm2Base64 data = none)

/-- The value of one more symbol. -/
def base64Feed (state : Nat × Nat × List UInt8) (val : Nat) : Nat × Nat × List UInt8 :=
  let buf := state.1 * 64 + val
  let bits := state.2.1 + 6
  if bits ≥ 8 then (buf % 2 ^ (bits - 8), bits - 8, state.2.2 ++ [(buf / 2 ^ (bits - 8)).toUInt8])
  else (buf, bits, state.2.2)

section

variable (out : List UInt8)

theorem base64Feed_first (a : Nat) : base64Feed (0, 0, out) a = (a, 6, out) := by
  simp [base64Feed]

theorem base64Feed_second (a b : Nat) :
    base64Feed (a, 6, out) b = (b % 16, 4, out ++ [(a * 4 + b / 16).toUInt8]) := by
  have hmod : (a * 64 + b) % 16 = b % 16 := by omega
  have hdiv : (a * 64 + b) / 16 = a * 4 + b / 16 := by omega
  simp [base64Feed, Nat.reduceSub, hmod, hdiv]

theorem base64Feed_third (b c : Nat) : base64Feed (b, 4, out) c = (c % 4, 2, out ++ [(b * 16 + c / 4).toUInt8]) := by
  have hmod : (b * 64 + c) % 4 = c % 4 := by omega
  have hdiv : (b * 64 + c) / 4 = b * 16 + c / 4 := by omega
  simp [base64Feed, Nat.reduceSub, hmod, hdiv]

theorem base64Feed_fourth (c d : Nat) : base64Feed (c, 2, out) d = (0, 0, out ++ [(c * 64 + d).toUInt8]) := by
  simp [base64Feed, Nat.reduceAdd, Nat.mod_one]

end

/-- Four values empty the buffer again. -/
theorem foldl_base64Feed (values : List Nat) (out : List UInt8) :
    (values.foldl base64Feed (0, 0, out)).2.2 = out ++ octets values := by
  match values with
  | a :: b :: c :: d :: rest =>
    rw [foldl_cons, foldl_cons, foldl_cons, foldl_cons, base64Feed_first, base64Feed_second, base64Feed_third,
      base64Feed_fourth, foldl_base64Feed]
    simp [octets, Base64.pack, append_assoc, cons_append]
  | [a, b, c] =>
    rw [foldl_cons, foldl_cons, foldl_cons, foldl_nil, base64Feed_first, base64Feed_second, base64Feed_third]
    simp [octets, Base64.pack]
  | [a, b] =>
    rw [foldl_cons, foldl_cons, base64Feed_first, base64Feed_second]
    rfl
  | [a] =>
    exact (append_nil out).symm
  | [] => exact (append_nil out).symm

/-- The loop reads the symbols and skips the padding. -/
theorem foldlM_base64Step (text : List UInt8) (state : Nat × Nat × List UInt8) :
    text.foldlM base64Step state = ((text.filter (· != pad)).mapM symbol).map fun values => values.foldl base64Feed state := by
  induction text generalizing state with
  | nil => rfl
  | cons b text ih =>
    rw [foldlM_cons]
    by_cases hb : b = pad
    · rw [base64Step, if_pos hb, filter_cons_of_neg (by simp [hb])]
      exact ih state
    · rw [base64Step, if_neg hb, filter_cons_of_pos (by simpa using hb), mapM_cons]
      cases symbol b with
      | none => rfl
      | some val =>
        show text.foldlM base64Step (base64Feed state val) = _
        rw [ih]
        cases (text.filter (· != pad)).mapM symbol with
        | none | some => rfl

/-- **What the decoder computes**: the symbols in order, whatever stands between them. -/
theorem decodeIterm2Base64_eq (data : List UInt8) :
    decodeIterm2Base64 data = (((cleanBase64 data).filter (· != pad)).mapM symbol).map octets := by
  show ((cleanBase64 data).foldlM base64Step (0, 0, [])).map (·.2.2) = _
  rw [foldlM_base64Step, Option.map_map]
  congr 1
  funext values
  exact foldl_base64Feed values []

/-- An encoding decodes to its bytes. -/
theorem decode_of_encodes {data bytes : List UInt8} (h : Encodes (cleanBase64 data) bytes) :
    decodeIterm2Base64 data = some bytes := by
  have hsymbols := Base64.mapM_symbol_encode bytes
  have hself : (encode bytes).filter (· != pad) = encode bytes :=
    filter_eq_self.mpr (Base64.ne_pad_of_mapM hsymbols)
  have hfilter : (cleanBase64 data).filter (· != pad) = encode bytes := by
    rcases h with h | h
    · rw [h, hself]
    · rw [h, filter_append, hself]
      simp [padding]
  rw [decodeIterm2Base64_eq, hfilter, hsymbols]
  exact congrArg some (Base64.octets_sextets bytes).1

/-- A text is rejected exactly for a foreign byte. -/
theorem decode_eq_none_iff (data : List UInt8) :
    decodeIterm2Base64 data = none ↔ ∃ b ∈ cleanBase64 data, Foreign b := by
  rw [decodeIterm2Base64_eq, Option.map_eq_none_iff]
  have hfilter : ∀ text : List UInt8, text.mapM symbol = none ↔ ∃ b ∈ text, symbol b = none := by
    intro text
    induction text with
    | nil => simp
    | cons b text ih =>
      cases hb : symbol b with
      | none => simp [hb]
      | some v =>
        cases htext : text.mapM symbol with
        | none | some => simpa [hb, htext] using ih
  rw [hfilter]
  constructor
  · rintro ⟨b, hb, hnone⟩
    obtain ⟨hmem, hne⟩ := mem_filter.mp hb
    exact ⟨b, hmem, hnone, bne_iff_ne.mp hne⟩
  · rintro ⟨b, hmem, hnone, hne⟩
    exact ⟨b, mem_filter.mpr ⟨hmem, bne_iff_ne.mpr hne⟩, hnone⟩

/-- **Decoding is exact** just for the texts with a foreign byte and for the encodings. -/
theorem iterm2_base64_iff (data : List UInt8) :
    DecodesExactly data ↔ (∃ b ∈ cleanBase64 data, Foreign b) ∨ Canonical (cleanBase64 data) := by
  rw [Base64.canonical_iff, ← decode_eq_none_iff]
  constructor
  · rintro ⟨-, hreject⟩
    by_cases hencodes : ∃ bytes, Encodes (cleanBase64 data) bytes
    · exact .inr hencodes
    · exact .inl (hreject (not_exists.mp hencodes))
  · intro h
    refine ⟨fun bytes => decode_of_encodes, fun hno => ?_⟩
    rcases h with hnone | ⟨bytes, hbytes⟩
    · exact hnone
    · exact (hno bytes hbytes).elim

/-- Data behind the padding is read on: `QQ==QQ==` decodes to three bytes, but is no encoding. -/
theorem data_after_padding :
    (decodeIterm2Base64 (asciiBytes "QQ==QQ==")).map length = some 3 ∧ ¬DecodesExactly (asciiBytes "QQ==QQ==") := by
  have hdecode : (decodeIterm2Base64 (asciiBytes "QQ==QQ==")).map length = some 3 := by decide +kernel
  refine ⟨hdecode, ?_⟩
  rintro ⟨-, hreject⟩
  refine absurd (hreject (not_exists.mp ?_)) (by decide +kernel)
  rw [← Base64.canonical_iff]
  rintro ⟨values, hvalues, -, hpad⟩
  have hlen : values.length = 2 := by
    obtain ⟨htext, -⟩ := Base64.map_char_of_mapM hvalues
    rw [← length_map, htext]
    decide +kernel
  rw [hlen] at hpad
  revert hpad
  decide +kernel

end OriTerm.Image
