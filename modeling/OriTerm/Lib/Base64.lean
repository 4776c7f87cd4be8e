import Mathlib.Data.List.TakeWhile

/-!
# `Lib.Base64` — decoding the standard alphabet

A decoder for base64 as it stands on the wire: quads of symbols, the last of which may be short. Padding is
optional, and only at the end of the last quad; the bits that a short quad leaves over are dropped.

A text is **whole** when it is a run of complete quads without padding. Whole texts are what may stand in front of
another text: `decode_append` decodes a text piece by piece, and `decode_flatten` a text that was cut into many.

`encode` is the way back; `canonical_iff` says which texts it makes.
-/

namespace Lib.Base64

open List

/-- `=`. -/
def pad : UInt8 := 61

/-- The six bits a symbol stands for. -/
def symbol (b : UInt8) : Option Nat :=
  let n := b.toNat
  if 65 ≤ n ∧ n ≤ 90 then some (n - 65)
  else if 97 ≤ n ∧ n ≤ 122 then some (n - 71)
  else if 48 ≤ n ∧ n ≤ 57 then some (n + 4)
  else if n = 43 then some 62
  else if n = 47 then some 63
  else none

/-- The bytes that two, three or four values of six bits hold. -/
def pack : List Nat → List UInt8
  | [a, b] => [(a * 4 + b / 16).toUInt8]
  | [a, b, c] => [(a * 4 + b / 16).toUInt8, (b % 16 * 16 + c / 4).toUInt8]
  | [a, b, c, d] => [(a * 4 + b / 16).toUInt8, (b % 16 * 16 + c / 4).toUInt8, (c % 4 * 64 + d).toUInt8]
  | _ => []

/-- Decodes symbols without padding. -/
def decodeSymbols (symbols : List UInt8) : Option (List UInt8) := (symbols.mapM symbol).map pack

/-- Decodes the last quad: two symbols at least, and nothing but padding after them. -/
def decodeSuffix (suffix : List UInt8) : Option (List UInt8) :=
  let symbols := suffix.takeWhile (· != pad)
  if suffix.isEmpty then some []
  else if symbols.length < 2 then none
  else if (suffix.dropWhile (· != pad)).all (· == pad) then decodeSymbols symbols
  else none

/-- Decodes a text; `none` when it is malformed. -/
def decode : List UInt8 → Option (List UInt8)
  | a :: b :: c :: d :: e :: rest =>
    (decodeSymbols [a, b, c, d]).bind fun bytes => (decode (e :: rest)).map (bytes ++ ·)
  | suffix => decodeSuffix suffix

/-- Complete quads without padding. -/
def Whole (text : List UInt8) : Prop := text.length % 4 = 0 ∧ pad ∉ text

instance (text : List UInt8) : Decidable (Whole text) := by unfold Whole; infer_instance

/-! ## Decoding piece by piece -/

@[simp] theorem decode_nil : decode [] = some [] := rfl

/-- A quad without padding is decoded by itself, also where the text ends after it. -/
theorem decode_quad {a b c d : UInt8} (h : pad ∉ [a, b, c, d]) (rest : List UInt8) :
    decode (a :: b :: c :: d :: rest)
      = (decodeSymbols [a, b, c, d]).bind fun bytes => (decode rest).map (bytes ++ ·) := by
  cases rest with
  | cons e rest => rfl
  | nil =>
    have hnot : ∀ x ∈ [a, b, c, d], (x != pad) = true := by
      intro x hx
      rw [bne_iff_ne]
      intro heq
      exact h (heq ▸ hx)
    have htake : [a, b, c, d].takeWhile (· != pad) = [a, b, c, d] := takeWhile_eq_self_iff.2 hnot
    have hdrop : [a, b, c, d].dropWhile (· != pad) = [] := dropWhile_eq_nil_iff.2 hnot
    have hlast : decode [a, b, c, d] = decodeSymbols [a, b, c, d] := by
      show decodeSuffix [a, b, c, d] = _
      unfold decodeSuffix
      rw [htake, hdrop]
      rfl
    rw [hlast]
    cases decodeSymbols [a, b, c, d] with
    | none => rfl
    | some bytes => simp

/-- **A whole text in front is decoded by itself.** -/
theorem decode_append (front back : List UInt8) (h : Whole front) :
    decode (front ++ back) = (decode front).bind fun bytes => (decode back).map (bytes ++ ·) := by
  obtain ⟨hlen, hpad⟩ := h
  match front, hlen, hpad with
  | [], _, _ => simp
  | a :: b :: c :: d :: rest, hlen, hpad =>
    have hquad : pad ∉ [a, b, c, d] := fun hmem => hpad (mem_append_left rest hmem)
    have hrest : Whole rest := by
      refine ⟨?_, fun hmem => hpad (by simp [hmem])⟩
      simp only [length_cons] at hlen
      omega
    have ih := decode_append rest back hrest
    show decode (a :: b :: c :: d :: (rest ++ back)) = _
    rw [decode_quad hquad, decode_quad hquad, ih]
    cases decodeSymbols [a, b, c, d] with
    | none => rfl
    | some bytes =>
      cases decode rest with
      | none => rfl
      | some more =>
        cases decode back with
        | none => rfl
        | some last => simp
  | [_], hlen, _ | [_, _], hlen, _ | [_, _, _], hlen, _ => simp at hlen

/-- **A text cut into pieces.** When every piece but the last is whole and each decodes, the text decodes to what
    the pieces hold. -/
theorem decode_flatten {pieces : List (List UInt8)} {last bytes : List UInt8} (hwhole : ∀ piece ∈ pieces, Whole piece)
    (hpieces : ∀ piece ∈ pieces, decode piece ≠ none) (hlast : decode last = some bytes) :
    decode (pieces.flatten ++ last) = some ((pieces.map fun piece => (decode piece).getD []).flatten ++ bytes) := by
  induction pieces with
  | nil => simpa using hlast
  | cons piece pieces ih =>
    obtain ⟨first, hfirst⟩ := Option.ne_none_iff_exists'.1 (hpieces piece (mem_cons_self ..))
    have hrest := ih (fun p hp => hwhole p (mem_cons_of_mem _ hp)) fun p hp => hpieces p (mem_cons_of_mem _ hp)
    rw [flatten_cons, append_assoc, decode_append _ _ (hwhole piece (mem_cons_self ..)), hrest, map_cons, hfirst]
    simp

/-! ## Encoding -/

/-- The symbol for six bits. -/
def char (n : Nat) : UInt8 :=
  if n < 26 then (n + 65).toUInt8
  else if n < 52 then (n + 71).toUInt8
  else if n < 62 then (n - 4).toUInt8
  else if n = 62 then 43
  else 47

/-- The bytes as values of six bits; the last one is filled up with zeros. -/
def sextets : List UInt8 → List Nat
  | a :: b :: c :: rest =>
    a.toNat / 4 :: (a.toNat % 4 * 16 + b.toNat / 16) :: (b.toNat % 16 * 4 + c.toNat / 64) :: c.toNat % 64 :: sextets rest
  | [a, b] => [a.toNat / 4, a.toNat % 4 * 16 + b.toNat / 16, b.toNat % 16 * 4]
  | [a] => [a.toNat / 4, a.toNat % 4 * 16]
  | [] => []

/-- The bytes that values of six bits hold, quad by quad; the bits left over are dropped. -/
def octets : List Nat → List UInt8
  | a :: b :: c :: d :: rest => pack [a, b, c, d] ++ octets rest
  | last => pack last

/-- Standard base64 without padding. -/
def encode (bytes : List UInt8) : List UInt8 := (sextets bytes).map char

/-- The padding after so many symbols. -/
def padding (n : Nat) : List UInt8 := replicate ((4 - n % 4) % 4) pad

/-- The text is the encoding of the bytes, with padding or without. -/
def Encodes (text bytes : List UInt8) : Prop :=
  text = encode bytes ∨ text = encode bytes ++ padding (encode bytes).length

/-- No value stands alone, and the bits left over are zero. -/
def Filled : List Nat → Prop
  | _ :: _ :: _ :: _ :: rest => Filled rest
  | [_, _, c] => c % 4 = 0
  | [_, b] => b % 16 = 0
  | [_] => False
  | [] => True

/-- Symbols with nothing left over, and behind them nothing or the padding. -/
def Canonical (text : List UInt8) : Prop :=
  ∃ values, (text.takeWhile (· != pad)).mapM symbol = some values ∧ Filled values ∧
    (text.dropWhile (· != pad) = [] ∨ text.dropWhile (· != pad) = padding values.length)

theorem symbol_char {n : Nat} (h : n < 64) : symbol (char n) = some n := by
  have hall : ∀ i : Fin 64, symbol (char i) = some i.val := by decide +kernel
  exact hall ⟨n, h⟩

theorem char_of_symbol {b : UInt8} {n : Nat} (h : symbol b = some n) : n < 64 ∧ char n = b := by
  have hall : ∀ i : Fin 256, (symbol i.val.toUInt8).all (fun n => n < 64 && char n == i.val.toUInt8) = true := by
    decide +kernel
  have hb := hall ⟨b.toNat, b.toNat_lt⟩
  have hself : b.toNat.toUInt8 = b := UInt8.ofNat_toNat
  simp only [hself, h, Option.all_some, Bool.and_eq_true, decide_eq_true_eq, beq_iff_eq] at hb
  exact hb

/-- The bytes come back, and nothing is left over. -/
theorem octets_sextets (bytes : List UInt8) :
    octets (sextets bytes) = bytes ∧ Filled (sextets bytes) ∧ ∀ v ∈ sextets bytes, v < 64 := by
  have hbyte : ∀ {n : Nat} {b : UInt8}, n = b.toNat → n.toUInt8 = b := by
    rintro _ b rfl
    exact UInt8.ofNat_toNat
  match bytes with
  | a :: b :: c :: rest =>
    obtain ⟨hback, hfilled, hlt⟩ := octets_sextets rest
    have ha := a.toNat_lt
    have hb := b.toNat_lt
    have hc := c.toNat_lt
    refine ⟨?_, hfilled, ?_⟩
    · simp only [sextets, octets, pack, hback, cons_append, nil_append, cons.injEq, and_true]
      exact ⟨hbyte (by omega), hbyte (by omega), hbyte (by omega)⟩
    · simp only [sextets, forall_mem_cons]
      exact ⟨by omega, by omega, by omega, by omega, hlt⟩
  | [a, b] =>
    have ha := a.toNat_lt
    have hb := b.toNat_lt
    refine ⟨?_, by simp only [sextets, Filled]; omega, ?_⟩
    · simp only [sextets, octets, pack, cons.injEq, and_true]
      exact ⟨hbyte (by omega), hbyte (by omega)⟩
    · simp only [sextets, forall_mem_cons]
      exact ⟨by omega, by omega, by omega, nofun⟩
  | [a] =>
    have ha := a.toNat_lt
    refine ⟨?_, by simp only [sextets, Filled]; omega, ?_⟩
    · simp only [sextets, octets, pack, cons.injEq, and_true]
      exact hbyte (by omega)
    · simp only [sextets, forall_mem_cons]
      exact ⟨by omega, by omega, nofun⟩
  | [] => exact ⟨rfl, trivial, nofun⟩

/-- The values come back, when nothing is left over. -/
theorem sextets_octets {values : List Nat} (hlt : ∀ v ∈ values, v < 64) (h : Filled values) :
    sextets (octets values) = values := by
  have hbyte : ∀ {n : Nat}, n < 256 → n.toUInt8.toNat = n := fun hn => UInt8.toNat_ofNat_of_lt' hn
  match values with
  | a :: b :: c :: d :: rest =>
    simp only [forall_mem_cons] at hlt
    obtain ⟨ha, hb, hc, hd, hlt⟩ := hlt
    simp only [octets, pack, cons_append, nil_append, sextets, sextets_octets hlt h, cons.injEq, and_true]
    rw [hbyte (by omega), hbyte (by omega), hbyte (by omega)]
    omega
  | [a, b, c] =>
    simp only [forall_mem_cons] at hlt
    have hc0 : c % 4 = 0 := h
    simp only [octets, pack, sextets, cons.injEq, and_true]
    rw [hbyte (by omega), hbyte (by omega)]
    omega
  | [a, b] =>
    simp only [forall_mem_cons] at hlt
    have hb0 : b % 16 = 0 := h
    simp only [octets, pack, sextets, cons.injEq, and_true]
    rw [hbyte (by omega)]
    omega
  | [_] => exact h.elim
  | [] => rfl

theorem mapM_symbol_char {values : List Nat} (hlt : ∀ v ∈ values, v < 64) :
    (values.map char).mapM symbol = some values := by
  induction values with
  | nil => rfl
  | cons v values ih =>
    obtain ⟨hv, hlt⟩ := forall_mem_cons.mp hlt
    rw [map_cons, mapM_cons, symbol_char hv, ih hlt]
    rfl

theorem map_char_of_mapM {text : List UInt8} {values : List Nat} (h : text.mapM symbol = some values) :
    values.map char = text ∧ ∀ v ∈ values, v < 64 := by
  induction text generalizing values with
  | nil =>
    cases h
    exact ⟨rfl, nofun⟩
  | cons b text ih =>
    rw [mapM_cons] at h
    obtain ⟨v, hv, h⟩ := Option.bind_eq_some_iff.mp h
    obtain ⟨vs, hvs, h⟩ := Option.bind_eq_some_iff.mp h
    cases h
    obtain ⟨hlt, hchar⟩ := char_of_symbol hv
    obtain ⟨htext, hall⟩ := ih hvs
    exact ⟨by rw [map_cons, hchar, htext], forall_mem_cons.mpr ⟨hlt, hall⟩⟩

theorem mapM_symbol_encode (bytes : List UInt8) : (encode bytes).mapM symbol = some (sextets bytes) :=
  mapM_symbol_char (octets_sextets bytes).2.2

/-- A text of symbols has no padding. -/
theorem ne_pad_of_mapM {text : List UInt8} {values : List Nat} (h : text.mapM symbol = some values) :
    ∀ b ∈ text, (b != pad) = true := by
  obtain ⟨rfl, hlt⟩ := map_char_of_mapM h
  intro b hb
  obtain ⟨v, hv, rfl⟩ := mem_map.mp hb
  refine bne_iff_ne.mpr fun heq => ?_
  have hsome := symbol_char (hlt v hv)
  rw [heq] at hsome
  cases hsome

/-- **The encodings** are the canonical texts. -/
theorem canonical_iff (text : List UInt8) : Canonical text ↔ ∃ bytes, Encodes text bytes := by
  constructor
  · rintro ⟨values, hvalues, hfilled, hpad⟩
    obtain ⟨htext, hlt⟩ := map_char_of_mapM hvalues
    have hencode : encode (octets values) = text.takeWhile (· != pad) := by
      rw [encode, sextets_octets hlt hfilled, htext]
    have hlen : (encode (octets values)).length = values.length := by rw [hencode, ← htext, length_map]
    have hsplit := takeWhile_append_dropWhile (p := (· != pad)) (l := text)
    refine ⟨octets values, hpad.imp (fun hnone => ?_) fun hpads => ?_⟩
    · rw [hnone, append_nil] at hsplit
      exact (hencode.trans hsplit).symm
    · rw [hlen, ← hpads, hencode, hsplit]
  · rintro ⟨bytes, h⟩
    have hsymbols := mapM_symbol_encode bytes
    have hnot := ne_pad_of_mapM hsymbols
    have hlen : (encode bytes).length = (sextets bytes).length := length_map ..
    have hpads : ∀ n, (padding n).takeWhile (· != pad) = [] ∧ (padding n).dropWhile (· != pad) = padding n := fun n => by
      unfold padding
      cases (4 - n % 4) % 4 <;> simp [replicate_succ]
    refine ⟨sextets bytes, ?_, (octets_sextets bytes).2.1, ?_⟩
    · rcases h with rfl | rfl
      · rw [takeWhile_eq_self_iff.mpr hnot, hsymbols]
      · rw [takeWhile_append_of_pos hnot, (hpads _).1, append_nil, hsymbols]
    · rcases h with rfl | rfl
      · exact .inl (dropWhile_eq_nil_iff.mpr hnot)
      · right
        rw [dropWhile_append_of_pos hnot, (hpads _).2, hlen]

end Lib.Base64
