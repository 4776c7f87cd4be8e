import OriTerm.Mux.Interceptor
import OriTerm.Lib.Utf8

/-!
# `Mux.Osc7Path` — the working directory of an OSC 7 URI

An encoded path is cut into pieces, literal bytes and escapes. The decoder reads the cut in which every escape is taken
(`percentDecodeBytes_pieces`), and there is one for every text (`exists_pieces`).

**`osc7_path_exact`** — a path comes back from its URI, whatever the host and whichever bytes are escaped, when the slash
in front is not, but `%`, `?` and `#` are: from `?` or `#` on the URI is no longer the path.
-/

namespace OriTerm.Interceptor

open Lib List Utf8

/-! ## Pieces -/

/-- A byte of a path, as it stands in a URI. -/
inductive Piece where
  | plain (b : UInt8)
  | escape (hi lo b : UInt8) (h : decodeHexPair hi lo = some b)

def Piece.text : Piece → List UInt8
  | plain b => [b]
  | escape hi lo _ _ => [37, hi, lo]

def Piece.byte : Piece → UInt8
  | plain b => b
  | escape _ _ b _ => b

/-- No `%` that counts as a byte stands in front of two hex digits. -/
def Cut : List Piece → Prop
  | .plain b :: rest =>
    (b = 37 → ∀ hi lo tail, rest.flatMap Piece.text = hi :: lo :: tail → decodeHexPair hi lo = none) ∧ Cut rest
  | .escape .. :: rest => Cut rest
  | [] => True

theorem percentDecodeBytes_escape {hi lo b : UInt8} (h : decodeHexPair hi lo = some b) (rest : List UInt8) :
    percentDecodeBytes (37 :: hi :: lo :: rest) = b :: percentDecodeBytes rest := by
  rw [percentDecodeBytes, h]

theorem percentDecodeBytes_plain {b : UInt8} {rest : List UInt8}
    (h : b = 37 → ∀ hi lo tail, rest = hi :: lo :: tail → decodeHexPair hi lo = none) :
    percentDecodeBytes (b :: rest) = b :: percentDecodeBytes rest := by
  by_cases hb : b = 37
  · subst hb
    match rest with
    | hi :: lo :: tail =>
      rw [percentDecodeBytes, h rfl hi lo tail rfl]
    | [_] => rfl
    | [] => rfl
  · rw [percentDecodeBytes]
    rintro _ _ _ heq
    exact absurd heq hb

/-- **A cut is decoded piece by piece.** -/
theorem percentDecodeBytes_pieces {pieces : List Piece} (h : Cut pieces) :
    percentDecodeBytes (pieces.flatMap Piece.text) = pieces.map Piece.byte := by
  induction pieces with
  | nil => rfl
  | cons piece rest ih =>
    cases piece with
    | plain b =>
      have hrest := ih h.2
      show percentDecodeBytes (b :: rest.flatMap Piece.text) = b :: rest.map Piece.byte
      rw [percentDecodeBytes_plain h.1, hrest]
    | escape hi lo b hpair =>
      have hrest := ih h
      show percentDecodeBytes (37 :: hi :: lo :: rest.flatMap Piece.text) = b :: rest.map Piece.byte
      rw [percentDecodeBytes_escape hpair, hrest]

/-- Every text can be cut. -/
theorem exists_pieces (data : List UInt8) : ∃ pieces, Cut pieces ∧ pieces.flatMap Piece.text = data := by
  match data with
  | [] => exact ⟨[], trivial, rfl⟩
  | b :: rest =>
    by_cases hescape : ∃ hi lo tail c, b = 37 ∧ rest = hi :: lo :: tail ∧ decodeHexPair hi lo = some c
    · obtain ⟨hi, lo, tail, c, rfl, rfl, hpair⟩ := hescape
      obtain ⟨pieces, hcut, htext⟩ := exists_pieces tail
      refine ⟨.escape hi lo c hpair :: pieces, hcut, ?_⟩
      rw [flatMap_cons, htext]
      rfl
    · obtain ⟨pieces, hcut, htext⟩ := exists_pieces rest
      refine ⟨.plain b :: pieces, ⟨fun hb hi lo tail hrest => ?_, hcut⟩, ?_⟩
      · rw [htext] at hrest
        cases hpair : decodeHexPair hi lo with
        | none => rfl
        | some c => exact (hescape ⟨hi, lo, tail, c, hb, hrest, hpair⟩).elim
      · rw [flatMap_cons, htext]
        rfl
termination_by data.length

/-! ## Paths -/

/-- The strict decoder, with any lossy one. -/
def strictOps (lossy : List UInt8 → String) : TextOps := ⟨decodeStrict, lossy⟩

/-- The path of a URI, decoded. -/
def osc7Path (text : TextOps) (uri : String) : String := percentDecode text (String.ofList (parseOsc7Path uri.toList))

/-- The path in the URI encodes this one, with literal bytes of one kind only. -/
def PercentEncodes (free : UInt8 → Prop) (encoded path : String) : Prop :=
  ∃ pieces : List Piece, (∀ b, .plain b ∈ pieces → free b) ∧ pieces.flatMap Piece.text = bytes encoded ∧
    pieces.map Piece.byte = bytes path

/-- Neither `%` nor `?` nor `#`. -/
def PathByte (b : UInt8) : Prop := b ≠ 37 ∧ b ≠ 63 ∧ b ≠ 35

theorem percentDecode_eq (lossy : List UInt8 → String) (s : String) :
    percentDecode (strictOps lossy) s = (decodeStrict (percentDecodeBytes (bytes s))).getD s := by
  unfold percentDecode
  split
  · rfl
  · rename_i hnone
    have hplain : (37 : UInt8) ∉ bytes s := fun hmem => hnone ((mem_bytes_iff s (by decide)).mp hmem)
    have hself : ∀ data : List UInt8, 37 ∉ data → percentDecodeBytes data = data := by
      intro data hdata
      induction data with
      | nil => rfl
      | cons b data ih =>
        rw [mem_cons, not_or] at hdata
        rw [percentDecodeBytes_plain (fun hb => absurd hb.symm hdata.1), ih hdata.2]
    rw [hself _ hplain, (decodeStrict_eq_some_iff _ s).mpr rfl]
    rfl

theorem cut_of_plain {pieces : List Piece} (h : ∀ b, .plain b ∈ pieces → b ≠ 37) : Cut pieces := by
  induction pieces with
  | nil => trivial
  | cons piece rest ih =>
    have hrest := ih fun b hb => h b (mem_cons_of_mem _ hb)
    cases piece with
    | plain b => exact ⟨fun hb => (h b (mem_cons_self ..) hb).elim, hrest⟩
    | escape hi lo b hpair => exact hrest

/-- Hex digits do not end a path. -/
theorem hexDigit_ne {b c : UInt8} (h : hexDigit b = some c) : b ≠ 63 ∧ b ≠ 35 := by
  refine ⟨?_, ?_⟩ <;> rintro rfl <;> cases h

theorem not_mem_text {piece : Piece} (h : ∀ b, piece = .plain b → PathByte b) : 63 ∉ piece.text ∧ 35 ∉ piece.text := by
  cases piece with
  | plain b =>
    obtain ⟨-, hquery, hfragment⟩ := h b rfl
    simp only [Piece.text, List.mem_singleton]
    exact ⟨hquery.symm, hfragment.symm⟩
  | escape hi lo b hpair =>
    obtain ⟨c, hhi, hlo⟩ := Option.bind_eq_some_iff.mp hpair
    obtain ⟨d, hlo, -⟩ := Option.map_eq_some_iff.mp hlo
    simp only [Piece.text, List.mem_cons, List.not_mem_nil, or_false, not_or]
    exact ⟨⟨by decide, (hexDigit_ne hhi).1.symm, (hexDigit_ne hlo).1.symm⟩,
      by decide, (hexDigit_ne hhi).2.symm, (hexDigit_ne hlo).2.symm⟩

/-- The host is skipped up to the first slash. -/
theorem parseOsc7Path_uri {host encoded : String} (hhost : '/' ∉ host.toList) (hslash : encoded.toList.head? = some '/')
    (hsuffix : '?' ∉ encoded.toList ∧ '#' ∉ encoded.toList) :
    parseOsc7Path ("file://" ++ host ++ encoded).toList = encoded.toList := by
  obtain ⟨tail, htail⟩ := head?_eq_some_iff.mp hslash
  have hscheme : ("file://" ++ host ++ encoded).toList = "file://".toList ++ (host.toList ++ encoded.toList) := by
    rw [String.toList_append, String.toList_append, append_assoc]
  have hdrop : ("file://".toList ++ (host.toList ++ encoded.toList)).drop 7 = host.toList ++ encoded.toList := rfl
  have hmem : '/' ∈ host.toList ++ encoded.toList := by simp [htail]
  have hskip : (host.toList ++ encoded.toList).dropWhile (· ≠ '/') = encoded.toList := by
    rw [dropWhile_append_of_pos (by
      intro c hc
      refine decide_eq_true ?_
      rintro rfl
      exact hhost hc), htail]
    rfl
  have hkeep : ∀ c : Char, c ∉ encoded.toList → encoded.toList.takeWhile (· ≠ c) = encoded.toList := by
    intro c hc
    refine takeWhile_eq_self_iff.mpr fun d hd => decide_eq_true ?_
    rintro rfl
    exact hc hd
  unfold parseOsc7Path
  rw [hscheme, if_pos ( isPrefixOf_iff_prefix.mpr (prefix_append ..))]
  rw [hdrop, if_pos hmem, hskip, stripUriSuffix, hkeep _ hsuffix.1, hkeep _ hsuffix.2]

/-- **OSC 7 paths are decoded exactly**: an encoded path comes back, and what is no escape stays as it is. -/
theorem osc7_path_exact (lossy : List UInt8 → String) :
    (∀ host encoded path : String, '/' ∉ host.toList → encoded.toList.head? = some '/' →
      PercentEncodes PathByte encoded path → osc7Path (strictOps lossy) ("file://" ++ host ++ encoded) = path) ∧
    ∀ s : String, ∃ pieces, Cut pieces ∧ pieces.flatMap Piece.text = bytes s ∧
      percentDecode (strictOps lossy) s = (decodeStrict (pieces.map Piece.byte)).getD s := by
  constructor
  · rintro host encoded path hhost hslash ⟨pieces, hfree, htext, hbyte⟩
    have hnone : 63 ∉ bytes encoded ∧ 35 ∉ bytes encoded := by
      rw [← htext]
      simp only [mem_flatMap, not_exists, not_and]
      refine ⟨fun piece hmem => ?_, fun piece hmem => ?_⟩
      · exact (not_mem_text fun b hb => hfree b (hb ▸ hmem)).1
      · exact (not_mem_text fun b hb => hfree b (hb ▸ hmem)).2
    have hsuffix : '?' ∉ encoded.toList ∧ '#' ∉ encoded.toList :=
      ⟨fun hmem => hnone.1 ((mem_bytes_iff encoded (by decide)).mpr hmem),
        fun hmem => hnone.2 ((mem_bytes_iff encoded (by decide)).mpr hmem)⟩
    have hcut := cut_of_plain fun b hb => (hfree b hb).1
    unfold osc7Path
    rw [parseOsc7Path_uri hhost hslash hsuffix, String.ofList_toList, percentDecode_eq, ← htext,
      percentDecodeBytes_pieces hcut, hbyte, (decodeStrict_eq_some_iff _ path).mpr rfl]
    rfl
  · intro s
    obtain ⟨pieces, hcut, htext⟩ := exists_pieces (bytes s)
    refine ⟨pieces, hcut, htext, ?_⟩
    rw [percentDecode_eq, ← htext, percentDecodeBytes_pieces hcut]

theorem osc7_path_exact_space : osc7Path (strictOps fun _ => "") "file://h/a%20b" = "/a b" :=
  (osc7_path_exact fun _ => "").1 "h" "/a%20b" "/a b" (by decide) (by decide)
    ⟨[.plain 47, .plain 97, .escape 50 48 32 rfl, .plain 98], by simp [PathByte], by decide +kernel, by decide +kernel⟩

/-- A literal `?` ends the path. -/
theorem query_cut_off :
    ¬∀ host encoded path : String, '/' ∉ host.toList → encoded.toList.head? = some '/' →
      PercentEncodes (fun b => b ≠ 37 ∧ 32 ≤ b ∧ b ≠ 127) encoded path →
        osc7Path (strictOps fun _ => "") ("file://" ++ host ++ encoded) = path := by
  intro h
  have hcut : osc7Path (strictOps fun _ => "") ("file://" ++ "h" ++ "/a?b") = "/a" := by decide +kernel
  have hwhole := h "h" "/a?b" "/a?b" (by decide) (by decide)
    ⟨[.plain 47, .plain 97, .plain 63, .plain 98], by simp, by decide +kernel, by decide +kernel⟩
  rw [hcut] at hwhole
  revert hwhole
  decide

end OriTerm.Interceptor
