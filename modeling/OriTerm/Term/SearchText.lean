import OriTerm.Core.Grid
import OriTerm.Lib.Occurrences

/-!
# `Term.SearchText` — the text of a row, and the columns it came from

A row is searched as a string: the characters of its cells with their combining marks, without the spacers of wide
characters. The column map has the column of every character; all characters of a cell share its column.

A span of bytes of that string covers the columns from its first to its last character. What `byteSpanToCols` makes of
bytes that are no span of the string is said by `StartsIn` and `EndsIn`: the byte is looked up all the same.

* **`byteSpanToCols_eq_some`** — the columns of a span, by the bytes at which the characters begin.
-/

namespace OriTerm

open Lib.Bitflags Lib.Occurrences List Option

variable (text : List Char) (row : Row)

/-! ## Extraction -/

/-- The characters of a cell, each with the column. -/
def extractCell (cell : Cell) (col : Nat) : List (Char × Nat) :=
  if intersects cell.flags (CellFlags.wideCharSpacer ||| CellFlags.leadingWideCharSpacer) then []
  else
    let c := if cell.ch = Char.ofNat 0 then ' ' else cell.ch
    (c, col) :: (cell.extra.elim [] (·.zerowidth)).map fun zw => (zw, col)

/-- The text of a row and its column map. -/
def extractRowText : List Char × List Nat :=
  let chars := row.inner.zipIdx.flatMap fun cell => extractCell cell.1 cell.2
  (chars.map (·.1), chars.map (·.2))

/-- `str::len`: the number of bytes. -/
def byteLen : Nat := weight Char.utf8Size text

/-- `char_indices`: the byte at which each character begins. -/
def charIndices : Nat → List Char → List Nat
  | _, [] => []
  | off, c :: cs => off :: charIndices (off + c.utf8Size) cs

/-- The first character that begins at or after a byte. -/
def charIndexAtByte (byteOffset : Nat) : Option Nat :=
  if byteLen text ≤ byteOffset then none
  else some (((charIndices 0 text).findIdx? fun i => byteOffset ≤ i).getD 0)

/-- The last index in front of the first one beyond the bound. -/
def lastAtMost (clamped : Nat) : Nat → Option Nat → List Nat → Option Nat
  | _, result, [] => result
  | idx, result, i :: is => if i ≤ clamped then lastAtMost clamped (idx + 1) (some idx) is else result

/-- The character whose encoding contains a byte. -/
def charIndexContainingByte (byteOffset : Nat) : Option Nat :=
  if text = [] then none else lastAtMost (min byteOffset (byteLen text - 1)) 0 none (charIndices 0 text)

/-- The inclusive columns of a span of bytes. -/
def byteSpanToCols (colMap : List Nat) (byteStart byteEnd : Nat) : Option (Nat × Nat) :=
  if byteEnd ≤ byteStart ∨ colMap = [] then none
  else
    match charIndexAtByte text byteStart, charIndexContainingByte text (byteEnd - 1) with
    | some startChar, some endChar =>
      match colMap[startChar]?, colMap[endChar]? with
      | some startCol, some endCol => some (startCol, endCol)
      | _, _ => none
    | _, _ => none

/-! ## The column map -/

theorem length_colMap : (extractRowText row).2.length = (extractRowText row).1.length := by
  simp [extractRowText]

/-- Columns only go up along the text. -/
theorem colMap_sorted : (extractRowText row).2.Pairwise (· ≤ ·) := by
  have hcell (cell : Cell) (col : Nat) : ∀ x ∈ extractCell cell col, x.2 = col := by
    intro x hx
    unfold extractCell at hx
    split at hx
    · exact absurd hx not_mem_nil
    · rcases mem_cons.mp hx with rfl | hx
      · rfl
      · obtain ⟨_, -, rfl⟩ := mem_map.mp hx
        rfl
  unfold extractRowText
  rw [pairwise_map, pairwise_flatMap]
  constructor
  · intro cell _
    refine pairwise_of_forall_mem_list fun x hx y hy => ?_
    rw [hcell _ _ x hx, hcell _ _ y hy]
  · have hidx : (row.inner.zipIdx.map Prod.snd).Pairwise (· < ·) := by
      rw [zipIdx_map_snd]
      exact pairwise_lt_range' 1
    refine (pairwise_map.mp hidx).imp fun hlt x hx y hy => ?_
    rw [hcell _ _ x hx, hcell _ _ y hy]
    exact Nat.le_of_lt hlt

/-! ## Bytes and characters -/

/-- The byte at which the character at an index begins. -/
def byteAt (m : Nat) : Nat := byteLen (text.take m)

theorem byteAt_lt {text : List Char} {m k : Nat} (hmk : m < k) (hm : m < text.length) : byteAt text m < byteAt text k := by
  unfold byteAt byteLen
  rw [← take_append_slice text (Nat.le_of_lt hmk), weight_append, Nat.lt_add_right_iff_pos]
  refine weight_pos Char.utf8Size_pos (ne_nil_of_length_pos ?_)
  rw [slice, length_drop, length_take]
  omega

theorem byteAt_lt_byteLen {text : List Char} {m : Nat} (hm : m < text.length) : byteAt text m < byteLen text := by
  have hlt := byteAt_lt hm hm
  rwa [byteAt, byteAt, take_length] at hlt

theorem getElem?_charIndices (off : Nat) (text : List Char) {m : Nat} (hm : m < text.length) :
    (charIndices off text)[m]? = some (off + byteAt text m) := by
  induction text generalizing off m with
  | nil => exact absurd hm (Nat.not_lt_zero m)
  | cons c cs ih =>
    cases m with
    | zero => rfl
    | succ m =>
      rw [charIndices, getElem?_cons_succ, ih _ (Nat.lt_of_succ_lt_succ hm), byteAt, byteAt, byteLen, byteLen,
        take_succ_cons, weight_cons, Nat.add_assoc]

@[simp] theorem length_charIndices (off : Nat) (text : List Char) : (charIndices off text).length = text.length := by
  induction text generalizing off with
  | nil => rfl
  | cons c cs ih => rw [charIndices, length_cons, ih, length_cons]

/-- The character at a byte: the first one from there on, or the first of all when none begins from there on. -/
theorem charIndexAtByte_spec {text : List Char} {b : Nat} (hb : b < byteLen text) :
    ∃ m < text.length, charIndexAtByte text b = some m ∧
      ((b ≤ byteAt text m ∧ ∀ k < m, byteAt text k < b) ∨ m = 0 ∧ ∀ k < text.length, byteAt text k < b) := by
  have hne : 0 < text.length := by
    rw [length_pos_iff]
    rintro rfl
    exact Nat.not_lt_zero b hb
  have hget {k : Nat} (hk : k < text.length) : (charIndices 0 text)[k]? = some (byteAt text k) := by
    rw [getElem?_charIndices 0 text hk, Nat.zero_add]
  unfold charIndexAtByte
  rw [if_neg (Nat.not_le_of_lt hb)]
  cases hfind : (charIndices 0 text).findIdx? fun i => b ≤ i with
  | none =>
    refine ⟨0, hne, rfl, .inr ⟨rfl, fun k hk => ?_⟩⟩
    have hnot := findIdx?_eq_none_iff.mp hfind _ (mem_of_getElem? (hget hk))
    exact Nat.lt_of_not_le (of_decide_eq_false hnot)
  | some m =>
    obtain ⟨hm, hle, hbefore⟩ := findIdx?_eq_some_iff_getElem.mp hfind
    rw [length_charIndices] at hm
    have hval {k : Nat} (hk : k < (charIndices 0 text).length) : (charIndices 0 text)[k] = byteAt text k := by
      rw [← some.injEq, ← getElem?_eq_getElem hk, hget (by rwa [length_charIndices] at hk)]
    refine ⟨m, hm, rfl, .inl ⟨?_, fun k hk => ?_⟩⟩
    · rw [hval] at hle
      exact of_decide_eq_true hle
    · have hnot := hbefore k hk
      rw [hval, decide_eq_true_iff, Nat.not_le] at hnot
      exact hnot

/-- The walk stops at the first index beyond the bound. -/
theorem lastAtMost_spec (clamped idx : Nat) (result : Option Nat) (is : List Nat) :
    ∃ k ≤ is.length, (∀ i < k, ∀ x, is[i]? = some x → x ≤ clamped) ∧ (∀ x, is[k]? = some x → clamped < x) ∧
      lastAtMost clamped idx result is = if k = 0 then result else some (idx + k - 1) := by
  induction is generalizing idx result with
  | nil => exact ⟨0, Nat.le_refl 0, fun i hi => absurd hi (Nat.not_lt_zero i), nofun, rfl⟩
  | cons i is ih =>
    rw [lastAtMost]
    by_cases hle : i ≤ clamped
    · rw [if_pos hle]
      obtain ⟨k, hk, hbefore, hbeyond, heq⟩ := ih (idx + 1) (some idx)
      refine ⟨k + 1, Nat.succ_le_succ hk, fun j hj x hx => ?_, fun x hx => hbeyond x hx, ?_⟩
      · cases j with
        | zero => exact some.inj hx ▸ hle
        | succ j => exact hbefore j (Nat.lt_of_succ_lt_succ hj) x hx
      · rw [heq]
        by_cases hzero : k = 0
        · rw [hzero]
          rfl
        · rw [if_neg hzero]
          congr 1
          omega
    · rw [if_neg hle]
      refine ⟨0, Nat.zero_le _, fun j hj => absurd hj (Nat.not_lt_zero j), fun x hx => ?_, rfl⟩
      rw [getElem?_cons_zero, some.injEq] at hx
      exact hx ▸ Nat.lt_of_not_le hle

/-- The last character that begins before the end of a span. -/
theorem charIndexContainingByte_spec {text : List Char} (hne : text ≠ []) {e : Nat} (he : 0 < e) :
    ∃ m < text.length, charIndexContainingByte text (e - 1) = some m ∧ byteAt text m < e ∧
      ∀ k < text.length, m < k → e ≤ byteAt text k := by
  have hpos := length_pos_iff.mpr hne
  have hget {k : Nat} (hk : k < text.length) : (charIndices 0 text)[k]? = some (byteAt text k) := by
    rw [getElem?_charIndices 0 text hk, Nat.zero_add]
  obtain ⟨k, hk, hbefore, hbeyond, heq⟩ :=
    lastAtMost_spec (min (e - 1) (byteLen text - 1)) 0 none (charIndices 0 text)
  rw [length_charIndices] at hk
  have hzero : k ≠ 0 := by
    rintro rfl
    have h := hbeyond _ (hget hpos)
    exact Nat.not_lt_zero _ h
  refine ⟨k - 1, by omega, ?_, ?_, fun j hj hkj => ?_⟩
  · rw [charIndexContainingByte, if_neg hne, heq, if_neg hzero, Nat.zero_add]
  · have h := hbefore (k - 1) (by omega) _ (hget (by omega))
    omega
  · have hkn : k < text.length := by omega
    have h := hbeyond _ (hget hkn)
    have hlen := byteAt_lt_byteLen hj
    have hmono : byteAt text k ≤ byteAt text j := by
      rcases Nat.eq_or_lt_of_le (by omega : k ≤ j) with rfl | hlt
      · exact Nat.le_refl _
      · exact Nat.le_of_lt (byteAt_lt hlt hkn)
    omega

/-! ## The columns of a span -/

section Span

variable (text : List Char) (cols : List Nat)

/-- Looking up the start of a span at the byte leads to the column: the characters of earlier columns begin before the
byte, and one of the column from there on. At a byte inside the last character it leads to the first column. -/
def StartsIn (b c : Nat) : Prop :=
  b < byteLen text ∧
    ((∃ m, cols[m]? = some c ∧ b ≤ byteAt text m) ∧ (∀ m d, cols[m]? = some d → d < c → byteAt text m < b) ∨
      (∀ m < text.length, byteAt text m < b) ∧ cols[0]? = some c)

/-- Looking up the end of a span in front of the byte leads to the column: one of its characters begins before the byte,
and those of later columns from there on. -/
def EndsIn (e c : Nat) : Prop :=
  (∃ m, cols[m]? = some c ∧ byteAt text m < e) ∧ ∀ m d, cols[m]? = some d → c < d → e ≤ byteAt text m

variable {text cols}

theorem sorted_get (hsorted : cols.Pairwise (· ≤ ·)) {m k c d : Nat} (hm : cols[m]? = some c) (hk : cols[k]? = some d)
    (hmk : m ≤ k) : c ≤ d := by
  obtain ⟨hmlt, rfl⟩ := List.getElem?_eq_some_iff.mp hm
  obtain ⟨hklt, rfl⟩ := List.getElem?_eq_some_iff.mp hk
  rcases Nat.eq_or_lt_of_le hmk with rfl | hlt
  · exact Nat.le_refl _
  · exact pairwise_iff_getElem.mp hsorted m k hmlt hklt hlt

variable (hlen : cols.length = text.length) (hsorted : cols.Pairwise (· ≤ ·))
include hlen hsorted

/-- The column of the character that the start of a span is looked up at. -/
theorem charIndexAtByte_col {b : Nat} (hb : b < byteLen text) :
    ∃ m c', charIndexAtByte text b = some m ∧ cols[m]? = some c' ∧ ∀ c, StartsIn text cols b c ↔ c' = c := by
  obtain ⟨m, hm, hstart, hmspec⟩ := charIndexAtByte_spec hb
  obtain ⟨c', hmcol⟩ : ∃ c', cols[m]? = some c' := ⟨_, getElem?_eq_getElem (hlen ▸ hm)⟩
  have hindex {m c : Nat} (hm : cols[m]? = some c) : m < text.length := hlen ▸ (List.getElem?_eq_some_iff.mp hm).1
  refine ⟨m, c', hstart, hmcol, fun c => ⟨?_, ?_⟩⟩
  · rintro ⟨-, ⟨⟨m', hm', hle⟩, hearlier⟩ | ⟨hall, hzero⟩⟩
    · rcases hmspec with ⟨hbm, hfirst⟩ | ⟨-, hall⟩
      · have hmm' : m ≤ m' := Nat.le_of_not_lt fun hlt => Nat.not_lt_of_le hle (hfirst m' hlt)
        refine Nat.le_antisymm (sorted_get hsorted hmcol hm' hmm') (Nat.le_of_not_lt fun hlt => ?_)
        exact Nat.not_lt_of_le hbm (hearlier m _ hmcol hlt)
      · exact absurd (hall m' (hindex hm')) (Nat.not_lt_of_le hle)
    · rcases hmspec with ⟨hbm, -⟩ | ⟨rfl, -⟩
      · exact absurd (hall m hm) (Nat.not_lt_of_le hbm)
      · exact some.inj (hmcol.symm.trans hzero)
  · rintro rfl
    refine ⟨hb, ?_⟩
    rcases hmspec with ⟨hbm, hfirst⟩ | ⟨rfl, hall⟩
    · refine .inl ⟨⟨m, hmcol, hbm⟩, fun k d hk hlt => hfirst k (Nat.lt_of_not_le fun hmk => ?_)⟩
      exact Nat.not_lt_of_le (sorted_get hsorted hmcol hk hmk) hlt
    · exact .inr ⟨hall, hmcol⟩

/-- The column of the character that the end of a span is looked up at. -/
theorem charIndexContainingByte_col (hne : text ≠ []) {e : Nat} (he : 0 < e) :
    ∃ k d', charIndexContainingByte text (e - 1) = some k ∧ cols[k]? = some d' ∧
      ∀ d, EndsIn text cols e d ↔ d' = d := by
  obtain ⟨k, hk, hend, hkbefore, hkafter⟩ := charIndexContainingByte_spec hne he
  obtain ⟨d', hkcol⟩ : ∃ d', cols[k]? = some d' := ⟨_, getElem?_eq_getElem (hlen ▸ hk)⟩
  have hindex {m c : Nat} (hm : cols[m]? = some c) : m < text.length := hlen ▸ (List.getElem?_eq_some_iff.mp hm).1
  refine ⟨k, d', hend, hkcol, fun d => ⟨?_, ?_⟩⟩
  · rintro ⟨⟨k', hk', hlt⟩, hlater⟩
    have hkk' : k' ≤ k := Nat.le_of_not_lt fun hkk' => Nat.not_le_of_lt hlt (hkafter k' (hindex hk') hkk')
    refine Nat.le_antisymm (Nat.le_of_not_lt fun hdk => ?_) (sorted_get hsorted hk' hkcol hkk')
    exact Nat.not_le_of_lt hkbefore (hlater k _ hkcol hdk)
  · rintro rfl
    refine ⟨⟨k, hkcol, hkbefore⟩, fun m d hm hlt => hkafter m (hindex hm) (Nat.lt_of_not_le fun hmk => ?_)⟩
    exact Nat.not_lt_of_le (sorted_get hsorted hm hkcol hmk) hlt

/-- **The columns of a span**, by the bytes at which the characters begin. -/
theorem byteSpanToCols_eq_some {b e : Nat} (hbe : b < e) {c d : Nat} :
    byteSpanToCols text cols b e = some (c, d) ↔ StartsIn text cols b c ∧ EndsIn text cols e d := by
  by_cases hb : b < byteLen text
  · have hne : text ≠ [] := by
      rintro rfl
      exact Nat.not_lt_zero b hb
    obtain ⟨m, c', hstart, hmcol, hstartsIn⟩ := charIndexAtByte_col hlen hsorted hb
    obtain ⟨k, d', hend, hkcol, hendsIn⟩ := charIndexContainingByte_col hlen hsorted hne (Nat.zero_lt_of_lt hbe)
    have hcols : cols ≠ [] := by
      rintro rfl
      exact nomatch hmcol
    have hspan : byteSpanToCols text cols b e = some (c', d') := by
      rw [byteSpanToCols, if_neg (not_or.mpr ⟨Nat.not_le_of_lt hbe, hcols⟩), hstart, hend]
      simp [hmcol, hkcol]
    rw [hspan, some.injEq, Prod.mk.injEq, hstartsIn, hendsIn]
  · refine iff_of_false (fun h => ?_) fun h => hb h.1.1
    rw [byteSpanToCols, charIndexAtByte, if_pos (Nat.le_of_not_lt hb)] at h
    split at h <;> exact nomatch h

theorem exists_byteSpanToCols {b e : Nat} (hb : b < byteLen text) (hbe : b < e) :
    ∃ x, byteSpanToCols text cols b e = some x := by
  have hne : text ≠ [] := by
    rintro rfl
    exact Nat.not_lt_zero b hb
  obtain ⟨m, c, -, -, hstart⟩ := charIndexAtByte_col hlen hsorted hb
  obtain ⟨k, d, -, -, hend⟩ := charIndexContainingByte_col hlen hsorted hne (Nat.zero_lt_of_lt hbe)
  exact ⟨(c, d), (byteSpanToCols_eq_some hlen hsorted hbe).mpr ⟨(hstart c).mpr rfl, (hend d).mpr rfl⟩⟩

theorem StartsIn.unique {b c d : Nat} (hc : StartsIn text cols b c) (hd : StartsIn text cols b d) : c = d := by
  obtain ⟨m, c', -, -, hstart⟩ := charIndexAtByte_col hlen hsorted hc.1
  exact ((hstart c).mp hc).symm.trans ((hstart d).mp hd)

/-- A character begins in its own column. -/
theorem startsIn_byteAt {i : Nat} (hi : i < text.length) : StartsIn text cols (byteAt text i) (cols.getD i 0) := by
  have hcol : cols[i]? = some (cols.getD i 0) := by
    rw [getD_eq_getElem?_getD, getElem?_eq_getElem (hlen ▸ hi), getD_some]
  refine ⟨byteAt_lt_byteLen hi, .inl ⟨⟨i, hcol, Nat.le_refl _⟩, fun m d hm hlt => byteAt_lt ?_ ?_⟩⟩
  · exact Nat.lt_of_not_le fun him => Nat.not_lt_of_le (sorted_get hsorted hcol hm him) hlt
  · exact hlen ▸ (List.getElem?_eq_some_iff.mp hm).1

/-- In front of the end of a character is its own column. -/
theorem endsIn_byteAt {i j : Nat} (hij : i < j) (hj : j ≤ text.length) :
    EndsIn text cols (byteAt text j) (cols.getD (j - 1) 0) := by
  have hcol : cols[j - 1]? = some (cols.getD (j - 1) 0) := by
    rw [getD_eq_getElem?_getD, getElem?_eq_getElem (by omega), getD_some]
  refine ⟨⟨j - 1, hcol, byteAt_lt (by omega) (by omega)⟩, fun m d hm hlt => ?_⟩
  have hjm : j ≤ m := by
    by_contra hmj
    exact Nat.not_lt_of_le (sorted_get hsorted hm hcol (by omega)) hlt
  rcases Nat.eq_or_lt_of_le hjm with rfl | hjm
  · exact Nat.le_refl _
  · exact Nat.le_of_lt (byteAt_lt hjm (Nat.lt_trans hjm (hlen ▸ (List.getElem?_eq_some_iff.mp hm).1)))

end Span

end OriTerm
