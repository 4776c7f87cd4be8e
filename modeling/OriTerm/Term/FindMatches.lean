import OriTerm.Core.StableIndex
import OriTerm.Lib.Lowercase
import OriTerm.Term.Renderable
import OriTerm.Term.SearchText

/-!
# `Term.FindMatches` — all matches of a query in the grid

Every row is searched on its own. A plain search looks for the query in the text of the row; without case sensitivity
both are lower-cased first, and the bytes of a match in the lower-cased text are looked up in the row's own text. The
regular expressions are a parameter: an engine that yields successive spans of bytes.

* **`plain_search_exact`** — the matches of a row are the ranges equal to the query, as long as lower-casing moves no
  match to bytes of another column.
-/

namespace OriTerm

open Lib.Occurrences Lib.Lowercase List

/-- Per-row context for match finding. -/
structure RowCtx where
  text : List Char
  colMap : List Nat
  stableRow : StableRowIndex

/-- A regular expression engine: the spans of `find_iter`, if the pattern builds. -/
structure RegexEngine where
  findIter : List Char → Bool → List Char → Option (List (Nat × Nat))
  /-- Matches are successive and do not overlap. -/
  successive : ∀ {pattern caseInsensitive text spans}, findIter pattern caseInsensitive text = some spans →
    spans.Pairwise (fun m n => m.2 ≤ n.1) ∧ ∀ m ∈ spans, m.1 ≤ m.2

/-- Emit a match from a byte span. -/
def emitMatch (ctx : RowCtx) (byteStart byteEnd : Nat) : List SearchMatch :=
  match byteSpanToCols ctx.text ctx.colMap byteStart byteEnd with
  | some (startCol, endCol) => [⟨ctx.stableRow.val, startCol, ctx.stableRow.val, endCol⟩]
  | none => []

/-- The loop of a plain search. -/
def plainLoop (ctx : RowCtx) (hay needle : List Char) : Nat → Nat → List SearchMatch
  | 0, _ => []
  | fuel + 1, start =>
    if start < byteLen hay then
      match dropWeight Char.utf8Size hay start with
      | none => []
      | some tail =>
        match find Char.utf8Size needle tail with
        | none => []
        | some pos =>
          let byteStart := start + pos
          let byteEnd := byteStart + byteLen needle
          let charLen := ((dropWeight Char.utf8Size hay byteStart).bind (·.head?)).elim 1 Char.utf8Size
          emitMatch ctx byteStart byteEnd ++ plainLoop ctx hay needle fuel (byteStart + charLen)
    else []

section Search

variable (u : CaseData)

/-- The string that is searched, or searched for. -/
def foldCase (caseSensitive : Bool) (s : List Char) : List Char := if caseSensitive then s else toLowercase u s

/-- Find plain text matches in a single row's text. -/
def findPlainMatches (ctx : RowCtx) (query : List Char) (caseSensitive : Bool) : List SearchMatch :=
  let hay := foldCase u caseSensitive ctx.text
  let needle := foldCase u caseSensitive query
  plainLoop ctx hay needle (byteLen hay) 0

/-- Find regex matches in a single row's text. -/
def findRegexMatches (engine : RegexEngine) (ctx : RowCtx) (pattern : List Char) (caseSensitive : Bool) :
    List SearchMatch :=
  match engine.findIter pattern (!caseSensitive) ctx.text with
  | none => []
  | some spans => spans.flatMap fun m => if m.1 = m.2 then [] else emitMatch ctx m.1 m.2

variable (engine : RegexEngine)

/-- The matches of one row. -/
def findRowMatches (stableRow : StableRowIndex) (row : Row) (query : List Char) (caseSensitive useRegex : Bool) :
    List SearchMatch :=
  let text := (extractRowText row).1
  if text = [] then []
  else
    let ctx : RowCtx := ⟨text, (extractRowText row).2, stableRow⟩
    if useRegex then findRegexMatches engine ctx query caseSensitive else findPlainMatches u ctx query caseSensitive

/-- Find all matches in the grid. -/
def findMatches (g : Grid) (query : List Char) (caseSensitive useRegex : Bool) : List SearchMatch :=
  if query = [] then []
  else
    (List.range g.totalLines).flatMap fun absRow =>
      match g.absoluteRow absRow with
      | none => []
      | some row => findRowMatches u engine (.fromAbsolute g absRow) row query caseSensitive useRegex

end Search

/-! ## The plain loop -/

/-- The loop emits every occurrence. -/
theorem plainLoop_eq (ctx : RowCtx) {hay needle : List Char} (hne : needle ≠ []) {fuel : Nat} {pre tail : List Char}
    (hhay : hay = pre ++ tail) (hfuel : byteLen tail ≤ fuel) :
    plainLoop ctx hay needle fuel (byteLen pre) =
      (occurrences Char.utf8Size needle (byteLen pre) tail).flatMap fun b => emitMatch ctx b (b + byteLen needle) := by
  induction fuel generalizing pre tail with
  | zero =>
    have hnil : tail = [] := by
      by_contra hcons
      exact Nat.not_lt_of_le hfuel (weight_pos Char.utf8Size_pos hcons)
    rw [hnil]
    rfl
  | succ fuel ih =>
    subst hhay
    rw [plainLoop]
    by_cases hend : byteLen pre < byteLen (pre ++ tail)
    · rw [if_pos hend, byteLen, dropWeight_append Char.utf8Size_pos]
      have hfirst := occurrences_find (w := Char.utf8Size) hne (byteLen pre) tail
      cases hfind : find Char.utf8Size needle tail with
      | none =>
        rw [hfind] at hfirst
        simp only [hfind]
        rw [show occurrences Char.utf8Size needle (weight Char.utf8Size pre) tail = [] from hfirst]
        rfl
      | some pos =>
        rw [hfind] at hfirst
        obtain ⟨skipped, c, cs, rfl, rfl, -, heq⟩ := hfirst
        have hstart : weight Char.utf8Size pre + weight Char.utf8Size skipped = weight Char.utf8Size (pre ++ skipped) :=
          (weight_append _ _ _).symm
        -- the next round starts after the first character of this match
        have hnext : weight Char.utf8Size pre + weight Char.utf8Size skipped + c.utf8Size =
            byteLen (pre ++ skipped ++ [c]) := by
          rw [hstart, byteLen, weight_append _ (pre ++ skipped), weight_cons, weight_nil, Nat.add_zero]
        have hshorter : byteLen cs ≤ fuel := by
          rw [byteLen, weight_append, weight_cons] at hfuel
          have hc := c.utf8Size_pos
          rw [byteLen]
          omega
        have hrest := @ih (pre ++ skipped ++ [c]) cs (by simp) hshorter
        have hhere : dropWeight Char.utf8Size (pre ++ (skipped ++ c :: cs))
            (weight Char.utf8Size pre + weight Char.utf8Size skipped) = some (c :: cs) := by
          rw [hstart, ← append_assoc]
          exact dropWeight_append Char.utf8Size_pos _ _
        simp only [hfind, hhere, Option.bind_some, head?_cons, Option.elim_some]
        rw [show occurrences Char.utf8Size needle (weight Char.utf8Size pre) _ = _ from heq]
        show _ = _ ++ List.flatMap _
          (occurrences Char.utf8Size needle (weight Char.utf8Size pre + weight Char.utf8Size skipped + c.utf8Size) cs)
        rw [hnext]
        congr 2
    · rw [if_neg hend]
      have hnil : tail = [] := by
        by_contra hcons
        have hpos : 0 < byteLen tail := weight_pos Char.utf8Size_pos hcons
        exact hend (by rw [byteLen, byteLen, weight_append]; exact Nat.lt_add_of_pos_right hpos)
      rw [hnil]
      rfl

section Exact

variable {u : CaseData}

variable {query : List Char}

theorem foldCase_ne_nil {caseSensitive : Bool} {s : List Char} (h : s ≠ []) : foldCase u caseSensitive s ≠ [] := by
  cases caseSensitive with
  | true => exact h
  | false => exact toLowercase_ne_nil h

theorem findPlainMatches_eq (ctx : RowCtx) (hq : query ≠ []) (caseSensitive : Bool) :
    findPlainMatches u ctx query caseSensitive =
      ((occurrences Char.utf8Size (foldCase u caseSensitive query) 0 (foldCase u caseSensitive ctx.text)).map
        fun b => (b, b + byteLen (foldCase u caseSensitive query))).flatMap fun a => emitMatch ctx a.1 a.2 := by
  rw [flatMap_map]
  exact @plainLoop_eq ctx _ _ (foldCase_ne_nil hq) _ [] _ rfl (Nat.le_refl _)

/-- What is emitted for spans: those with columns, in their order. -/
theorem flatMap_emitMatch (ctx : RowCtx) (spans : List (Nat × Nat)) :
    (spans.flatMap fun a => emitMatch ctx a.1 a.2) =
      (spans.filterMap fun a => byteSpanToCols ctx.text ctx.colMap a.1 a.2).map
        fun c => ⟨ctx.stableRow.val, c.1, ctx.stableRow.val, c.2⟩ := by
  induction spans with
  | nil => rfl
  | cons a spans ih =>
    rw [flatMap_cons, ih, emitMatch, filterMap_cons]
    cases byteSpanToCols ctx.text ctx.colMap a.1 a.2 with
    | none | some => rfl

/-! ## The matches of one row -/

variable {engine : RegexEngine}

theorem findRowMatches_row {stableRow : StableRowIndex} {row : Row} {caseSensitive useRegex : Bool}
    {m : SearchMatch} (hm : m ∈ findRowMatches u engine stableRow row query caseSensitive useRegex)
    (hq : query ≠ []) : m.startRow = stableRow.val ∧ m.endRow = stableRow.val := by
  have hemit {ctx : RowCtx} {b e : Nat} (hctx : ctx.stableRow = stableRow) (h : m ∈ emitMatch ctx b e) :
      m.startRow = stableRow.val ∧ m.endRow = stableRow.val := by
    unfold emitMatch at h
    split at h
    · rw [mem_singleton.mp h, hctx]
      exact ⟨rfl, rfl⟩
    · exact absurd h not_mem_nil
  unfold findRowMatches at hm
  by_cases hnil : (extractRowText row).1 = []
  · rw [if_pos hnil] at hm
    exact absurd hm not_mem_nil
  · rw [if_neg hnil] at hm
    cases useRegex with
    | true =>
      rw [if_pos rfl, findRegexMatches] at hm
      split at hm
      · exact absurd hm not_mem_nil
      · obtain ⟨span, -, hspan⟩ := mem_flatMap.mp hm
        split at hspan
        · exact absurd hspan not_mem_nil
        · exact hemit rfl hspan
    | false =>
      rw [if_neg Bool.false_ne_true, findPlainMatches_eq _ hq] at hm
      obtain ⟨a, -, ha⟩ := mem_flatMap.mp hm
      exact hemit rfl ha

theorem flatMap_range_one {β : Type} (l : List β) {a n : Nat} (h : a < n) :
    ((List.range n).flatMap fun k => if k = a then l else []) = l := by
  induction n with
  | zero => exact absurd h (Nat.not_lt_zero a)
  | succ n ih =>
    rw [range_succ, flatMap_append, flatMap_singleton]
    rcases Nat.lt_succ_iff_lt_or_eq.mp h with hlt | rfl
    · rw [ih hlt, if_neg (Nat.ne_of_gt hlt), append_nil]
    · have hbefore : ((List.range a).flatMap fun k => if k = a then l else []) = [] := by
        rw [flatMap_eq_nil_iff]
        exact fun k hk => if_neg (Nat.ne_of_lt (mem_range.mp hk))
      rw [hbefore, if_pos rfl, nil_append]

/-- The matches in a row of the grid are those found in its text. -/
theorem findMatches_filter {g : Grid} (hq : query ≠ []) (caseSensitive useRegex : Bool)
    {absRow : Nat} (habs : absRow < g.totalLines) {row : Row} (hrow : g.absoluteRow absRow = some row) :
    (findMatches u engine g query caseSensitive useRegex).filter
        (·.startRow == (StableRowIndex.fromAbsolute g absRow).val) =
      findRowMatches u engine (.fromAbsolute g absRow) row query caseSensitive useRegex := by
  have hkeep (k : Nat) (r : Row) :
      (findRowMatches u engine (.fromAbsolute g k) r query caseSensitive useRegex).filter
          (·.startRow == (StableRowIndex.fromAbsolute g absRow).val) =
        if k = absRow then findRowMatches u engine (.fromAbsolute g k) r query caseSensitive useRegex else [] := by
    by_cases hk : k = absRow
    · rw [if_pos hk, filter_eq_self]
      intro m hm
      rw [(findRowMatches_row hm hq).1, hk]
      exact beq_self_eq_true _
    · rw [if_neg hk, filter_eq_nil_iff]
      intro m hm h
      rw [(findRowMatches_row hm hq).1, beq_iff_eq] at h
      exact hk (Nat.add_left_cancel h)
  rw [findMatches, if_neg hq, filter_flatMap]
  have hone : ∀ k ∈ List.range g.totalLines,
      List.filter (·.startRow == (StableRowIndex.fromAbsolute g absRow).val)
        (match g.absoluteRow k with
          | none => []
          | some row => findRowMatches u engine (.fromAbsolute g k) row query caseSensitive useRegex) =
      if k = absRow then findRowMatches u engine (.fromAbsolute g absRow) row query caseSensitive useRegex else [] := by
    intro k _
    by_cases hk : k = absRow
    · subst hk
      rw [hrow, if_pos rfl]
      exact (hkeep k row).trans (if_pos rfl)
    · rw [if_neg hk]
      cases g.absoluteRow k with
      | none => rfl
      | some r => exact (hkeep k r).trans (if_neg hk)
  rw [flatMap_congr hone]
  exact flatMap_range_one _ habs

end Exact

/-! ## What is to be found -/

section Spec

variable (u : CaseData) (caseSensitive : Bool) (text query : List Char)

/-- The range of characters equals the query, in the chosen comparison of cases. -/
def spells (i j : Nat) : Bool := foldCase u caseSensitive (slice text i j) = foldCase u caseSensitive query

/-- The columns of the ranges that equal the query: of the first and of the last character of each. -/
def rangesFound (cols : List Nat) : List (Nat × Nat) :=
  ((ranges text.length).filter fun r => spells u caseSensitive text query r.1 r.2).map
    fun r => (cols.getD r.1 0, cols.getD (r.2 - 1) 0)

/-- What the characters of the text become in the string that is searched. -/
def foldSegments : List (List Char) := if caseSensitive then text.map fun c => [c] else segments u [] text

/-- The query occurs in the searched string where ranges of the text equal it: no occurrence begins or ends inside
what one character became, and a range becomes within the text what it becomes by itself. -/
def SameOccurrences : Prop :=
  Undivided (foldSegments u caseSensitive text) (foldCase u caseSensitive query) ∧
    ∀ i j, i < j → j ≤ text.length →
      ((slice (foldSegments u caseSensitive text) i j).flatten = foldCase u caseSensitive query ↔
        foldCase u caseSensitive (slice text i j) = foldCase u caseSensitive query)

/-- The bytes between which a range lies in the searched string lead to its columns in the text. -/
def KeepsColumns (cols : List Nat) : Prop :=
  ∀ i j, i < j → j ≤ text.length → foldCase u caseSensitive (slice text i j) = foldCase u caseSensitive query →
    StartsIn text cols (bound Char.utf8Size (foldSegments u caseSensitive text) i) (cols.getD i 0) ∧
      EndsIn text cols (bound Char.utf8Size (foldSegments u caseSensitive text) j) (cols.getD (j - 1) 0)

end Spec

section Exact

variable {u : CaseData} {caseSensitive : Bool} {text query : List Char}

variable {cols : List Nat}

theorem flatten_foldSegments : (foldSegments u caseSensitive text).flatten = foldCase u caseSensitive text := by
  cases caseSensitive with
  | true =>
    show (text.map fun c => [c]).flatten = text
    rw [← flatMap_def, flatMap_singleton']
  | false => rfl

theorem length_foldSegments : (foldSegments u caseSensitive text).length = text.length := by
  cases caseSensitive with
  | true => exact length_map _
  | false => exact length_segments [] text

theorem foldSegments_ne_nil {l : List Char} (h : l ∈ foldSegments u caseSensitive text) : l ≠ [] := by
  cases caseSensitive with
  | true =>
    obtain ⟨c, -, rfl⟩ := mem_map.mp h
    exact cons_ne_nil c []
  | false => exact segments_ne_nil h

section

variable (hq : query ≠ []) (hsame : SameOccurrences u caseSensitive text query)
include hq hsame

/-- The spans of the query in the searched string are the ranges that equal it. -/
theorem occurrences_eq_ranges :
    occurrences Char.utf8Size (foldCase u caseSensitive query) 0 (foldCase u caseSensitive text) =
      ((ranges text.length).filter fun r => spells u caseSensitive text query r.1 r.2).map
        fun r => bound Char.utf8Size (foldSegments u caseSensitive text) r.1 := by
  rw [← @flatten_foldSegments u caseSensitive text, ← @length_foldSegments u caseSensitive text]
  refine occurrences_segments Char.utf8Size_pos (foldCase_ne_nil hq) (fun l hl => foldSegments_ne_nil hl) hsame.1
    (spells u caseSensitive text query) fun i j hij hj => ?_
  rw [spells, decide_eq_true_iff]
  exact (hsame.2 i j hij (length_foldSegments ▸ hj)).symm

/-- **The matches of a row are the ranges equal to the query exactly when these keep their columns.** -/
theorem findPlainMatches_eq_iff
    (hlen : cols.length = text.length) (hsorted : cols.Pairwise (· ≤ ·)) (s : StableRowIndex) :
    findPlainMatches u ⟨text, cols, s⟩ query caseSensitive =
        (rangesFound u caseSensitive text query cols).map (fun c => ⟨s.val, c.1, s.val, c.2⟩) ↔
      KeepsColumns u caseSensitive text query cols := by
  have hinj : Function.Injective fun c : Nat × Nat => (⟨s.val, c.1, s.val, c.2⟩ : SearchMatch) :=
    fun c d h => Prod.ext (SearchMatch.mk.inj h).2.1 (SearchMatch.mk.inj h).2.2.2
  rw [findPlainMatches_eq _ hq, flatMap_emitMatch, occurrences_eq_ranges hq hsame, map_map, filterMap_map,
    (map_injective_iff.mpr hinj).eq_iff, rangesFound, filterMap_eq_map_iff_forall_eq_some]
  -- the bytes of an occurrence are the bounds of its range
  have hbounds {i j : Nat} (hij : i < j) (hj : j ≤ text.length)
      (heq : foldCase u caseSensitive (slice text i j) = foldCase u caseSensitive query) :
      bound Char.utf8Size (foldSegments u caseSensitive text) i + byteLen (foldCase u caseSensitive query) =
        bound Char.utf8Size (foldSegments u caseSensitive text) j := by
    rw [bound, bound, ← take_append_slice _ (Nat.le_of_lt hij), flatten_append, (hsame.2 i j hij hj).mpr heq,
      weight_append, byteLen]
  have hpos : 0 < byteLen (foldCase u caseSensitive query) := weight_pos Char.utf8Size_pos (foldCase_ne_nil hq)
  constructor
  · intro h i j hij hj heq
    have hspan : byteSpanToCols text cols (bound Char.utf8Size (foldSegments u caseSensitive text) i)
        (bound Char.utf8Size (foldSegments u caseSensitive text) i + byteLen (foldCase u caseSensitive query)) =
          some (cols.getD i 0, cols.getD (j - 1) 0) :=
      h (i, j) (mem_filter.mpr ⟨mem_ranges.mpr ⟨hij, hj⟩, decide_eq_true heq⟩)
    rwa [byteSpanToCols_eq_some hlen hsorted (Nat.lt_add_of_pos_right hpos), hbounds hij hj heq] at hspan
  · intro h r hr
    obtain ⟨hrange, heq⟩ := mem_filter.mp hr
    obtain ⟨hij, hj⟩ := mem_ranges.mp hrange
    show byteSpanToCols text cols (bound _ _ r.1) (bound _ _ r.1 + byteLen _) = some _
    rw [byteSpanToCols_eq_some hlen hsorted (Nat.lt_add_of_pos_right hpos), hbounds hij hj (of_decide_eq_true heq)]
    exact h r.1 r.2 hij hj (of_decide_eq_true heq)

end

/-- Characters that become single ones of their own sizes keep every range where it is. -/
theorem keepsColumns_of_sizes {f : Char → Char} (hseg : foldSegments u caseSensitive text = text.map fun c => [f c])
    (hsize : ∀ c ∈ text, (f c).utf8Size = c.utf8Size) (hlen : cols.length = text.length)
    (hsorted : cols.Pairwise (· ≤ ·)) : KeepsColumns u caseSensitive text query cols := by
  have hbound (i : Nat) : bound Char.utf8Size (foldSegments u caseSensitive text) i = byteAt text i := by
    rw [bound, hseg, ← map_take, ← flatMap_def, ← map_eq_flatMap, weight, map_map]
    exact congrArg List.sum (map_congr_left fun c hc => hsize c (mem_of_mem_take hc))
  intro i j hij hj _
  rw [hbound, hbound]
  exact ⟨startsIn_byteAt hlen hsorted (Nat.lt_of_lt_of_le hij hj), endsIn_byteAt hlen hsorted hij hj⟩

theorem sameOccurrences_sensitive : SameOccurrences u true text query := by
  refine ⟨undivided_of_single (fun l hl => ?_) _, fun i j _ _ => ?_⟩
  · obtain ⟨c, -, rfl⟩ := mem_map.mp hl
    rfl
  · show (slice (text.map fun c => [c]) i j).flatten = query ↔ slice text i j = query
    rw [slice, ← map_take, ← map_drop, ← flatMap_def, flatMap_singleton']
    rfl

/-- Every character becomes a single one of the same size, whatever stands next to it. -/
def SizesKept (u : CaseData) (text : List Char) : Prop :=
  ∀ c ∈ text, c ≠ 'Σ' ∧ ∃ d, u.toLower c = [d] ∧ d.utf8Size = c.utf8Size

theorem SizesKept.segments_eq (h : SizesKept u text) :
    foldSegments u false text = text.map fun c => [(u.toLower c).headD c] := by
  show segments u [] text = _
  rw [segments_eq_map fun hsigma => (h _ hsigma).1 rfl]
  refine map_congr_left fun c hc => ?_
  obtain ⟨-, d, hd, -⟩ := h c hc
  rw [hd]
  rfl

theorem SizesKept.sameOccurrences (h : SizesKept u text) (query : List Char) : SameOccurrences u false text query := by
  refine ⟨undivided_of_single (fun l hl => ?_) _, fun i j _ _ => ?_⟩
  · rw [h.segments_eq] at hl
    obtain ⟨c, -, rfl⟩ := mem_map.mp hl
    rfl
  · show (slice (segments u [] text) i j).flatten = _ ↔ toLowercase u (slice text i j) = _
    rw [segments_slice fun hsigma => (h _ hsigma).1 rfl]

theorem SizesKept.keepsColumns (h : SizesKept u text) (query : List Char) (hlen : cols.length = text.length) (hsorted : cols.Pairwise (· ≤ ·)) :
    KeepsColumns u false text query cols := by
  refine keepsColumns_of_sizes h.segments_eq (fun c hc => ?_) hlen hsorted
  obtain ⟨-, d, hd, hsize⟩ := h c hc
  rw [hd]
  exact hsize

theorem findRowMatches_plain (s : StableRowIndex) (row : Row) (_ : query ≠ []) (engine : RegexEngine) :
    findRowMatches u engine s row query caseSensitive false =
      findPlainMatches u ⟨(extractRowText row).1, (extractRowText row).2, s⟩ query caseSensitive := by
  unfold findRowMatches
  by_cases hnil : (extractRowText row).1 = []
  · rw [hnil]
    cases caseSensitive <;> rfl
  · rw [if_neg hnil, if_neg Bool.false_ne_true]

/-- **A plain search is exact in columns** when it is case sensitive. Otherwise, where the query occurs in the
lower-cased text just where ranges of the text equal it, it is exact exactly when their bytes keep their columns; so it
is when every character of the row becomes a single one of the same size. -/
theorem plain_search_exact (u : CaseData) (engine : RegexEngine) (g : Grid) {query : List Char} (hq : query ≠ [])
    {absRow : Nat} (habs : absRow < g.totalLines) {row : Row} (hrow : g.absoluteRow absRow = some row) :
    let text := (extractRowText row).1
    let cols := (extractRowText row).2
    let s := (StableRowIndex.fromAbsolute g absRow).val
    let found caseSensitive := (findMatches u engine g query caseSensitive false).filter (·.startRow == s)
    let exact caseSensitive :=
      (rangesFound u caseSensitive text query cols).map fun c => (⟨s, c.1, s, c.2⟩ : SearchMatch)
    found true = exact true ∧
      (SameOccurrences u false text query → (found false = exact false ↔ KeepsColumns u false text query cols)) ∧
      (SizesKept u text → found false = exact false) := by
  intro text cols s found exact
  have hlen : cols.length = text.length := length_colMap row
  have hsorted : cols.Pairwise (· ≤ ·) := colMap_sorted row
  have hfound (caseSensitive : Bool) : found caseSensitive =
      findPlainMatches u ⟨text, cols, .fromAbsolute g absRow⟩ query caseSensitive := by
    show List.filter _ _ = _
    rw [findMatches_filter hq caseSensitive false habs hrow, findRowMatches_plain _ _ hq]
  have hexact (caseSensitive : Bool) (hsame : SameOccurrences u caseSensitive text query) :
      found caseSensitive = exact caseSensitive ↔ KeepsColumns u caseSensitive text query cols := by
    rw [hfound]
    exact findPlainMatches_eq_iff hq hsame hlen hsorted _
  refine ⟨(hexact true sameOccurrences_sensitive).mpr ?_, hexact false, fun h => ?_⟩
  · exact keepsColumns_of_sizes rfl (fun _ _ => rfl) hlen hsorted
  · exact (hexact false (h.sameOccurrences query)).mpr (h.keepsColumns query hlen hsorted)

end Exact

/-- Cases of the ASCII letters, of the dotted capital I and of the capital A with stroke. -/
def sampleCases : CaseData where
  toLower c := if c = 'İ' then ['i', Char.ofNat 0x307] else if c = 'Ⱥ' then ['ⱥ'] else [c.toLower]
  cased c := c.isAlpha || c = 'İ' || c = 'Ⱥ' || c = 'ⱥ'
  caseIgnorable c := c = Char.ofNat 0x307
  toLower_ne_nil c := by split <;> [exact cons_ne_nil _ _; split <;> exact cons_ne_nil _ _]

/-- An engine that builds no pattern. -/
def noEngine : RegexEngine := ⟨fun _ _ _ => none, nofun⟩

/-- A grid of one row. -/
def oneRow (text : List Char) : Grid :=
  Lib.run GridOp.apply (Grid.withScrollback 1 text.length 0) (text.map (.putChar 1))

/-- In `aBa` the query `AB` is found where it is in the other case. -/
theorem plain_search_exact_one :
    ∃ row, (oneRow ['a', 'B', 'a']).absoluteRow 0 = some row ∧ SizesKept sampleCases (extractRowText row).1 ∧
      let s := (StableRowIndex.fromAbsolute (oneRow ['a', 'B', 'a']) 0).val
      (findMatches sampleCases noEngine (oneRow ['a', 'B', 'a']) ['A', 'B'] false false).filter (·.startRow == s) =
        (rangesFound sampleCases false (extractRowText row).1 ['A', 'B'] (extractRowText row).2).map
          fun c => ⟨s, c.1, s, c.2⟩ := by
  have htext : ((oneRow ['a', 'B', 'a']).absoluteRow 0).map (fun row => (extractRowText row).1) = some ['a', 'B', 'a'] := by
    decide +kernel
  obtain ⟨row, hrow, hchars⟩ := Option.map_eq_some_iff.mp htext
  have hkept : SizesKept sampleCases (extractRowText row).1 := by
    rw [hchars]
    intro c hc
    have hcases : c = 'a' ∨ c = 'B' ∨ c = 'a' := by simpa using hc
    rcases hcases with rfl | rfl | rfl
    · exact ⟨by decide, 'a', by decide, by decide⟩
    · exact ⟨by decide, 'b', by decide, by decide⟩
    · exact ⟨by decide, 'a', by decide, by decide⟩
  exact ⟨row, hrow, hkept, (plain_search_exact sampleCases noEngine (oneRow ['a', 'B', 'a']) (cons_ne_nil _ _)
    (by decide) hrow).2.2 hkept⟩

/-- `İ` becomes two characters of three bytes, and the `a` after it is looked up past the end of the row. -/
theorem plain_search_misses :
    ¬ ∀ (g : Grid) (query : List Char) (caseSensitive : Bool) (absRow : Nat) (row : Row), query ≠ [] →
      absRow < g.totalLines → g.absoluteRow absRow = some row →
      let s := (StableRowIndex.fromAbsolute g absRow).val
      (findMatches sampleCases noEngine g query caseSensitive false).filter (·.startRow == s) =
        (rangesFound sampleCases caseSensitive (extractRowText row).1 query (extractRowText row).2).map
          fun c => ⟨s, c.1, s, c.2⟩ := by
  intro h
  have htext : ((oneRow ['İ', 'a']).absoluteRow 0).map extractRowText = some (['İ', 'a'], [0, 1]) := by decide +kernel
  obtain ⟨row, hrow, hchars⟩ := Option.map_eq_some_iff.mp htext
  have heq := h (oneRow ['İ', 'a']) ['a'] false 0 row (cons_ne_nil _ _) (by decide) hrow
  have hnone : findMatches sampleCases noEngine (oneRow ['İ', 'a']) ['a'] false false = [] := by decide +kernel
  have hone : rangesFound sampleCases false ['İ', 'a'] ['a'] [0, 1] = [(1, 1)] := by decide +kernel
  rw [hnone, hchars, hone] at heq
  exact nomatch heq

/-- What is missed may be made up for: the `i` in `i̇` is looked up at the `i` of the row, and that one past the end. -/
example :
    findMatches sampleCases noEngine (oneRow ['Ⱥ', 'Ⱥ', 'İ', 'i']) ['i'] false false = [⟨0, 3, 0, 3⟩] ∧
      rangesFound sampleCases false ['Ⱥ', 'Ⱥ', 'İ', 'i'] ['i'] [0, 1, 2, 3] = [(3, 3)] := by
  decide +kernel

end OriTerm
