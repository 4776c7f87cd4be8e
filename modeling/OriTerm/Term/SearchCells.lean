import OriTerm.Lib.PartitionPoint
import OriTerm.Term.FindMatches
import OriTerm.Term.Search

/-!
# `Term.SearchCells` — the order of the matches, and what a cell is part of

The renderer asks for every cell whether it is part of a match. The matches are in order, and a binary search finds the
last one that starts at or before the cell; that one decides. A cell of the focused match in which the next match has
started already is taken for a part of the next one only.

Within a row the order of the matches is that of the bytes at which they were found. Two of them may start in one column:
the characters of a cell share it.

* **`search_cells`** — exactly when the matches are strictly ordered and every cell is classified rightly.
-/

namespace OriTerm

open Lib Lib.Occurrences Lib.Lowercase List Option

variable (s : SearchState)

variable {m : SearchMatch}

/-- Per-cell match classification for rendering. -/
inductive MatchType where
  /-- Cell is not part of any match. -/
  | none
  /-- Cell is part of a non-focused match. -/
  | matched
  /-- Cell is part of the currently focused match. -/
  | focusedMatch
  deriving DecidableEq, Repr

/-- The cell falls within a match span. -/
def cellInMatch (m : SearchMatch) (row col : Nat) : Bool :=
  if row < m.startRow ∨ m.endRow < row then false
  else if m.startRow = m.endRow then m.startCol ≤ col ∧ col ≤ m.endCol
  else if row = m.startRow then m.startCol ≤ col
  else if row = m.endRow then col ≤ m.endCol
  else true

/-- The start of the match is not beyond the cell. -/
def startsBy (row col : Nat) (m : SearchMatch) : Bool :=
  m.startRow < row ∨ m.startRow = row ∧ m.startCol ≤ col

/-- Classify a cell's match status for rendering. -/
def SearchState.cellMatchType (row col : Nat) : MatchType :=
  if s.matchList = [] then .none
  else
    let idx := partitionPoint (startsBy row col) s.matchList
    let start := idx - 1
    let stop := min (idx + 1) s.matchList.length
    match (List.range' start (stop - start)).find? fun i => (s.matchList[i]?).any (cellInMatch · row col) with
    | some i => if i = s.focused then .focusedMatch else .matched
    | Option.none => .none

/-! ## What the classification is for -/

/-- The cell is inside the match, which is on a single row. -/
def SearchMatch.Covers (m : SearchMatch) (row col : Nat) : Prop :=
  m.startRow = row ∧ m.startCol ≤ col ∧ col ≤ m.endCol

/-- The start of the one match is before that of the other. -/
def SearchMatch.StartsBefore (m n : SearchMatch) : Prop :=
  m.startRow < n.startRow ∨ m.startRow = n.startRow ∧ m.startCol < n.startCol

/-- Every cell is said to be part of the focused match exactly when it is, and of another one exactly when it is part
of one but not of the focused one. -/
def SearchState.Classified : Prop :=
  ∀ row col,
    (s.cellMatchType row col = .focusedMatch ↔ ∃ m, s.matchList[s.focused]? = some m ∧ m.Covers row col) ∧
    (s.cellMatchType row col = .matched ↔
      (∃ m ∈ s.matchList, m.Covers row col) ∧ ¬ ∃ m, s.matchList[s.focused]? = some m ∧ m.Covers row col) ∧
    (s.cellMatchType row col = .none ↔ ∀ m ∈ s.matchList, ¬ m.Covers row col)

/-- The match after the focused one starts beyond its last column, if it is on the same row. -/
def SearchState.FocusApart : Prop :=
  ∀ m n, s.matchList[s.focused]? = some m → s.matchList[s.focused + 1]? = some n → m.startRow = n.startRow →
    m.endCol < n.startCol

/-! ## The classification of ordered matches -/

theorem cellInMatch_iff (hm : m.endRow = m.startRow) (row col : Nat) :
    cellInMatch m row col = true ↔ m.Covers row col := by
  unfold cellInMatch SearchMatch.Covers
  rw [hm]
  by_cases hrow : m.startRow = row
  · rw [if_neg (by omega), if_pos rfl, decide_eq_true_iff]
    exact ⟨fun h => ⟨hrow, h⟩, fun h => h.2⟩
  · rw [if_pos (by omega)]
    exact iff_of_false Bool.false_ne_true fun h => hrow h.1

theorem startsBy_iff {row col : Nat} :
    startsBy row col m = true ↔ m.startRow < row ∨ m.startRow = row ∧ m.startCol ≤ col := decide_eq_true_iff

theorem SearchMatch.Covers.startsBy {m : SearchMatch} {row col : Nat} (h : m.Covers row col) :
    startsBy row col m = true := startsBy_iff.mpr (.inr ⟨h.1, h.2.1⟩)

theorem startsBy_of_startsBefore {row col : Nat} {n : SearchMatch} (hmn : m.StartsBefore n)
    (hn : startsBy row col n = true) : startsBy row col m = true := by
  rw [startsBy_iff] at hn ⊢
  unfold SearchMatch.StartsBefore at hmn
  omega

section Ordered

variable {s : SearchState} (hsingle : ∀ m ∈ s.matchList, m.endRow = m.startRow)
  (hstart : s.matchList.Pairwise SearchMatch.StartsBefore)

include hstart in
theorem startsBefore_of_lt {i j : Nat} {m n : SearchMatch} (hm : s.matchList[i]? = some m)
    (hn : s.matchList[j]? = some n) (hij : i < j) : m.StartsBefore n := by
  obtain ⟨hi, rfl⟩ := List.getElem?_eq_some_iff.mp hm
  obtain ⟨hj, rfl⟩ := List.getElem?_eq_some_iff.mp hn
  exact pairwise_iff_getElem.mp hstart i j hi hj hij

include hstart in
/-- The binary search is sound: it counts the matches that start at or before the cell. -/
theorem partitionPoint_startsBy (row col : Nat) :
    partitionPoint (startsBy row col) s.matchList ≤ s.matchList.length ∧
      ∀ i m, s.matchList[i]? = some m →
        (startsBy row col m = true ↔ i < partitionPoint (startsBy row col) s.matchList) := by
  have hparted : ∀ i m, s.matchList[i]? = some m →
      (startsBy row col m = true ↔ i < s.matchList.findIdx fun m => !startsBy row col m) := by
    intro i m hm
    obtain ⟨hi, rfl⟩ := List.getElem?_eq_some_iff.mp hm
    constructor
    · intro hby
      by_contra hbeyond
      have hfirst : s.matchList.findIdx (fun m => !startsBy row col m) < s.matchList.length :=
        Nat.lt_of_le_of_lt (Nat.le_of_not_lt hbeyond) hi
      have hnot := findIdx_getElem (w := hfirst)
      -- all that come after a match beyond the cell are beyond it
      rcases Nat.eq_or_lt_of_le (Nat.le_of_not_lt hbeyond) with heq | hlt
      · simp only [heq] at hnot
        rw [hby] at hnot
        exact nomatch hnot
      · have hbefore := startsBefore_of_lt hstart (getElem?_eq_getElem hfirst) hm hlt
        rw [startsBy_of_startsBefore hbefore hby] at hnot
        exact nomatch hnot
    · intro hlt
      have hnot := not_of_lt_findIdx hlt
      rwa [Bool.not_eq_false'] at hnot
  rw [partitionPoint_eq findIdx_le_length hparted]
  exact ⟨findIdx_le_length, hparted⟩

include hsingle hstart in
/-- The last match that starts at or before the cell decides. -/
theorem cellMatchType_cases (row col : Nat) :
    let idx := partitionPoint (startsBy row col) s.matchList
    (∃ m, 0 < idx ∧ s.matchList[idx - 1]? = some m ∧ m.Covers row col ∧
        s.cellMatchType row col = if idx - 1 = s.focused then .focusedMatch else .matched) ∨
      (∀ m, 0 < idx → s.matchList[idx - 1]? = some m → ¬ m.Covers row col) ∧ s.cellMatchType row col = .none := by
  intro idx
  obtain ⟨-, hparted⟩ := partitionPoint_startsBy hstart row col
  have hin {i : Nat} : (s.matchList[i]?).any (cellInMatch · row col) = true ↔
      ∃ m, s.matchList[i]? = some m ∧ m.Covers row col := by
    cases hm : s.matchList[i]? with
    | none => exact iff_of_false Bool.false_ne_true (by rintro ⟨m, h, -⟩; exact nomatch h)
    | some m =>
      rw [any_some, cellInMatch_iff (hsingle m (mem_of_getElem? hm))]
      exact ⟨fun h => ⟨m, rfl, h⟩, fun ⟨n, hn, h⟩ => some.inj hn ▸ h⟩
  by_cases hnil : s.matchList = []
  · refine .inr ⟨fun m _ hm => ?_, by rw [SearchState.cellMatchType, if_pos hnil]⟩
    rw [hnil] at hm
    exact nomatch hm
  · by_cases hlast : 0 < idx ∧ ∃ m, s.matchList[idx - 1]? = some m ∧ m.Covers row col
    · obtain ⟨hpos, m, hm, hcovers⟩ := hlast
      have hlen : idx - 1 < s.matchList.length := (List.getElem?_eq_some_iff.mp hm).1
      obtain ⟨n, hn⟩ : ∃ n, min (idx + 1) s.matchList.length - (idx - 1) = n + 1 :=
        ⟨min (idx + 1) s.matchList.length - (idx - 1) - 1, by omega⟩
      refine .inl ⟨m, hpos, hm, hcovers, ?_⟩
      rw [SearchState.cellMatchType, if_neg hnil]
      show (match (List.range' (idx - 1) (min (idx + 1) s.matchList.length - (idx - 1))).find? _ with
        | some i => if i = s.focused then MatchType.focusedMatch else .matched
        | none => .none) = _
      have hfound : ((idx - 1) :: List.range' (idx - 1 + 1) n).find?
          (fun i => (s.matchList[i]?).any (cellInMatch · row col)) = some (idx - 1) :=
        find?_cons_of_pos (hin.mpr ⟨m, hm, hcovers⟩)
      rw [hn, range'_succ, hfound]
    · refine .inr ⟨fun m hpos hm hcovers => hlast ⟨hpos, m, hm, hcovers⟩, ?_⟩
      rw [SearchState.cellMatchType, if_neg hnil]
      have hnone : (List.range' (idx - 1) (min (idx + 1) s.matchList.length - (idx - 1))).find?
          (fun i => (s.matchList[i]?).any (cellInMatch · row col)) = none := by
        rw [find?_eq_none]
        intro i hi hany
        obtain ⟨m, hm, hcovers⟩ := hin.mp hany
        have hlt : i < idx := (hparted i m hm).mp hcovers.startsBy
        have hle := (mem_range'_1.mp hi).1
        have heq : i = idx - 1 := by omega
        exact hlast ⟨by omega, m, heq ▸ hm, hcovers⟩
      show (match List.find? _ (List.range' (idx - 1) (min (idx + 1) s.matchList.length - (idx - 1))) with
        | some i => if i = s.focused then MatchType.focusedMatch else .matched
        | none => .none) = _
      rw [hnone]

variable (hend : s.matchList.Pairwise fun m n => m.startRow = n.startRow → m.endCol ≤ n.endCol)

include hstart hend in
/-- A cell of some match is one of the last match that starts at or before it. -/
theorem covers_last {row col i : Nat} {m : SearchMatch} (hm : s.matchList[i]? = some m) (hcovers : m.Covers row col) :
    let idx := partitionPoint (startsBy row col) s.matchList
    i < idx ∧ ∃ n, s.matchList[idx - 1]? = some n ∧ n.Covers row col := by
  intro idx
  obtain ⟨hcount, hparted⟩ := partitionPoint_startsBy hstart row col
  have hi : i < idx := (hparted i m hm).mp hcovers.startsBy
  obtain ⟨n, hn⟩ : ∃ n, s.matchList[idx - 1]? = some n := ⟨_, getElem?_eq_getElem (by omega)⟩
  refine ⟨hi, n, hn, ?_⟩
  rcases Nat.eq_or_lt_of_le (by omega : i ≤ idx - 1) with heq | hlt
  · rw [← heq, hm] at hn
    exact some.inj hn ▸ hcovers
  · have hbefore := startsBefore_of_lt hstart hm hn hlt
    have hby := startsBy_iff.mp ((hparted _ n hn).mpr (by omega : idx - 1 < idx))
    obtain ⟨hrow, hlo, hhi⟩ := hcovers
    have hsame : n.startRow = row := by
      unfold SearchMatch.StartsBefore at hbefore
      omega
    obtain ⟨hil, rfl⟩ := List.getElem?_eq_some_iff.mp hm
    obtain ⟨hnl, rfl⟩ := List.getElem?_eq_some_iff.mp hn
    have hle := pairwise_iff_getElem.mp hend i (idx - 1) hil hnl hlt (hrow.trans hsame.symm)
    exact ⟨hsame, by omega, Nat.le_trans hhi hle⟩

include hsingle hstart hend in
/-- **Ordered matches are classified rightly exactly when the focused one ends before the next one starts.** -/
theorem classified_iff : s.Classified ↔ s.FocusApart := by
  constructor
  · intro h m n hm hn hrow
    by_contra hover
    have hbefore := startsBefore_of_lt hstart hm hn (Nat.lt_succ_self _)
    have hcovers : m.Covers m.startRow m.endCol := by
      unfold SearchMatch.StartsBefore at hbefore
      exact ⟨rfl, by omega, Nat.le_refl _⟩
    have hfocused := ((h m.startRow m.endCol).1).mpr ⟨m, hm, hcovers⟩
    -- the next match starts at or before the last cell of the focused one, and decides
    have hnext := ((partitionPoint_startsBy hstart m.startRow m.endCol).2 _ n hn).mp
      (startsBy_iff.mpr (.inr ⟨hrow.symm, Nat.le_of_not_lt hover⟩))
    rcases cellMatchType_cases hsingle hstart m.startRow m.endCol with ⟨p, -, -, -, htype⟩ | ⟨-, htype⟩
    · rw [if_neg (by omega), hfocused] at htype
      exact nomatch htype
    · rw [hfocused] at htype
      exact nomatch htype
  · intro hapart row col
    obtain ⟨-, hparted⟩ := partitionPoint_startsBy hstart row col
    rcases cellMatchType_cases hsingle hstart row col with ⟨n, hpos, hn, hcovers, htype⟩ | ⟨hnot, htype⟩
    · rw [htype]
      by_cases hfocus : partitionPoint (startsBy row col) s.matchList - 1 = s.focused
      · rw [if_pos hfocus]
        have hin : ∃ m, s.matchList[s.focused]? = some m ∧ m.Covers row col := ⟨n, hfocus ▸ hn, hcovers⟩
        refine ⟨iff_of_true rfl hin, iff_of_false nofun fun h => h.2 hin, iff_of_false nofun fun h => ?_⟩
        exact h n (mem_of_getElem? hn) hcovers
      · rw [if_neg hfocus]
        have hout : ¬ ∃ m, s.matchList[s.focused]? = some m ∧ m.Covers row col := by
          rintro ⟨m, hm, hmcovers⟩
          have hlt := (hparted _ m hm).mp hmcovers.startsBy
          have hnlen := (List.getElem?_eq_some_iff.mp hn).1
          obtain ⟨p, hp⟩ : ∃ p, s.matchList[s.focused + 1]? = some p := ⟨_, getElem?_eq_getElem (by omega)⟩
          have hpby := startsBy_iff.mp ((hparted _ p hp).mpr (by omega))
          have hbefore := startsBefore_of_lt hstart hm hp (Nat.lt_succ_self _)
          obtain ⟨hrow, -, hhi⟩ := hmcovers
          unfold SearchMatch.StartsBefore at hbefore
          have hbeyond := hapart m p hm hp (by omega)
          omega
        refine ⟨iff_of_false nofun hout, iff_of_true rfl ⟨⟨n, mem_of_getElem? hn, hcovers⟩, hout⟩, ?_⟩
        exact iff_of_false nofun fun h => h n (mem_of_getElem? hn) hcovers
    · have hout : ∀ m ∈ s.matchList, ¬ m.Covers row col := by
        intro m hmem hmcovers
        obtain ⟨i, hm⟩ := mem_iff_getElem?.mp hmem
        obtain ⟨hi, n, hn, hcovers⟩ := covers_last hstart hend hm hmcovers
        exact hnot n (Nat.zero_lt_of_lt hi) hn hcovers
      rw [htype]
      refine ⟨iff_of_false nofun ?_, iff_of_false nofun ?_, iff_of_true rfl hout⟩
      · rintro ⟨m, hm, hmcovers⟩
        exact hout m (mem_of_getElem? hm) hmcovers
      · rintro ⟨⟨m, hmem, hmcovers⟩, -⟩
        exact hout m hmem hmcovers

end Ordered

/-! ## The spans of a row -/

section Spans

variable (u : CaseData) (engine : RegexEngine)

variable {query : List Char} {caseSensitive useRegex : Bool}

/-- The spans of bytes found in a row: the occurrences of the query, overlapping ones included, or the matches of the
engine that are not empty. -/
def rowSpans (text query : List Char) (caseSensitive useRegex : Bool) : List (Nat × Nat) :=
  if query = [] then []
  else if useRegex then
    ((engine.findIter query (!caseSensitive) text).getD []).filter fun m => m.1 ≠ m.2
  else
    let needle := foldCase u caseSensitive query
    (occurrences Char.utf8Size needle 0 (foldCase u caseSensitive text)).map fun b => (b, b + byteLen needle)

/-- Later spans start in other columns, and before the row's last character is past. -/
def StartsApart (text : List Char) (cols : List Nat) (spans : List (Nat × Nat)) : Prop :=
  spans.Pairwise fun a b => b.1 < byteLen text →
    (∃ m < text.length, b.1 ≤ byteAt text m) ∧ ∀ c, StartsIn text cols a.1 c → ¬ StartsIn text cols b.1 c

variable {u engine}

/-- Spans come in order, by their starts and by their ends, and none is empty. -/
theorem rowSpans_ordered (text query : List Char) (caseSensitive useRegex : Bool) :
    (rowSpans u engine text query caseSensitive useRegex).Pairwise (fun a b => a.1 < b.1 ∧ a.2 < b.2) ∧
      ∀ a ∈ rowSpans u engine text query caseSensitive useRegex, a.1 < a.2 := by
  unfold rowSpans
  by_cases hq : query = []
  · rw [if_pos hq]
    exact ⟨List.Pairwise.nil, nofun⟩
  rw [if_neg hq]
  cases useRegex with
  | true =>
    cases hspans : engine.findIter query (!caseSensitive) text with
    | none => exact ⟨List.Pairwise.nil, nofun⟩
    | some spans =>
      obtain ⟨hapart, hle⟩ := engine.successive hspans
      have hproper : ∀ a ∈ spans.filter (fun m => m.1 ≠ m.2), a.1 < a.2 := by
        intro a ha
        obtain ⟨hmem, hne⟩ := mem_filter.mp ha
        exact Nat.lt_of_le_of_ne (hle a hmem) (of_decide_eq_true hne)
      refine ⟨Pairwise.imp_of_mem (fun {a b} ha hb hab => ?_) (hapart.filter _), hproper⟩
      have h := hproper a ha
      have h' := hproper b hb
      omega
  | false =>
    rw [if_neg Bool.false_ne_true]
    constructor
    · rw [pairwise_map]
      exact (pairwise_occurrences Char.utf8Size_pos 0 _).imp fun h => ⟨h, Nat.add_lt_add_right h _⟩
    · intro a ha
      obtain ⟨b, -, rfl⟩ := mem_map.mp ha
      exact Nat.lt_add_of_pos_right (weight_pos Char.utf8Size_pos (foldCase_ne_nil hq))

/-- To skip the empty matches is to leave them out. -/
theorem flatMap_skip_empty {β : Type} (f : Nat × Nat → List β) (spans : List (Nat × Nat)) :
    (spans.flatMap fun a => if a.1 = a.2 then [] else f a) = (spans.filter fun a => a.1 ≠ a.2).flatMap f := by
  induction spans with
  | nil => rfl
  | cons a spans ih =>
    rw [flatMap_cons, ih, filter_cons]
    by_cases hempty : a.1 = a.2
    · rw [if_pos hempty, if_neg (by simpa using hempty), nil_append]
    · rw [if_neg hempty, if_pos (by simpa using hempty), flatMap_cons]

/-- A row's matches are its spans that begin within the text, by their columns. -/
theorem findRowMatches_eq (stableRow : StableRowIndex) (row : Row) (hq : query ≠ [])
    (caseSensitive useRegex : Bool) :
    findRowMatches u engine stableRow row query caseSensitive useRegex =
      ((rowSpans u engine (extractRowText row).1 query caseSensitive useRegex).filterMap
        fun a => byteSpanToCols (extractRowText row).1 (extractRowText row).2 a.1 a.2).map
          fun c => ⟨stableRow.val, c.1, stableRow.val, c.2⟩ := by
  unfold findRowMatches rowSpans
  rw [if_neg hq]
  by_cases hnil : (extractRowText row).1 = []
  · have hcols : (extractRowText row).2 = [] := by
      rw [← length_eq_zero_iff, length_colMap, hnil, length_nil]
    rw [if_pos hnil, filterMap_eq_nil_iff.mpr fun a _ => by rw [byteSpanToCols, if_pos (.inr hcols)]]
    rfl
  · rw [if_neg hnil]
    cases useRegex with
    | true =>
      rw [if_pos rfl, findRegexMatches]
      cases engine.findIter query (!caseSensitive) (extractRowText row).1 with
      | none => rfl
      | some spans =>
        rw [← flatMap_emitMatch ⟨_, _, stableRow⟩]
        exact flatMap_skip_empty _ spans
    | false =>
      rw [if_neg Bool.false_ne_true, if_neg Bool.false_ne_true, findPlainMatches_eq _ hq, flatMap_emitMatch]

/-! ## The order of the matches -/

section Columns

variable {text : List Char} {cols : List Nat} (hlen : cols.length = text.length) (hsorted : cols.Pairwise (· ≤ ·))

include hlen hsorted in
/-- Two spans of a row have their columns in order exactly when they start apart. -/
theorem startCol_lt_iff {a b : Nat × Nat} (ha : a.1 < a.2) (hb : b.1 < b.2) (hab : a.1 < b.1) :
    (∀ x, byteSpanToCols text cols a.1 a.2 = some x → ∀ y, byteSpanToCols text cols b.1 b.2 = some y → x.1 < y.1) ↔
      (b.1 < byteLen text →
        (∃ m < text.length, b.1 ≤ byteAt text m) ∧ ∀ c, StartsIn text cols a.1 c → ¬ StartsIn text cols b.1 c) := by
  have hindex {m c : Nat} (hm : cols[m]? = some c) : m < text.length := hlen ▸ (List.getElem?_eq_some_iff.mp hm).1
  constructor
  · intro h hblt
    obtain ⟨x, hx⟩ := exists_byteSpanToCols hlen hsorted (Nat.lt_trans hab hblt) ha
    obtain ⟨y, hy⟩ := exists_byteSpanToCols hlen hsorted hblt hb
    have hxy := h x hx y hy
    have hstart := ((byteSpanToCols_eq_some hlen hsorted ha).mp hx).1
    have hstart' := ((byteSpanToCols_eq_some hlen hsorted hb).mp hy).1
    refine ⟨?_, fun c hc hc' => ?_⟩
    · rcases hstart'.2 with ⟨⟨m, hm, hle⟩, -⟩ | ⟨-, hzero⟩
      · exact ⟨m, hindex hm, hle⟩
      · -- past the last character: the look-up falls back to the first column
        obtain ⟨m, hm⟩ : ∃ m, cols[m]? = some x.1 := by
          rcases hstart.2 with ⟨⟨m, hm, -⟩, -⟩ | ⟨-, hzero⟩
          · exact ⟨m, hm⟩
          · exact ⟨0, hzero⟩
        exact absurd hxy (Nat.not_lt_of_le (sorted_get hsorted hzero hm (Nat.zero_le m)))
    · rw [hstart.unique hlen hsorted hc, hstart'.unique hlen hsorted hc'] at hxy
      exact Nat.lt_irrefl c hxy
  · intro h x hx y hy
    have hstart := ((byteSpanToCols_eq_some hlen hsorted ha).mp hx).1
    have hstart' := ((byteSpanToCols_eq_some hlen hsorted hb).mp hy).1
    obtain ⟨⟨k, hk, hkle⟩, hapart⟩ := h hstart'.1
    refine Nat.lt_of_le_of_ne (Nat.le_of_not_lt fun hlt => ?_) fun heq => hapart x.1 hstart (heq ▸ hstart')
    rcases hstart'.2 with ⟨⟨m, hm, hle⟩, -⟩ | ⟨hall, -⟩
    · rcases hstart.2 with ⟨-, hearlier⟩ | ⟨hall, -⟩
      · have hbefore := hearlier m y.1 hm hlt
        omega
      · have hbefore := hall m (hindex hm)
        omega
    · exact Nat.not_lt_of_le hkle (hall k hk)

include hlen hsorted in
/-- Spans that end in order end in columns in order. -/
theorem endCol_le {a b x y : Nat × Nat} (ha : a.1 < a.2) (hb : b.1 < b.2) (hab : a.2 < b.2)
    (hx : byteSpanToCols text cols a.1 a.2 = some x) (hy : byteSpanToCols text cols b.1 b.2 = some y) : x.2 ≤ y.2 := by
  obtain ⟨-, ⟨m, hm, hbefore⟩, -⟩ := (byteSpanToCols_eq_some hlen hsorted ha).mp hx
  obtain ⟨-, -, hlater⟩ := (byteSpanToCols_eq_some hlen hsorted hb).mp hy
  by_contra hlt
  have hbeyond := hlater m x.2 hm (Nat.lt_of_not_le hlt)
  omega

end Columns

theorem startRow_of_mem {g : Grid} (hq : query ≠ []) {k : Nat}
    {m : SearchMatch} (hm : m ∈ match g.absoluteRow k with
      | none => []
      | some row => findRowMatches u engine (.fromAbsolute g k) row query caseSensitive useRegex) :
    m.startRow = (StableRowIndex.fromAbsolute g k).val := by
  cases hrow : g.absoluteRow k with
  | none =>
    rw [hrow] at hm
    exact absurd hm not_mem_nil
  | some row =>
    rw [hrow] at hm
    exact (findRowMatches_row hm hq).1

/-- A relation that holds from row to row holds between the matches of the grid when it does within each row. -/
theorem findMatches_pairwise {R : SearchMatch → SearchMatch → Prop} (hrows : ∀ m n, m.startRow < n.startRow → R m n)
    (g : Grid) (query : List Char) (caseSensitive useRegex : Bool) :
    (findMatches u engine g query caseSensitive useRegex).Pairwise R ↔
      ∀ absRow row, absRow < g.totalLines → g.absoluteRow absRow = some row →
        ((rowSpans u engine (extractRowText row).1 query caseSensitive useRegex).filterMap
          fun a => byteSpanToCols (extractRowText row).1 (extractRowText row).2 a.1 a.2).Pairwise fun c d =>
            let s := (StableRowIndex.fromAbsolute g absRow).val
            R ⟨s, c.1, s, c.2⟩ ⟨s, d.1, s, d.2⟩ := by
  unfold findMatches
  by_cases hq : query = []
  · rw [if_pos hq]
    refine iff_of_true List.Pairwise.nil fun absRow row _ _ => ?_
    rw [rowSpans, if_pos hq]
    exact List.Pairwise.nil
  rw [if_neg hq, pairwise_flatMap]
  constructor
  · intro h absRow row habs hrow
    have hin := h.1 absRow (mem_range.mpr habs)
    rw [hrow] at hin
    rwa [← pairwise_map, ← findRowMatches_eq (.fromAbsolute g absRow) row hq]
  · intro h
    constructor
    · intro absRow habs
      cases hrow : g.absoluteRow absRow with
      | none => exact List.Pairwise.nil
      | some row =>
        show (findRowMatches u engine _ row query caseSensitive useRegex).Pairwise R
        rw [findRowMatches_eq _ row hq, pairwise_map]
        exact h absRow row (mem_range.mp habs) hrow
    · refine pairwise_lt_range.imp fun {k l} hkl m hm n hn => hrows m n ?_
      rw [startRow_of_mem hq hm, startRow_of_mem hq hn]
      exact Nat.add_lt_add_left hkl _

/-- What holds of spans in order may be said of their columns. -/
theorem pairwise_cols_iff {text : List Char} {cols : List Nat}
    {R : Nat × Nat → Nat × Nat → Prop} {P : Nat × Nat → Nat × Nat → Prop}
    (h : ∀ a b, a.1 < a.2 → b.1 < b.2 → a.1 < b.1 → a.2 < b.2 →
      ((∀ x, byteSpanToCols text cols a.1 a.2 = some x → ∀ y, byteSpanToCols text cols b.1 b.2 = some y → R x y) ↔
        P a b)) :
    ((rowSpans u engine text query caseSensitive useRegex).filterMap
        fun a => byteSpanToCols text cols a.1 a.2).Pairwise R ↔
      (rowSpans u engine text query caseSensitive useRegex).Pairwise P := by
  obtain ⟨hordered, hproper⟩ := @rowSpans_ordered u engine text query caseSensitive useRegex
  rw [pairwise_filterMap]
  constructor
  · intro hR
    refine Pairwise.imp_of_mem (fun {a b} ha hb hab => ?_) (hordered.and hR)
    exact (h a b (hproper a ha) (hproper b hb) hab.1.1 hab.1.2).mp hab.2
  · intro hP
    refine Pairwise.imp_of_mem (fun {a b} ha hb hab => ?_) (hordered.and hP)
    exact (h a b (hproper a ha) (hproper b hb) hab.1.1 hab.1.2).mpr hab.2

/-- The grid's matches are strictly ordered by row and start column exactly when those of every row start apart. -/
theorem startsBefore_iff (g : Grid) (query : List Char) (caseSensitive useRegex : Bool) :
    (findMatches u engine g query caseSensitive useRegex).Pairwise SearchMatch.StartsBefore ↔
      ∀ absRow row, absRow < g.totalLines → g.absoluteRow absRow = some row →
        StartsApart (extractRowText row).1 (extractRowText row).2
          (rowSpans u engine (extractRowText row).1 query caseSensitive useRegex) := by
  rw [findMatches_pairwise fun m n h => .inl h]
  refine forall₂_congr fun absRow row => forall₂_congr fun _ _ => pairwise_cols_iff fun a b ha hb hab _ => ?_
  rw [← startCol_lt_iff (length_colMap row) (colMap_sorted row) ha hb hab]
  refine forall₂_congr fun x _ => forall₂_congr fun y _ => ?_
  exact ⟨fun h => (h.resolve_left (Nat.lt_irrefl _)).2, fun h => .inr ⟨rfl, h⟩⟩

/-- Matches are on single rows. -/
theorem findMatches_single {g : Grid} {m : SearchMatch}
    (hm : m ∈ findMatches u engine g query caseSensitive useRegex) : m.endRow = m.startRow := by
  unfold findMatches at hm
  by_cases hq : query = []
  · rw [if_pos hq] at hm
    exact absurd hm not_mem_nil
  · rw [if_neg hq] at hm
    obtain ⟨absRow, -, hm⟩ := mem_flatMap.mp hm
    cases hrow : g.absoluteRow absRow with
    | none =>
      rw [hrow] at hm
      exact absurd hm not_mem_nil
    | some row =>
      rw [hrow] at hm
      obtain ⟨hstart, hend⟩ := findRowMatches_row hm hq
      exact hend.trans hstart.symm

/-- The matches of one row end in order. -/
theorem findMatches_ends (g : Grid) (query : List Char) (caseSensitive useRegex : Bool) :
    (findMatches u engine g query caseSensitive useRegex).Pairwise
      fun m n => m.startRow = n.startRow → m.endCol ≤ n.endCol := by
  rw [findMatches_pairwise fun m n h heq => absurd heq (Nat.ne_of_lt h)]
  intro absRow row _ _
  refine (pairwise_cols_iff fun a b ha hb _ hab => iff_of_true (fun x hx y hy _ => ?_) trivial).mpr
    (pairwise_of_forall fun _ _ => trivial)
  exact endCol_le (length_colMap row) (colMap_sorted row) ha hb hab hx hy

end Spans

/-- **Order and classification.** The matches of a plain or regular-expression search are strictly ordered, and every
cell is classified rightly, exactly when in every row later matches start in other columns (and none past the row's last
character but the first), and the match after the focused one starts beyond its last column. -/
theorem search_cells (u : CaseData) (engine : RegexEngine) (g : Grid) (query : List Char)
    (caseSensitive useRegex : Bool) (title : String) (focused : Nat) :
    let s : SearchState := ⟨title, findMatches u engine g query caseSensitive useRegex, focused⟩
    (s.matchList.Pairwise SearchMatch.StartsBefore ∧ s.Classified) ↔
      (∀ absRow row, absRow < g.totalLines → g.absoluteRow absRow = some row →
        StartsApart (extractRowText row).1 (extractRowText row).2
          (rowSpans u engine (extractRowText row).1 query caseSensitive useRegex)) ∧ s.FocusApart := by
  intro s
  rw [← startsBefore_iff]
  refine and_congr_right fun hstart => ?_
  exact classified_iff (fun m hm => findMatches_single hm) hstart
    (findMatches_ends g query caseSensitive useRegex)

/-- In `aaa` the query `aa` is found twice; the second column is in both, and is not shown as focused. -/
theorem overlap_hides_focus :
    ¬ ∀ (g : Grid) (query : List Char) (caseSensitive useRegex : Bool) (title : String) (focused : Nat),
      let s : SearchState := ⟨title, findMatches sampleCases noEngine g query caseSensitive useRegex, focused⟩
      s.matchList.Pairwise SearchMatch.StartsBefore ∧ s.Classified := by
  intro h
  have hfound : findMatches sampleCases noEngine (oneRow ['a', 'a', 'a']) ['a', 'a'] true false =
      [⟨0, 0, 0, 1⟩, ⟨0, 1, 0, 2⟩] := by decide +kernel
  have hclass := (h (oneRow ['a', 'a', 'a']) ['a', 'a'] true false "" 0).2 0 1
  rw [hfound] at hclass
  have hfocused := hclass.1.mpr ⟨⟨0, 0, 0, 1⟩, rfl, rfl, by decide, by decide⟩
  have hmatched : (⟨"", [⟨0, 0, 0, 1⟩, ⟨0, 1, 0, 2⟩], 0⟩ : SearchState).cellMatchType 0 1 = .matched := by
    decide +kernel
  rw [hmatched] at hfocused
  exact nomatch hfocused

/-- Two marks on one cell are two matches with one start. -/
example :
    let mark := Char.ofNat 0x301
    let g := Lib.run GridOp.apply (oneRow ['e', 'x']) [.edit (.moveTo 0 1), .edit (.pushZerowidth mark),
      .edit (.pushZerowidth mark)]
    findMatches sampleCases noEngine g [mark] true false = [⟨0, 0, 0, 0⟩, ⟨0, 0, 0, 0⟩] := by
  decide +kernel

end OriTerm
