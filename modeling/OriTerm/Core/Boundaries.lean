import OriTerm.Core.Grid

/-!
# `Core.Boundaries` — words and soft-wrapped lines of a selection

A double click selects the characters of one class around a column, a triple click the rows joined by the WRAP flag. Both
walk from the click in both directions, and both find the run that it is in.
-/

namespace OriTerm

open CellFlags

/-! ## Runs -/

section

-- Whether a place is joined to the next one.
variable (joined : Nat → Bool)

/-- The places from `lo` to `hi` are joined, each to the next, and neither end is joined further. -/
structure IsRun (lo hi : Nat) : Prop where
  inside : ∀ k, lo ≤ k → k < hi → joined k = true
  before : ∀ k, k + 1 = lo → joined k = false
  after : joined hi = false

/-- Walks backwards while the place before is joined. -/
def walkBack : Nat → Nat
  | 0 => 0
  | prev + 1 => if joined prev then walkBack prev else prev + 1

/-- Walks forwards while the place is joined, as many steps as there are. -/
def walkOn : Nat → Nat → Nat
  | 0, current => current
  | rest + 1, current => if joined current then walkOn rest (current + 1) else current

variable {joined}

theorem walkBack_spec (k : Nat) : walkBack joined k ≤ k ∧
    (∀ j, walkBack joined k ≤ j → j < k → joined j = true) ∧ ∀ j, j + 1 = walkBack joined k → joined j = false := by
  induction k with
  | zero => simp [walkBack]
  | succ prev ih =>
    obtain ⟨hle, hinside, hbefore⟩ := ih
    unfold walkBack
    split_ifs with h
    · refine ⟨by omega, fun j hj hlt => ?_, hbefore⟩
      by_cases heq : j = prev
      · rwa [heq]
      · exact hinside j hj (by omega)
    · exact ⟨le_rfl, fun j hj hlt => absurd hlt (by omega), fun j hj => by simpa [Nat.succ.inj hj] using h⟩

theorem walkOn_spec (rest k : Nat) (hlast : joined (k + rest) = false) : (k ≤ walkOn joined rest k ∧
    walkOn joined rest k ≤ k + rest) ∧ (∀ j, k ≤ j → j < walkOn joined rest k → joined j = true) ∧
      joined (walkOn joined rest k) = false := by
  induction rest generalizing k with
  | zero => exact ⟨by simp [walkOn], fun j hj hlt => absurd hlt (by simp [walkOn]; omega), hlast⟩
  | succ rest ih =>
    unfold walkOn
    split_ifs with h
    · obtain ⟨hle, hinside, hafter⟩ := ih (k + 1) (by rwa [Nat.add_right_comm])
      refine ⟨by omega, fun j hj hlt => ?_, hafter⟩
      by_cases heq : j = k
      · rwa [heq]
      · exact hinside j (by omega) hlt
    · exact ⟨by omega, fun j hj hlt => absurd hlt (by omega), by simpa using h⟩

/-- Where the walks from a place end, when nothing is joined from place `n` on. -/
def runAt (joined : Nat → Bool) (n k : Nat) : Nat × Nat := (walkBack joined k, walkOn joined (n - k) k)

variable {n : Nat} (hn : ∀ k, n ≤ k → joined k = false)

include hn

/-- Joined places have the same run. -/
theorem runAt_succ {k : Nat} (h : joined k = true) : runAt joined n (k + 1) = runAt joined n k := by
  have hk : k < n := by
    by_contra hge
    simp [hn k (by omega)] at h
  rw [runAt, runAt, walkBack, if_pos h, (by omega : n - k = n - (k + 1) + 1), walkOn, if_pos h]

/-- The walks from a place find its run, and from every place of the run the same one. -/
theorem runAt_spec (k : Nat) :
    ((runAt joined n k).1 ≤ k ∧ k ≤ (runAt joined n k).2 ∧ (runAt joined n k).2 ≤ max n k) ∧
      IsRun joined (runAt joined n k).1 (runAt joined n k).2 ∧
      ∀ j, (runAt joined n k).1 ≤ j → j ≤ (runAt joined n k).2 → runAt joined n j = runAt joined n k := by
  obtain ⟨hle, hin, hbefore⟩ := @walkBack_spec joined k
  obtain ⟨⟨hge, hmax⟩, hin', hafter⟩ := walkOn_spec (n - k) k (hn _ (by omega))
  have hrun : IsRun joined (walkBack joined k) (walkOn joined (n - k) k) :=
    ⟨fun j hj hlt => (lt_or_ge j k).elim (hin j hj) (hin' j · hlt), hbefore, hafter⟩
  have hfirst : ∀ j, walkBack joined k ≤ j → j ≤ walkOn joined (n - k) k →
      runAt joined n j = runAt joined n (walkBack joined k) := by
    intro j hj
    induction j, hj using Nat.le_induction with
    | base => exact fun _ => rfl
    | succ j hj ih => exact fun hhi => (runAt_succ hn (hrun.inside j hj hhi)).trans (ih (by omega))
  exact ⟨⟨hle, hge, by show walkOn joined (n - k) k ≤ _; omega⟩, hrun,
    fun j hlo hhi => (hfirst j hlo hhi).trans (hfirst k hle hge).symm⟩

end

namespace Grid

variable (g : Grid)

/-! ## Lines -/

/-- The row exists and continues onto the next one. -/
def continues (absRow : Nat) : Bool := (g.absoluteRow absRow).any fun row => (row.get (row.cols - 1)).has wrap

/-- The first row of the logical line. -/
def logicalLineStart (absRow : Nat) : Nat := walkBack g.continues absRow

/-- The last row of the logical line; there is no row to walk over past the last one. -/
def logicalLineEnd (absRow : Nat) : Nat := walkOn g.continues (g.scrollback.len + g.rows.length - absRow) absRow

/-- **The line around a row is the maximal run of rows joined by WRAP**, and every row of it has the same line: lines
    partition the rows. Where all rows that follow are wrapped, the last one too, the end is one past the last row. -/
theorem logicalLine_partition (r : Nat) :
    (g.logicalLineStart r ≤ r ∧ r ≤ g.logicalLineEnd r ∧ g.logicalLineEnd r ≤ max (g.scrollback.len + g.rows.length) r) ∧
      IsRun g.continues (g.logicalLineStart r) (g.logicalLineEnd r) ∧
      (∀ k, g.logicalLineStart r ≤ k → k ≤ g.logicalLineEnd r →
        (g.logicalLineStart k, g.logicalLineEnd k) = (g.logicalLineStart r, g.logicalLineEnd r)) ∧
      (g.logicalLineEnd r < g.scrollback.len + g.rows.length ↔
        ∃ k, r ≤ k ∧ k < g.scrollback.len + g.rows.length ∧ g.continues k = false) := by
  have hn : ∀ k, g.scrollback.len + g.rows.length ≤ k → g.continues k = false := by
    intro k hk
    unfold continues absoluteRow
    rw [if_neg (by omega), List.getElem?_eq_none (by omega)]
    rfl
  obtain ⟨⟨hle, hge, hmax⟩, hrun, hsame⟩ := runAt_spec hn r
  refine ⟨⟨hle, hge, hmax⟩, hrun, hsame, fun hlt => ⟨_, hge, hlt, hrun.after⟩, ?_⟩
  rintro ⟨k, hk, hlt, hnone⟩
  by_contra hend
  simp [hrun.inside k (hle.trans hk) (hlt.trans_le (not_lt.1 hend))] at hnone

/-! ## Words -/

/-- 0 for word characters, 1 for whitespace, 2 for other delimiters. -/
def delimiterClass (c : Char) (wordDelimiters : List Char) : Nat :=
  if c = '\x00' then 1
  else if c = ' ' ∨ c = '\t' then 1
  else if c ∈ wordDelimiters then 2
  else 0

section Row

variable (row : Row) (wordDelimiters : List Char)

def isSpacer (col : Nat) : Bool := (row.get col).has wideCharSpacer

def classAt (col : Nat) : Nat := delimiterClass (row.get col).ch wordDelimiters

/-- The scan to the left: over a spacer it looks at the base cell before it. -/
def scanLeft (cls : Nat) : Nat → Nat
  | 0 => 0
  | 1 => if classAt row wordDelimiters 0 = cls then 0 else 1
  | base + 2 =>
    if isSpacer row (base + 1) then
      if classAt row wordDelimiters base = cls then scanLeft cls base else base + 2
    else if classAt row wordDelimiters (base + 1) = cls then scanLeft cls (base + 1)
    else base + 2

/-- The scan to the right over the `rest` columns after `stop`: a spacer belongs to what is before it. -/
def scanRight (cls : Nat) : Nat → Nat → Nat
  | 0, stop => stop
  | rest + 1, stop =>
    if isSpacer row (stop + 1) then scanRight cls rest (stop + 1)
    else if classAt row wordDelimiters (stop + 1) = cls then scanRight cls rest (stop + 1)
    else stop

/-- The base cell of a column. -/
def clickCol (col : Nat) : Nat := if isSpacer row col ∧ col > 0 then col - 1 else col

/-- A column and the next one show characters of one class. -/
def sameWord (col : Nat) : Bool :=
  decide (col + 1 < row.cols) &&
    classAt row wordDelimiters (clickCol row col) == classAt row wordDelimiters (clickCol row (col + 1))

end Row

/-- The first and the last column of the word at a column. -/
def wordBoundaries (absRow col : Nat) (wordDelimiters : List Char) : Nat × Nat :=
  match g.absoluteRow absRow with
  | none => (col, col)
  | some row =>
    if row.cols = 0 ∨ col ≥ row.cols then (col, col)
    else
      let click := clickCol row col
      let cls := classAt row wordDelimiters click
      (scanLeft row wordDelimiters cls click, scanRight row wordDelimiters cls (row.cols - 1 - click) click)

/-- Every spacer stands behind a cell that is none. -/
def SpacersFollow (row : Row) : Prop := ∀ k, isSpacer row k = true → 0 < k ∧ isSpacer row (k - 1) = false

variable {row : Row} {wordDelimiters : List Char} (hrow : SpacersFollow row)

include hrow

/-- From a base cell the scan to the left walks over its word. -/
theorem scanLeft_eq {cls c : Nat} (hc : isSpacer row c = false) (hcls : classAt row wordDelimiters c = cls)
    (hlt : c < row.cols) : scanLeft row wordDelimiters cls c = walkBack (sameWord row wordDelimiters) c := by
  fun_induction scanLeft row wordDelimiters cls c with
  | case1 => rfl
  | case2 h | case3 h | case5 base hsp h | case7 base hsp h => simp_all [walkBack, sameWord, clickCol]
  | case4 base hsp h ih =>
    have hbase : isSpacer row base = false := (hrow _ hsp).2
    have hbase_lt : base + 1 < row.cols := by omega
    simp_all [walkBack, sameWord, clickCol, ih hbase h (by omega)]
  | case6 base hsp h ih =>
    rw [ih (by simpa using hsp) h (by omega), walkBack.eq_def _ (base + 2)]
    simp_all [sameWord, clickCol]

theorem scanRight_eq {cls rest stop : Nat} (hcls : classAt row wordDelimiters (clickCol row stop) = cls)
    (hrest : stop + rest < row.cols) :
    scanRight row wordDelimiters cls rest stop = walkOn (sameWord row wordDelimiters) rest stop := by
  induction rest generalizing stop with
  | zero => rfl
  | succ rest ih =>
    have hlt : stop + 1 < row.cols := by omega
    unfold scanRight walkOn
    cases hsp : isSpacer row (stop + 1) with
    | true =>
      have hbase : isSpacer row stop = false := (hrow _ hsp).2
      simp_all [sameWord, clickCol, @ih (stop + 1) (by simp_all [clickCol]) (by omega)]
    | false =>
      by_cases h : classAt row wordDelimiters (stop + 1) = cls
      · simp_all [sameWord, clickCol, @ih (stop + 1) (by simp_all [clickCol]) (by omega)]
      · simp_all [sameWord, clickCol, Ne.symm h]

end Grid

end OriTerm
