import OriTerm.Lib.Occurrences

/-!
# `Lib.Lowercase` — lower-casing a string

A string is lower-cased character by character by the tables of Unicode, which are a parameter here. A character may
become several, of other sizes. Only the capital sigma depends on its neighbours: at the end of a word it becomes `ς`.

* **`segments_slice`** — without a capital sigma, a part of a string is lower-cased as it is within the string.
-/

namespace Lib.Lowercase

open Occurrences List

/-- What the Unicode tables say about the cases of characters. -/
structure CaseData where
  toLower : Char → List Char
  cased : Char → Bool
  caseIgnorable : Char → Bool
  toLower_ne_nil : ∀ c, toLower c ≠ []

variable (u : CaseData)

/-- After the characters that are ignored comes a cased one. -/
def caseIgnorableThenCased (l : List Char) : Bool := (l.dropWhile u.caseIgnorable).head?.any u.cased

/-- The lower case of a character between others; those before it are given backwards. -/
def lowerAt (before after : List Char) (c : Char) : List Char :=
  if c = 'Σ' then
    [if caseIgnorableThenCased u before && !caseIgnorableThenCased u after then 'ς' else 'σ']
  else u.toLower c

/-- What each character of a string becomes. -/
def segments : List Char → List Char → List (List Char)
  | _, [] => []
  | before, c :: cs => lowerAt u before cs c :: segments (c :: before) cs

/-- `str::to_lowercase`. -/
def toLowercase (s : List Char) : List Char := (segments u [] s).flatten

variable {u}

theorem lowerAt_ne_nil (before after : List Char) (c : Char) : lowerAt u before after c ≠ [] := by
  unfold lowerAt
  split
  · exact cons_ne_nil _ _
  · exact u.toLower_ne_nil c

@[simp] theorem length_segments (before s : List Char) : (segments u before s).length = s.length := by
  induction s generalizing before with
  | nil => rfl
  | cons c cs ih => rw [segments, length_cons, ih, length_cons]

theorem segments_ne_nil {before s l : List Char} (h : l ∈ segments u before s) : l ≠ [] := by
  induction s generalizing before with
  | nil => exact absurd h not_mem_nil
  | cons c cs ih =>
    rcases mem_cons.mp h with rfl | h
    · exact lowerAt_ne_nil before cs c
    · exact ih h

theorem toLowercase_ne_nil {s : List Char} (h : s ≠ []) : toLowercase u s ≠ [] := by
  cases s with
  | nil => exact absurd rfl h
  | cons c cs => exact append_ne_nil_of_left_ne_nil (lowerAt_ne_nil [] cs c) _

/-- Without a capital sigma every character stands for itself. -/
theorem segments_eq_map {s : List Char} (hsigma : 'Σ' ∉ s) (before : List Char) :
    segments u before s = s.map u.toLower := by
  induction s generalizing before with
  | nil => rfl
  | cons c cs ih =>
    obtain ⟨hc, hcs⟩ := not_or.mp (mt mem_cons.mpr hsigma)
    rw [segments, ih hcs, map_cons, lowerAt, if_neg (Ne.symm hc)]

/-- **A part of a string is lower-cased as it is within the string**, when there is no capital sigma in it. -/
theorem segments_slice {s : List Char} (hsigma : 'Σ' ∉ s) (i j : Nat) :
    (slice (segments u [] s) i j).flatten = toLowercase u (slice s i j) := by
  have hpart : 'Σ' ∉ slice s i j := fun h => hsigma (mem_of_mem_take (mem_of_mem_drop h))
  rw [toLowercase, segments_eq_map hsigma, segments_eq_map hpart, slice, slice, map_drop, map_take]

end Lib.Lowercase
