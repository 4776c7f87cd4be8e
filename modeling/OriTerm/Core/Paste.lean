import OriTerm.Lib.Utf8

/-!
# `Core.Paste` — what reaches the terminal from the clipboard

`preparePaste` filters the text, turns line endings into CR, and in bracketed mode takes out ESC and frames the rest. The
number of CRs is that of the newlines of the text unless the filter takes the tabs out of a CR, tabs, LF, which then is one
newline; and only the 7-bit introducer loses its first byte: U+009B passes.

**`pasteSafe_iff`**: the frame holds exactly where neither is in the text.
-/

namespace OriTerm.Paste

open List

variable (text : List Char) (filter : Bool) {ch : Char}

variable {x : Char}

/-- ESC. -/
def esc : Char := Char.ofNat 0x1B

/-- The C1 control sequence introducer. -/
def csi : Char := Char.ofNat 0x9B

/-- The bytes of a `str`. -/
def encode : List UInt8 := text.flatMap String.utf8EncodeChar

/-- `BRACKET_START`. -/
def bracketStart : List UInt8 := encode (esc :: "[200~".toList)

/-- `BRACKET_END`. -/
def bracketEnd : List UInt8 := encode (esc :: "[201~".toList)

/-- What `filter_paste` pushes for a character. -/
def filterChar (ch : Char) : List Char :=
  if ch = '\t' then []
  else if ch = Char.ofNat 0xA0 ∨ ch = Char.ofNat 0x202F then [' ']
  else if ch = Char.ofNat 0x201C ∨ ch = Char.ofNat 0x201D then ['"']
  else if ch = Char.ofNat 0x2018 ∨ ch = Char.ofNat 0x2019 then [Char.ofNat 0x27]
  else if ch = Char.ofNat 0x2014 then ['-', '-']
  else if ch = Char.ofNat 0x2013 then ['-']
  else [ch]

/-- `filter_paste`. -/
def filterPaste : List Char := text.flatMap filterChar

/-- `normalize_line_endings`. -/
def normalizeLineEndings : List Char → List Char
  | [] => []
  | [ch] => if ch = '\r' then ['\r'] else if ch = '\n' then ['\r'] else [ch]
  | ch :: peek :: chars =>
    if ch = '\r' then
      if peek = '\n' then '\r' :: normalizeLineEndings chars else '\r' :: normalizeLineEndings (peek :: chars)
    else if ch = '\n' then '\r' :: normalizeLineEndings (peek :: chars)
    else ch :: normalizeLineEndings (peek :: chars)

/-- `strip_escape_chars`. -/
def stripEscapeChars : List Char := text.filter (· ≠ esc)

/-- `count_newlines`, over the bytes of the text. -/
def countNewlines : List UInt8 → Nat
  | [] => 0
  | [b] => if b = 13 ∨ b = 10 then 1 else 0
  | b :: next :: bytes =>
    if b = 13 ∧ next = 10 then countNewlines bytes + 1
    else if b = 13 ∨ b = 10 then countNewlines (next :: bytes) + 1
    else countNewlines (next :: bytes)

/-- The first two steps of `prepare_paste`. -/
def normalized : List Char :=
  normalizeLineEndings (if filter then filterPaste text else text)

/-- `prepare_paste`. -/
def preparePaste (bracketed filter : Bool) : List UInt8 :=
  if bracketed then bracketStart ++ encode (stripEscapeChars (normalized text filter)) ++ bracketEnd
  else encode (normalized text filter)

/-! ## Newlines -/

/-- The newlines of a text, given whether a CR is in front of it. -/
def newlines {α : Type} [DecidableEq α] (cr lf : α) : Bool → List α → Nat
  | _, [] => 0
  | afterCr, ch :: rest =>
    (if ch = cr ∨ (ch = lf ∧ afterCr = false) then 1 else 0) + newlines cr lf (decide (ch = cr)) rest

section

variable {α : Type} [DecidableEq α] {cr lf : α}

/-- What is no line ending ends the effect of a CR. -/
theorem newlines_append (afterCr : Bool) {l : List α} (hl : l ≠ []) (h : ∀ x ∈ l, x ≠ cr ∧ x ≠ lf) (rest : List α) :
    newlines cr lf afterCr (l ++ rest) = newlines cr lf false rest := by
  induction l generalizing afterCr with
  | nil => exact absurd rfl hl
  | cons x l ih =>
    obtain ⟨⟨hcr, hlf⟩, hrest⟩ := List.forall_mem_cons.mp h
    rw [List.cons_append, newlines, if_neg (by simp [hcr, hlf]), decide_eq_false hcr, Nat.zero_add]
    cases l with
    | nil => rfl
    | cons y l => exact ih false (List.cons_ne_nil _ _) hrest

end

theorem countNewlines_eq (bytes : List UInt8) : countNewlines bytes = newlines 13 10 false bytes := by
  fun_induction countNewlines bytes with
  | case1 => rfl
  | case2 b h => simp [newlines, h]
  | case3 b h => simp [newlines, h]
  | case4 b next bytes h ih =>
    obtain ⟨rfl, rfl⟩ := h
    simp [newlines, ih, Nat.add_comm]
  | case5 b next bytes hpair h ih =>
    rcases h with rfl | rfl <;> simp_all [newlines, Nat.add_comm]
  | case6 b next bytes hpair h ih => simp_all [newlines]

theorem count_normalize : (normalizeLineEndings text).count '\r' = newlines '\r' '\n' false text := by
  fun_induction normalizeLineEndings text with
  | case1 => rfl
  | case2 => rfl
  | case3 => rfl
  | case4 ch hcr hlf => simp [newlines, hcr, hlf]
  | case5 chars ih => simp [newlines, ih, Nat.add_comm]
  | case6 peek chars hpeek ih => simp [newlines, ih, hpeek, Nat.add_comm]
  | case7 peek chars hcr ih => simp_all [newlines, Nat.add_comm]
  | case8 ch peek chars hcr hlf ih => simp_all [newlines]

/-- **No byte of another character is a line ending.** -/
theorem byte_of_char (hcr : ch ≠ '\r') (hlf : ch ≠ '\n') : ∀ b ∈ String.utf8EncodeChar ch, b ≠ 13 ∧ b ≠ 10 := by
  intro b hb
  refine ⟨fun h => hcr ?_, fun h => hlf ?_⟩
  · subst h
    exact Char.ext (UInt32.toNat_inj.mp (Lib.Utf8.toNat_eq_of_mem hb (by decide)))
  · subst h
    exact Char.ext (UInt32.toNat_inj.mp (Lib.Utf8.toNat_eq_of_mem hb (by decide)))

theorem newlines_encode (afterCr : Bool) (text : List Char) :
    newlines 13 10 afterCr (encode text) = newlines '\r' '\n' afterCr text := by
  induction text generalizing afterCr with
  | nil => rfl
  | cons ch text ih =>
    show newlines 13 10 afterCr (String.utf8EncodeChar ch ++ encode text) = _
    by_cases hcr : ch = '\r'
    · subst hcr
      show (if (13 : UInt8) = 13 ∨ _ then 1 else 0) + newlines 13 10 true (encode text) = _
      rw [ih]
      rfl
    · by_cases hlf : ch = '\n'
      · subst hlf
        show (if (10 : UInt8) = 13 ∨ (10 : UInt8) = 10 ∧ _ then 1 else 0) + newlines 13 10 false (encode text) = _
        rw [ih]
        cases afterCr <;> rfl
      · have hne : String.utf8EncodeChar ch ≠ [] := by
          intro h
          exact absurd (congrArg List.length h) (by simp [ch.utf8Size_pos.ne'])
        rw [newlines_append afterCr hne (byte_of_char hcr hlf), ih]
        exact (newlines_append afterCr (l := [ch]) (by simp) (by simp [hcr, hlf]) text).symm

/-! ## The filter -/

/-- **What the filter pushes** is the character, or one of four that it keeps. -/
theorem filterChar_cases (h : x ∈ filterChar ch) :
    (x = ch ∧ filterChar ch = [ch]) ∨ x ∈ [' ', '"', Char.ofNat 0x27, '-'] := by
  unfold filterChar at h ⊢
  split_ifs at h ⊢
  · cases h
  · exact .inr (by simp_all)
  · exact .inr (by simp_all)
  · exact .inr (by simp_all)
  · exact .inr (by simp_all)
  · exact .inr (by simp_all)
  · exact .inl ⟨mem_singleton.mp h, rfl⟩

theorem filterChar_filtered (h : x ∈ filterChar ch) : filterChar x = [x] := by
  rcases filterChar_cases h with ⟨rfl, hx⟩ | hx
  · exact hx
  · simp only [List.mem_cons, List.not_mem_nil, or_false] at hx
    rcases hx with rfl | rfl | rfl | rfl <;> decide

theorem filterPaste_fixed {text : List Char} (h : ∀ x ∈ text, filterChar x = [x]) : filterPaste text = text := by
  induction text with
  | nil => rfl
  | cons ch text ih =>
    obtain ⟨hch, htext⟩ := forall_mem_cons.mp h
    show filterChar ch ++ filterPaste text = _
    rw [hch, ih htext]
    rfl

/-- A line ending is not filtered, and nothing else becomes one. -/
theorem filterChar_ne (hcr : ch ≠ '\r') (hlf : ch ≠ '\n') (hx : x ∈ filterChar ch) :
    x ≠ '\r' ∧ x ≠ '\n' := by
  rcases filterChar_cases hx with ⟨rfl, -⟩ | hmem
  · exact ⟨hcr, hlf⟩
  · simp only [mem_cons, not_mem_nil, or_false] at hmem
    rcases hmem with rfl | rfl | rfl | rfl <;> decide

theorem filterChar_ne_nil (h : ch ≠ '\t') : filterChar ch ≠ [] := by
  unfold filterChar
  rw [if_neg h]
  split_ifs <;> exact cons_ne_nil _ _

/-- The newlines that the filter takes away: an LF after a CR and tabs. `tabs` is whether tabs follow the CR. -/
def merged : Bool → Bool → List Char → Nat
  | _, _, [] => 0
  | cr, tabs, ch :: rest =>
    if ch = '\t' then merged cr true rest
    else (if ch = '\n' ∧ cr = true ∧ tabs = true then 1 else 0) + merged (decide (ch = '\r')) false rest

/-- **The filter merges CR, tabs, LF into one newline** and keeps every other. -/
theorem newlines_filterPaste (cr tabs : Bool) (text : List Char) :
    newlines '\r' '\n' cr (filterPaste text) + merged cr tabs text = newlines '\r' '\n' (cr && !tabs) text := by
  induction text generalizing cr tabs with
  | nil => rfl
  | cons ch text ih =>
    show newlines _ _ cr (filterChar ch ++ filterPaste text) + _ = _
    unfold merged
    by_cases htab : ch = '\t'
    · subst htab
      show newlines _ _ cr (filterPaste text) + merged cr true text = 0 + newlines _ _ false text
      rw [ih, Nat.zero_add, Bool.not_true, Bool.and_false]
    · rw [if_neg htab]
      by_cases hcr : ch = '\r'
      · subst hcr
        show 1 + newlines _ _ true (filterPaste text) + (0 + merged true false text) = 1 + newlines _ _ true text
        rw [Nat.zero_add, Nat.add_assoc, ih]
        rfl
      · have hnext := ih false false
        rw [decide_eq_false hcr]
        by_cases hlf : ch = '\n'
        · subst hlf
          show _ + newlines _ _ false (filterPaste text) + _ = _ + newlines _ _ false text
          cases cr <;> cases tabs <;> simp_all <;> omega
        · rw [newlines_append cr (filterChar_ne_nil htab) (fun _ => filterChar_ne hcr hlf), if_neg (fun h => hlf h.1), Nat.zero_add,
            hnext]
          exact (newlines_append _ (l := [ch]) (by simp) (by simp [hcr, hlf]) text).symm

/-- CR, one or more tabs, LF. -/
def TabbedCrLf : Prop :=
  ∃ pre n post, text = pre ++ '\r' :: (List.replicate (n + 1) '\t' ++ '\n' :: post)

/-- The rest of one whose CR has been read: more tabs, and the LF. -/
def TabsLf (tabs : Bool) (text : List Char) : Prop :=
  ∃ n post, text = List.replicate n '\t' ++ '\n' :: post ∧ (tabs = true ∨ 0 < n)

theorem tabbedCrLf_cons {text : List Char} :
    TabbedCrLf (ch :: text) ↔ (ch = '\r' ∧ TabsLf false text) ∨ TabbedCrLf text := by
  constructor
  · rintro ⟨pre, n, post, h⟩
    cases pre with
    | nil =>
      obtain ⟨rfl, rfl⟩ := List.cons.inj h
      exact .inl ⟨rfl, n + 1, post, rfl, .inr n.succ_pos⟩
    | cons x pre =>
      obtain ⟨rfl, rfl⟩ := List.cons.inj h
      exact .inr ⟨pre, n, post, rfl⟩
  · rintro (⟨rfl, n, post, rfl, hn⟩ | ⟨pre, n, post, rfl⟩)
    · obtain ⟨m, rfl⟩ := Nat.exists_eq_add_one.mpr (hn.resolve_left Bool.false_ne_true)
      exact ⟨[], m, post, rfl⟩
    · exact ⟨ch :: pre, n, post, rfl⟩

theorem tabsLf_tab {tabs : Bool} {text : List Char} : TabsLf tabs ('\t' :: text) ↔ TabsLf true text := by
  constructor
  · rintro ⟨n, post, h, -⟩
    cases n with
    | zero => exact absurd (List.cons.inj h).1 (by decide)
    | succ n => exact ⟨n, post, (List.cons.inj h).2, .inl rfl⟩
  · rintro ⟨n, post, rfl, -⟩
    exact ⟨n + 1, post, rfl, .inr n.succ_pos⟩

theorem tabsLf_cons {tabs : Bool} (h : ch ≠ '\t') {text : List Char} :
    TabsLf tabs (ch :: text) ↔ ch = '\n' ∧ tabs = true := by
  constructor
  · rintro ⟨n, post, heq, hn⟩
    cases n with
    | zero => exact ⟨(List.cons.inj heq).1, hn.resolve_right (lt_irrefl 0)⟩
    | succ n => exact absurd (List.cons.inj heq).1 h
  · rintro ⟨rfl, rfl⟩
    exact ⟨0, text, rfl, .inl rfl⟩

theorem merged_eq_zero (cr tabs : Bool) (text : List Char) :
    merged cr tabs text = 0 ↔ ¬ ((cr = true ∧ TabsLf tabs text) ∨ TabbedCrLf text) := by
  induction text generalizing cr tabs with
  | nil =>
    refine iff_of_true rfl ?_
    rintro (⟨-, n, post, h, -⟩ | ⟨pre, n, post, h⟩)
    · exact absurd h.symm (by simp)
    · exact absurd h.symm (by simp)
  | cons ch text ih =>
    unfold merged
    rw [tabbedCrLf_cons]
    by_cases htab : ch = '\t'
    · subst htab
      rw [if_pos rfl, ih, tabsLf_tab]
      simp
    · rw [if_neg htab, Nat.add_eq_zero_iff, ih, tabsLf_cons htab]
      simp only [decide_eq_true_eq]
      split_ifs <;> tauto

/-! ## Bracketed paste -/

/-- Line endings apart, the normalization keeps the characters. -/
theorem mem_normalize {text : List Char} (hcr : x ≠ '\r') (hlf : x ≠ '\n') :
    x ∈ normalizeLineEndings text ↔ x ∈ text := by
  fun_induction normalizeLineEndings text <;> simp_all

theorem lf_not_mem_normalize : '\n' ∉ normalizeLineEndings text := by
  fun_induction normalizeLineEndings text <;> simp_all [eq_comm]

theorem normalize_fixed {text : List Char} (h : '\n' ∉ text) : normalizeLineEndings text = text := by
  fun_induction normalizeLineEndings text <;> simp_all

/-- The body of a bracketed paste. -/
def body : List Char := stripEscapeChars (normalized text filter)

/-- **A paste that cannot be escaped.** -/
structure PasteSafe (text : List Char) (filter : Bool) : Prop where
  framed : preparePaste text true filter = bracketStart ++ encode (body text filter) ++ bracketEnd
  noEscape : ¬ [esc, '['] <:+: body text filter
  noCsi : csi ∉ body text filter
  noLf : '\n' ∉ body text filter
  newlines : (body text filter).count '\r' = countNewlines (encode text)
  filterFixed : filterPaste (filterPaste text) = filterPaste text
  normalizeFixed : normalizeLineEndings (normalizeLineEndings text) = normalizeLineEndings text
  fixed : normalized (normalized text filter) filter = normalized text filter

theorem csi_mem_body : csi ∈ body text filter ↔ csi ∈ text := by
  unfold body stripEscapeChars normalized
  rw [mem_filter, mem_normalize (by decide) (by decide)]
  cases filter with
  | false => exact and_iff_left (by decide)
  | true =>
    rw [if_pos rfl, filterPaste, mem_flatMap, and_iff_left (by decide)]
    constructor
    · rintro ⟨ch, hch, hx⟩
      rcases filterChar_cases hx with ⟨rfl, -⟩ | hmem
      · exact hch
      · exact absurd hmem (by decide)
    · exact fun h => ⟨csi, h, by decide⟩

theorem count_body :
    (body text filter).count '\r' = newlines '\r' '\n' false (if filter then filterPaste text else text) := by
  unfold body stripEscapeChars
  rw [count_filter (by decide), normalized, count_normalize]

theorem count_body_iff :
    (body text filter).count '\r' = countNewlines (encode text) ↔ (filter = true → ¬ TabbedCrLf text) := by
  rw [count_body, countNewlines_eq, newlines_encode]
  cases filter with
  | false => simp
  | true =>
    have hmerged := newlines_filterPaste false false text
    have hzero := merged_eq_zero false false text
    simp only [Bool.false_eq_true, false_and, false_or] at hzero
    rw [if_pos rfl, forall_prop_of_true rfl, ← hzero]
    rw [Bool.false_and] at hmerged
    omega

theorem normalized_fixed : normalized (normalized text filter) filter = normalized text filter := by
  have hlf : '\n' ∉ normalized text filter := lf_not_mem_normalize _
  cases filter with
  | false => exact normalize_fixed hlf
  | true =>
    have hfixed : filterPaste (normalized text true) = normalized text true := by
      refine filterPaste_fixed fun x hx => ?_
      by_cases hcr : x = '\r'
      · rw [hcr]
        rfl
      · have hx' := (mem_normalize hcr (fun h => hlf (h ▸ hx))).mp hx
        obtain ⟨ch, -, hch⟩ := mem_flatMap.mp hx'
        exact filterChar_filtered hch
    show normalizeLineEndings (filterPaste (normalized text true)) = _
    rw [hfixed]
    exact normalize_fixed hlf

/-- **A bracketed paste cannot be escaped, and has its newlines**, exactly where the text has no C1 introducer and, with the
filter on, no CR, tabs, LF. -/
theorem pasteSafe_iff : PasteSafe text filter ↔ csi ∉ text ∧ (filter = true → ¬ TabbedCrLf text) := by
  rw [← count_body_iff, ← csi_mem_body text filter]
  constructor
  · exact fun h => ⟨h.noCsi, h.newlines⟩
  · rintro ⟨hcsi, hcount⟩
    refine ⟨rfl, ?_, hcsi, ?_, hcount, ?_, ?_, normalized_fixed text filter⟩
    · intro h
      have hesc := (mem_filter.mp (h.subset mem_cons_self)).2
      exact absurd hesc (by decide)
    · exact fun h => lf_not_mem_normalize _ (mem_filter.mp h).1
    · refine filterPaste_fixed fun x hx => ?_
      obtain ⟨ch, -, hch⟩ := mem_flatMap.mp hx
      exact filterChar_filtered hch
    · exact normalize_fixed (lf_not_mem_normalize text)

/-- U+009B goes through, and what follows it ends the paste. -/
theorem csi_escapes : ¬ ∀ text filter, PasteSafe text filter := by
  intro h
  have hmem := (csi_mem_body (csi :: "201~".toList) false).mpr mem_cons_self
  exact (h (csi :: "201~".toList) false).noCsi hmem

end OriTerm.Paste
