import OriTerm.Lib.Run
import OriTerm.Term.SearchText

/-!
# `Ui.TextEditing` — the offsets of a text field are on character boundaries

The cursor and the selection anchor of `TextEditingState` are byte offsets, and `String::insert` and `String::drain` panic
on an offset inside a character: an operation is partial here, `none` standing for the panic.

Every operation finds its offsets by boundaries but `set_cursor` and `set_selection`, which cut a raw offset to the length
of the text only. **`TextEditingOp.sound_run_iff`**: a run stays on boundaries exactly if the offsets it passes are.
-/

namespace OriTerm

open Lib Lib.Occurrences Option

variable (text : List Char)

/-! ## Bytes -/

/-- The text in front of a byte and from it on; `none` if no character begins or ends there. -/
def splitAtByte : List Char → Nat → Option (List Char × List Char)
  | text, 0 => some ([], text)
  | [], _ + 1 => none
  | c :: cs, i + 1 =>
    if c.utf8Size ≤ i + 1 then (splitAtByte cs (i + 1 - c.utf8Size)).map fun parts => (c :: parts.1, parts.2) else none

/-- `str::is_char_boundary`. -/
def isCharBoundary (i : Nat) : Bool := (splitAtByte text i).isSome

/-- `String::insert`. -/
def insertAt (i : Nat) (ch : Char) : Option (List Char) :=
  (splitAtByte text i).map fun parts => parts.1 ++ ch :: parts.2

/-- `String::drain`. -/
def drain (start stop : Nat) : Option (List Char) :=
  if start ≤ stop then
    (splitAtByte text start).bind fun front => (splitAtByte text stop).map fun back => front.1 ++ back.2
  else none

/-- `&text[start..stop]`. -/
def sliceBytes (start stop : Nat) : Option (List Char) :=
  if start ≤ stop then
    (splitAtByte text start).bind fun front => (splitAtByte front.2 (stop - start)).map (·.1)
  else none

theorem splitAtByte_append (p q : List Char) : splitAtByte (p ++ q) (byteLen p) = some (p, q) := by
  induction p with
  | nil => cases q <;> rfl
  | cons c p ih =>
    have hc := c.utf8Size_pos
    obtain ⟨n, hn⟩ : ∃ n, byteLen (c :: p) = n + 1 := ⟨byteLen (c :: p) - 1, by rw [byteLen, weight_cons]; omega⟩
    have hrest : n + 1 - c.utf8Size = byteLen p := by rw [← hn, byteLen, weight_cons, Nat.add_sub_cancel_left]; rfl
    rw [hn, List.cons_append, splitAtByte, if_pos (by rw [← hn, byteLen, weight_cons]; omega), hrest, ih]
    rfl

theorem of_splitAtByte {text p q : List Char} {i : Nat} (h : splitAtByte text i = some (p, q)) :
    text = p ++ q ∧ byteLen p = i := by
  fun_induction splitAtByte text i generalizing p with
  | case1 text =>
    cases h
    exact ⟨rfl, rfl⟩
  | case2 => cases h
  | case3 c cs i hle ih =>
    obtain ⟨⟨p', q'⟩, hrest, heq⟩ := map_eq_some_iff.mp h
    cases heq
    obtain ⟨rfl, hlen⟩ := ih hrest
    refine ⟨rfl, ?_⟩
    show c.utf8Size + byteLen p' = i + 1
    omega
  | case4 => cases h

theorem isCharBoundary_iff {text : List Char} {i : Nat} :
    isCharBoundary text i = true ↔ ∃ p q, text = p ++ q ∧ byteLen p = i := by
  unfold isCharBoundary
  rw [isSome_iff_exists]
  constructor
  · rintro ⟨⟨p, q⟩, h⟩
    exact ⟨p, q, of_splitAtByte h⟩
  · rintro ⟨p, q, rfl, rfl⟩
    exact ⟨(p, q), splitAtByte_append p q⟩

theorem isCharBoundary_append (p q : List Char) : isCharBoundary (p ++ q) (byteLen p) = true :=
  isCharBoundary_iff.mpr ⟨p, q, rfl, rfl⟩

@[simp] theorem isCharBoundary_zero : isCharBoundary text 0 = true := isCharBoundary_append [] text

@[simp] theorem isCharBoundary_byteLen : isCharBoundary text (byteLen text) = true := by
  simpa using isCharBoundary_append text []

theorem le_of_isCharBoundary {text : List Char} {i : Nat} (h : isCharBoundary text i = true) : i ≤ byteLen text := by
  obtain ⟨p, q, rfl, rfl⟩ := isCharBoundary_iff.mp h
  rw [byteLen, byteLen, weight_append]
  exact Nat.le_add_right _ _

section

variable {text : List Char} {start stop : Nat} (hstart : isCharBoundary text start = true)
  (hstop : isCharBoundary text stop = true) (hle : start ≤ stop)
include hstart hstop hle

/-- **Two boundaries** cut the text in three. -/
theorem cut_of_boundaries : ∃ p m q, text = p ++ (m ++ q) ∧ byteLen p = start ∧ byteLen p + byteLen m = stop := by
  obtain ⟨p, q, rfl, rfl⟩ := isCharBoundary_iff.mp hstart
  obtain ⟨p', q', heq, rfl⟩ := isCharBoundary_iff.mp hstop
  rcases List.append_eq_append_iff.mp heq with ⟨m, rfl, rfl⟩ | ⟨m, rfl, rfl⟩
  · exact ⟨p, m, q', rfl, rfl, (weight_append ..).symm⟩
  · have hm : m = [] := by
      by_contra hne
      have hpos := weight_pos Char.utf8Size_pos hne
      rw [byteLen, weight_append] at hle
      unfold byteLen at hle
      omega
    subst hm
    exact ⟨p', [], q, by simp, by simp, rfl⟩

theorem drain_eq : ∃ p q, drain text start stop = some (p ++ q) ∧ byteLen p = start := by
  obtain ⟨p, m, q, rfl, rfl, rfl⟩ := cut_of_boundaries hstart hstop hle
  refine ⟨p, q, ?_, rfl⟩
  have hback := splitAtByte_append (p ++ m) q
  rw [List.append_assoc, byteLen, weight_append] at hback
  rw [drain, if_pos hle, splitAtByte_append, byteLen, byteLen, hback]
  rfl

theorem sliceBytes_isSome : (sliceBytes text start stop).isSome := by
  obtain ⟨p, m, q, rfl, rfl, rfl⟩ := cut_of_boundaries hstart hstop hle
  rw [sliceBytes, if_pos hle, splitAtByte_append, bind_some, Nat.add_sub_cancel_left, splitAtByte_append]
  rfl

end

/-! ## The state -/

/-- `TextEditingState`. -/
structure TextEditingState where
  text : List Char
  cursor : Nat
  selectionAnchor : Option Nat
deriving DecidableEq, Repr

namespace TextEditingState

variable (text : List Char)

/-- `TextEditingState::new`. -/
def new : TextEditingState := ⟨[], 0, none⟩

/-- `TextEditingState::set_text`. -/
def setText (_ : TextEditingState) (text : List Char) : TextEditingState := ⟨text, byteLen text, none⟩

/-- `TextEditingState::selection_range`. -/
def selectionRange (s : TextEditingState) : Option (Nat × Nat) :=
  s.selectionAnchor.map fun anchor => (min anchor s.cursor, max anchor s.cursor)

/-- The loop of `next_char_boundary`, for as many turns as the text has bytes. -/
def nextFrom (text : List Char) : Nat → Nat → Nat
  | 0, idx => idx
  | turns + 1, idx => if idx < byteLen text ∧ isCharBoundary text idx = false then nextFrom text turns (idx + 1) else idx

/-- `TextEditingState::next_char_boundary`. -/
def nextCharBoundary (s : TextEditingState) (pos : Nat) : Nat :=
  min (nextFrom s.text (byteLen s.text) (pos + 1)) (byteLen s.text)

/-- The loop of `prev_char_boundary`. -/
def prevFrom (text : List Char) : Nat → Nat
  | 0 => 0
  | idx + 1 => if isCharBoundary text (idx + 1) = false then prevFrom text idx else idx + 1

/-- `TextEditingState::prev_char_boundary`. -/
def prevCharBoundary (s : TextEditingState) (pos : Nat) : Nat := if pos = 0 then 0 else prevFrom s.text (pos - 1)

/-- `TextEditingState::delete_selection`, and whether text was deleted. -/
def deleteSelection (s : TextEditingState) : Option (Bool × TextEditingState) :=
  match s.selectionRange with
  | some (start, stop) =>
    if start ≠ stop then (drain s.text start stop).map fun text => (true, ⟨text, start, none⟩)
    else some (false, { s with selectionAnchor := none })
  | none => some (false, { s with selectionAnchor := none })

/-- `TextEditingState::insert_char`. -/
def insertChar (s : TextEditingState) (ch : Char) : Option TextEditingState :=
  s.deleteSelection.bind fun (_, s) =>
    (insertAt s.text s.cursor ch).map fun text => { s with text, cursor := s.cursor + ch.utf8Size }

/-- `TextEditingState::backspace`. -/
def backspace (s : TextEditingState) : Option TextEditingState :=
  s.deleteSelection.bind fun (deleted, s) =>
    if deleted then some s
    else if s.cursor > 0 then
      let prev := s.prevCharBoundary s.cursor
      (drain s.text prev s.cursor).map fun text => { s with text, cursor := prev }
    else some s

/-- `TextEditingState::delete`. -/
def delete (s : TextEditingState) : Option TextEditingState :=
  s.deleteSelection.bind fun (deleted, s) =>
    if deleted then some s
    else if s.cursor < byteLen s.text then
      (drain s.text s.cursor (s.nextCharBoundary s.cursor)).map fun text => { s with text }
    else some s

/-- The anchor that a move with shift leaves. -/
def anchored (s : TextEditingState) : Option Nat := s.selectionAnchor.or (some s.cursor)

/-- `TextEditingState::home`. -/
def home (s : TextEditingState) (shift : Bool) : TextEditingState :=
  { s with selectionAnchor := if shift then s.anchored else none, cursor := 0 }

/-- `TextEditingState::end`. -/
def «end» (s : TextEditingState) (shift : Bool) : TextEditingState :=
  { s with selectionAnchor := if shift then s.anchored else none, cursor := byteLen s.text }

/-- `TextEditingState::select_all`. -/
def selectAll (s : TextEditingState) : TextEditingState :=
  if s.text = [] then s else { s with selectionAnchor := some 0, cursor := byteLen s.text }

/-- Where a move without shift goes: to an edge of the selection, or as it would with shift. -/
def collapsed (s : TextEditingState) (edge : Nat × Nat → Nat) (pos : Nat) : Nat :=
  match s.selectionRange with
  | some range => if range.1 ≠ range.2 then edge range else pos
  | none => pos

/-- `TextEditingState::move_left`. -/
def moveLeft (s : TextEditingState) (shift : Bool) : TextEditingState :=
  let prev := s.prevCharBoundary s.cursor
  { s with selectionAnchor := if shift then s.anchored else none
           cursor := if shift then prev else s.collapsed Prod.fst prev }

/-- `TextEditingState::move_right`. -/
def moveRight (s : TextEditingState) (shift : Bool) : TextEditingState :=
  let next := if s.cursor < byteLen s.text then s.nextCharBoundary s.cursor else s.cursor
  { s with selectionAnchor := if shift then s.anchored else none
           cursor := if shift then next else s.collapsed Prod.snd next }

/-- `TextEditingState::set_cursor`. -/
def setCursor (s : TextEditingState) (pos : Nat) : TextEditingState :=
  { s with cursor := min pos (byteLen s.text), selectionAnchor := none }

/-- `TextEditingState::set_selection`. -/
def setSelection (s : TextEditingState) (anchor cursor : Nat) : TextEditingState :=
  { s with selectionAnchor := some (min anchor (byteLen s.text)), cursor := min cursor (byteLen s.text) }

/-! ## Boundaries -/

/-- **The offsets are on boundaries.** -/
structure OnBoundaries (s : TextEditingState) : Prop where
  cursor : isCharBoundary s.text s.cursor = true
  anchor : ∀ a ∈ s.selectionAnchor, isCharBoundary s.text a = true

theorem boundary_prevFrom (idx : Nat) : isCharBoundary text (prevFrom text idx) = true := by
  induction idx with
  | zero => exact isCharBoundary_zero text
  | succ idx ih =>
    unfold prevFrom
    by_cases h : isCharBoundary text (idx + 1) = false
    · rwa [if_pos h]
    · rwa [if_neg h, ← Bool.not_eq_false]

theorem prevFrom_le (idx : Nat) : prevFrom text idx ≤ idx := by
  induction idx with
  | zero => exact le_rfl
  | succ idx ih =>
    unfold prevFrom
    split
    · exact Nat.le_succ_of_le ih
    · exact le_rfl

/-- The loop ends at a boundary or at the end of the text. -/
theorem nextFrom_spec (turns idx : Nat) (h : byteLen text ≤ idx + turns) :
    idx ≤ nextFrom text turns idx ∧
      (byteLen text ≤ nextFrom text turns idx ∨ isCharBoundary text (nextFrom text turns idx) = true) := by
  induction turns generalizing idx with
  | zero => exact ⟨le_rfl, .inl h⟩
  | succ turns ih =>
    unfold nextFrom
    by_cases hturn : idx < byteLen text ∧ isCharBoundary text idx = false
    · rw [if_pos hturn]
      obtain ⟨hle, hstop⟩ := ih (idx + 1) (by omega)
      exact ⟨Nat.le_of_succ_le hle, hstop⟩
    · rw [if_neg hturn]
      refine ⟨le_rfl, ?_⟩
      rcases Nat.lt_or_ge idx (byteLen text) with hlt | hge
      · exact .inr (by simpa [hlt] using hturn)
      · exact .inl hge

variable {s : TextEditingState}

section

variable (s : TextEditingState) (pos : Nat)

theorem boundary_prev : isCharBoundary s.text (s.prevCharBoundary pos) = true := by
  unfold prevCharBoundary
  split
  · exact isCharBoundary_zero _
  · exact boundary_prevFrom _ _

theorem prev_le : s.prevCharBoundary pos ≤ pos := by
  unfold prevCharBoundary
  split
  · exact Nat.zero_le _
  · exact (prevFrom_le _ _).trans (Nat.sub_le _ _)

theorem boundary_next : isCharBoundary s.text (s.nextCharBoundary pos) = true := by
  obtain ⟨-, hend | hboundary⟩ := nextFrom_spec s.text (byteLen s.text) (pos + 1) (Nat.le_add_left _ _)
  · rw [nextCharBoundary, Nat.min_eq_right hend]
    exact isCharBoundary_byteLen _
  · rw [nextCharBoundary, Nat.min_eq_left (le_of_isCharBoundary hboundary)]
    exact hboundary

end

theorem le_next {pos : Nat} (h : pos < byteLen s.text) : pos ≤ s.nextCharBoundary pos := by
  obtain ⟨hle, -⟩ := nextFrom_spec s.text (byteLen s.text) (pos + 1) (Nat.le_add_left _ _)
  exact Nat.le_min.mpr ⟨Nat.le_of_succ_le hle, h.le⟩

section

variable (h : s.OnBoundaries)
include h

theorem OnBoundaries.selected {start stop : Nat} (hrange : s.selectionRange = some (start, stop)) :
    start ≤ stop ∧ isCharBoundary s.text start = true ∧ isCharBoundary s.text stop = true := by
  obtain ⟨a, ha, heq⟩ := map_eq_some_iff.mp hrange
  cases heq
  have hanchor := h.anchor a ha
  rcases le_total a s.cursor with hle | hle
  · rw [min_eq_left hle, max_eq_right hle]
    exact ⟨hle, hanchor, h.cursor⟩
  · rw [min_eq_right hle, max_eq_left hle]
    exact ⟨hle, h.cursor, hanchor⟩

/-- **A selection can be deleted**, and no anchor is left. -/
theorem OnBoundaries.deleteSelection :
    ∃ deleted s', s.deleteSelection = some (deleted, s') ∧ s'.OnBoundaries ∧ s'.selectionAnchor = none := by
  unfold TextEditingState.deleteSelection
  have hnone : ({ s with selectionAnchor := none } : TextEditingState).OnBoundaries := ⟨h.cursor, by simp⟩
  cases hrange : s.selectionRange with
  | none => exact ⟨_, _, rfl, hnone, rfl⟩
  | some range =>
    obtain ⟨start, stop⟩ := range
    dsimp only
    split
    · obtain ⟨hle, hstart, hstop⟩ := h.selected hrange
      obtain ⟨p, q, hdrain, rfl⟩ := drain_eq hstart hstop hle
      rw [hdrain]
      exact ⟨_, _, rfl, ⟨isCharBoundary_append p q, by simp⟩, rfl⟩
    · exact ⟨_, _, rfl, hnone, rfl⟩

theorem OnBoundaries.insertChar (ch : Char) : ∃ s', s.insertChar ch = some s' ∧ s'.OnBoundaries := by
  obtain ⟨deleted, s', hdelete, hs', hanchor⟩ := h.deleteSelection
  obtain ⟨p, q, htext, hcursor⟩ := isCharBoundary_iff.mp hs'.cursor
  have hinsert : insertAt s'.text s'.cursor ch = some (p ++ ch :: q) := by
    rw [htext, ← hcursor, insertAt, splitAtByte_append]
    rfl
  rw [TextEditingState.insertChar, hdelete, bind_some]
  dsimp only
  rw [hinsert]
  refine ⟨_, rfl, isCharBoundary_iff.mpr ⟨p ++ [ch], q, by simp, ?_⟩, by simp [hanchor]⟩
  rw [byteLen, weight_append, ← hcursor]
  rfl

theorem OnBoundaries.backspace : ∃ s', s.backspace = some s' ∧ s'.OnBoundaries := by
  obtain ⟨deleted, s', hdelete, hs', hanchor⟩ := h.deleteSelection
  rw [TextEditingState.backspace, hdelete, bind_some]
  dsimp only
  split_ifs
  · exact ⟨s', rfl, hs'⟩
  · obtain ⟨p, q, hdrain, hp⟩ := drain_eq (boundary_prev s' s'.cursor) hs'.cursor (prev_le s' s'.cursor)
    rw [hdrain]
    refine ⟨_, rfl, ?_, by simp [hanchor]⟩
    rw [← hp]
    exact isCharBoundary_append p q
  · exact ⟨s', rfl, hs'⟩

theorem OnBoundaries.delete : ∃ s', s.delete = some s' ∧ s'.OnBoundaries := by
  obtain ⟨deleted, s', hdelete, hs', hanchor⟩ := h.deleteSelection
  rw [TextEditingState.delete, hdelete, bind_some]
  dsimp only
  split_ifs with hdeleted hlt
  · exact ⟨s', rfl, hs'⟩
  · obtain ⟨p, q, hdrain, hp⟩ := drain_eq hs'.cursor (boundary_next s' s'.cursor) (le_next hlt)
    rw [hdrain]
    refine ⟨_, rfl, ?_, by simp [hanchor]⟩
    rw [← hp]
    exact isCharBoundary_append p q
  · exact ⟨s', rfl, hs'⟩

/-- **A move goes to a boundary**, and leaves the cursor behind at most. -/
theorem OnBoundaries.moveTo (shift : Bool) {pos : Nat} (hpos : isCharBoundary s.text pos = true) :
    ({ s with selectionAnchor := if shift then s.anchored else none, cursor := pos } : TextEditingState).OnBoundaries := by
  refine ⟨hpos, fun a ha => ?_⟩
  cases shift with
  | false => cases ha
  | true =>
    rcases or_eq_some_iff.mp ha with hanchor | ⟨-, hcursor⟩
    · exact h.anchor a hanchor
    · cases hcursor
      exact h.cursor

theorem OnBoundaries.collapsed {edge : Nat × Nat → Nat} (hedge : ∀ range, edge range = range.1 ∨ edge range = range.2)
    {pos : Nat} (hpos : isCharBoundary s.text pos = true) : isCharBoundary s.text (s.collapsed edge pos) = true := by
  unfold TextEditingState.collapsed
  cases hrange : s.selectionRange with
  | none => exact hpos
  | some range =>
    obtain ⟨-, hstart, hstop⟩ := h.selected hrange
    dsimp only
    split
    · rcases hedge range with hfirst | hlast
      · rwa [hfirst]
      · rwa [hlast]
    · exact hpos

theorem OnBoundaries.moveLeft (shift : Bool) : (s.moveLeft shift).OnBoundaries := by
  have hprev := boundary_prev s s.cursor
  refine h.moveTo shift ?_
  split
  · exact hprev
  · exact h.collapsed (fun _ => .inl rfl) hprev

theorem OnBoundaries.moveRight (shift : Bool) : (s.moveRight shift).OnBoundaries := by
  have hnext : isCharBoundary s.text (if s.cursor < byteLen s.text then s.nextCharBoundary s.cursor else s.cursor) = true := by
    split
    · exact boundary_next s _
    · exact h.cursor
  refine h.moveTo shift ?_
  split
  · exact hnext
  · exact h.collapsed (fun _ => .inr rfl) hnext

end

end TextEditingState

/-! ## Runs -/

/-- An operation on the text field. -/
inductive TextEditingOp where
  | setText (text : List Char)
  | insertChar (ch : Char)
  | backspace
  | delete
  | home (shift : Bool)
  | «end» (shift : Bool)
  | selectAll
  | deleteSelection
  | moveLeft (shift : Bool)
  | moveRight (shift : Bool)
  | setCursor (pos : Nat)
  | setSelection (anchor cursor : Nat)
deriving DecidableEq, Repr

namespace TextEditingOp

open TextEditingState

/-- One operation; `none` is a panic. -/
def apply (s : TextEditingState) : TextEditingOp → Option TextEditingState
  | setText text => some (s.setText text)
  | insertChar ch => s.insertChar ch
  | backspace => s.backspace
  | delete => s.delete
  | home shift => some (s.home shift)
  | «end» shift => some (s.end shift)
  | selectAll => some s.selectAll
  | deleteSelection => s.deleteSelection.map (·.2)
  | moveLeft shift => some (s.moveLeft shift)
  | moveRight shift => some (s.moveRight shift)
  | setCursor pos => some (s.setCursor pos)
  | setSelection anchor cursor => some (s.setSelection anchor cursor)

/-- Nothing follows a panic. -/
def step (s : Option TextEditingState) (op : TextEditingOp) : Option TextEditingState := s.bind (op.apply ·)

/-- The raw offsets of an operation are on boundaries once they are cut to the length of the text. -/
def PassesBoundaries (text : List Char) : TextEditingOp → Prop
  | setCursor pos => isCharBoundary text (min pos (byteLen text)) = true
  | setSelection anchor cursor =>
    isCharBoundary text (min anchor (byteLen text)) = true ∧ isCharBoundary text (min cursor (byteLen text)) = true
  | _ => True

/-- **One operation**: it stays on boundaries exactly if its raw offsets are on them. -/
theorem apply_spec {s : TextEditingState} (h : s.OnBoundaries) (op : TextEditingOp) :
    ∃ s', op.apply s = some s' ∧ (s'.OnBoundaries ↔ op.PassesBoundaries s.text) := by
  cases op with
  | setText text => exact ⟨_, rfl, iff_of_true ⟨isCharBoundary_byteLen text, by simp [TextEditingState.setText]⟩ trivial⟩
  | insertChar ch =>
    obtain ⟨s', heq, hs'⟩ := h.insertChar ch
    exact ⟨s', heq, iff_of_true hs' trivial⟩
  | backspace =>
    obtain ⟨s', heq, hs'⟩ := h.backspace
    exact ⟨s', heq, iff_of_true hs' trivial⟩
  | delete =>
    obtain ⟨s', heq, hs'⟩ := h.delete
    exact ⟨s', heq, iff_of_true hs' trivial⟩
  | home shift => exact ⟨_, rfl, iff_of_true (h.moveTo shift (isCharBoundary_zero _)) trivial⟩
  | «end» shift => exact ⟨_, rfl, iff_of_true (h.moveTo shift (isCharBoundary_byteLen _)) trivial⟩
  | selectAll =>
    refine ⟨_, rfl, iff_of_true ?_ trivial⟩
    unfold TextEditingState.selectAll
    split
    · exact h
    · exact ⟨isCharBoundary_byteLen _, by simp⟩
  | deleteSelection =>
    obtain ⟨deleted, s', heq, hs', -⟩ := h.deleteSelection
    exact ⟨s', by rw [apply, heq]; rfl, iff_of_true hs' trivial⟩
  | moveLeft shift => exact ⟨_, rfl, iff_of_true (h.moveLeft shift) trivial⟩
  | moveRight shift => exact ⟨_, rfl, iff_of_true (h.moveRight shift) trivial⟩
  | setCursor pos => exact ⟨_, rfl, fun hs => hs.cursor, fun hp => ⟨hp, by simp [TextEditingState.setCursor]⟩⟩
  | setSelection anchor cursor =>
    refine ⟨_, rfl, fun hs => ⟨hs.anchor _ rfl, hs.cursor⟩, fun hp => ⟨hp.2, ?_⟩⟩
    rintro a ⟨⟩
    exact hp.1

/-- The text field has not panicked, and its offsets are on boundaries: the selection is a substring. -/
def Sound (s : Option TextEditingState) : Prop :=
  ∃ t ∈ s, t.OnBoundaries ∧ t.cursor ≤ byteLen t.text ∧ (∀ a ∈ t.selectionAnchor, a ≤ byteLen t.text) ∧
    ∀ start stop, t.selectionRange = some (start, stop) → (sliceBytes t.text start stop).isSome

theorem sound_iff {t : TextEditingState} : Sound (some t) ↔ t.OnBoundaries := by
  constructor
  · rintro ⟨t, ⟨⟩, ht, -⟩
    exact ht
  · intro h
    refine ⟨t, rfl, h, le_of_isCharBoundary h.cursor, fun a ha => le_of_isCharBoundary (h.anchor a ha), fun start stop hrange => ?_⟩
    obtain ⟨hle, hstart, hstop⟩ := h.selected hrange
    exact sliceBytes_isSome hstart hstop hle

/-- **A run stays on boundaries, and never panics, exactly if every raw offset it passes is on a boundary** of the text at
that time. -/
theorem sound_run_iff (ops : List TextEditingOp) :
    (∀ n, Sound (run step (some .new) (ops.take n))) ↔
      Along step (fun s op => ∀ t ∈ s, op.PassesBoundaries t.text) (some .new) ops := by
  refine along_iff_forall_take (K := fun _ => True) (fun s op _ hs => ⟨trivial, ?_⟩) trivial ?_
  · obtain ⟨t, ⟨⟩, ht, -⟩ := hs
    obtain ⟨t', heq, hiff⟩ := apply_spec ht op
    show Sound (op.apply t) ↔ _
    rw [heq, sound_iff, hiff]
    simp
  · exact sound_iff.mpr ⟨isCharBoundary_zero _, by simp [TextEditingState.new]⟩

/-- The second byte of a character. -/
theorem setCursor_off_boundary : ¬ ∀ ops n, Sound (run step (some .new) (List.take n ops)) := by
  intro h
  obtain ⟨t, ht, hcursor, -⟩ := h [.setText [Char.ofNat 0xE9], .setCursor 1] 2
  cases ht
  exact absurd hcursor.cursor (by decide)

end TextEditingOp

end OriTerm
