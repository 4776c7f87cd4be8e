import OriTerm.Core.DirtyTracker
import OriTerm.Lib.Run

/-!
# `Core.DirtyDrain` — draining the damage, also in part

The iterator behind `drain` clears each line that it yields, and dropping it clears the others: `drainTaken` is a drain
that is dropped after some lines.

`Damage` says what there is to report: the cells that were marked since the last drain, and whether everything was
invalidated. The tracker keeps bounds for these cells (`Tracks`), through every operation (`Tracks.apply`). When
everything is invalid, a line with marks of its own keeps its bounds and is not widened: **`reports_run`** says what a
drain yields at any point of a run, and how much of that is what `colBounds` says of the line.
-/

namespace OriTerm

open Lib List

/-! ## The iterator -/

/-- `DirtyIter`. Its slice of lines is kept in two parts, split at `pos`. -/
structure DirtyIter where
  passed : List LineDamageBounds
  rest : List LineDamageBounds
  cols : Nat
  all : Bool
  deriving DecidableEq, Repr

namespace DirtyIter

/-- The line under the iterator is yielded. -/
def yields (all : Bool) (b : LineDamageBounds) : Bool := all || b.dirty

/-- What is yielded for a line. -/
def report (cols : Nat) (all : Bool) (b : LineDamageBounds) (line : Nat) : DirtyLine :=
  if all && !b.dirty then { line, left := 0, right := cols - 1 } else { line, left := b.left, right := b.right }

/-- The loop of `next`. -/
def advance (cols : Nat) (all : Bool) (passed : List LineDamageBounds) :
    List LineDamageBounds → DirtyIter × Option DirtyLine
  | [] => (⟨passed, [], cols, all⟩, none)
  | b :: rest =>
    if yields all b then (⟨passed ++ [b.reset], rest, cols, all⟩, some (report cols all b passed.length))
    else advance cols all (passed ++ [b]) rest

/-- `next`. -/
def next (it : DirtyIter) : DirtyIter × Option DirtyLine := advance it.cols it.all it.passed it.rest

/-- Takes up to `n` lines. -/
def takeLines (it : DirtyIter) : Nat → DirtyIter × List DirtyLine
  | 0 => (it, [])
  | n + 1 =>
    match it.next with
    | (it, none) => (it, [])
    | (it, some x) => ((takeLines it n).1, x :: (takeLines it n).2)

/-- `drop`: the lines that were not reached are cleared. -/
def drop (it : DirtyIter) : List LineDamageBounds := it.passed ++ it.rest.map (·.reset)

/-- The lines that are still to be yielded. -/
def pending (it : DirtyIter) : List DirtyLine :=
  ((it.rest.zipIdx it.passed.length).filter fun p => yields it.all p.1).map fun p => report it.cols it.all p.1 p.2

end DirtyIter

namespace DirtyTracker

variable (d : DirtyTracker)

/-- Everything is dirty. -/
def isAllDirty : Bool := d.allDirty

/-- A line is dirty. -/
def isDirty (line : Nat) : Bool := d.allDirty || (d.lines[line]?.any (·.dirty))

/-- The iterator of `drain`. -/
def drainIter : DirtyIter := ⟨[], d.lines, d.cols, d.allDirty⟩

/-- A drain that is dropped after `taken` lines. -/
def drainTaken (taken : Nat) : DirtyTracker × List DirtyLine :=
  ({ d with lines := (d.drainIter.takeLines taken).1.drop, allDirty := false }, (d.drainIter.takeLines taken).2)

end DirtyTracker

/-! ### What it yields -/

namespace DirtyIter

variable {cols : Nat} {all : Bool} {passed rest : List LineDamageBounds}

@[simp] theorem line_report (b : LineDamageBounds) (line : Nat) : (report cols all b line).line = line := by
  unfold report
  split <;> rfl

/-- One step yields the first line that is pending, and clears it. -/
theorem advance_spec (hkept : ∀ b ∈ rest, b.dirty = false → b = .clean) :
    (advance cols all passed rest).2 = (pending ⟨passed, rest, cols, all⟩).head?
      ∧ (advance cols all passed rest).1.pending = (pending ⟨passed, rest, cols, all⟩).tail
      ∧ (advance cols all passed rest).1.drop = drop ⟨passed, rest, cols, all⟩
      ∧ ∀ b ∈ (advance cols all passed rest).1.rest, b ∈ rest := by
  induction rest generalizing passed with
  | nil => exact ⟨rfl, rfl, rfl, fun b hb => hb⟩
  | cons b rest ih =>
    unfold advance
    cases hyields : yields all b with
    | true =>
      have hpending : pending ⟨passed, b :: rest, cols, all⟩
          = report cols all b passed.length :: pending ⟨passed ++ [b.reset], rest, cols, all⟩ := by
        unfold pending
        rw [zipIdx_cons, filter_cons, if_pos hyields, length_append]
        rfl
      rw [hpending]
      refine ⟨rfl, rfl, ?_, fun x hx => mem_cons_of_mem b hx⟩
      unfold drop
      simp
    | false =>
      obtain ⟨hhead, htail, hdrop, hmem⟩ := @ih (passed ++ [b]) fun x hx => hkept x (mem_cons_of_mem b hx)
      have hpending : pending ⟨passed, b :: rest, cols, all⟩ = pending ⟨passed ++ [b], rest, cols, all⟩ := by
        unfold pending
        rw [zipIdx_cons, filter_cons, hyields, length_append]
        rfl
      -- a line that is skipped is clean already
      have hclean : b = .clean := by
        refine hkept b mem_cons_self ?_
        exact (Bool.or_eq_false_iff.mp hyields).2
      rw [hpending]
      refine ⟨hhead, htail, hdrop.trans ?_, fun x hx => mem_cons_of_mem b (hmem x hx)⟩
      unfold drop
      rw [hclean]
      simp [LineDamageBounds.reset]

/-- **What is taken is the beginning of what is pending**, and after the drop nothing of the rest is left. -/
theorem takeLines_spec (it : DirtyIter) (n : Nat) (hkept : ∀ b ∈ it.rest, b.dirty = false → b = .clean) :
    (it.takeLines n).2 = it.pending.take n ∧ (it.takeLines n).1.drop = it.drop := by
  induction n generalizing it with
  | zero => exact ⟨rfl, rfl⟩
  | succ n ih =>
    obtain ⟨hhead, htail, hdrop, hmem⟩ := @advance_spec it.cols it.all it.passed it.rest hkept
    unfold takeLines next
    generalize advance it.cols it.all it.passed it.rest = r at hhead htail hdrop hmem
    obtain ⟨it', x⟩ := r
    cases hp : it.pending with
    | nil =>
      have hx : x = none := hhead.trans (congrArg List.head? hp)
      rw [hx]
      exact ⟨rfl, hdrop⟩
    | cons y ys =>
      have hx : x = some y := hhead.trans (congrArg List.head? hp)
      have hys : it'.pending = ys := htail.trans (congrArg List.tail hp)
      obtain ⟨htaken, hdropped⟩ := ih it' fun b hb => hkept b (hmem b hb)
      rw [hx]
      refine ⟨?_, hdropped.trans hdrop⟩
      show y :: (it'.takeLines n).2 = _
      rw [htaken, hys, take_succ_cons]

end DirtyIter

/-! ## What there is to report -/

/-- What changed since the last drain. -/
structure Damage where
  lines : Nat
  cols : Nat
  /-- The greatest number of columns since the last drain. -/
  widest : Nat
  /-- Everything was invalidated: by `markAll`, by a range over all lines or by new dimensions. -/
  all : Bool
  /-- The lines that were marked on their own. -/
  touched : Nat → Prop
  /-- The cells that were marked on their own or with their line. -/
  marked : Nat → Nat → Prop

namespace Damage

def new (lines cols : Nat) : Damage :=
  { lines, cols, widest := cols, all := false, touched := fun _ => False, marked := fun _ _ => False }

/-- Marks the columns `cells` of the lines `P`. -/
def touch (D : Damage) (P cells : Nat → Prop) : Damage :=
  { D with
    touched := fun line => D.touched line ∨ line < D.lines ∧ P line
    marked := fun line col => D.marked line col ∨ (line < D.lines ∧ P line) ∧ cells col }

end Damage

/-- The operations of the tracker. -/
inductive DirtyOp where
  | mark (line : Nat)
  | markCols (line left right : Nat)
  | markRange (start stop : Nat)
  | markAll
  | resize (numLines cols : Nat)
  | drain (taken : Nat)
  deriving DecidableEq, Repr

namespace DirtyOp

/-- Performs an operation. -/
def apply (d : DirtyTracker) : DirtyOp → DirtyTracker
  | mark line => d.mark line
  | markCols line left right => d.markCols line left right
  | markRange start stop => d.markRange start stop
  | markAll => d.markAll
  | resize numLines cols => d.resize numLines cols
  | drain taken => (d.drainTaken taken).1

/-- What an operation means: lines and columns that do not exist any more need no repaint. -/
def damage (D : Damage) : DirtyOp → Damage
  | mark line => D.touch (· = line) (· < D.cols)
  | markCols line left right => D.touch (· = line) fun col => left ≤ col ∧ col ≤ right
  | markRange start stop =>
    if start = 0 ∧ stop ≥ D.lines then { D with all := true }
    else D.touch (fun line => start ≤ line ∧ line < stop) (· < D.cols)
  | markAll => { D with all := true }
  | resize numLines cols =>
    if D.cols ≠ cols ∨ D.lines ≠ numLines then
      { lines := numLines, cols, widest := max D.widest cols, all := true
        touched := fun line => D.touched line ∧ line < numLines
        marked := fun line col => D.marked line col ∧ line < numLines ∧ col < cols }
    else D
  | drain _ => .new D.lines D.cols

/-- The callers' promise: columns are marked from left to right, on the screen. -/
def InBounds (d : DirtyTracker) : DirtyOp → Prop
  | markCols _ left right => left ≤ right ∧ right < d.cols
  | _ => True

instance (d : DirtyTracker) (op : DirtyOp) : Decidable (op.InBounds d) := by
  cases op <;> (unfold InBounds; infer_instance)

end DirtyOp

/-! ## The tracker keeps up -/

namespace DirtyTracker

variable {b : LineDamageBounds}

/-- A line that is not dirty has no bounds left over. -/
def Kept (d : DirtyTracker) : Prop := ∀ b ∈ d.lines, b.dirty = false → b = .clean

/-- **The tracker has bounds for everything that was marked.** -/
structure Tracks (D : Damage) (d : DirtyTracker) : Prop where
  lines : d.lines.length = D.lines
  cols : d.cols = D.cols
  all : d.allDirty = D.all
  kept : d.Kept
  touched : ∀ line, D.touched line ↔ ∃ b, d.lines[line]? = some b ∧ b.dirty = true
  bounds : ∀ b ∈ d.lines, b.dirty = true → b.left ≤ b.right ∧ b.right ≤ D.widest - 1
  covers : ∀ line col, D.marked line col →
    ∃ b, d.lines[line]? = some b ∧ b.dirty = true ∧ b.left ≤ col ∧ col ≤ b.right
  inside : ∀ line col, D.marked line col → col < D.cols
  widest : D.cols ≤ D.widest ∧ (D.all = false → D.widest = D.cols)

theorem tracks_new (lines cols : Nat) : Tracks (.new lines cols) (.new lines cols) where
  lines := length_replicate
  cols := rfl
  all := rfl
  kept b hb _ := eq_of_mem_replicate hb
  touched line := by
    refine ⟨False.elim, ?_⟩
    rintro ⟨b, hb, hdirty⟩
    rw [eq_of_mem_replicate (mem_of_getElem? hb)] at hdirty
    cases hdirty
  bounds b hb hdirty := by
    rw [eq_of_mem_replicate hb] at hdirty
    cases hdirty
  covers _ _ h := h.elim
  inside _ _ h := h.elim
  widest := ⟨Nat.le_refl _, fun _ => rfl⟩

variable {D : Damage} {d : DirtyTracker}

/-- The bounds of a line after it was marked: they cover what they covered, and the columns marked. -/
structure Widens (D : Damage) (cells : Nat → Prop) (b b' : LineDamageBounds) : Prop where
  dirty : b'.dirty = true
  bounds : b'.left ≤ b'.right ∧ b'.right ≤ D.widest - 1
  old : ∀ col < D.cols, b.dirty = true → b.left ≤ col → col ≤ b.right → b'.left ≤ col ∧ col ≤ b'.right
  new : ∀ col, cells col → b'.left ≤ col ∧ col ≤ b'.right

theorem Tracks.widens_markFull (h : Tracks D d) (b : LineDamageBounds) :
    Widens D (· < D.cols) b (b.markFull d.cols) := by
  have hwidest := h.widest.1
  rw [h.cols]
  refine ⟨rfl, ⟨Nat.zero_le _, ?_⟩, fun col hcol _ _ _ => ⟨Nat.zero_le _, ?_⟩,
    fun col hcol => ⟨Nat.zero_le _, ?_⟩⟩
  · show D.cols - 1 ≤ D.widest - 1
    omega
  · exact Nat.le_sub_one_of_lt hcol
  · exact Nat.le_sub_one_of_lt hcol

theorem Tracks.widens_expand (h : Tracks D d) {left right : Nat} (hle : left ≤ right) (hright : right < d.cols)
    (hb : b ∈ d.lines) :
    Widens D (fun col => left ≤ col ∧ col ≤ right) b (b.expand left right) := by
  have hwidest := h.widest.1
  have hcols := h.cols
  have hbounds : b.right ≤ D.widest - 1 := by
    cases hdirty : b.dirty with
    | true => exact (h.bounds b hb hdirty).2
    | false =>
      rw [h.kept b hb hdirty]
      exact Nat.zero_le _
  refine ⟨rfl, ⟨?_, ?_⟩, fun col _ _ hl hr => ⟨?_, ?_⟩, fun col hcol => ⟨?_, ?_⟩⟩
  · exact (Nat.min_le_right ..).trans (hle.trans (Nat.le_max_right ..))
  · exact Nat.max_le.mpr ⟨hbounds, by omega⟩
  · exact (Nat.min_le_left ..).trans hl
  · exact hr.trans (Nat.le_max_left ..)
  · exact (Nat.min_le_right ..).trans hcol.1
  · exact hcol.2.trans (Nat.le_max_right ..)

/-- **Marking some lines.** -/
theorem Tracks.touch (h : Tracks D d) {P cells : Nat → Prop} [DecidablePred P]
    {f : LineDamageBounds → LineDamageBounds} {lines : List LineDamageBounds}
    (hlines : ∀ i, lines[i]? = d.lines[i]?.map fun b => if P i then f b else b)
    (hf : ∀ b ∈ d.lines, Widens D cells b (f b)) (hcells : ∀ col, cells col → col < D.cols) :
    Tracks (D.touch P cells) { d with lines := lines } := by
  have hlen : lines.length = d.lines.length := by
    refine Nat.le_antisymm ?_ ?_
    · rw [← getElem?_eq_none_iff, hlines, getElem?_eq_none (Nat.le_refl _)]
      rfl
    · rw [← getElem?_eq_none_iff, ← Option.map_eq_none_iff, ← hlines, getElem?_eq_none (Nat.le_refl _)]
  -- a line afterwards was marked, or is as before
  have hline : ∀ b' ∈ lines, ∃ b ∈ d.lines, b' = b ∨ Widens D cells b b' := by
    intro b' hb'
    obtain ⟨i, hi⟩ := mem_iff_getElem?.mp hb'
    rw [hlines, Option.map_eq_some_iff] at hi
    obtain ⟨b, hb, rfl⟩ := hi
    have hmem := mem_of_getElem? hb
    refine ⟨b, hmem, ?_⟩
    split
    · exact .inr (hf b hmem)
    · exact .inl rfl
  refine ⟨hlen.trans h.lines, h.cols, h.all, ?_, ?_, ?_, ?_, ?_, h.widest⟩
  · intro b' hb' hclean
    obtain ⟨b, hb, rfl | hwidens⟩ := hline b' hb'
    · exact h.kept b' hb hclean
    · rw [hwidens.dirty] at hclean
      cases hclean
  · intro line
    show D.touched line ∨ _ ↔ ∃ b, lines[line]? = some b ∧ b.dirty = true
    rw [h.touched, hlines]
    by_cases hP : P line
    · simp only [if_pos hP]
      constructor
      · rintro (⟨b, hb, -⟩ | ⟨hlt, -⟩)
        · exact ⟨f b, by rw [hb, Option.map_some], (hf b (mem_of_getElem? hb)).dirty⟩
        · rw [← h.lines] at hlt
          refine ⟨f d.lines[line], ?_, (hf _ (getElem_mem hlt)).dirty⟩
          rw [getElem?_eq_getElem hlt, Option.map_some]
      · rintro ⟨b', hb', -⟩
        obtain ⟨b, hb, -⟩ := Option.map_eq_some_iff.mp hb'
        exact .inr ⟨h.lines ▸ (List.getElem?_eq_some_iff.mp hb).1, hP⟩
    · simp only [if_neg hP, Option.map_id']
      exact ⟨fun ho => ho.resolve_right fun hn => hP hn.2, .inl⟩
  · intro b' hb' hdirty
    obtain ⟨b, hb, rfl | hwidens⟩ := hline b' hb'
    · exact h.bounds b' hb hdirty
    · exact hwidens.bounds
  · intro line col hmarked
    rw [hlines]
    rcases hmarked with hold | ⟨⟨hlt, hP⟩, hcell⟩
    · obtain ⟨b, hb, hdirty, hl, hr⟩ := h.covers line col hold
      rw [hb, Option.map_some]
      by_cases hP : P line
      · rw [if_pos hP]
        have hwidens := hf b (mem_of_getElem? hb)
        exact ⟨f b, rfl, hwidens.dirty, hwidens.old col (h.inside line col hold) hdirty hl hr⟩
      · rw [if_neg hP]
        exact ⟨b, rfl, hdirty, hl, hr⟩
    · rw [← h.lines] at hlt
      rw [getElem?_eq_getElem hlt, Option.map_some, if_pos hP]
      have hwidens := hf _ (getElem_mem hlt)
      exact ⟨_, rfl, hwidens.dirty, hwidens.new col hcell⟩
  · rintro line col (hold | ⟨-, hcell⟩)
    · exact h.inside line col hold
    · exact hcells col hcell

theorem Tracks.markAll (h : Tracks D d) : Tracks { D with all := true } d.markAll :=
  { lines := h.lines, cols := h.cols, all := rfl, kept := h.kept, touched := h.touched, bounds := h.bounds
    covers := h.covers, inside := h.inside, widest := ⟨h.widest.1, nofun⟩ }

theorem Tracks.markRange (h : Tracks D d) (start stop : Nat) :
    Tracks (DirtyOp.damage D (.markRange start stop)) (d.markRange start stop) := by
  unfold DirtyOp.damage DirtyTracker.markRange
  dsimp only
  rw [h.lines]
  split
  · exact h.markAll
  · refine h.touch (fun i => ?_) (fun b _ => h.widens_markFull b) fun _ hcol => hcol
    rw [getElem?_mapRange]

/-- The line `line` alone. -/
theorem getElem?_modify_line (line : Nat) (f : LineDamageBounds → LineDamageBounds) (lines : List LineDamageBounds)
    (i : Nat) : (lines.modify line f)[i]? = lines[i]?.map fun b => if i = line then f b else b := by
  by_cases hi : line = i
  · simp [hi]
  · simp [hi, Ne.symm]

theorem Tracks.mark (h : Tracks D d) (line : Nat) : Tracks (DirtyOp.damage D (.mark line)) (d.mark line) :=
  h.touch (getElem?_modify_line line _ d.lines) (fun b _ => h.widens_markFull b)
    fun _ hcol => hcol

theorem Tracks.markCols (h : Tracks D d) {line left right : Nat} (hle : left ≤ right) (hright : right < d.cols) :
    Tracks (DirtyOp.damage D (.markCols line left right)) (d.markCols line left right) := by
  refine h.touch (getElem?_modify_line line _ d.lines)
    (fun b hb => h.widens_expand hle hright hb) fun col hcol => ?_
  rw [← h.cols]
  exact Nat.lt_of_le_of_lt hcol.2 hright

/-- The lines after a resize are lines from before, or new ones. -/
theorem getElem?_resize_eq_some {numLines i : Nat} (hb : (Lib.resize numLines .clean d.lines)[i]? = some b) :
    i < numLines ∧ (d.lines[i]? = some b ∨ b = .clean) := by
  rw [getElem?_resize] at hb
  split at hb
  · next hlt =>
    refine ⟨hlt, ?_⟩
    cases hi : d.lines[i]? with
    | some a =>
      rw [hi] at hb
      exact .inl hb
    | none =>
      rw [hi] at hb
      exact .inr (Option.some.inj hb).symm
  · cases hb

theorem Tracks.resize (h : Tracks D d) (numLines cols : Nat) :
    Tracks (DirtyOp.damage D (.resize numLines cols)) (d.resize numLines cols) := by
  unfold DirtyOp.damage DirtyTracker.resize
  dsimp only
  rw [h.cols, h.lines]
  split
  · have hlines : ∀ i b, d.lines[i]? = some b → i < numLines →
        (Lib.resize numLines .clean d.lines)[i]? = some b := by
      intro i b hb hi
      rw [getElem?_resize, if_pos hi, hb]
      rfl
    refine ⟨length_resize .., rfl, rfl, ?_, ?_, ?_, ?_, fun line col hm => hm.2.2, ⟨Nat.le_max_right .., nofun⟩⟩
    · intro b hb hclean
      obtain ⟨i, hi⟩ := mem_iff_getElem?.mp hb
      obtain ⟨-, hold | hnew⟩ := getElem?_resize_eq_some hi
      · exact h.kept b (mem_of_getElem? hold) hclean
      · exact hnew
    · intro line
      constructor
      · rintro ⟨htouched, hlt⟩
        obtain ⟨b, hb, hdirty⟩ := (h.touched line).mp htouched
        exact ⟨b, hlines line b hb hlt, hdirty⟩
      · rintro ⟨b, hb, hdirty⟩
        obtain ⟨hlt, hold | rfl⟩ := getElem?_resize_eq_some hb
        · exact ⟨(h.touched line).mpr ⟨b, hold, hdirty⟩, hlt⟩
        · cases hdirty
    · intro b hb hdirty
      obtain ⟨i, hi⟩ := mem_iff_getElem?.mp hb
      obtain ⟨-, hold | rfl⟩ := getElem?_resize_eq_some hi
      · obtain ⟨hle, hright⟩ := h.bounds b (mem_of_getElem? hold) hdirty
        refine ⟨hle, hright.trans ?_⟩
        show D.widest - 1 ≤ max D.widest cols - 1
        omega
      · cases hdirty
    · rintro line col ⟨hmarked, hlt, -⟩
      obtain ⟨b, hb, hrest⟩ := h.covers line col hmarked
      exact ⟨b, hlines line b hb hlt, hrest⟩
  · next hsame =>
    obtain ⟨hcols, hnum⟩ := not_or.mp hsame
    have hself : Lib.resize numLines .clean d.lines = d.lines := by
      unfold Lib.resize
      rw [h.lines, ← Decidable.not_not.mp hnum, Nat.sub_self, replicate_zero, append_nil, ← h.lines,
        take_length]
    rw [hself, ← Decidable.not_not.mp hcols, ← h.cols]
    exact h

/-! ## What a drain yields -/

theorem Kept.takeLines_drainIter (h : d.Kept) (taken : Nat) :
    (d.drainTaken taken).2 = d.drainIter.pending.take taken ∧ (d.drainTaken taken).1 = .new d.lines.length d.cols := by
  obtain ⟨htaken, hdrop⟩ := d.drainIter.takeLines_spec taken h
  refine ⟨htaken, ?_⟩
  unfold drainTaken new
  rw [hdrop]
  have hreset : d.drainIter.drop = List.replicate d.lines.length .clean :=
    map_const' ..
  rw [hreset]

theorem mem_pending {x : DirtyLine} (hx : x ∈ d.drainIter.pending) :
    ∃ b, d.lines[x.line]? = some b ∧ DirtyIter.yields d.allDirty b = true
      ∧ x = DirtyIter.report d.cols d.allDirty b x.line := by
  obtain ⟨⟨b, i⟩, hmem, rfl⟩ := mem_map.mp hx
  obtain ⟨hzip, hyields⟩ := mem_filter.mp hmem
  rw [DirtyIter.line_report]
  exact ⟨b, mk_mem_zipIdx_iff_getElem?.mp hzip, hyields, rfl⟩

/-- **Each dirty line once, in order.** -/
theorem lines_pending (d : DirtyTracker) :
    d.drainIter.pending.map (·.line) = (List.range d.lines.length).filter d.isDirty := by
  have hrange : List.range d.lines.length = (d.lines.zipIdx 0).map Prod.snd := by
    rw [zipIdx_map_snd, range_eq_range']
  unfold DirtyIter.pending
  rw [hrange, filter_map, map_map]
  have hfilter : (d.lines.zipIdx 0).filter (fun p => DirtyIter.yields d.allDirty p.1)
      = (d.lines.zipIdx 0).filter (d.isDirty ∘ Prod.snd) := by
    refine filter_congr fun p hp => ?_
    have hget : d.lines[p.2]? = some p.1 := mk_mem_zipIdx_iff_getElem?.mp hp
    show (d.allDirty || p.1.dirty) = (d.allDirty || d.lines[p.2]?.any (·.dirty))
    rw [hget]
    rfl
  show ((d.lines.zipIdx 0).filter fun p => DirtyIter.yields d.allDirty p.1).map _ = _
  rw [hfilter]
  exact map_congr_left fun p _ => DirtyIter.line_report p.1 p.2

/-- **What a drain reports**, dropped after `taken` lines: each dirty line once and in order, with bounds that cover
    what was marked in it. Unless everything was invalidated these are the bounds that `colBounds` gave; if it was, a
    line without marks of its own is reported whole, and one with marks keeps its bounds. Nothing is left behind. -/
structure Reports (D : Damage) (d : DirtyTracker) (taken : Nat) : Prop where
  inOrder : (d.drainTaken taken).2.map (·.line) = ((List.range d.lines.length).filter d.isDirty).take taken
  dirty : ∀ line, line < d.lines.length → (d.isDirty line = true ↔ D.all = true ∨ D.touched line)
  bounds : ∀ x ∈ (d.drainTaken taken).2, x.left ≤ x.right ∧ (0 < D.widest → x.right < D.widest)
  covers : ∀ x ∈ (d.drainTaken taken).2, ∀ col, D.marked x.line col → x.left ≤ col ∧ col ≤ x.right
  agrees : D.all = false →
    D.widest = d.cols ∧ ∀ x ∈ (d.drainTaken taken).2, d.colBounds x.line = some (x.left, x.right)
  whole : D.all = true → ∀ x ∈ (d.drainTaken taken).2, d.colBounds x.line = some (0, d.cols - 1) ∧
    (¬D.touched x.line → x.left = 0 ∧ x.right = d.cols - 1) ∧
    (D.touched x.line → { d with allDirty := false }.colBounds x.line = some (x.left, x.right))
  cleared : (d.drainTaken taken).1 = .new d.lines.length d.cols

theorem Tracks.isDirty_iff (h : Tracks D d) (line : Nat) : d.isDirty line = true ↔ D.all = true ∨ D.touched line := by
  rw [h.touched, ← h.all]
  unfold isDirty
  cases d.lines[line]? <;> simp

/-- The bounds yielded for a line: the whole line if it has no marks of its own, else the bounds it has. -/
theorem Tracks.report_cases (h : Tracks D d) {taken : Nat} {x : DirtyLine} (hx : x ∈ (d.drainTaken taken).2) :
    (¬D.touched x.line ∧ D.all = true ∧ x.left = 0 ∧ x.right = d.cols - 1) ∨
      D.touched x.line ∧
        ∃ b, d.lines[x.line]? = some b ∧ b.dirty = true ∧ x.left = b.left ∧ x.right = b.right := by
  rw [(h.kept.takeLines_drainIter taken).1] at hx
  obtain ⟨b, hb, hyields, hreport⟩ := mem_pending (mem_of_mem_take hx)
  unfold DirtyIter.yields at hyields
  unfold DirtyIter.report at hreport
  cases hdirty : b.dirty with
  | true =>
    rw [hdirty, Bool.not_true, Bool.and_false, if_neg Bool.false_ne_true] at hreport
    exact .inr ⟨(h.touched x.line).mpr ⟨b, hb, hdirty⟩, b, hb, hdirty, by rw [hreport], by rw [hreport]⟩
  | false =>
    rw [hdirty, Bool.or_false] at hyields
    rw [hdirty, hyields, Bool.not_false, Bool.and_self, if_pos rfl] at hreport
    refine .inl ⟨fun htouched => ?_, h.all ▸ hyields, by rw [hreport], by rw [hreport]⟩
    obtain ⟨b', hb', hdirty'⟩ := (h.touched x.line).mp htouched
    rw [hb] at hb'
    rw [← Option.some.inj hb', hdirty] at hdirty'
    cases hdirty'

/-- The bounds that a line has of its own. -/
theorem colBounds_own {line : Nat} (hb : d.lines[line]? = some b) (hdirty : b.dirty = true) :
    { d with allDirty := false }.colBounds line = some (b.left, b.right) := by
  unfold colBounds
  rw [if_neg Bool.false_ne_true, hb, Option.filter_some, hdirty, if_pos rfl, Option.map_some]

theorem Tracks.reports (h : Tracks D d) (taken : Nat) : Reports D d taken := by
  obtain ⟨htaken, hcleared⟩ := h.kept.takeLines_drainIter taken
  have hwidest := h.widest.1
  have hcols := h.cols
  refine ⟨?_, fun line _ => h.isDirty_iff line, fun x hx => ?_, fun x hx col hmarked => ?_, fun hall => ?_,
    fun hall x hx => ⟨?_, fun huntouched => ?_, fun htouched => ?_⟩, hcleared⟩
  · rw [htaken, map_take, lines_pending]
  · rcases h.report_cases hx with ⟨-, -, hl, hr⟩ | ⟨-, b, hb, hdirty, hl, hr⟩
    · rw [hl]
      exact ⟨Nat.zero_le _, fun hpos => by omega⟩
    · obtain ⟨hle, hright⟩ := h.bounds b (mem_of_getElem? hb) hdirty
      rw [hl, hr]
      exact ⟨hle, fun hpos => by omega⟩
  · obtain ⟨b, hb, hdirty, hl, hr⟩ := h.covers x.line col hmarked
    rcases h.report_cases hx with ⟨huntouched, -⟩ | ⟨-, b', hb', -, hl', hr'⟩
    · exact absurd ((h.touched x.line).mpr ⟨b, hb, hdirty⟩) huntouched
    · cases hb.symm.trans hb'
      rw [hl', hr']
      exact ⟨hl, hr⟩
  · refine ⟨(h.widest.2 hall).trans h.cols.symm, fun x hx => ?_⟩
    rcases h.report_cases hx with ⟨-, hall', -⟩ | ⟨-, b, hb, hdirty, hl, hr⟩
    · rw [hall] at hall'
      cases hall'
    · have hself : { d with allDirty := false } = d := by
        rw [← hall, ← h.all]
      have hown := colBounds_own hb hdirty
      rw [hself] at hown
      rw [hown, hl, hr]
  · unfold colBounds
    rw [h.all, hall, if_pos rfl]
  · rcases h.report_cases hx with ⟨-, -, hl, hr⟩ | ⟨htouched, -⟩
    · exact ⟨hl, hr⟩
    · exact absurd htouched huntouched
  · rcases h.report_cases hx with ⟨huntouched, -⟩ | ⟨-, b, hb, hdirty, hl, hr⟩
    · exact absurd htouched huntouched
    · rw [colBounds_own hb hdirty, hl, hr]

/-! ## Every run -/

/-- **An operation keeps the tracker up.** -/
theorem Tracks.apply (h : Tracks D d) {op : DirtyOp} (hop : op.InBounds d) : Tracks (op.damage D) (op.apply d) := by
  cases op with
  | mark line => exact h.mark line
  | markCols line left right => exact h.markCols hop.1 hop.2
  | markRange start stop => exact h.markRange start stop
  | markAll => exact h.markAll
  | resize numLines cols => exact h.resize numLines cols
  | drain taken =>
    show Tracks (.new D.lines D.cols) (d.drainTaken taken).1
    rw [(h.kept.takeLines_drainIter taken).2, h.lines, h.cols]
    exact tracks_new D.lines D.cols

theorem tracks_run {ops : List DirtyOp} (hops : Along DirtyOp.apply (fun d op => op.InBounds d) d ops) (h : Tracks D d) :
    Tracks (run DirtyOp.damage D ops) (run DirtyOp.apply d ops) := by
  induction ops generalizing D d with
  | nil => exact h
  | cons op ops ih => exact ih hops.2 (h.apply hops.1)

/-- **A drain at any point of a run.** -/
theorem reports_run (numLines cols : Nat) {ops : List DirtyOp}
    (hops : Along DirtyOp.apply (fun d op => op.InBounds d) (.new numLines cols) ops) (taken : Nat) :
    Reports (run DirtyOp.damage (.new numLines cols) ops) (run DirtyOp.apply (.new numLines cols) ops) taken :=
  (tracks_run hops (tracks_new numLines cols)).reports taken

/-- **A line keeps its bounds when everything is invalidated.** One column was marked, then everything: the drain
    reports the column, where `colBounds` said the whole line. And a line was marked, then the screen became narrower:
    the drain reports the old width. -/
theorem markAll_not_widened :
    (¬ ∀ (numLines cols : Nat) (ops : List DirtyOp) (taken : Nat),
        Along DirtyOp.apply (fun d op => op.InBounds d) (.new numLines cols) ops →
        ∀ x ∈ ((run DirtyOp.apply (.new numLines cols) ops).drainTaken taken).2,
          (run DirtyOp.apply (.new numLines cols) ops).colBounds x.line = some (x.left, x.right))
      ∧ ¬ ∀ (numLines cols : Nat) (ops : List DirtyOp) (taken : Nat),
        Along DirtyOp.apply (fun d op => op.InBounds d) (.new numLines cols) ops →
        ∀ x ∈ ((run DirtyOp.apply (.new numLines cols) ops).drainTaken taken).2,
          0 < (run DirtyOp.apply (.new numLines cols) ops).cols →
            x.right < (run DirtyOp.apply (.new numLines cols) ops).cols := by
  refine ⟨fun h => ?_, fun h => ?_⟩
  · have hagrees := h 1 4 [.markCols 0 1 1, .markAll] 1 (by decide) ⟨0, 1, 1⟩ (by decide)
    revert hagrees
    decide
  · have hright := h 1 4 [.mark 0, .resize 1 2] 1 (by decide) ⟨0, 0, 3⟩ (by decide) (by decide)
    revert hright
    decide

end DirtyTracker

end OriTerm
