import OriTerm.Core.ScrollbackBuffer
import OriTerm.Lib.Deque

/-!
# `Core.ScrollbackQueue` — the scrollback ring is a bounded deque

`ScrollbackOp` lists what can be asked of a scrollback buffer. `ScrollbackOp.onRing` performs an operation on the ring,
with its slots, its start and the slots left behind by pops; `ScrollbackOp.onDeque` performs it on a bounded deque of
rows. **`ScrollbackBuffer.answers_eq`**: from an empty buffer of any capacity, every sequence of operations gets the
same answers from both.

Rows taken off a wrapped ring leave their slots in place, and a later push fills the slot behind the newest row again
(`ScrollbackBuffer.rows_push`), so mixtures of pops and pushes stay in step with the deque.
-/

namespace OriTerm

open Lib List

namespace ScrollbackBuffer

variable (sb : ScrollbackBuffer)

/-- Newest to oldest. -/
def iter : List Row :=
  (List.range sb.len).map fun i => sb.inner.getD (sb.physicalIndex i) (Row.new 0)

def isEmpty : Bool := sb.len == 0

/-- **Iteration** shows every row once, the newest first. -/
theorem iter_eq : sb.iter = sb.rows.reverse := by
  have hlen := length_rows sb
  apply ext_getElem?
  intro i
  unfold iter
  rw [getElem?_map]
  by_cases hi : i < sb.len
  · obtain ⟨row, hrow⟩ : ∃ row, sb.rows[sb.len - 1 - i]? = some row := by
      rw [getElem?_eq_getElem (by omega)]
      exact ⟨_, rfl⟩
    rw [getElem?_range hi, Option.map_some, getD_eq_getElem?_getD, getElem?_physicalIndex sb hi,
      getElem?_reverse (by omega), hlen, hrow]
    rfl
  · rw [getElem?_eq_none (by rw [length_range]; omega),
      getElem?_eq_none (by rw [length_reverse]; omega), Option.map_none]

end ScrollbackBuffer

/-- What can be asked of a scrollback buffer. -/
inductive ScrollbackOp where
  | push (row : Row)
  | popNewest
  | get (index : Nat)
  | iter
  | drainOldestFirst
  | clear
  | len
  | isEmpty
  deriving DecidableEq, Repr

/-- What a scrollback buffer replies. -/
inductive ScrollbackReply where
  | done
  | row (row : Option Row)
  | rows (rows : List Row)
  | count (n : Nat)
  | flag (b : Bool)
  deriving DecidableEq, Repr

namespace ScrollbackOp

/-- Performs an operation on the ring. -/
def onRing (sb : ScrollbackBuffer) : ScrollbackOp → ScrollbackBuffer × ScrollbackReply
  | push row => ((sb.push row).1, .row (sb.push row).2)
  | popNewest => (sb.popNewest.1, .row sb.popNewest.2)
  | get index => (sb, .row (sb.get index))
  | iter => (sb, .rows sb.iter)
  | drainOldestFirst => (sb.drainOldestFirst.1, .rows sb.drainOldestFirst.2)
  | clear => (sb.clear, .done)
  | len => (sb, .count sb.len)
  | isEmpty => (sb, .flag sb.isEmpty)

/-- Performs it on a deque. -/
def onDeque {cap : Nat} (d : BoundedDeque Row cap) : ScrollbackOp → BoundedDeque Row cap × ScrollbackReply
  | push row => ((d.push row).1, .row (d.push row).2)
  | popNewest => (d.popNewest.1, .row d.popNewest.2)
  | get index => (d, .row (d.get index))
  | iter => (d, .rows d.items.reverse)
  | drainOldestFirst => (.empty cap, .rows d.items)
  | clear => (.empty cap, .done)
  | len => (d, .count d.items.length)
  | isEmpty => (d, .flag d.items.isEmpty)

end ScrollbackOp

namespace ScrollbackBuffer

variable {sb : ScrollbackBuffer} {cap : Nat} {d : BoundedDeque Row cap}

/-- The ring has the capacity and the rows of the deque. -/
structure Represents (sb : ScrollbackBuffer) (d : BoundedDeque Row cap) : Prop where
  capacity : sb.maxScrollback = cap
  rows : sb.rows = d.items

theorem represents_new (cap : Nat) : (new cap).Represents (BoundedDeque.empty cap) := ⟨rfl, rows_new cap⟩

theorem Represents.len (h : sb.Represents d) : sb.len = d.items.length := by rw [← length_rows, h.rows]

/-- What a push lets go, at any capacity. -/
theorem push_returns (sb : ScrollbackBuffer) (row : Row) :
    (sb.push row).2 = if sb.len < sb.maxScrollback then none else (sb.rows ++ [row]).head? := by
  have hout := (rows_push sb row).2
  by_cases hroom : sb.len < sb.maxScrollback
  · rw [if_pos hroom, ← Option.not_isSome_iff_eq_none, hout]
    omega
  · rw [if_neg hroom]
    by_cases h0 : sb.maxScrollback = 0
    · have hempty : sb.rows = [] := length_eq_zero_iff.mp (by have := sb.len_le_max; rw [length_rows]; omega)
      have hback : (sb.push row).2 = some row := by
        unfold push
        rw [dif_pos h0]
      rw [hback, hempty]
      rfl
    · have hne : sb.rows ≠ [] := by
        intro hnil
        have hlen := length_rows sb
        rw [hnil, length_nil] at hlen
        omega
      rw [evicted_push sb row h0 (by omega), head?_append_of_ne_nil _ hne]

section

variable (h : sb.Represents d)
include h

theorem Represents.push (row : Row) : (sb.push row).1.Represents (d.push row).1 ∧ (sb.push row).2 = (d.push row).2 := by
  have hlen := h.len
  have hcap := h.capacity
  have hdrop := rows_push_eq_drop sb row
  have hreturns := push_returns sb row
  unfold BoundedDeque.push
  by_cases hroom : d.items.length < cap
  · rw [dif_pos hroom]
    rw [if_pos (by omega)] at hreturns
    rw [hreturns] at hdrop
    exact ⟨⟨(maxScrollback_push sb row).trans hcap, by rw [hdrop, h.rows]; rfl⟩, hreturns⟩
  · rw [dif_neg hroom]
    rw [if_neg (by omega), h.rows] at hreturns
    have hsome : (d.items ++ [row]).head?.isSome = true := by
      cases d.items <;> rfl
    rw [hreturns, if_pos hsome, h.rows, drop_one] at hdrop
    exact ⟨⟨(maxScrollback_push sb row).trans hcap, hdrop⟩, hreturns⟩

theorem Represents.popNewest : sb.popNewest.1.Represents d.popNewest.1 ∧ sb.popNewest.2 = d.popNewest.2 := by
  obtain ⟨hrows, hout⟩ := rows_popNewest sb
  rw [h.rows] at hrows hout
  exact ⟨⟨(maxScrollback_popNewest sb).trans h.capacity, hrows⟩, hout⟩

theorem Represents.get (i : Nat) : sb.get i = d.get i := by
  have hlen := h.len
  unfold BoundedDeque.get
  rw [get_eq, h.rows, hlen]
  split
  · next hi => rw [getElem?_reverse hi]
  · next hi => rw [getElem?_eq_none (by rw [length_reverse]; omega)]

theorem Represents.isEmpty : sb.isEmpty = d.items.isEmpty := by
  unfold ScrollbackBuffer.isEmpty
  rw [h.len]
  cases d.items <;> rfl

/-- **One operation**: the same answer, and the ring goes on representing the deque. -/
theorem Represents.step (op : ScrollbackOp) :
    (op.onRing sb).1.Represents (op.onDeque d).1 ∧ (op.onRing sb).2 = (op.onDeque d).2 := by
  cases op with
  | push row =>
    obtain ⟨hstep, hout⟩ := h.push row
    exact ⟨hstep, congrArg _ hout⟩
  | popNewest =>
    obtain ⟨hstep, hout⟩ := h.popNewest
    exact ⟨hstep, congrArg _ hout⟩
  | get index => exact ⟨h, congrArg _ (h.get index)⟩
  | iter => exact ⟨h, congrArg _ ((iter_eq sb).trans (congrArg _ h.rows))⟩
  | drainOldestFirst =>
    obtain ⟨hout, hrows, hmax⟩ := drainOldestFirst_eq sb
    exact ⟨⟨hmax.trans h.capacity, hrows⟩, congrArg _ (hout.trans h.rows)⟩
  | clear => exact ⟨⟨h.capacity, rows_clear sb⟩, rfl⟩
  | len => exact ⟨h, congrArg _ h.len⟩
  | isEmpty => exact ⟨h, congrArg _ h.isEmpty⟩

end

/-- **The ring is a bounded deque.** For every capacity and every sequence of operations the ring gives the answers
    that the deque gives, and holds the rows that it holds. -/
theorem answers_eq (cap : Nat) (ops : List ScrollbackOp) :
    answers (fun sb op => op.onRing sb) (new cap) ops
        = answers (fun d op => op.onDeque d) (BoundedDeque.empty cap) ops
      ∧ (run (fun sb op => (ScrollbackOp.onRing sb op).1) (new cap) ops).rows
        = (run (fun d op => (ScrollbackOp.onDeque d op).1) (BoundedDeque.empty cap) ops).items := by
  refine ⟨answers_simulation (fun sb d op h => h.step op) (represents_new cap) ops, ?_⟩
  have hsteps : ∀ (sb : ScrollbackBuffer) (d : BoundedDeque Row cap) op, sb.Represents d →
      (ScrollbackOp.onRing sb op).1.Represents (op.onDeque d).1 := fun sb d op h => (h.step op).1
  exact (run_simulation hsteps (represents_new cap) ops).rows

/-- A ring of two rows that has wrapped, gave a row back and is pushed to again. -/
example : answers (fun sb op => ScrollbackOp.onRing sb op) (new 2)
    [.push (Row.new 1), .push (Row.new 2), .push (Row.new 3), .popNewest, .push (Row.new 4), .iter]
    = [.row none, .row none, .row (some (Row.new 1)), .row (some (Row.new 3)), .row none,
        .rows [Row.new 4, Row.new 2]] := by decide

end ScrollbackBuffer

end OriTerm
