import OriTerm.Lib.Run
import OriTerm.Term.Renderable

/-!
# `Mux.SnapshotDoubleBuffer` — the latest-only mailbox between the IO thread and the main thread

The producer `flipSwap`s a finished snapshot to the front; the consumer `swapFront`s it out. Both run under
one lock, so every interleaving of the two threads is a list of `Event`s fed to the slot.

The file compares the slot with its purpose, stated as an abstract mailbox that **keeps** every snapshot
published since the last successful swap (`unconsumed`). `Mirrors` ties the two together, and
`mirrors_run` carries it over every interleaving. What the consumer then obtains is the last published
snapshot with `all_dirty` raised when something was skipped; `images_dirty` of a skipped snapshot is not
folded in.
-/

namespace OriTerm

open Lib

/-- The state behind the lock. -/
structure DoubleBufferSlot where
  front : RenderableContent
  seqno : Nat
  consumedSeqno : Nat
  deriving DecidableEq, Repr

namespace DoubleBufferSlot

variable (slot : DoubleBufferSlot) (es : List Event)

/-- An empty double buffer. -/
def new : DoubleBufferSlot := { front := {}, seqno := 0, consumedSeqno := 0 }

/-- The completed buffer becomes the front; the caller gets the old front back for reuse. An unconsumed
    front raises `all_dirty` on the new one. -/
def flipSwap (buf : RenderableContent) : DoubleBufferSlot × RenderableContent :=
  let skipped := slot.seqno > slot.consumedSeqno
  let front := if skipped then { buf with allDirty := true } else buf
  ({ slot with front := front, seqno := slot.seqno + 1 }, slot.front)

/-- Swaps the front with the caller's buffer when it has not been consumed yet. -/
def swapFront (callerBuf : RenderableContent) : Bool × DoubleBufferSlot × RenderableContent :=
  if slot.seqno = slot.consumedSeqno then (false, slot, callerBuf)
  else (true, { slot with front := callerBuf, consumedSeqno := slot.seqno }, slot.front)

/-- A snapshot is waiting. -/
def hasNew : Bool := slot.seqno > slot.consumedSeqno

/-! ## Interleavings -/

/-- One locked call of either thread, with the buffer it passes. -/
inductive Event where
  | flip (buf : RenderableContent)
  | swap (callerBuf : RenderableContent)
  deriving Repr

/-- The slot after one call. -/
def step : Event → DoubleBufferSlot
  | .flip buf => (slot.flipSwap buf).1
  | .swap callerBuf => (slot.swapFront callerBuf).2.1

/-! ## The abstract mailbox -/

/-- The mailbox that forgets nothing: the snapshots published since the last successful swap, oldest first. -/
def keep (pending : List RenderableContent) : Event → List RenderableContent
  | .flip buf => pending ++ [buf]
  | .swap _ => []

/-- The snapshots still unconsumed after the calls `es`. -/
def unconsumed : List RenderableContent := run keep [] es

/-- The slot holds the newest pending snapshot, with `all_dirty` raised when it overwrote another, and its
    counters differ by the number of pending snapshots. -/
structure Mirrors (slot : DoubleBufferSlot) (pending : List RenderableContent) : Prop where
  seqno_eq : slot.seqno = slot.consumedSeqno + pending.length
  front_eq : ∀ last, pending.getLast? = some last →
    slot.front = { last with allDirty := last.allDirty || decide (1 < pending.length) }

theorem mirrors_new : Mirrors new [] := ⟨rfl, by simp⟩

theorem mirrors_step {slot : DoubleBufferSlot} {pending : List RenderableContent} (e : Event)
    (h : Mirrors slot pending) : Mirrors (slot.step e) (keep pending e) := by
  obtain ⟨hseq, hfront⟩ := h
  cases e with
  | flip buf =>
    refine ⟨by simp [step, flipSwap, keep, hseq, Nat.add_assoc], ?_⟩
    intro last hlast
    have hbuf : buf = last := by simpa [keep] using hlast
    subst hbuf
    cases pending with
    | nil | cons => simp [step, flipSwap, keep, hseq]
  | swap callerBuf =>
    refine ⟨?_, by simp [keep]⟩
    by_cases hnew : slot.seqno = slot.consumedSeqno <;> simp [step, swapFront, keep, hnew]

/-- **Every interleaving keeps the slot in step with the mailbox that forgets nothing.** -/
theorem mirrors_run : Mirrors (run step new es) (unconsumed es) :=
  run_simulation (fun _ _ e h => mirrors_step e h) mirrors_new es

/-- What a successful swap obtains: the newest pending snapshot, `all_dirty` raised when it is not alone. -/
theorem swapFront_obtains {es : List Event} {callerBuf : RenderableContent}
    (h : ((run step new es).swapFront callerBuf).1 = true) :
    ∃ last, (unconsumed es).getLast? = some last ∧
      ((run step new es).swapFront callerBuf).2.2 =
        { last with allDirty := last.allDirty || decide (1 < (unconsumed es).length) } := by
  obtain ⟨hseq, hfront⟩ := mirrors_run es
  by_cases hnew : (run step new es).seqno = (run step new es).consumedSeqno
  · simp [swapFront, hnew] at h
  · have hne : unconsumed es ≠ [] := by
      intro hnil
      rw [hnil] at hseq
      exact hnew hseq
    have hlast := List.getLast?_eq_some_getLast hne
    exact ⟨_, hlast, by simp only [swapFront, hnew]; exact hfront _ hlast⟩

/-! ## Merging the damage of skipped snapshots -/

/-- `obtained` has the content of the last of `published` and at least the damage of all of them. -/
structure MergesDamage (published : List RenderableContent) (obtained : RenderableContent) : Prop where
  content : ∀ last, published.getLast? = some last → obtained.SameContent last
  allDirty : ∀ c ∈ published, c.allDirty = true → obtained.allDirty = true
  damage : ∀ c ∈ published, ∀ line col, c.damaged line col = true → obtained.damaged line col = true
  imagesDirty : ∀ c ∈ published, c.imagesDirty = true → obtained.imagesDirty = true

/-- In a list of at most one element every member is the last one. -/
theorem eq_of_mem_of_length_le_one {published : List RenderableContent} {c last : RenderableContent}
    (hlen : ¬ 1 < published.length) (hc : c ∈ published) (hlast : published.getLast? = some last) :
    c = last := by
  match published with
  | [] => simp at hc
  | [p] => simp_all
  | _ :: _ :: _ => simp at hlen

end DoubleBufferSlot

end OriTerm
