import OriTerm.Lib.Run

/-!
# `Lib.Deque` — a bounded deque, and machines that answer

`BoundedDeque α cap` is the abstract queue behind a ring buffer: at most `cap` elements, oldest first. A push that
finds it full lets the oldest element go and returns it; the newest element can be taken back.

`answers` collects what a machine replies along a run. Two machines whose steps keep a relation and reply alike give
the same answers (`answers_simulation`).
-/

namespace Lib

open List

variable {α σ τ ε ρ : Type*}

/-! ## Machines that answer -/

/-- The replies along a run. -/
def answers (step : σ → ε → σ × ρ) : σ → List ε → List ρ
  | _, [] => []
  | s, e :: es => (step s e).2 :: answers step (step s e).1 es

theorem answers_simulation {step : σ → ε → σ × ρ} {step' : τ → ε → τ × ρ} {R : σ → τ → Prop}
    (hstep : ∀ s t e, R s t → R (step s e).1 (step' t e).1 ∧ (step s e).2 = (step' t e).2) {s : σ} {t : τ} (h : R s t)
    (es : List ε) : answers step s es = answers step' t es := by
  induction es generalizing s t with
  | nil => rfl
  | cons e es ih =>
    obtain ⟨hR, hreply⟩ := hstep s t e h
    unfold answers
    rw [hreply, ih hR]

/-! ## The deque -/

/-- At most `cap` elements, the oldest first. -/
structure BoundedDeque (α : Type*) (cap : Nat) where
  items : List α
  bounded : items.length ≤ cap

namespace BoundedDeque

variable {cap : Nat}

variable (d : BoundedDeque α cap)

def empty (cap : Nat) : BoundedDeque α cap := ⟨[], Nat.zero_le _⟩

/-- Adds an element at the new end; what no longer fits leaves at the old end. -/
def push (a : α) : BoundedDeque α cap × Option α :=
  if h : d.items.length < cap then
    (⟨d.items ++ [a], by rw [length_append, length_singleton]; exact h⟩, none)
  else
    (⟨(d.items ++ [a]).tail, by
      have := d.bounded
      rw [length_tail, length_append, length_singleton]
      omega⟩, (d.items ++ [a]).head?)

/-- Takes the newest element back. -/
def popNewest : BoundedDeque α cap × Option α :=
  (⟨d.items.dropLast, by have := d.bounded; rw [length_dropLast]; omega⟩, d.items.getLast?)

/-- The `i`-th newest element. -/
def get (i : Nat) : Option α := d.items.reverse[i]?

end BoundedDeque

end Lib
