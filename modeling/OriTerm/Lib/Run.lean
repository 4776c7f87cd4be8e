import Mathlib.Data.List.Basic

/-!
# `Lib.Run` — runs of a state machine, and what holds along them

A machine is a total step function `step : σ → ε → σ`; a run feeds it a list of events. The file packages
the three inductions every client needs:

* `run_invariant` — a predicate kept by each step is kept by the run;
* `Along.invariant` — the same when each step is only known to keep it under a **guard** on the state before
  the step and the event (`Along step G s es`: every step of the run meets `G`);
* `run_simulation` — two machines fed the same events stay related.

Counted loops are the special case whose events are the indices: `forRange`, and `forRangeRev` downwards.

Nothing here mentions a particular program.
-/

namespace Lib

open List

variable {σ τ ε : Type*}

/-! ## Runs -/

/-- The state after feeding the events `es` to a machine started in `s`. -/
def run (step : σ → ε → σ) (s : σ) (es : List ε) : σ := es.foldl step s

variable {step : σ → ε → σ}

@[simp] theorem run_nil (s : σ) : run step s [] = s := rfl

@[simp] theorem run_cons (s : σ) (e : ε) (es : List ε) :
    run step s (e :: es) = run step (step s e) es := rfl

@[simp] theorem run_append (s : σ) (es es' : List ε) :
    run step s (es ++ es') = run step (run step s es) es' := foldl_append

/-- A predicate kept by each step is kept by the whole run. -/
theorem run_invariant {I : σ → Prop} (hstep : ∀ s e, I s → I (step s e)) {s : σ} (h : I s)
    (es : List ε) : I (run step s es) := by
  induction es generalizing s with
  | nil => exact h
  | cons e es ih => exact ih (hstep s e h)

/-- Two machines fed the same events stay related when each pair of steps keeps the relation. -/
theorem run_simulation {step' : τ → ε → τ} {R : σ → τ → Prop}
    (hstep : ∀ s t e, R s t → R (step s e) (step' t e)) {s : σ} {t : τ} (h : R s t) (es : List ε) :
    R (run step s es) (run step' t es) := by
  induction es generalizing s t with
  | nil => exact h
  | cons e es ih => exact ih (hstep s t e h)

/-! ## Guarded runs -/

/-- Every step of the run from `s` through `es` meets the guard `G`. -/
def Along (step : σ → ε → σ) (G : σ → ε → Prop) : σ → List ε → Prop
  | _, [] => True
  | s, e :: es => G s e ∧ Along step G (step s e) es

variable {G : σ → ε → Prop}

instance decidableAlong [∀ s e, Decidable (G s e)] : ∀ (s : σ) (es : List ε), Decidable (Along step G s es)
  | _, [] => isTrue trivial
  | s, e :: es => @instDecidableAnd _ _ _ (decidableAlong (step s e) es)

@[simp] theorem along_nil (s : σ) : Along step G s [] := trivial

@[simp] theorem along_cons (s : σ) (e : ε) (es : List ε) :
    Along step G s (e :: es) ↔ G s e ∧ Along step G (step s e) es := Iff.rfl

@[simp] theorem along_append (s : σ) (es es' : List ε) :
    Along step G s (es ++ es') ↔ Along step G s es ∧ Along step G (run step s es) es' := by
  induction es generalizing s with
  | nil => simp
  | cons e es ih => simp [ih, and_assoc]

/-- A predicate kept by each step that meets the guard is kept by a run all of whose steps meet it. -/
theorem Along.invariant {I : σ → Prop} (hstep : ∀ s e, I s → G s e → I (step s e)) {s : σ}
    (h : I s) {es : List ε} (hG : Along step G s es) : I (run step s es) := by
  induction es generalizing s with
  | nil => exact h
  | cons e es ih => exact ih (hstep s e h hG.1) hG.2

/-- A weaker guard. -/
theorem Along.imp {G' : σ → ε → Prop} (h : ∀ s e, G s e → G' s e) {s : σ} {es : List ε} (hG : Along step G s es) :
    Along step G' s es := by
  induction es generalizing s with
  | nil => trivial
  | cons e es ih => exact ⟨h s e hG.1, ih hG.2⟩

/-- A guard that implies another one under a predicate kept by every step. -/
theorem Along.imp_of_invariant {I : σ → Prop} {G' : σ → ε → Prop} (hstep : ∀ s e, I s → I (step s e))
    (h : ∀ s e, I s → G s e → G' s e) {s : σ} (hs : I s) {es : List ε} (hG : Along step G s es) : Along step G' s es := by
  induction es generalizing s with
  | nil => trivial
  | cons e es ih => exact ⟨h s e hs hG.1, ih (hstep s e hs) hG.2⟩

/-- A step that meets the guard keeps the predicate and meets another guard. -/
theorem Along.imp_of_step {I : σ → Prop} {G' : σ → ε → Prop} (hstep : ∀ s e, I s → G s e → I (step s e) ∧ G' s e) {s : σ}
    (hs : I s) {es : List ε} (hG : Along step G s es) : Along step G' s es := by
  induction es generalizing s with
  | nil => trivial
  | cons e es ih =>
    obtain ⟨hI, hG'⟩ := hstep s e hs hG.1
    exact ⟨hG', ih hI hG.2⟩

/-- A guard that every step meets. -/
theorem along_of_forall (h : ∀ s e, G s e) (s : σ) (es : List ε) : Along step G s es := by
  induction es generalizing s with
  | nil => trivial
  | cons e es ih => exact ⟨h s e, ih _⟩

/-- The guard is met at every point of the run. -/
theorem along_iff_getElem? {s : σ} {es : List ε} :
    Along step G s es ↔ ∀ n e, es[n]? = some e → G (run step s (es.take n)) e := by
  induction es generalizing s with
  | nil => simp
  | cons e es ih =>
    rw [along_cons, ih]
    constructor
    · rintro ⟨hG, h⟩ n e' he
      cases n with
      | zero =>
        obtain rfl := Option.some.inj he
        exact hG
      | succ n => exact h n e' he
    · exact fun h => ⟨h 0 e rfl, fun n e' he => h (n + 1) e' he⟩

/-- Where `K` is kept by the steps that start in `P`, and such a step stays in `P` exactly if it meets the
    guard, a run stays in `P` at every point exactly if all its steps meet the guard. -/
theorem along_iff_forall_take {P K : σ → Prop}
    (hstep : ∀ s e, K s → P s → K (step s e) ∧ (P (step s e) ↔ G s e)) {s : σ} (hK : K s) (hP : P s)
    {es : List ε} : (∀ n, P (run step s (es.take n))) ↔ Along step G s es := by
  induction es generalizing s with
  | nil => simpa using hP
  | cons e es ih =>
    obtain ⟨hK', hiff⟩ := hstep s e hK hP
    constructor
    · intro h
      have hP' : P (step s e) := h 1
      exact ⟨hiff.mp hP', (ih hK' hP').mp fun n => h (n + 1)⟩
    · rintro ⟨hG, hrest⟩ n
      cases n with
      | zero => exact hP
      | succ n => exact (ih hK' (hiff.mpr hG)).mpr hrest n

/-! ## Counted loops -/

/-- `for i in start..stop { x = f(i, x) }`. -/
def forRange (start stop : Nat) (f : Nat → σ → σ) (x : σ) : σ :=
  (List.range' start (stop - start)).foldl (fun x i => f i x) x

/-- `for i in (start..stop).rev() { x = f(i, x) }`. -/
def forRangeRev (start stop : Nat) (f : Nat → σ → σ) (x : σ) : σ :=
  (List.range' start (stop - start)).reverse.foldl (fun x i => f i x) x

/-- A predicate kept by each iteration is kept by the loop over any list of indices. -/
theorem foldl_invariant {P : σ → Prop} {f : Nat → σ → σ} {is : List Nat}
    (hstep : ∀ i ∈ is, ∀ x, P x → P (f i x)) {x : σ} (h : P x) : P (is.foldl (fun x i => f i x) x) := by
  induction is generalizing x with
  | nil => exact h
  | cons i is ih =>
    refine ih (fun j hj => hstep j (mem_cons_of_mem _ hj)) ?_
    exact hstep i (mem_cons_self ..) x h

@[simp] theorem forRange_self (n : Nat) (f : Nat → σ → σ) (x : σ) : forRange n n f x = x := by
  simp [forRange]

/-- The last iteration of a loop. -/
theorem forRange_succ {start stop : Nat} (f : Nat → σ → σ) (x : σ) (h : start ≤ stop) :
    forRange start (stop + 1) f x = f stop (forRange start stop f x) := by
  have hlen : stop + 1 - start = stop - start + 1 := by omega
  have hlast : start + 1 * (stop - start) = stop := by omega
  unfold forRange
  rw [hlen, range'_concat, foldl_append, hlast]
  rfl

section

variable {P : σ → Prop} {f : Nat → σ → σ} {start stop : Nat} (hstep : ∀ i x, start ≤ i → i < stop → P x → P (f i x))
  {x : σ} (h : P x)
include hstep h

theorem forRange_invariant : P (forRange start stop f x) := by
  refine foldl_invariant (fun i hi x hx => ?_) h
  have := mem_range'_1.mp hi
  exact hstep i x (by omega) (by omega) hx

theorem forRangeRev_invariant : P (forRangeRev start stop f x) := by
  refine foldl_invariant (fun i hi x hx => ?_) h
  have := mem_range'_1.mp (mem_reverse.mp hi)
  exact hstep i x (by omega) (by omega) hx

end

/-- The same with a predicate that follows the index. -/
theorem forRange_induction {P : Nat → σ → Prop} {f : Nat → σ → σ} {start stop : Nat} (hle : start ≤ stop)
    (hstep : ∀ i x, start ≤ i → i < stop → P i x → P (i + 1) (f i x)) {x : σ} (h : P start x) :
    P stop (forRange start stop f x) := by
  induction hle with
  | refl => rwa [forRange_self]
  | @step stop hle ih =>
    rw [forRange_succ f x hle]
    exact hstep stop _ hle (Nat.lt_succ_self _) (ih fun i x hs he => hstep i x hs (Nat.lt_succ_of_lt he))

/-- The first iteration of a loop that counts down. -/
theorem forRangeRev_succ {start stop : Nat} (f : Nat → σ → σ) (x : σ) (h : start ≤ stop) :
    forRangeRev start (stop + 1) f x = forRangeRev start stop f (f stop x) := by
  have hlen : stop + 1 - start = stop - start + 1 := by omega
  have hlast : start + 1 * (stop - start) = stop := by omega
  unfold forRangeRev
  rw [hlen, range'_concat, reverse_append, hlast]
  rfl

/-- Counting down, the index reaches `start`. -/
theorem forRangeRev_induction {P : Nat → σ → Prop} {f : Nat → σ → σ} {start stop : Nat} (hle : start ≤ stop)
    (hstep : ∀ i x, start ≤ i → i < stop → P (i + 1) x → P i (f i x)) {x : σ} (h : P stop x) :
    P start (forRangeRev start stop f x) := by
  induction hle generalizing x with
  | refl => simpa [forRangeRev] using h
  | @step stop hle ih =>
    rw [forRangeRev_succ f x hle]
    exact ih (fun i x hs he => hstep i x hs (Nat.lt_succ_of_lt he)) (hstep stop x hle (Nat.lt_succ_self _) h)

end Lib
