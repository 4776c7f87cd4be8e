import OriTerm.Lib.Run

/-!
# `Lib.Banks` — two banks of registers with a common save point

A machine has two banks of registers of which one is in use. Edits act on the bank in use, a swap puts the other one in
use, `save` remembers both banks, and `restore` brings both back and forgets them.

The shape of the file: what a single event does to a bank (`bank_step_of_spared`), what a run does to a bank that it
spares (`bank_run`), and what comes back at a restore (`bank_restore_save`). A property of registers that edits keep holds
of both banks along every run (`Holds.run`).

Nothing here mentions a particular program.
-/

namespace Lib

variable {κ ε : Type*}

/-- Two banks, the one in use, and the remembered contents of both. -/
@[ext] structure Banks (κ : Type*) where
  bank : Bool → κ
  inUse : Bool
  saved : Option (Bool → κ) := none

/-- What happens to the banks. -/
inductive BankEvent (ε : Type*) where
  | edit (e : ε)
  | swap
  | save
  | restore
  deriving DecidableEq

namespace BankEvent

/-- Neither saves nor restores. -/
def Quiet : BankEvent ε → Prop
  | edit _ | swap => True
  | save | restore => False

instance (e : BankEvent ε) : Decidable e.Quiet := by
  cases e <;> (unfold Quiet; infer_instance)

end BankEvent

namespace Banks

variable {f : κ → ε → κ} {b : Banks κ} {i : Bool}

variable {es : List (BankEvent ε)}

/-- The bank in use becomes `k`. -/
def put (b : Banks κ) (k : κ) : Banks κ := { b with bank := Function.update b.bank b.inUse k }

/-- One event; `f` is what an edit does to the registers. -/
def step (f : κ → ε → κ) (b : Banks κ) : BankEvent ε → Banks κ
  | .edit e => b.put (f (b.bank b.inUse) e)
  | .swap => { b with inUse := !b.inUse }
  | .save => { b with saved := some b.bank }
  | .restore =>
    match b.saved with
    | some k => { b with bank := k, saved := none }
    | none => b

/-- The event leaves bank `i` alone: it is no restore, and an edit finds the other bank in use. -/
def Spares (i : Bool) (b : Banks κ) : BankEvent ε → Prop
  | .edit _ => b.inUse ≠ i
  | .swap | .save => True
  | .restore => False

instance (i : Bool) (b : Banks κ) (e : BankEvent ε) : Decidable (Spares i b e) := by
  cases e <;> (unfold Spares; infer_instance)

/-! ## Banks that are spared -/

theorem bank_step_of_spared {e : BankEvent ε} (h : Spares i b e) : (step f b e).bank i = b.bank i := by
  cases e with
  | edit e =>
    have hne : i ≠ b.inUse := fun heq => h heq.symm
    exact Function.update_of_ne hne ..
  | swap | save => rfl
  | restore => exact absurd h id

/-- **A bank that is not in use keeps its registers**, as long as nothing is restored. -/
theorem bank_run (h : Along (step f) (Spares i) b es) : (run (step f) b es).bank i = b.bank i := by
  induction es generalizing b with
  | nil => rfl
  | cons e es ih =>
    obtain ⟨hfirst, hrest⟩ := h
    rw [run_cons, ih hrest]
    exact bank_step_of_spared hfirst

/-! ## Save points -/

theorem saved_step_of_quiet {e : BankEvent ε} (h : e.Quiet) : (step f b e).saved = b.saved := by
  cases e with
  | edit | swap => rfl
  | save | restore => exact absurd h id

theorem saved_run (h : ∀ e ∈ es, e.Quiet) : (run (step f) b es).saved = b.saved := by
  induction es generalizing b with
  | nil => rfl
  | cons e es ih =>
    rw [run_cons, ih fun e' he' => h e' (List.mem_cons_of_mem _ he')]
    exact saved_step_of_quiet (h e (List.mem_cons_self ..))

theorem saved_restore (b : Banks κ) : (step f b .restore).saved = none := by
  unfold step
  dsimp only
  split
  · rfl
  · next h => exact h

/-- A restore with nothing remembered changes nothing. -/
theorem step_restore_of_none (h : b.saved = none) : step f b .restore = b := by
  unfold step
  rw [h]

theorem bank_restore_of_saved {k : Bool → κ} (h : b.saved = some k) : (step f b .restore).bank = k := by
  unfold step
  rw [h]

/-- **A restore brings both banks back**, whatever was edited or swapped since they were saved. -/
theorem bank_restore_save (h : ∀ e ∈ es, e.Quiet) :
    (step f (run (step f) (step f b .save) es) .restore).bank = b.bank := by
  refine bank_restore_of_saved ?_
  rw [saved_run h]
  rfl

/-- **Nothing is restored twice.** -/
theorem restore_again (h : ∀ e ∈ es, e.Quiet) :
    step f (run (step f) (step f b .restore) es) .restore = run (step f) (step f b .restore) es := by
  refine step_restore_of_none ?_
  rw [saved_run h]
  exact saved_restore b

/-! ## Properties of registers -/

/-- The property holds of both banks and of what is remembered of them. -/
structure Holds (P : κ → Prop) (b : Banks κ) : Prop where
  bank : ∀ i, P (b.bank i)
  saved : ∀ k ∈ b.saved, ∀ i, P (k i)

variable {P : κ → Prop}

theorem Holds.step (h : Holds P b) (hedit : ∀ k e, P k → P (f k e)) (e : BankEvent ε) : Holds P (Banks.step f b e) := by
  cases e with
  | edit e =>
    refine ⟨fun i => ?_, h.saved⟩
    show P (Function.update b.bank b.inUse _ i)
    by_cases hi : i = b.inUse
    · rw [hi, Function.update_self]
      exact hedit _ e (h.bank b.inUse)
    · rw [Function.update_of_ne hi]
      exact h.bank i
  | swap => exact ⟨h.bank, h.saved⟩
  | save =>
    refine ⟨h.bank, fun k hk => ?_⟩
    obtain rfl := Option.some.inj hk
    exact h.bank
  | restore =>
    cases hs : b.saved with
    | none =>
      rw [step_restore_of_none hs]
      exact h
    | some k =>
      refine ⟨fun i => ?_, fun k' hk' => ?_⟩
      · rw [bank_restore_of_saved hs]
        exact h.saved k hs i
      · rw [saved_restore] at hk'
        cases hk'

/-- **What edits keep holds of both banks along every run.** -/
theorem Holds.run (h : Holds P b) (hedit : ∀ k e, P k → P (f k e)) (es : List (BankEvent ε)) :
    Holds P (Lib.run (Banks.step f) b es) :=
  run_invariant (fun _ e hb => hb.step hedit e) h es

end Banks

end Lib
