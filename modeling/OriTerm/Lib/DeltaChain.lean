import Mathlib.Data.List.Nodup
import Mathlib.Data.List.Count

/-!
# `Lib.DeltaChain` — entries stored whole or as a patch over another entry

A `DeltaChain` describes entries with ids: each is either whole, or a patch over the entry of another id. What an
entry stands for in a list of entries is the relation **`Resolves`**; `resolve` computes it by following the bases,
with fuel.

* `Resolves.transfer` — the one fact behind every edit of such a store: an entry keeps its meaning when each entry
  something is based on is kept, or replaced under its id by a whole entry of the same meaning;
* `Chained.resolve_eq` — where bases exist and have smaller ids, the number of entries is fuel enough;
* `EndsWithin` — the chain of an entry ends at a whole entry after a bounded number of patches.

Nothing here mentions a particular program.
-/

namespace Lib

open List

/-- Entries `ε` standing for values `α`. -/
structure DeltaChain (ε α : Type*) where
  id : ε → Nat
  /-- The id of the entry that an entry is a patch over. -/
  base : ε → Option Nat
  /-- The value of a whole entry. -/
  full : ε → Option α
  /-- Applies the patch of an entry to the value of its base. -/
  patch : ε → α → Option α

namespace DeltaChain

variable {ε α : Type*} (C : DeltaChain ε α)

/-! ## Meaning -/

/-- **What an entry stands for** among the entries `es`. -/
inductive Resolves (es : List ε) : ε → α → Prop
  | full {e : ε} {a : α} (hbase : C.base e = none) (hfull : C.full e = some a) : Resolves es e a
  | patch {e d : ε} {b : Nat} {x a : α} (hbase : C.base e = some b) (hd : d ∈ es) (hid : C.id d = b)
      (hx : Resolves es d x) (hpatch : C.patch e x = some a) : Resolves es e a

/-- An entry of `es` is based on `d`. -/
def Referenced (es : List ε) (d : ε) : Prop := ∃ e ∈ es, C.base e = some (C.id d)

/-- `e'` says what `e` says among `es`: it is the same entry, or a whole one of the same value. -/
def Restates (es : List ε) (e e' : ε) : Prop :=
  C.id e' = C.id e ∧ (e' = e ∨ C.base e' = none ∧ ∀ a, C.Resolves es e a → C.full e' = some a)

variable {C} {es es' : List ε} {e e' d : ε} {a a' : α}

theorem Restates.refl (es : List ε) (e : ε) : C.Restates es e e := ⟨rfl, .inl rfl⟩

/-- **An entry keeps its meaning** when what other entries are based on is restated. -/
theorem Resolves.transfer (h : ∀ d ∈ es, C.Referenced es d → ∃ d' ∈ es', C.Restates es d d') (hr : C.Resolves es e a)
    (he : e ∈ es) (hrestates : C.Restates es e e') : C.Resolves es' e' a := by
  induction hr generalizing e' with
  | full hbase hfull =>
    rcases hrestates.2 with rfl | ⟨hbase', hfull'⟩
    · exact .full hbase hfull
    · exact .full hbase' (hfull' _ (.full hbase hfull))
  | @patch e d b x a hbase hd hid hx hpatch ih =>
    rcases hrestates.2 with rfl | ⟨hbase', hfull'⟩
    · obtain ⟨d', hd', hrestates'⟩ := h d hd ⟨e', he, by rw [hbase, hid]⟩
      exact .patch hbase hd' (hrestates'.1.trans hid) (ih hd hrestates') hpatch
    · exact .full hbase' (hfull' _ (.patch hbase hd hid hx hpatch))

/-- More entries do not change what an entry stands for. -/
theorem Resolves.mono (h : es ⊆ es') (hr : C.Resolves es e a) (he : e ∈ es) : C.Resolves es' e a :=
  hr.transfer (fun d hd _ => ⟨d, h hd, .refl es d⟩) he (.refl es e)

/-! ## Computation -/

/-- Follows the bases of an entry, at most `fuel` of them. -/
def resolve (C : DeltaChain ε α) (es : List ε) : Nat → ε → Option α
  | 0, e => if (C.base e).isSome then none else C.full e
  | fuel + 1, e =>
    match C.base e with
    | none => C.full e
    | some b => ((es.find? fun d => C.id d == b).bind (C.resolve es fuel)).bind (C.patch e)

/-- Ids are distinct, and each base exists with a smaller id. -/
structure Chained (C : DeltaChain ε α) (es : List ε) : Prop where
  distinct : (es.map C.id).Nodup
  base : ∀ e ∈ es, ∀ b, C.base e = some b → ∃ d ∈ es, C.id d = b ∧ b < C.id e

theorem eq_of_id (h : (es.map C.id).Nodup) (he : e ∈ es) (hd : d ∈ es) (hid : C.id e = C.id d) : e = d :=
  inj_on_of_nodup_map h he hd hid

theorem find_of_id (h : (es.map C.id).Nodup) (hd : d ∈ es) : es.find? (fun e => C.id e == C.id d) = some d := by
  have hsome : (es.find? fun e => C.id e == C.id d).isSome = true := find?_isSome.mpr ⟨d, hd, beq_self_eq_true _⟩
  obtain ⟨e, hfound⟩ := Option.isSome_iff_exists.mp hsome
  have hid : (C.id e == C.id d) = true := by simpa only using find?_some hfound
  rw [hfound, eq_of_id h (mem_of_find?_eq_some hfound) hd (beq_iff_eq.mp hid)]

/-- How many entries have smaller ids. -/
def rank (C : DeltaChain ε α) (es : List ε) (e : ε) : Nat := es.countP fun d => C.id d < C.id e

theorem rank_lt (hd : d ∈ es) (hlt : C.id d < C.id e) : C.rank es d < C.rank es e := by
  unfold rank
  induction es with
  | nil => cases hd
  | cons x es ih =>
    rw [countP_cons, countP_cons]
    have hle : es.countP (fun y => decide (C.id y < C.id d)) ≤ es.countP fun y => decide (C.id y < C.id e) :=
      countP_mono_left fun y _ hy => decide_eq_true (Nat.lt_trans (of_decide_eq_true hy) hlt)
    rcases mem_cons.mp hd with rfl | hd
    · rw [decide_eq_false (Nat.lt_irrefl _), decide_eq_true hlt]
      exact Nat.lt_succ_of_le hle
    · have hrest := ih hd
      by_cases hx : C.id x < C.id d
      · rw [decide_eq_true hx, decide_eq_true (Nat.lt_trans hx hlt)]
        exact Nat.succ_lt_succ hrest
      · rw [decide_eq_false hx]
        exact Nat.lt_of_lt_of_le hrest (Nat.le_add_right ..)

/-- The entries of smaller id are fuel enough. -/
theorem Resolves.resolve_eq (hc : C.Chained es) (hr : C.Resolves es e a) (he : e ∈ es) {fuel : Nat}
    (hfuel : C.rank es e ≤ fuel) : C.resolve es fuel e = some a := by
  induction hr generalizing fuel with
  | full hbase hfull =>
    cases fuel with
    | zero | succ => rw [resolve, hbase]; exact hfull
  | @patch e d b x a hbase hd hid hx hpatch ih =>
    obtain ⟨d', hd', hid', hlt⟩ := hc.base e he b hbase
    subst hid
    have hrank := rank_lt hd hlt
    obtain ⟨fuel, rfl⟩ := Nat.exists_eq_add_one.mpr (Nat.lt_of_le_of_lt (Nat.zero_le _) (Nat.lt_of_lt_of_le hrank hfuel))
    have hbelow := ih hd (Nat.le_of_lt_succ (Nat.lt_of_lt_of_le hrank hfuel))
    rw [resolve, hbase]
    show ((es.find? fun y => C.id y == C.id d).bind (C.resolve es fuel)).bind (C.patch e) = some a
    rw [find_of_id hc.distinct hd, Option.bind_some, hbelow]
    exact hpatch

theorem rank_le_length (C : DeltaChain ε α) (es : List ε) (e : ε) : C.rank es e ≤ es.length := countP_le_length ..

/-- **What an entry stands for is computed**, and therefore unique. -/
theorem Chained.resolve_eq (hc : C.Chained es) (hr : C.Resolves es e a) (he : e ∈ es) :
    C.resolve es es.length e = some a := hr.resolve_eq hc he (rank_le_length ..)

theorem Resolves.unique (hc : C.Chained es) (h : C.Resolves es e a) (h' : C.Resolves es e a') (he : e ∈ es) : a = a' :=
  Option.some.inj ((hc.resolve_eq h he).symm.trans (hc.resolve_eq h' he))

/-! ## Length of chains -/

/-- The chain of an entry ends at a whole entry after at most `n` patches. -/
inductive EndsWithin (C : DeltaChain ε α) (es : List ε) : Nat → ε → Prop
  | full {n : Nat} {e : ε} (hbase : C.base e = none) : EndsWithin C es n e
  | patch {n : Nat} {e d : ε} (hbase : C.base e = some (C.id d)) (hd : d ∈ es) (h : EndsWithin C es n d) :
      EndsWithin C es (n + 1) e

theorem EndsWithin.mono {n m : Nat} (h : C.EndsWithin es n e) (hle : n ≤ m) : C.EndsWithin es m e := by
  induction h generalizing m with
  | full hbase => exact .full hbase
  | patch hbase hd _ ih =>
    obtain ⟨m, rfl⟩ := Nat.exists_eq_add_one.mpr (Nat.lt_of_lt_of_le (Nat.succ_pos _) hle)
    exact .patch hbase hd (ih (Nat.le_of_succ_le_succ hle))

/-- A measure that falls from each patch to a patch below it bounds the chain. -/
theorem endsWithin_of_measure {depth : ε → Nat}
    (h : ∀ e ∈ es, ∀ b, C.base e = some b → ∃ d ∈ es, C.id d = b ∧ ((C.base d).isSome = true → depth d < depth e))
    (he : e ∈ es) : C.EndsWithin es (depth e + 1) e := by
  generalize hn : depth e = n
  induction n using Nat.strongRecOn generalizing e with
  | _ n ih =>
    cases hbase : C.base e with
    | none => exact .full hbase
    | some b =>
      obtain ⟨d, hd, rfl, hlt⟩ := h e he b hbase
      cases hd' : C.base d with
      | none => exact .patch hbase hd (.full hd')
      | some b' =>
        have hless : depth d < n := by
          rw [← hn]
          exact hlt (by rw [hd']; rfl)
        exact .patch hbase hd ((ih (depth d) hless hd rfl).mono hless)

end DeltaChain

end Lib
