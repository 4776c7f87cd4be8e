import OriTerm.Core.RectOps

/-!
# `Core.SgrMasks` — parameter lists collapsed into masks

DECCARA and DECRARA take a list of parameters and edit each cell once, by masks made of the whole list. The reference
applies the parameters to the cell one after another.

**`sgr_masks_iff`** — for DECCARA that is the same for every list. For DECRARA it is the same exactly when no flag is
toggled by an even number of parameters but zero: the toggle masks are united, where a second toggle undoes the first.
-/

namespace OriTerm

open Lib Lib.Bitflags List CellFlags

/-- A DECCARA parameter by itself. -/
def applySgr (flags : CellFlags) (param : Nat) : CellFlags := edit flags (deccaraSetClear param)

/-- A DECRARA parameter by itself. -/
def reverseSgr (flags : CellFlags) (param : Nat) : CellFlags := flags ^^^ decraraToggleMask param

/-- **The masks mean what the parameters mean** one after another: for DECCARA and for DECRARA. -/
def MasksExact (params toggles : List Nat) : Prop :=
  (∀ flags, insert (remove flags (deccaraCombined params).2) (deccaraCombined params).1 = params.foldl applySgr flags)
    ∧ ∀ flags, flags ^^^ decraraCombined toggles = toggles.foldl reverseSgr flags

/-- How many of the parameters toggle a flag. -/
def timesToggled (toggles : List Nat) (flag : Nat) : Nat := toggles.countP fun p => (decraraToggleMask p).getLsbD flag

/-- A later parameter decides about the flags that it sets or clears. -/
theorem deccara_exact (params : List Nat) (flags : CellFlags) :
    edit flags (deccaraCombined params) = params.foldl applySgr flags := by
  have hfold : ∀ m : CellFlags × CellFlags, edit flags (params.foldl (fun m p =>
      (insert (remove m.1 (deccaraSetClear p).2) (deccaraSetClear p).1,
        insert (remove m.2 (deccaraSetClear p).1) (deccaraSetClear p).2)) m) = params.foldl applySgr (edit flags m) := by
    induction params with
    | nil => exact fun _ => rfl
    | cons p params ih =>
      intro m
      rw [foldl_cons, ih]
      exact congrArg (foldl applySgr · params) (edit_edit flags m (deccaraSetClear p)).symm
  exact (hfold (0, 0)).trans (congrArg (foldl applySgr · params) (edit_zero flags))

/-- **Combined masks equal sequential application** exactly when no flag is toggled an even number of times, but zero. -/
theorem sgr_masks_iff (params toggles : List Nat) :
    MasksExact params toggles ↔ ∀ flag, timesToggled toggles flag = 0 ∨ timesToggled toggles flag % 2 = 1 := by
  have hiff := xor_union_iff (toggles.map decraraToggleMask)
  simp only [foldl_map, countP_map] at hiff
  exact (and_iff_right (deccara_exact params)).trans hiff

/-- Bold is toggled twice, and stays toggled. -/
theorem bold_toggled_once : ¬ ∀ params toggles, MasksExact params toggles := by
  intro h
  have hbold := (h [] [1, 1]).2 0
  revert hbold
  decide

end OriTerm
