import OriTerm.Lib.Banks
import OriTerm.Term.HandlerKeeps
import OriTerm.Term.Shell

/-!
# `Term.Keyboard` — the kitty keyboard state belongs to a screen

Each screen has a stack of keyboard modes and the modes that are live on it. The terminal keeps those of the screen in
use, those of the other one, and what was remembered of both at the last command boundary, in seven fields that a screen
swap exchanges. `Term.keyboards` reads the fields as two banks of registers (`Lib.Banks`), and each operation is one event
of the banks (`KeyboardOp.keyboards_apply`), whichever screen is in use.

`keyboards_run` collects what follows: a screen finds the state it was left with, a restore brings both screens back to
the last command boundary, once, and no stack grows past its maximum depth.
-/

namespace OriTerm

open Lib Lib.Bitflags Option

/-! ## Modes and flags -/

/-- A single flag of a mode. -/
theorem and_flag (mode flag : TermMode) (h : ∃ n : Nat, flag = 1#64 <<< n) :
    mode &&& flag = if contains mode flag then flag else 0 := by
  obtain ⟨n, rfl⟩ := h
  split
  · next hc => exact beq_iff_eq.mp hc
  · next hc =>
    by_contra hne
    have hsome : intersects mode (1#64 <<< n) = true := by simpa [intersects] using hne
    exact hc (contains_of_intersects_bit hsome)

/-- **The kitty part of a mode survives the change of representation.** -/
theorem toTermMode_ofTermMode (mode : TermMode) :
    (KeyboardModes.ofTermMode mode).toTermMode = mode &&& TermMode.kittyKeyboardProtocol := by
  have hsplit : mode &&& TermMode.kittyKeyboardProtocol =
      (mode &&& .disambiguateEscCodes) ||| (mode &&& .reportEventTypes) ||| (mode &&& .reportAlternateKeys)
        ||| (mode &&& .reportAllKeysAsEsc) ||| (mode &&& .reportAssociatedText) := by
    unfold TermMode.kittyKeyboardProtocol
    simp [BitVec.and_or_distrib_left]
  rw [hsplit, and_flag mode .disambiguateEscCodes ⟨18, rfl⟩, and_flag mode .reportEventTypes ⟨19, rfl⟩,
    and_flag mode .reportAlternateKeys ⟨20, rfl⟩, and_flag mode .reportAllKeysAsEsc ⟨21, rfl⟩,
    and_flag mode .reportAssociatedText ⟨22, rfl⟩]
  have hall : ∀ a b c d e : Bool,
      KeyboardModes.toTermMode (set (set (set (set (set 0 KeyboardModes.disambiguateEscCodes a)
        KeyboardModes.reportEventTypes b) KeyboardModes.reportAlternateKeys c) KeyboardModes.reportAllKeysAsEsc d)
        KeyboardModes.reportAssociatedText e) =
      (if a then TermMode.disambiguateEscCodes else 0) ||| (if b then TermMode.reportEventTypes else 0)
        ||| (if c then TermMode.reportAlternateKeys else 0) ||| (if d then TermMode.reportAllKeysAsEsc else 0)
        ||| (if e then TermMode.reportAssociatedText else 0) := by
    decide
  exact hall ..

/-! ## The keyboard state of a screen -/

/-- The stack of a screen, and the flags in force on it. -/
structure Keyboard where
  stack : List KeyboardModes
  live : TermMode
  deriving DecidableEq, Repr

/-- What changes the state of the screen in use. -/
inductive KeyboardEdit where
  | push (mode : KeyboardModes)
  | pop (toPop : Nat)
  | set (mode : KeyboardModes) (apply : KeyboardModesApplyBehavior)
  deriving DecidableEq, Repr

namespace Keyboard

/-- How new flags combine with the ones in force. -/
def combine (live new : TermMode) : KeyboardModesApplyBehavior → TermMode
  | .replace => new
  | .union => live ||| new
  | .difference => live &&& ~~~new

/-- One edit. -/
def edit (k : Keyboard) : KeyboardEdit → Keyboard
  | .push mode =>
    { stack := (if k.stack.length ≥ Term.keyboardModeStackMaxDepth then k.stack.drop 1 else k.stack) ++ [mode]
      live := mode.toTermMode }
  | .pop toPop =>
    let stack := k.stack.take (k.stack.length - toPop)
    { stack, live := (stack.getLast?.getD .noMode).toTermMode }
  | .set mode apply => { k with live := combine k.live mode.toTermMode apply }

/-- The stack is within its bound. -/
def Bounded (k : Keyboard) : Prop := k.stack.length ≤ Term.keyboardModeStackMaxDepth

theorem Bounded.edit {k : Keyboard} (h : k.Bounded) (e : KeyboardEdit) : (k.edit e).Bounded := by
  unfold Bounded at h ⊢
  cases e with
  | push mode =>
    show ((if k.stack.length ≥ Term.keyboardModeStackMaxDepth then k.stack.drop 1 else k.stack) ++ [mode]).length ≤ _
    have hpos : 0 < Term.keyboardModeStackMaxDepth := by decide
    rw [List.length_append, List.length_singleton]
    split
    · rw [List.length_drop]
      omega
    · omega
  | pop toPop =>
    show (k.stack.take (k.stack.length - toPop)).length ≤ _
    rw [List.length_take]
    omega
  | set mode apply => exact h

end Keyboard

/-! ## The fields of the terminal -/

/-- The operations on the keyboard state: the escape sequences, the three screen swaps, and the command boundaries of
    OSC 133 (C remembers, A and D restore). -/
inductive KeyboardOp where
  | push (mode : KeyboardModes)
  | pop (toPop : Nat)
  | set (mode : KeyboardModes) (apply : KeyboardModesApplyBehavior)
  | swapAlt
  | swapAltNoCursor
  | swapAltClear
  | snapshot
  | restore
  deriving DecidableEq, Repr

namespace KeyboardOp

def apply (t : Term) : KeyboardOp → Term
  | push mode => t.pushKeyboardMode mode
  | pop toPop => t.popKeyboardModes toPop
  | set mode apply => t.setKeyboardMode mode apply
  | swapAlt => t.swapAlt
  | swapAltNoCursor => t.swapAltNoCursor
  | swapAltClear => t.swapAltClear
  | snapshot => t.snapshotKeyboardModeStack
  | restore => t.restoreKeyboardModeStack

/-- What the operation is for the two banks. -/
def event : KeyboardOp → BankEvent KeyboardEdit
  | push mode => .edit (.push mode)
  | pop toPop => .edit (.pop toPop)
  | set mode apply => .edit (.set mode apply)
  | swapAlt | swapAltNoCursor | swapAltClear => .swap
  | snapshot => .save
  | restore => .restore

end KeyboardOp

namespace Term

variable {t t' : Term}

/-- The flags in force. -/
def live (t : Term) : TermMode := t.mode &&& TermMode.kittyKeyboardProtocol

/-- What a screen remembers: a stack and flags, which are remembered together. -/
def remembered (stack : Option (List KeyboardModes)) (bits : Option KeyboardModes) : Option Keyboard :=
  match stack, bits with
  | some stack, some bits => some ⟨stack, bits.toTermMode⟩
  | _, _ => none

/-- The banks, told from the screen in use: what is in force on it and on the other one, and what is remembered of each. -/
def banks (alt : Bool) (active inactive : Keyboard) (savedActive savedInactive : Option Keyboard) : Banks Keyboard where
  bank := fun i => if i = alt then active else inactive
  inUse := alt
  saved :=
    match savedActive, savedInactive with
    | some a, some b => some fun i => if i = alt then a else b
    | _, _ => none

/-- **The keyboard state of both screens**, `true` being the alternate one. -/
def keyboards (t : Term) : Banks Keyboard :=
  banks t.altActive ⟨t.keyboardModeStack, t.live⟩ ⟨t.inactiveKeyboardModeStack, t.inactiveKeyboardModeBits.toTermMode⟩
    (remembered t.preCommandKbStackSnapshot t.preCommandKbModeBitsSnapshot)
    (remembered t.inactivePreCommandKbStackSnapshot t.inactivePreCommandKbModeBitsSnapshot)

section Banks

variable {alt : Bool} {active inactive : Keyboard} {savedActive savedInactive : Option Keyboard}

theorem banks_inUse : (banks alt active inactive savedActive savedInactive).bank alt = active := if_pos rfl

theorem banks_put (k : Keyboard) :
    (banks alt active inactive savedActive savedInactive).put k = banks alt k inactive savedActive savedInactive := by
  refine Banks.ext ?_ rfl rfl
  funext i
  show Function.update (fun i => if i = alt then active else inactive) alt k i = if i = alt then k else inactive
  by_cases hi : i = alt
  · rw [hi, Function.update_self, if_pos rfl]
  · rw [Function.update_of_ne hi, if_neg hi, if_neg hi]

theorem banks_swap :
    Banks.step Keyboard.edit (banks alt active inactive savedActive savedInactive) .swap =
      banks (!alt) inactive active savedInactive savedActive := by
  have hother : ∀ (k k' : Keyboard), (fun i : Bool => if i = alt then k else k') = fun i => if i = !alt then k' else k := by
    intro k k'
    funext i
    cases i <;> cases alt <;> rfl
  refine Banks.ext (hother active inactive) rfl ?_
  cases savedActive with
  | none => cases savedInactive <;> rfl
  | some a =>
    cases savedInactive with
    | none => rfl
    | some b => exact congrArg some (hother a b)

end Banks

/-- The four snapshots are made and used up together. -/
structure SnapshotsPaired (t : Term) : Prop where
  bits : t.preCommandKbModeBitsSnapshot.isSome = t.preCommandKbStackSnapshot.isSome
  stack : t.inactivePreCommandKbStackSnapshot.isSome = t.preCommandKbStackSnapshot.isSome
  inactiveBits : t.inactivePreCommandKbModeBitsSnapshot.isSome = t.preCommandKbStackSnapshot.isSome

/-- The fields that the keyboard state is read from are the same. -/
structure SameKeyboard (t t' : Term) : Prop where
  mode : t'.mode = t.mode
  stack : t'.keyboardModeStack = t.keyboardModeStack
  inactiveStack : t'.inactiveKeyboardModeStack = t.inactiveKeyboardModeStack
  stackSnapshot : t'.preCommandKbStackSnapshot = t.preCommandKbStackSnapshot
  inactiveStackSnapshot : t'.inactivePreCommandKbStackSnapshot = t.inactivePreCommandKbStackSnapshot
  bitsSnapshot : t'.preCommandKbModeBitsSnapshot = t.preCommandKbModeBitsSnapshot
  inactiveBitsSnapshot : t'.inactivePreCommandKbModeBitsSnapshot = t.inactivePreCommandKbModeBitsSnapshot
  inactiveBits : t'.inactiveKeyboardModeBits = t.inactiveKeyboardModeBits

theorem SameKeyboard.keyboards (h : SameKeyboard t t') : t'.keyboards = t.keyboards := by
  unfold Term.keyboards live altActive
  rw [h.mode, h.stack, h.inactiveStack, h.stackSnapshot, h.inactiveStackSnapshot, h.bitsSnapshot, h.inactiveBitsSnapshot,
    h.inactiveBits]

theorem SameKeyboard.paired (h : SameKeyboard t t') (hp : t.SnapshotsPaired) : t'.SnapshotsPaired := by
  refine ⟨?_, ?_, ?_⟩
  · rw [h.bitsSnapshot, h.stackSnapshot]
    exact hp.bits
  · rw [h.inactiveStackSnapshot, h.stackSnapshot]
    exact hp.stack
  · rw [h.inactiveBitsSnapshot, h.stackSnapshot]
    exact hp.inactiveBits

theorem sameKeyboard_onGrid (t : Term) (f : Grid → Grid) : SameKeyboard t (t.onGrid f) := by
  unfold onGrid
  split <;> exact ⟨rfl, rfl, rfl, rfl, rfl, rfl, rfl, rfl⟩

/-- Every swap begins by dropping the selection and making the other grid. -/
theorem sameKeyboard_ensureAltGrid (t : Term) : SameKeyboard t t.dirtySelection.ensureAltGrid := by
  unfold ensureAltGrid
  split <;> exact ⟨rfl, rfl, rfl, rfl, rfl, rfl, rfl, rfl⟩

/-! ## Each operation is one event -/

section

variable (t) (mode : KeyboardModes) (apply : KeyboardModesApplyBehavior)
include mode apply

theorem mode_setKeyboardMode :
    (t.setKeyboardMode mode apply).mode = Bitflags.insert (remove t.mode TermMode.kittyKeyboardProtocol)
      (Keyboard.combine t.live mode.toTermMode apply) := by
  cases apply <;> rfl

/-- Keyboard flags combine to keyboard flags. -/
theorem combine_and :
    Keyboard.combine t.live mode.toTermMode apply &&& TermMode.kittyKeyboardProtocol =
      Keyboard.combine t.live mode.toTermMode apply := by
  have hlive : t.live &&& TermMode.kittyKeyboardProtocol = t.live := by
    unfold live
    rw [BitVec.and_assoc, BitVec.and_self]
  have happlied := applied_and hlive (toTermMode_and mode)
  cases apply with
  | replace => exact happlied .replace
  | union => exact happlied .union
  | difference => exact happlied .difference

theorem altActive_setKeyboardMode : (t.setKeyboardMode mode apply).altActive = t.altActive := by
  have hdisjoint : Disjoint TermMode.kittyKeyboardProtocol TermMode.altScreen := by decide
  unfold altActive
  rw [mode_setKeyboardMode, contains_insert_of_disjoint (hdisjoint.of_and_eq (combine_and t mode apply)),
    contains_remove_of_disjoint hdisjoint]

theorem live_setKeyboardMode : (t.setKeyboardMode mode apply).live = Keyboard.combine t.live mode.toTermMode apply := by
  have hremoved : remove t.mode TermMode.kittyKeyboardProtocol &&& TermMode.kittyKeyboardProtocol = 0 := by
    unfold remove
    rw [BitVec.and_assoc]
    exact BitVec.and_zero
  have hsplit : (t.setKeyboardMode mode apply).live = Bitflags.insert (remove t.mode TermMode.kittyKeyboardProtocol)
      (Keyboard.combine t.live mode.toTermMode apply) &&& TermMode.kittyKeyboardProtocol :=
    congrArg (· &&& _) (mode_setKeyboardMode t mode apply)
  unfold Bitflags.insert at hsplit
  rw [hsplit, BitVec.and_or_distrib_right, hremoved, combine_and]
  exact BitVec.zero_or

/-- Setting modes changes the flags of the screen in use only. -/
theorem keyboards_setKeyboardMode :
    (t.setKeyboardMode mode apply).keyboards =
      t.keyboards.put ⟨t.keyboardModeStack, Keyboard.combine t.live mode.toTermMode apply⟩ := by
  have hfields : (t.setKeyboardMode mode apply).keyboards =
      banks (t.setKeyboardMode mode apply).altActive ⟨t.keyboardModeStack, (t.setKeyboardMode mode apply).live⟩
        ⟨t.inactiveKeyboardModeStack, t.inactiveKeyboardModeBits.toTermMode⟩
        (remembered t.preCommandKbStackSnapshot t.preCommandKbModeBitsSnapshot)
        (remembered t.inactivePreCommandKbStackSnapshot t.inactivePreCommandKbModeBitsSnapshot) := rfl
  rw [hfields, altActive_setKeyboardMode, live_setKeyboardMode]
  exact (banks_put _).symm

end

section

variable (t : Term)

/-- Another stack for the screen in use. -/
theorem keyboards_withStack (stack : List KeyboardModes) (k : Keyboard) :
    ({ t with keyboardModeStack := stack } : Term).keyboards.put k = t.keyboards.put k :=
  (banks_put k).trans (banks_put k).symm

/-- An edit of the screen in use. -/
theorem keyboards_edit (e : KeyboardEdit) :
    Banks.step Keyboard.edit t.keyboards (.edit e) = t.keyboards.put (Keyboard.edit ⟨t.keyboardModeStack, t.live⟩ e) :=
  congrArg (fun k => t.keyboards.put (Keyboard.edit k e)) banks_inUse

theorem keyboards_pushKeyboardMode (mode : KeyboardModes) :
    (t.pushKeyboardMode mode).keyboards = Banks.step Keyboard.edit t.keyboards (.edit (.push mode)) := by
  unfold pushKeyboardMode
  rw [keyboards_setKeyboardMode, keyboards_withStack, keyboards_edit]
  rfl

theorem keyboards_popKeyboardModes (toPop : Nat) :
    (t.popKeyboardModes toPop).keyboards = Banks.step Keyboard.edit t.keyboards (.edit (.pop toPop)) := by
  unfold popKeyboardModes
  rw [keyboards_setKeyboardMode, keyboards_withStack, keyboards_edit]
  rfl

theorem altActive_toggled : contains (t.mode ^^^ TermMode.altScreen) TermMode.altScreen = !t.altActive :=
  contains_toggle_bit (by decide)

theorem live_toggled : (t.mode ^^^ TermMode.altScreen) &&& TermMode.kittyKeyboardProtocol = t.live :=
  toggle_and_of_disjoint (by decide)

/-- **A swap exchanges the fields and the screen**, so that each screen keeps its state. -/
theorem keyboards_toggleAltCommon : t.toggleAltCommon.keyboards = Banks.step Keyboard.edit t.keyboards .swap := by
  unfold toggleAltCommon gridEdit gridOp
  rw [(sameKeyboard_onGrid ..).keyboards, keyboards_setKeyboardMode]
  refine (banks_put _).trans ?_
  refine Eq.trans ?_ banks_swap.symm
  unfold altActive Keyboard.combine
  rw [toTermMode_ofTermMode, live_toggled, altActive_toggled]
  rfl

theorem keyboards_snapshot : t.snapshotKeyboardModeStack.keyboards = Banks.step Keyboard.edit t.keyboards .save := by
  have hfields : t.snapshotKeyboardModeStack.keyboards =
      banks t.altActive ⟨t.keyboardModeStack, t.live⟩ ⟨t.inactiveKeyboardModeStack, t.inactiveKeyboardModeBits.toTermMode⟩
        (some ⟨t.keyboardModeStack, (KeyboardModes.ofTermMode t.mode).toTermMode⟩)
        (some ⟨t.inactiveKeyboardModeStack, t.inactiveKeyboardModeBits.toTermMode⟩) := rfl
  rw [hfields, toTermMode_ofTermMode]
  rfl

end

/-- **A restore is a restore of both screens**, as their snapshots are there together. -/
theorem keyboards_restore (h : t.SnapshotsPaired) :
    t.restoreKeyboardModeStack.keyboards = Banks.step Keyboard.edit t.keyboards .restore := by
  obtain ⟨hbits, hstack, hinactive⟩ := h
  cases hsaved : t.preCommandKbStackSnapshot with
  | none =>
    rw [hsaved, isSome_none, isSome_eq_false_iff, isNone_iff_eq_none] at hbits hstack hinactive
    have hsame : SameKeyboard t t.restoreKeyboardModeStack := by
      unfold restoreKeyboardModeStack
      simp only [hsaved, hbits, hstack, hinactive]
      exact ⟨rfl, rfl, rfl, hsaved.symm, hstack.symm, hbits.symm, hinactive.symm, rfl⟩
    have hnone : t.keyboards.saved = none := by
      unfold keyboards
      rw [hsaved]
      rfl
    rw [hsame.keyboards, Banks.step_restore_of_none hnone]
  | some stack =>
    rw [hsaved, isSome_some, isSome_iff_exists] at hbits hstack hinactive
    obtain ⟨bits, hbits⟩ := hbits
    obtain ⟨stack', hstack⟩ := hstack
    obtain ⟨bits', hinactive⟩ := hinactive
    let set : Term := setKeyboardMode
      { t with keyboardModeStack := stack, preCommandKbStackSnapshot := none, preCommandKbModeBitsSnapshot := none } bits
      .replace
    have hrestore : t.restoreKeyboardModeStack =
        { set with
          inactiveKeyboardModeStack := stack'
          inactivePreCommandKbStackSnapshot := none
          inactiveKeyboardModeBits := bits'
          inactivePreCommandKbModeBitsSnapshot := none } := by
      unfold restoreKeyboardModeStack
      simp only [hsaved, hbits]
      rw [hstack, hinactive]
      rfl
    have hfields : t.restoreKeyboardModeStack.keyboards =
        banks set.altActive ⟨stack, set.live⟩ ⟨stack', bits'.toTermMode⟩ none none := by
      rw [hrestore]
      rfl
    have hbefore : t.keyboards = banks t.altActive ⟨t.keyboardModeStack, t.live⟩
        ⟨t.inactiveKeyboardModeStack, t.inactiveKeyboardModeBits.toTermMode⟩ (some ⟨stack, bits.toTermMode⟩)
        (some ⟨stack', bits'.toTermMode⟩) := by
      unfold keyboards
      rw [hsaved, hbits, hstack, hinactive]
      rfl
    rw [hfields, hbefore, altActive_setKeyboardMode, live_setKeyboardMode]
    rfl

/-- Saving and restoring the cursors changes grids only. -/
theorem keyboards_swapAlt (t : Term) : t.swapAlt.keyboards = Banks.step Keyboard.edit t.keyboards .swap := by
  obtain ⟨h₁, h₂, h₃, h₄, h₅, h₆, h₇, h₈⟩ := sameKeyboard_ensureAltGrid t
  unfold swapAlt
  rw [keyboards_toggleAltCommon]
  refine congrArg (Banks.step Keyboard.edit · .swap) (SameKeyboard.keyboards ?_)
  split <;> exact ⟨h₁, h₂, h₃, h₄, h₅, h₆, h₇, h₈⟩

theorem keyboards_swapAltNoCursor (t : Term) :
    t.swapAltNoCursor.keyboards = Banks.step Keyboard.edit t.keyboards .swap := by
  unfold swapAltNoCursor
  rw [keyboards_toggleAltCommon, (sameKeyboard_ensureAltGrid t).keyboards]

theorem keyboards_swapAltClear (t : Term) : t.swapAltClear.keyboards = Banks.step Keyboard.edit t.keyboards .swap := by
  obtain ⟨h₁, h₂, h₃, h₄, h₅, h₆, h₇, h₈⟩ := sameKeyboard_ensureAltGrid t
  unfold swapAltClear
  rw [keyboards_toggleAltCommon]
  exact congrArg (Banks.step Keyboard.edit · .swap)
    (SameKeyboard.keyboards ⟨h₁, h₂, h₃, h₄, h₅, h₆, h₇, h₈⟩)

/-! ## Snapshots stay paired -/

section

variable (h : t.SnapshotsPaired)
include h

theorem SnapshotsPaired.setKeyboardMode (mode : KeyboardModes)
    (apply : KeyboardModesApplyBehavior) : (t.setKeyboardMode mode apply).SnapshotsPaired := by
  obtain ⟨hbits, hstack, hinactive⟩ := h
  exact ⟨hbits, hstack, hinactive⟩

theorem SnapshotsPaired.withStack (stack : List KeyboardModes) :
    ({ t with keyboardModeStack := stack } : Term).SnapshotsPaired := ⟨h.bits, h.stack, h.inactiveBits⟩

/-- A swap exchanges the snapshots of the two screens, all four of them. -/
theorem SnapshotsPaired.toggleAltCommon : t.toggleAltCommon.SnapshotsPaired := by
  obtain ⟨hbits, hstack, hinactive⟩ := h
  refine (sameKeyboard_onGrid ..).paired (SnapshotsPaired.setKeyboardMode ?_ _ _)
  exact ⟨hinactive.trans hstack.symm, hstack.symm, hbits.trans hstack.symm⟩

theorem SnapshotsPaired.swapAlt : t.swapAlt.SnapshotsPaired := by
  have hensured := (sameKeyboard_ensureAltGrid t).paired h
  refine SnapshotsPaired.toggleAltCommon ?_
  split <;> exact ⟨hensured.bits, hensured.stack, hensured.inactiveBits⟩

end

theorem SnapshotsPaired.restore (t : Term) : t.restoreKeyboardModeStack.SnapshotsPaired := by
  unfold restoreKeyboardModeStack
  cases t.preCommandKbModeBitsSnapshot <;> exact ⟨rfl, rfl, rfl⟩

theorem SnapshotsPaired.apply (h : t.SnapshotsPaired) (op : KeyboardOp) : (op.apply t).SnapshotsPaired := by
  cases op with
  | push mode =>
    unfold KeyboardOp.apply Term.pushKeyboardMode
    exact (h.withStack _).setKeyboardMode _ _
  | pop toPop =>
    unfold KeyboardOp.apply Term.popKeyboardModes
    exact (h.withStack _).setKeyboardMode _ _
  | set mode apply => exact h.setKeyboardMode mode apply
  | swapAlt => exact h.swapAlt
  | swapAltNoCursor => exact ((sameKeyboard_ensureAltGrid t).paired h).toggleAltCommon
  | swapAltClear =>
    have hensured := (sameKeyboard_ensureAltGrid t).paired h
    exact SnapshotsPaired.toggleAltCommon ⟨hensured.bits, hensured.stack, hensured.inactiveBits⟩
  | snapshot => exact ⟨rfl, rfl, rfl⟩
  | restore => exact .restore t

end Term

namespace KeyboardOp

variable {t : Term}

variable (lines cols scrollback : Nat) (theme : Theme)

/-- **Each operation is one event of the banks.** -/
theorem keyboards_apply (h : t.SnapshotsPaired) (op : KeyboardOp) :
    (op.apply t).keyboards = Banks.step Keyboard.edit t.keyboards op.event := by
  cases op with
  | push mode => exact Term.keyboards_pushKeyboardMode t mode
  | pop toPop => exact Term.keyboards_popKeyboardModes t toPop
  | set mode apply =>
    refine (Term.keyboards_setKeyboardMode t mode apply).trans ?_
    exact (Term.keyboards_edit t (.set mode apply)).symm
  | swapAlt => exact Term.keyboards_swapAlt t
  | swapAltNoCursor => exact Term.keyboards_swapAltNoCursor t
  | swapAltClear => exact Term.keyboards_swapAltClear t
  | snapshot => exact Term.keyboards_snapshot t
  | restore => exact Term.keyboards_restore h

/-- The operations one after the other. -/
def applyAll (t : Term) (ops : List KeyboardOp) : Term := run (fun t op => apply t op) t ops

theorem paired_applyAll (h : t.SnapshotsPaired) (ops : List KeyboardOp) : (applyAll t ops).SnapshotsPaired :=
  run_invariant (fun _ op ht => ht.apply op) h ops

/-- **A run of the terminal is a run of the banks.** -/
theorem keyboards_applyAll (h : t.SnapshotsPaired) (ops : List KeyboardOp) :
    (applyAll t ops).keyboards = run (Banks.step Keyboard.edit) t.keyboards (ops.map event) := by
  induction ops generalizing t with
  | nil => rfl
  | cons op ops ih =>
    rw [List.map_cons, run_cons, ← keyboards_apply h]
    exact ih (h.apply op)

/-! ## What each screen is left with -/

/-- The operation is no restore, and an edit finds the other screen active. -/
def Spares (screen : Bool) (t : Term) : KeyboardOp → Prop
  | push _ | pop _ | set .. => t.altActive ≠ screen
  | swapAlt | swapAltNoCursor | swapAltClear | snapshot => True
  | restore => False

/-- Neither a snapshot nor a restore. -/
def Quiet (op : KeyboardOp) : Prop := op ≠ .snapshot ∧ op ≠ .restore

theorem spares_event {screen : Bool} {op : KeyboardOp} (h : op.Spares screen t) :
    Banks.Spares screen t.keyboards op.event := by
  cases op <;> exact h

theorem quiet_event {op : KeyboardOp} (h : op.Quiet) : op.event.Quiet := by
  obtain ⟨hsnapshot, hrestore⟩ := h
  cases op with
  | snapshot => exact absurd rfl hsnapshot
  | restore => exact absurd rfl hrestore
  | _ => trivial

theorem along_event {screen : Bool} {ops : List KeyboardOp} (ht : t.SnapshotsPaired)
    (h : Along (fun t op => apply t op) (fun t op => op.Spares screen t) t ops) :
    Along (Banks.step Keyboard.edit) (Banks.Spares screen) t.keyboards (ops.map event) := by
  induction ops generalizing t with
  | nil => trivial
  | cons op ops ih =>
    obtain ⟨hfirst, hrest⟩ := h
    refine ⟨spares_event hfirst, ?_⟩
    rw [← keyboards_apply ht]
    exact ih (ht.apply op) hrest

theorem quiet_events {ops : List KeyboardOp} (h : ∀ op ∈ ops, op.Quiet) : ∀ e ∈ ops.map event, e.Quiet := by
  intro e he
  obtain ⟨op, hop, rfl⟩ := List.mem_map.mp he
  exact quiet_event (h op hop)

/-- What holds of the keyboard state of both screens, from `t` on. -/
structure Kept (t : Term) : Prop where
  /-- A screen finds what it was left with, whatever happens on the other one. -/
  returned : ∀ screen ops, Along (fun t op => apply t op) (fun t op => op.Spares screen t) t ops →
    (applyAll t ops).keyboards.bank screen = t.keyboards.bank screen
  /-- The first restore after a snapshot brings both screens back to it. -/
  restored : ∀ ops, (∀ op ∈ ops, op.Quiet) →
    (applyAll t (.snapshot :: ops ++ [.restore])).keyboards.bank = t.keyboards.bank
  /-- Another restore has nothing to bring back. -/
  spent : ∀ ops, (∀ op ∈ ops, op.Quiet) →
    (applyAll t (.restore :: ops ++ [.restore])).keyboards = (applyAll t (.restore :: ops)).keyboards
  /-- The stacks are bounded. -/
  depth : t.keyboardModeStack.length ≤ Term.keyboardModeStackMaxDepth ∧
    t.inactiveKeyboardModeStack.length ≤ Term.keyboardModeStackMaxDepth

theorem kept_of_paired (ht : t.SnapshotsPaired) (hbounded : t.keyboards.Holds Keyboard.Bounded) : Kept t where
  returned := by
    intro screen ops hops
    rw [keyboards_applyAll ht]
    exact Banks.bank_run (along_event ht hops)
  restored := by
    intro ops hops
    rw [keyboards_applyAll ht, List.map_append, run_append]
    exact Banks.bank_restore_save (quiet_events hops)
  spent := by
    intro ops hops
    rw [keyboards_applyAll ht, keyboards_applyAll ht, List.map_append, run_append]
    exact Banks.restore_again (quiet_events hops)
  depth := by
    refine ⟨?_, ?_⟩
    · have hactive := hbounded.bank t.altActive
      unfold Term.keyboards at hactive
      rw [Term.banks_inUse] at hactive
      exact hactive
    · have hother : t.keyboards.bank (!t.altActive) = ⟨t.inactiveKeyboardModeStack, t.inactiveKeyboardModeBits.toTermMode⟩ :=
        if_neg (Bool.not_ne_self t.altActive)
      have hinactive := hbounded.bank (!t.altActive)
      rw [hother] at hinactive
      exact hinactive

theorem paired_new : (Term.new lines cols scrollback theme).SnapshotsPaired :=
  ⟨rfl, rfl, rfl⟩

theorem bounded_new : (Term.new lines cols scrollback theme).keyboards.Holds Keyboard.Bounded := by
  refine ⟨fun i => ?_, fun k hk => ?_⟩
  · have hempty : ((Term.new lines cols scrollback theme).keyboards.bank i).stack = [] := by
      unfold Term.keyboards Term.banks
      dsimp only
      split <;> rfl
    unfold Keyboard.Bounded
    rw [hempty]
    exact Nat.zero_le _
  · cases hk

/-- **The keyboard state of each screen along every run** of a new terminal. -/
theorem keyboards_run (ops : List KeyboardOp) : Kept (applyAll (.new lines cols scrollback theme) ops) := by
  have hnew := paired_new lines cols scrollback theme
  refine kept_of_paired (paired_applyAll hnew ops) ?_
  rw [keyboards_applyAll hnew]
  exact (bounded_new lines cols scrollback theme).run (fun _ e hk => hk.edit e) _

/-- The second prompt after a command finds nothing to restore: what was pushed after the first one stays. -/
theorem restore_once :
    let t := Term.new 24 80 0 .dark
    let ops := [KeyboardOp.snapshot, .restore, .push KeyboardModes.disambiguateEscCodes, .restore]
    (applyAll t ops).keyboards.bank false ≠ t.keyboards.bank false := by
  intro t ops
  rw [keyboards_applyAll (paired_new 24 80 0 .dark)]
  decide

end KeyboardOp

end OriTerm
