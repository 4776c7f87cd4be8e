import OriTerm.Mux.IoPublish
import OriTerm.Term.Grids

/-!
# `Mux.CommandOrder` — resizes and commands reach the IO thread in order

A resize goes through a coalescing slot, a command through a bounded queue. The loop empties the slot after it took a
command and before it performs it, so whatever was sent before the command is applied first.

`IoHistory` is the thread with a record of what the handle sent and of what the loop did. `Ordered` matches the two:
the commands the queue took are those performed, the one in hand and those waiting, in this order, and each performed
one saw every resize sent before it. `Sized` adds the geometry: the terminal has the size of the last resize applied,
if that was not empty and the program switched no columns.
-/

namespace OriTerm

open Lib Lib.Bitflags List

/-! ## The slot -/

/-- **The slot gives back what was put in.** -/
theorem unpack_pack (rows cols : BitVec 16) :
    unpackPendingResize (packPendingResize rows cols) = some (rows, cols) := by
  have htag : packPendingResize rows cols &&& pendingResizeValid ≠ 0 := by
    intro h
    have hbit := congrArg (·.getLsbD 48) h
    simp [packPendingResize, pendingResizeValid] at hbit
  unfold unpackPendingResize
  rw [if_neg htag]
  have hrows : (packPendingResize rows cols >>> 32).setWidth 16 = rows := by
    have htags : ∀ i : Fin 16, pendingResizeValid.getLsbD (32 + i) = false := by decide
    ext i hi
    have hin : 32 + i < 64 := by omega
    have hvalid : pendingResizeValid[32 + i] = false := htags ⟨i, hi⟩
    have hlow : cols.getLsbD (32 + i) = false := BitVec.getLsbD_of_ge cols _ (by omega)
    simp [packPendingResize, hvalid, hlow, hin, hi]
  have hcols : (packPendingResize rows cols).setWidth 16 = cols := by
    ext i hi
    simp [packPendingResize, pendingResizeValid]
  rw [hrows, hcols]

/-! ## What the thread does to the grids -/

namespace Term

variable {P : Grid → Prop} {t : Term}

section

variable (h : t.EachGrid P)
include h

theorem EachGrid.markRows : t.markPromptRow.markCommandStartRow.markOutputStartRow.EachGrid P := by
  have hprompt : t.markPromptRow.EachGrid P := by
    unfold markPromptRow
    split
    · dsimp only
      split <;> exact ⟨h.primary, h.alternate⟩
    · exact h
  have hcommand : ∀ {t : Term}, t.EachGrid P → t.markCommandStartRow.EachGrid P := by
    intro t h
    unfold markCommandStartRow
    split
    · exact ⟨h.primary, h.alternate⟩
    · exact h
  have houtput : ∀ {t : Term}, t.EachGrid P → t.markOutputStartRow.EachGrid P := by
    intro t h
    unfold markOutputStartRow
    split
    · exact ⟨h.primary, h.alternate⟩
    · exact h
  exact houtput (hcommand hprompt)

theorem EachGrid.prunePromptMarkers (evicted : Nat) : (t.prunePromptMarkers evicted).EachGrid P := by
  unfold Term.prunePromptMarkers
  split
  · exact h
  · exact ⟨h.primary, h.alternate⟩

theorem EachGrid.restoreKeyboardModeStack : t.restoreKeyboardModeStack.EachGrid P := by
  unfold Term.restoreKeyboardModeStack
  cases t.preCommandKbModeBitsSnapshot <;> exact ⟨h.primary, h.alternate⟩

/-- The strings that only the raw parser looks at touch no grid. -/
theorem EachGrid.oscDispatch (text : TextOps) (params : List (List UInt8)) :
    (Interceptor.oscDispatch text t params).EachGrid P := by
  have hprompt : ∀ sub, (Interceptor.handlePromptAction t sub).EachGrid P := by
    intro sub
    have hrestored := h.restoreKeyboardModeStack
    unfold Interceptor.handlePromptAction
    split
    · exact ⟨hrestored.primary, hrestored.alternate⟩
    · split
      · exact ⟨h.primary, h.alternate⟩
      · split
        · exact ⟨h.primary, h.alternate⟩
        · split
          · dsimp only
            split <;> exact ⟨hrestored.primary, hrestored.alternate⟩
          · exact h
  have hcwd : ∀ path, (Interceptor.setCwd t path).EachGrid P := fun path => ⟨h.primary, h.alternate⟩
  have hemit : ∀ effect, (t.emit effect).EachGrid P := fun effect => ⟨h.primary, h.alternate⟩
  unfold Interceptor.oscDispatch
  split
  · exact h
  · split
    · unfold Interceptor.handleOsc7
      split
      · dsimp only
        split
        · exact h
        · exact hcwd _
      · exact h
    · split
      · unfold Interceptor.handleOsc133
        split
        · exact hprompt _
        · exact h
      · split
        · unfold Interceptor.handleOsc633
          split
          · split
            · exact hprompt _
            · split
              · exact ⟨h.primary, h.alternate⟩
              · split
                · split
                  · dsimp only
                    split
                    · exact hcwd _
                    · exact h
                  · exact h
                · exact h
          · exact h
        · split
          · exact hemit _
          · split
            · unfold Interceptor.handleOsc99
              dsimp only
              split
              · exact h
              · split
                · exact h
                · exact hemit _
              · split
                · exact h
                · exact hemit _
            · split
              · unfold Interceptor.handleNotification777
                split
                · exact hemit _
                · exact h
              · exact h

theorem EachGrid.oscs (text : TextOps) (oscs : List (List (List UInt8))) :
    (oscs.foldl (Interceptor.oscDispatch text) t).EachGrid P := by
  induction oscs generalizing t with
  | nil => exact h
  | cons params oscs ih => exact ih (h.oscDispatch text params)

end

/-- A snapshot resets the damage. -/
theorem EachGrid.resetDamage {lines cols : Nat} (h : t.EachGrid (Grid.HasSize lines cols)) :
    t.resetDamage.EachGrid (Grid.HasSize lines cols) := by
  refine EachGrid.onCache (h.onGrid fun g hg => ?_) _
  refine ⟨⟨⟨hg.wf.rows, hg.wf.width, ?_, hg.wf.dirtyCols⟩, ⟨hg.wf.right, hg.wf.left⟩⟩, hg.lines, hg.cols⟩
  exact (length_map _).trans hg.wf.dirtyLines

end Term

/-! ## The points of the loop -/

namespace Pc

/-- The command that was taken and is not done. -/
def inHand : Pc → Option PaneIoCommand
  | gotCommand _ cmd | doCommand _ cmd | armCommand cmd | armDo cmd => some cmd
  | _ => none

/-- The command about to be performed. -/
def performing : Pc → Option PaneIoCommand
  | doCommand _ cmd | armDo cmd => some cmd
  | _ => none

theorem inHand_of_performing {pc : Pc} {cmd : PaneIoCommand} (h : pc.performing = some cmd) : pc.inHand = some cmd := by
  cases pc <;> first | exact h | cases h

/-- The next step empties the slot. -/
def takesResize : Pc → Bool
  | drain _ | gotCommand _ _ | armCommand _ => true
  | _ => false

/-- The chunk parsed in the next step. -/
def nextChunk : Pc → Option Chunk
  | chunks _ (chunk :: _) => some chunk
  | _ => none

end Pc

namespace PaneIo

variable {env : IoEnv} {io io' : PaneIo} {lines cols : Nat}

/-! ## The size -/

/-- Both screens have this size. -/
abbrev Sized (lines cols : Nat) (io : PaneIo) : Prop := io.terminal.EachGrid (Grid.HasSize lines cols)

section

variable (h : io.Sized lines cols)
include h

theorem Sized.publish (env : IoEnv) (now : Image.Nanos) : (io.publishPendingSnapshot env now).Sized lines cols := by
  unfold publishPendingSnapshot
  split
  · exact h
  · split
    · exact h
    · exact h.resetDamage

theorem Sized.maybeProduce (env : IoEnv) (now : Image.Nanos) : (io.maybeProduceSnapshot env now).Sized lines cols := by
  unfold maybeProduceSnapshot
  split
  · exact h
  · split
    · exact h
    · split
      · exact h
      · exact h.resetDamage

theorem Sized.drainEffects : io.drainEffects.Sized lines cols := ⟨h.primary, h.alternate⟩

theorem Sized.dirtyGrid : io.dirtyGrid.Sized lines cols := h

theorem Sized.postParseHousekeeping (evictedBefore : Nat) :
    (io.postParseHousekeeping evictedBefore).Sized lines cols := by
  obtain ⟨evicted, modeCache, selectionDirty, heq⟩ := postParseHousekeeping_eq io evictedBefore
  have hpruned := h.markRows.prunePromptMarkers evicted
  rw [heq]
  exact ⟨hpruned.primary, hpruned.alternate⟩

theorem Sized.tickAnimations (now : Image.Nanos) : (io.tickAnimations now).Sized lines cols :=
  (h.onCache _).onCache _

end

/-- What `SnapshotNow` does. -/
theorem handleCommand_snapshotNow (env : IoEnv) (now : Image.Nanos) (io : PaneIo) (reply : Nat) :
    io.handleCommand env now (.snapshotNow reply) =
      { io.dirtyGrid.publishPendingSnapshot env now with
        replies := (io.dirtyGrid.publishPendingSnapshot env now).replies ++ [reply] } := rfl

/-- **No command changes the size.** -/
theorem Sized.handleCommand (h : io.Sized lines cols) (hcols : 0 < cols) (env : IoEnv) (now : Image.Nanos)
    (cmd : PaneIoCommand) : (io.handleCommand env now cmd).Sized lines cols := by
  have hkept : Grid.KeptUnlessResized (Grid.HasSize lines cols) := Grid.hasSize_kept hcols
  have hscroll : ∀ delta, (io.terminal.scrollDisplay delta).EachGrid (Grid.HasSize lines cols) := fun delta =>
    h.gridOp hkept (.scrollDisplay delta) rfl
  have hrow : ∀ row, (io.terminal.scrollToAbsoluteRow row).EachGrid (Grid.HasSize lines cols) := by
    intro row
    unfold Term.scrollToAbsoluteRow
    dsimp only
    split
    · exact ⟨hkept.apply _ (.scrollDisplay _) rfl h.primary, h.alternate⟩
    · exact h
  have hsearch : ∀ f, (io.onSearch f).Sized lines cols := by
    intro f
    unfold onSearch
    split <;> exact h
  cases cmd with
  | scrollDisplay delta => exact hscroll delta
  | scrollToBottom => exact hscroll scrollToLive
  | setTheme theme palette =>
    have htheme := TermOp.eachGrid hkept env.width h (.setTheme theme) rfl
    refine Term.EachGrid.gridEdit hkept ?_ .markAll
    exact ⟨htheme.primary, htheme.alternate⟩
  | markAllDirty => exact h.gridEdit hkept .markAll
  | setImageConfig | setCellDimensions =>
    exact ⟨h.primary, h.alternate⟩
  | scrollToPreviousPrompt =>
    show io.terminal.scrollToPreviousPrompt.EachGrid _
    unfold Term.scrollToPreviousPrompt
    dsimp only
    split
    · exact hrow _
    · exact h
  | scrollToNextPrompt =>
    show io.terminal.scrollToNextPrompt.EachGrid _
    unfold Term.scrollToNextPrompt
    dsimp only
    split
    · exact hrow _
    · exact h
  | searchSetQuery | searchNextMatch | searchPrevMatch => exact hsearch _
  | enterMarkMode =>
    show (if _ then _ else io.terminal).EachGrid _
    split
    · exact hscroll scrollToLive
    · exact h
  | snapshotNow reply =>
    rw [handleCommand_snapshotNow]
    exact h.dirtyGrid.publish env now
  | _ => exact ⟨h.primary, h.alternate⟩

/-- The program switches no columns in this chunk. -/
def KeepsColumns (env : IoEnv) (t : Term) (chunk : Chunk) : Prop :=
  Along (TermOp.apply env.width) (fun t op => op.resizes t = false)
    (chunk.oscs.foldl (Interceptor.oscDispatch env.text) t) chunk.ops

instance (env : IoEnv) (t : Term) (chunk : Chunk) : Decidable (KeepsColumns env t chunk) :=
  decidableAlong ..

theorem Sized.handleBytes (h : io.Sized lines cols) (hcols : 0 < cols) {chunk : Chunk}
    (hchunk : KeepsColumns env io.terminal chunk) : (io.handleBytes env chunk).Sized lines cols := by
  have hparsed : (parseChunk env io.terminal chunk).EachGrid (Grid.HasSize lines cols) := by
    refine Along.invariant (fun t op ht hop => ?_) (h.oscs env.text chunk.oscs) hchunk
    exact TermOp.eachGrid (Grid.hasSize_kept hcols) env.width ht op hop
  refine (Sized.postParseHousekeeping ?_ _).drainEffects
  split <;> exact hparsed

theorem Sized.handleSyncTimeout (h : io.Sized lines cols) (hcols : 0 < cols) (env : IoEnv) (now : Image.Nanos) :
    (io.handleSyncTimeout env now).Sized lines cols := by
  have hmode : ¬io.terminal.SwitchesColumns .syncUpdate := fun hswitches => by cases hswitches.1
  have hclosed := TermOp.eachGrid (Grid.hasSize_kept hcols) env.width h (.setPrivateMode .syncUpdate false)
    (decide_eq_false hmode)
  have hupdated : Sized lines cols
      { io with terminal := io.terminal.applyPrivateMode .syncUpdate false, syncTimeout := none } := hclosed
  exact ((hupdated.postParseHousekeeping io.terminal.activeGrid.totalEvicted).dirtyGrid).publish env now

/-- The size after a resize: an empty one is ignored. -/
def resizeTo (size : Nat × Nat) (rows cols : BitVec 16) : Nat × Nat :=
  if rows.toNat = 0 ∨ cols.toNat = 0 then size else (rows.toNat, cols.toNat)

/-- The resize of the slot is applied. -/
theorem Sized.resize {size : Nat × Nat} (h : io.Sized size.1 size.2) {rows width : BitVec 16}
    (hslot : io.pendingResize = packPendingResize rows width) :
    io.applyPendingResize.Sized (resizeTo size rows width).1 (resizeTo size rows width).2 := by
  have hresized := Term.EachGrid.resize h rows.toNat width.toNat true
  have happly : io.applyPendingResize.terminal = io.terminal.resize rows.toNat width.toNat true := by
    unfold applyPendingResize
    rw [hslot, unpack_pack]
  unfold Sized resizeTo
  rw [happly]
  by_cases hempty : rows.toNat = 0 ∨ width.toNat = 0
  · rw [if_pos hempty] at hresized ⊢
    exact hresized
  · rw [if_neg hempty] at hresized ⊢
    exact hresized

/-- An empty slot changes nothing. -/
theorem applyPendingResize_none (h : io.pendingResize = pendingResizeNone) : io.applyPendingResize = io := by
  have hnone : unpackPendingResize pendingResizeNone = none := by decide
  unfold applyPendingResize
  rw [h, hnone]
  rw [← h]

theorem pendingResize_applyPendingResize (io : PaneIo) : io.applyPendingResize.pendingResize = pendingResizeNone := by
  unfold applyPendingResize
  split <;> rfl

/-! ## The channels -/

/-- The channels of the handle are left alone. -/
structure SameChannels (io io' : PaneIo) : Prop where
  queue : io'.cmdQueue = io.cmdQueue
  slot : io'.pendingResize = io.pendingResize

@[refl] theorem SameChannels.refl (io : PaneIo) : SameChannels io io := ⟨rfl, rfl⟩

theorem SameChannels.drainEffects (h : SameChannels io io') : SameChannels io io'.drainEffects := ⟨h.queue, h.slot⟩

theorem SameChannels.dirtyGrid (h : SameChannels io io') : SameChannels io io'.dirtyGrid := ⟨h.queue, h.slot⟩

theorem SameChannels.publish (h : SameChannels io io') (env : IoEnv) (now : Image.Nanos) :
    SameChannels io (io'.publishPendingSnapshot env now) := by
  unfold publishPendingSnapshot
  split
  · exact h
  · split
    · exact h
    · exact ⟨h.queue, h.slot⟩

theorem sameChannels_maybeProduce (env : IoEnv) (now : Image.Nanos) (io : PaneIo) :
    SameChannels io (io.maybeProduceSnapshot env now) := by
  unfold maybeProduceSnapshot
  split
  · exact ⟨rfl, rfl⟩
  · split
    · exact ⟨rfl, rfl⟩
    · split <;> exact ⟨rfl, rfl⟩

theorem sameChannels_handleCommand (env : IoEnv) (now : Image.Nanos) (io : PaneIo) (cmd : PaneIoCommand) :
    SameChannels io (io.handleCommand env now cmd) := by
  have hsearch : ∀ f, SameChannels io (io.onSearch f) := by
    intro f
    unfold onSearch
    split <;> exact ⟨rfl, rfl⟩
  cases cmd with
  | searchSetQuery | searchNextMatch | searchPrevMatch => exact hsearch _
  | snapshotNow reply =>
    have hpublished := (SameChannels.refl io).dirtyGrid.publish env now
    rw [handleCommand_snapshotNow]
    exact ⟨hpublished.queue, hpublished.slot⟩
  | _ => exact ⟨rfl, rfl⟩

theorem SameChannels.postParseHousekeeping (h : SameChannels io io') (evictedBefore : Nat) :
    SameChannels io (io'.postParseHousekeeping evictedBefore) := by
  obtain ⟨evicted, modeCache, selectionDirty, heq⟩ := postParseHousekeeping_eq io' evictedBefore
  rw [heq]
  exact ⟨h.queue, h.slot⟩

theorem sameChannels_handleBytes (env : IoEnv) (io : PaneIo) (chunk : Chunk) :
    SameChannels io (io.handleBytes env chunk) := by
  refine (SameChannels.postParseHousekeeping ?_ _).drainEffects
  split <;> exact ⟨rfl, rfl⟩

theorem sameChannels_handleSyncTimeout (env : IoEnv) (now : Image.Nanos) (io : PaneIo) :
    SameChannels io (io.handleSyncTimeout env now) := by
  have hclosed : SameChannels io
      { io with terminal := io.terminal.applyPrivateMode .syncUpdate false, syncTimeout := none } := ⟨rfl, rfl⟩
  exact ((hclosed.postParseHousekeeping io.terminal.activeGrid.totalEvicted).dirtyGrid).publish env now

theorem queue_applyPendingResize (io : PaneIo) : io.applyPendingResize.cmdQueue = io.cmdQueue := by
  unfold applyPendingResize
  split <;> rfl

/-- What a step of the loop does with the channels. -/
structure Moves (io io' : PaneIo) : Prop where
  /-- A command is performed, stays in hand, or is taken from the queue. -/
  commands :
    io.pc.inHand.toList ++ io.cmdQueue = io.pc.performing.toList ++ (io'.pc.inHand.toList ++ io'.cmdQueue)
  /-- Before it is performed the slot is emptied. -/
  performing : io.pc.takesResize = false → io'.pc.performing = none
  slot : io'.pendingResize = if io.pc.takesResize then pendingResizeNone else io.pendingResize

variable {pc pc' : Pc}

/-- A step that leaves the channels alone, and is done with what it had in hand. -/
theorem SameChannels.moves (h : SameChannels io io') (hpc : io.pc = pc) (hdone : pc.inHand = pc.performing)
    (htakes : pc.takesResize = false) (hpc' : pc'.inHand = none ∧ pc'.performing = none) : Moves io (io'.goto pc') := by
  subst hpc
  refine ⟨?_, fun _ => hpc'.2, ?_⟩
  · show _ = _ ++ (pc'.inHand.toList ++ io'.cmdQueue)
    rw [hdone, hpc'.1, h.queue]
    rfl
  · rw [htakes]
    exact h.slot

/-- A step that does nothing. -/
theorem moves_stay (hpc : io.pc = pc) (hidle : pc.inHand = none ∧ pc.performing = none)
    (htakes : pc.takesResize = false) : Moves io io := by
  subst hpc
  have hmoves := (SameChannels.refl io).moves rfl (hidle.1.trans hidle.2.symm) htakes hidle
  exact hmoves

/-- A step that empties the slot. -/
theorem moves_applyPendingResize (hpc : io.pc = pc) (hhand : pc'.inHand = pc.inHand)
    (hperforming : pc.performing = none) (htakes : pc.takesResize = true) : Moves io (io.applyPendingResize.goto pc') := by
  subst hpc
  refine ⟨?_, fun hkeeps => ?_, ?_⟩
  · show _ = _ ++ (pc'.inHand.toList ++ io.applyPendingResize.cmdQueue)
    rw [hperforming, hhand, queue_applyPendingResize]
    rfl
  · rw [htakes] at hkeeps
    cases hkeeps
  · rw [htakes]
    exact pendingResize_applyPendingResize io

/-- A step that takes a command. -/
theorem moves_receive {cmd : PaneIoCommand} {rest : List PaneIoCommand} (hqueue : io.cmdQueue = cmd :: rest)
    (hpc : io.pc = pc) (hidle : pc.inHand = none ∧ pc.performing = none) (htakes : pc.takesResize = false)
    (hpc' : pc'.inHand = some cmd ∧ pc'.performing = none) : Moves io (goto { io with cmdQueue := rest } pc') := by
  subst hpc
  refine ⟨?_, fun _ => hpc'.2, ?_⟩
  · show _ = _ ++ (pc'.inHand.toList ++ rest)
    rw [hidle.1, hidle.2, hpc'.1, hqueue]
    rfl
  · rw [htakes]
    rfl

theorem moves_select (hpc : io.pc = .blocked) (env : IoEnv) (now : Image.Nanos) (arm : Arm) :
    Moves io (io.select env now arm) := by
  have hstays : Moves io io := moves_stay hpc ⟨rfl, rfl⟩ rfl
  cases arm with
  | command =>
    unfold select
    cases hqueue : io.cmdQueue with
    | nil => exact hstays
    | cons cmd rest => exact moves_receive hqueue hpc ⟨rfl, rfl⟩ rfl ⟨rfl, rfl⟩
  | bytes =>
    unfold select
    cases io.byteQueue with
    | cons message rest => exact SameChannels.moves ⟨rfl, rfl⟩ hpc rfl rfl ⟨rfl, rfl⟩
    | nil =>
      dsimp only
      split
      · have hpublished := (SameChannels.refl io).drainEffects.dirtyGrid.publish env now
        exact hpublished.moves hpc rfl rfl ⟨rfl, rfl⟩
      · exact hstays
  | childExit =>
    unfold select
    cases io.childExit with
    | none => exact hstays
    | some code => exact SameChannels.moves ⟨rfl, rfl⟩ hpc rfl rfl ⟨rfl, rfl⟩
  | wake => exact (SameChannels.refl io).moves hpc rfl rfl ⟨rfl, rfl⟩
  | timeout =>
    refine SameChannels.moves ?_ hpc rfl rfl ⟨rfl, rfl⟩
    split
    · exact sameChannels_handleSyncTimeout env now io
    · exact .refl io

/-- **Every step of the loop moves the commands on, in order.** -/
theorem moves_advance (env : IoEnv) (now : Image.Nanos) (arm : Arm) (io : PaneIo) :
    Moves io (io.advance env now arm) := by
  have hrefl := SameChannels.refl io
  have hpublished := hrefl.publish env now
  have hproduced := sameChannels_maybeProduce env now io
  unfold advance
  cases hpc : io.pc with
  | start =>
    have hstarted : SameChannels io (io.dirtyGrid.produceSnapshot env now) := ⟨rfl, rfl⟩
    exact hstarted.moves hpc rfl rfl ⟨rfl, rfl⟩
  | drain | gotCommand | armCommand => exact moves_applyPendingResize hpc rfl rfl rfl
  | recvCommand caller =>
    dsimp only
    split
    · next cmd rest hqueue => exact moves_receive hqueue hpc ⟨rfl, rfl⟩ rfl ⟨rfl, rfl⟩
    · exact hrefl.drainEffects.moves hpc rfl rfl ⟨rfl, rfl⟩
  | doCommand caller cmd =>
    have hperformed := sameChannels_handleCommand env now io cmd
    cases cmd with
    | shutdown => exact SameChannels.moves ⟨rfl, rfl⟩ hpc rfl rfl ⟨rfl, rfl⟩
    | _ => exact hperformed.moves hpc rfl rfl ⟨rfl, rfl⟩
  | drained caller =>
    rcases caller with _ | ⟨_ | _, rest⟩
    · dsimp only
      split
      · exact hpublished.moves hpc rfl rfl ⟨rfl, rfl⟩
      · exact hrefl.moves hpc rfl rfl ⟨rfl, rfl⟩
    · dsimp only
      split
      · exact hpublished.moves hpc rfl rfl ⟨rfl, rfl⟩
      · exact hproduced.moves hpc rfl rfl ⟨rfl, rfl⟩
    · dsimp only
      split
      · exact hrefl.moves hpc rfl rfl ⟨rfl, rfl⟩
      · exact hproduced.moves hpc rfl rfl ⟨rfl, rfl⟩
  | recvBytes =>
    dsimp only
    split
    · exact SameChannels.moves ⟨rfl, rfl⟩ hpc rfl rfl ⟨rfl, rfl⟩
    · split
      · exact hpublished.moves hpc rfl rfl ⟨rfl, rfl⟩
      · exact hrefl.moves hpc rfl rfl ⟨rfl, rfl⟩
  | chunks caller rest =>
    cases rest with
    | cons chunk rest =>
      have hparsed := sameChannels_handleBytes env io chunk
      cases caller <;> exact hparsed.moves hpc rfl rfl ⟨rfl, rfl⟩
    | nil =>
      cases caller with
      | pending =>
        dsimp only
        split
        · exact hpublished.moves hpc rfl rfl ⟨rfl, rfl⟩
        · exact hproduced.moves hpc rfl rfl ⟨rfl, rfl⟩
      | arm => exact hrefl.moves hpc rfl rfl ⟨rfl, rfl⟩
  | tick =>
    have hticked : SameChannels io (io.tickAnimations now) := ⟨rfl, rfl⟩
    exact hticked.moves hpc rfl rfl ⟨rfl, rfl⟩
  | publish => exact hpublished.moves hpc rfl rfl ⟨rfl, rfl⟩
  | finalCheck =>
    dsimp only
    split
    · exact hpublished.moves hpc rfl rfl ⟨rfl, rfl⟩
    · exact hrefl.moves hpc rfl rfl ⟨rfl, rfl⟩
  | blocked => exact moves_select hpc env now arm
  | armDo cmd =>
    have hperformed := sameChannels_handleCommand env now io cmd
    cases cmd with
    | shutdown =>
      refine SameChannels.moves (SameChannels.publish ?_ env now) hpc rfl rfl ⟨rfl, rfl⟩
      exact ⟨rfl, rfl⟩
    | _ => exact hperformed.moves hpc rfl rfl ⟨rfl, rfl⟩
  | awaitExit => exact SameChannels.moves ⟨rfl, rfl⟩ hpc rfl rfl ⟨rfl, rfl⟩
  | exited =>
    have hstays : Moves io io := moves_stay hpc ⟨rfl, rfl⟩ rfl
    exact hstays

/-! ## The size along the loop -/

/-- A chunk parsed in this step switches no columns. -/
def StepKeepsColumns (env : IoEnv) (io : PaneIo) : Prop := ∀ chunk ∈ io.pc.nextChunk, KeepsColumns env io.terminal chunk

instance (env : IoEnv) (io : PaneIo) : Decidable (io.StepKeepsColumns env) :=
  inferInstanceAs (Decidable (∀ chunk ∈ io.pc.nextChunk, _))

section

variable (h : io.Sized lines cols)
include h

theorem Sized.goto (pc : Pc) : (io.goto pc).Sized lines cols := h

theorem Sized.exit (env : IoEnv) (now : Image.Nanos) : (io.exit env now).Sized lines cols :=
  h.publish env now

theorem Sized.select (hcols : 0 < cols) (env : IoEnv) (now : Image.Nanos) (arm : Arm) :
    (io.select env now arm).Sized lines cols := by
  cases arm with
  | command =>
    unfold PaneIo.select
    cases io.cmdQueue <;> exact h
  | bytes =>
    unfold PaneIo.select
    cases io.byteQueue with
    | cons message rest => exact h
    | nil =>
      dsimp only
      split
      · exact h.drainEffects.dirtyGrid.publish env now
      · exact h
  | childExit =>
    unfold PaneIo.select
    cases io.childExit <;> exact h
  | wake => exact h
  | timeout =>
    refine Sized.goto ?_ _
    split
    · exact h.handleSyncTimeout hcols env now
    · exact h

/-- **A step that takes no resize keeps the size.** -/
theorem Sized.advance (hcols : 0 < cols) (htakes : io.pc.takesResize = false)
    (hkeeps : StepKeepsColumns env io) (now : Image.Nanos) (arm : Arm) : (io.advance env now arm).Sized lines cols := by
  unfold PaneIo.advance
  cases hpc : io.pc with
  | start => exact Term.EachGrid.resetDamage h
  | drain | gotCommand | armCommand =>
    rw [hpc] at htakes
    cases htakes
  | recvCommand caller =>
    dsimp only
    split
    · exact h
    · exact h.drainEffects
  | doCommand caller cmd =>
    cases cmd with
    | shutdown => exact h
    | _ => exact h.handleCommand hcols env now _
  | drained caller =>
    rcases caller with _ | ⟨_ | _, rest⟩
    · dsimp only
      split
      · exact h.exit env now
      · exact h
    · dsimp only
      split
      · exact h.exit env now
      · exact h.maybeProduce env now
    · dsimp only
      split
      · exact h
      · exact h.maybeProduce env now
  | recvBytes =>
    dsimp only
    split
    · exact h
    · split
      · exact h.exit env now
      · exact h
  | chunks caller rest =>
    cases rest with
    | cons chunk rest =>
      have hparsed := h.handleBytes hcols (hkeeps chunk (by rw [hpc]; rfl))
      cases caller <;> exact hparsed
    | nil =>
      cases caller with
      | pending =>
        dsimp only
        split
        · exact h.exit env now
        · exact h.maybeProduce env now
      | arm => exact h
  | tick => exact h.tickAnimations now
  | publish => exact h.publish env now
  | finalCheck =>
    dsimp only
    split
    · exact h.exit env now
    · exact h
  | blocked => exact h.select hcols env now arm
  | armDo cmd =>
    cases cmd with
    | shutdown =>
      refine Sized.exit ?_ env now
      exact h
    | _ => exact h.handleCommand hcols env now _
  | awaitExit | exited => exact h

end

/-- A step that takes the resize does nothing else to the terminal. -/
theorem terminal_advance_of_takes (env : IoEnv) (now : Image.Nanos) (arm : Arm) (htakes : io.pc.takesResize = true) :
    (io.advance env now arm).terminal = io.applyPendingResize.terminal := by
  unfold advance
  cases hpc : io.pc with
  | drain | gotCommand | armCommand => rfl
  | _ =>
    rw [hpc] at htakes
    cases htakes

end PaneIo

/-! ## What was sent and what was done -/

/-- A command that was sent. -/
structure SentCommand where
  cmd : PaneIoCommand
  /-- The resizes sent before it. -/
  resizesBefore : Nat
  /-- The queue took it. -/
  accepted : Bool

/-- A command that was performed. -/
structure HandledCommand where
  cmd : PaneIoCommand
  /-- How many of the resizes sent were applied by then, each replaced by the next or put to the terminal. -/
  resizesApplied : Nat
  /-- What it was performed on. -/
  terminal : Term

/-- The thread with a record of the sends and of what became of them. -/
structure IoHistory where
  io : PaneIo
  resizes : List (BitVec 16 × BitVec 16) := []
  resizesApplied : Nat := 0
  sent : List SentCommand := []
  handled : List HandledCommand := []

namespace IoHistory

def new (t : Term) : IoHistory := { io := .new t }

/-- What happens to the thread, recorded. -/
def apply (env : IoEnv) (h : IoHistory) : IoEvent → IoHistory
  | .sendCommand cmd =>
    { h with
      io := h.io.sendCommand cmd
      sent := h.sent ++ [⟨cmd, h.resizes.length, decide (h.io.cmdQueue.length < cmdChannelCapacity)⟩] }
  | .sendResize rows cols => { h with io := h.io.sendResize rows cols, resizes := h.resizes ++ [(rows, cols)] }
  | .step now arm =>
    { h with
      io := h.io.advance env now arm
      resizesApplied := if h.io.pc.takesResize then h.resizes.length else h.resizesApplied
      handled := h.handled ++ h.io.pc.performing.toList.map fun cmd => ⟨cmd, h.resizesApplied, h.io.terminal⟩ }
  | e => { h with io := h.io.apply env e }

variable {env : IoEnv} {h : IoHistory}

/-- The commands the queue took. -/
def accepted (h : IoHistory) : List SentCommand := h.sent.filter (·.accepted)

/-- The performed command is the one sent, and every resize sent before it is applied. -/
def Performed (s : SentCommand) (d : HandledCommand) : Prop := d.cmd = s.cmd ∧ s.resizesBefore ≤ d.resizesApplied

/-- Of these commands the first are performed, and the others are in hand or wait in the queue. -/
def InOrder (h : IoHistory) (commands : List SentCommand) : Prop :=
  ∃ done rest, commands = done ++ rest ∧ List.Forall₂ Performed done h.handled
    ∧ rest.map (·.cmd) = h.io.pc.inHand.toList ++ h.io.cmdQueue

/-! ### Order -/

/-- What holds of sends and commands at every point. -/
structure Ordered (h : IoHistory) : Prop where
  applied_le : h.resizesApplied ≤ h.resizes.length
  /-- The slot holds the last resize, or everything is applied. -/
  slot :
    (h.io.pendingResize = pendingResizeNone ∧ h.resizesApplied = h.resizes.length)
      ∨ ∃ size, h.resizes.getLast? = some size ∧ h.io.pendingResize = packPendingResize size.1 size.2
  before : ∀ s ∈ h.sent, s.resizesBefore ≤ h.resizes.length
  inOrder : h.InOrder h.accepted
  /-- The command about to be performed sees what was sent before it. -/
  ready : h.io.pc.performing.isSome → ∀ s, h.accepted[h.handled.length]? = some s → s.resizesBefore ≤ h.resizesApplied

theorem ordered_new (t : Term) : (new t).Ordered := by
  refine ⟨Nat.le_refl _, .inl ⟨rfl, rfl⟩, fun s hs => ?_, ⟨[], [], rfl, .nil, rfl⟩, fun hperforming => ?_⟩
  · cases hs
  · cases hperforming

section

variable (h' : h.Ordered)
include h'

/-- The command about to be performed is one that was taken. -/
theorem Ordered.waiting (hperforming : h.io.pc.performing.isSome) : h.handled.length < h.accepted.length := by
  obtain ⟨cmd, hcmd⟩ := Option.isSome_iff_exists.mp hperforming
  obtain ⟨done, rest, hsplit, hdone, hrest⟩ := h'.inOrder
  rw [Pc.inHand_of_performing hcmd] at hrest
  have hlength : rest.length = 1 + h.io.cmdQueue.length := by
    rw [← length_map, hrest, length_append]
    rfl
  rw [hsplit, length_append, ← hdone.length_eq]
  omega

/-- A command is sent: it goes to the end, if there is room. -/
theorem Ordered.sendCommand (cmd : PaneIoCommand) : (h.apply env (.sendCommand cmd)).Ordered := by
  have hsame : (h.io.sendCommand cmd).pc = h.io.pc ∧ (h.io.sendCommand cmd).pendingResize = h.io.pendingResize
      ∧ (h.io.sendCommand cmd).cmdQueue =
        if h.io.cmdQueue.length < cmdChannelCapacity then h.io.cmdQueue ++ [cmd] else h.io.cmdQueue := by
    unfold PaneIo.sendCommand PaneIo.trySend
    by_cases hroom : h.io.cmdQueue.length < cmdChannelCapacity
    · split <;> exact ⟨rfl, rfl, rfl⟩
    · split <;> exact ⟨rfl, rfl, rfl⟩
  obtain ⟨hpc, hslot, hqueue⟩ := hsame
  let s : SentCommand := ⟨cmd, h.resizes.length, decide (h.io.cmdQueue.length < cmdChannelCapacity)⟩
  have haccepted : (h.apply env (.sendCommand cmd)).accepted = h.accepted ++ [s].filter (·.accepted) :=
    filter_append ..
  obtain ⟨done, rest, hsplit, hdone, hrest⟩ := h'.inOrder
  refine ⟨h'.applied_le, ?_, fun s' hs => ?_, ?_, fun hperforming s' hs => ?_⟩
  · show ((h.io.sendCommand cmd).pendingResize = _ ∧ _) ∨ ∃ size, _ ∧ (h.io.sendCommand cmd).pendingResize = _
    rw [hslot]
    exact h'.slot
  · rcases mem_append.mp hs with hs | hs
    · exact h'.before s' hs
    · obtain rfl := mem_singleton.mp hs
      exact Nat.le_refl _
  · refine ⟨done, rest ++ [s].filter (·.accepted), ?_, hdone, ?_⟩
    · rw [haccepted, hsplit, append_assoc]
    · show _ = (h.io.sendCommand cmd).pc.inHand.toList ++ (h.io.sendCommand cmd).cmdQueue
      rw [hpc, hqueue, map_append, hrest]
      by_cases hroom : h.io.cmdQueue.length < cmdChannelCapacity
      · have hs : s.accepted = true := decide_eq_true hroom
        rw [if_pos hroom, filter_cons_of_pos hs, append_assoc]
        rfl
      · have hs : ¬s.accepted = true := by
          rw [Bool.not_eq_true]
          exact decide_eq_false hroom
        rw [if_neg hroom, filter_cons_of_neg hs, filter_nil, map_nil, append_nil]
  · have hperforming' : h.io.pc.performing.isSome := by rwa [← hpc]
    refine h'.ready hperforming' s' ?_
    have hnext : (h.accepted ++ [s].filter (·.accepted))[h.handled.length]? = some s' := haccepted ▸ hs
    rwa [getElem?_append_left (h'.waiting hperforming')] at hnext

/-- A step of the loop. -/
theorem Ordered.step (now : Image.Nanos) (arm : PaneIo.Arm) : (h.apply env (.step now arm)).Ordered := by
  have hmoves := PaneIo.moves_advance env now arm h.io
  obtain ⟨done, rest, hsplit, hdone, hrest⟩ := h'.inOrder
  rw [hmoves.commands] at hrest
  refine ⟨?_, ?_, h'.before, ?_, fun hperforming s hs => ?_⟩
  · show (if h.io.pc.takesResize then _ else _) ≤ _
    split
    · exact Nat.le_refl _
    · exact h'.applied_le
  · show ((h.io.advance env now arm).pendingResize = _ ∧ (if h.io.pc.takesResize then _ else _) = _)
      ∨ ∃ size, _ ∧ (h.io.advance env now arm).pendingResize = _
    rw [hmoves.slot]
    split
    · exact .inl ⟨rfl, rfl⟩
    · exact h'.slot
  · cases hperforming : h.io.pc.performing with
    | none =>
      refine ⟨done, rest, hsplit, ?_, ?_⟩
      · show List.Forall₂ _ _ (h.handled ++ h.io.pc.performing.toList.map _)
        rw [hperforming, Option.toList_none, map_nil, append_nil]
        exact hdone
      · rw [hrest, hperforming]
        rfl
    | some cmd =>
      -- the one in hand is the first that was not performed
      rw [hperforming] at hrest
      obtain ⟨s, rest', rfl, hcmd, hrest'⟩ := map_eq_cons_iff.mp hrest
      refine ⟨done ++ [s], rest', ?_, ?_, hrest'⟩
      · rw [append_assoc]
        exact hsplit
      · show List.Forall₂ _ _ (h.handled ++ h.io.pc.performing.toList.map _)
        rw [hperforming]
        refine rel_append hdone (.cons ⟨hcmd.symm, h'.ready (by rw [hperforming]; rfl) s ?_⟩ .nil)
        rw [hsplit, getElem?_append_right hdone.length_eq.le, hdone.length_eq, Nat.sub_self]
        rfl
  · show s.resizesBefore ≤ if h.io.pc.takesResize then h.resizes.length else _
    cases htakes : h.io.pc.takesResize with
    | false =>
      have hnone : (h.io.advance env now arm).pc.performing = none := hmoves.performing htakes
      have hsome : (h.io.advance env now arm).pc.performing.isSome := hperforming
      rw [hnone] at hsome
      cases hsome
    | true => exact h'.before s (mem_of_mem_filter (mem_of_getElem? hs))

/-- A resize is sent: it replaces what the slot holds. -/
theorem Ordered.sendResize (rows cols : BitVec 16) : (h.apply env (.sendResize rows cols)).Ordered := by
  have hlength : h.resizes.length ≤ (h.resizes ++ [(rows, cols)]).length := by
    rw [length_append]
    exact Nat.le_add_right ..
  refine ⟨h'.applied_le.trans hlength, .inr ⟨(rows, cols), getLast?_concat .., rfl⟩, fun s hs => ?_, h'.inOrder,
    h'.ready⟩
  exact (h'.before s hs).trans hlength

/-- The rest changes neither channel. -/
theorem Ordered.of_same {io : PaneIo} (hsame : PaneIo.SameChannels h.io io) (hpc : io.pc = h.io.pc) :
    Ordered { h with io } := by
  refine ⟨h'.applied_le, ?_, h'.before, ?_, fun hperforming => h'.ready (hpc ▸ hperforming)⟩
  · rw [hsame.slot]
    exact h'.slot
  · obtain ⟨done, rest, hsplit, hdone, hrest⟩ := h'.inOrder
    refine ⟨done, rest, hsplit, hdone, ?_⟩
    rw [hpc, hsame.queue]
    exact hrest

theorem Ordered.apply (e : IoEvent) : (h.apply env e).Ordered := by
  cases e with
  | sendCommand cmd => exact h'.sendCommand cmd
  | sendResize rows cols => exact h'.sendResize rows cols
  | setShutdown | closeBytes | childExits => exact h'.of_same ⟨rfl, rfl⟩ rfl
  | sendBytes message =>
    refine h'.of_same ?_ ?_
    · unfold PaneIo.apply
      dsimp only
      split <;> exact ⟨rfl, rfl⟩
    · unfold PaneIo.apply
      dsimp only
      split <;> rfl
  | step now arm => exact h'.step now arm

end

/-- **Commands stay in order, whatever the schedule.** -/
theorem ordered_run (env : IoEnv) (t : Term) (es : List IoEvent) : (run (apply env) (new t) es).Ordered :=
  run_invariant (fun _ e h => h.apply e) (ordered_new t) es

/-! ### Geometry -/

/-- The size after so many of the resizes: that of the last of them, if it is not empty. -/
def LastApplied (initial : Nat × Nat) (resizes : List (BitVec 16 × BitVec 16)) : Nat → Nat × Nat → Prop
  | 0, size => size = initial
  | n + 1, size => ∀ rows cols, resizes[n]? = some (rows, cols) → rows.toNat ≠ 0 → cols.toNat ≠ 0 →
      size = (rows.toNat, cols.toNat)

/-- Both screens of the terminal have the size after so many of the resizes. -/
def HasGeometry (initial : Nat × Nat) (resizes : List (BitVec 16 × BitVec 16)) (n : Nat) (t : Term) : Prop :=
  ∃ size, LastApplied initial resizes n size ∧ 0 < size.2 ∧ t.EachGrid (Grid.HasSize size.1 size.2)

variable {initial : Nat × Nat}

/-- Later resizes do not matter. -/
theorem HasGeometry.append {resizes : List (BitVec 16 × BitVec 16)} {n : Nat} {t : Term}
    (hgeometry : HasGeometry initial resizes n t) (hn : n ≤ resizes.length) (more : List (BitVec 16 × BitVec 16)) :
    HasGeometry initial (resizes ++ more) n t := by
  obtain ⟨size, hlast, hsize⟩ := hgeometry
  refine ⟨size, ?_, hsize⟩
  cases n with
  | zero => exact hlast
  | succ n =>
    intro rows cols hget
    rw [getElem?_append_left hn] at hget
    exact hlast rows cols hget

/-- The program switches no columns in this step. -/
def KeepsColumns (env : IoEnv) (h : IoHistory) : IoEvent → Prop
  | .step _ _ => h.io.StepKeepsColumns env
  | _ => True

instance (env : IoEnv) (h : IoHistory) : ∀ e, Decidable (h.KeepsColumns env e)
  | .step _ _ => inferInstanceAs (Decidable (h.io.StepKeepsColumns env))
  | .sendCommand _ | .sendResize _ _ | .setShutdown | .sendBytes _ | .closeBytes | .childExits _ => isTrue trivial

/-- The terminal has the geometry of the resizes applied, now and for every command that was performed. -/
structure Sized (initial : Nat × Nat) (h : IoHistory) : Prop extends Ordered h where
  terminal : HasGeometry initial h.resizes h.resizesApplied h.io.terminal
  handled : ∀ d ∈ h.handled,
    d.resizesApplied ≤ h.resizes.length ∧ HasGeometry initial h.resizes d.resizesApplied d.terminal

theorem sized_new {lines cols : Nat} (scrollback : Nat) (theme : Theme) (hcols : 0 < cols) :
    (new (.new lines cols scrollback theme)).Sized (lines, cols) := by
  have hwf : (Grid.withScrollback lines cols scrollback).Wf := Grid.wf_withScrollback lines scrollback hcols
  refine ⟨ordered_new _, ⟨(lines, cols), rfl, hcols, ⟨hwf, rfl, rfl⟩, fun g hg => ?_⟩, ?_⟩
  · cases hg
  · intro d hd
    cases hd

/-- **The slot is emptied into the terminal.** -/
theorem Sized.applyPendingResize (h' : h.Sized initial) :
    HasGeometry initial h.resizes h.resizes.length h.io.applyPendingResize.terminal := by
  obtain ⟨size, hlast, hcols, hsize⟩ := h'.terminal
  rcases h'.slot with ⟨hnone, hall⟩ | ⟨⟨rows, cols⟩, hget, hpack⟩
  · rw [PaneIo.applyPendingResize_none hnone, ← hall]
    exact ⟨size, hlast, hcols, hsize⟩
  · have hresized := PaneIo.Sized.resize hsize hpack
    refine ⟨_, ?_, ?_, hresized⟩
    · rw [getLast?_eq_getElem?] at hget
      cases hlength : h.resizes.length with
      | zero =>
        rw [length_eq_zero_iff.mp hlength] at hget
        cases hget
      | succ n =>
        intro rows' cols' hget' hrows hcols'
        rw [hlength] at hget
        obtain ⟨rfl, rfl⟩ := Prod.mk.inj (Option.some.inj (hget.symm.trans hget'))
        exact if_neg (not_or.mpr ⟨hrows, hcols'⟩)
    · unfold PaneIo.resizeTo
      split
      · exact hcols
      · next hempty => exact Nat.pos_of_ne_zero fun hzero => hempty (.inr hzero)

theorem Sized.step (h' : h.Sized initial) (hkeeps : h.io.StepKeepsColumns env) (now : Image.Nanos) (arm : PaneIo.Arm) :
    (h.apply env (.step now arm)).Sized initial := by
  refine ⟨h'.toOrdered.step now arm, ?_, fun d hd => ?_⟩
  · show HasGeometry initial h.resizes (if h.io.pc.takesResize then _ else _) (h.io.advance env now arm).terminal
    cases htakes : h.io.pc.takesResize with
    | true =>
      rw [PaneIo.terminal_advance_of_takes env now arm htakes]
      exact h'.applyPendingResize
    | false =>
      obtain ⟨size, hlast, hcols, hsize⟩ := h'.terminal
      exact ⟨size, hlast, hcols, PaneIo.Sized.advance hsize hcols htakes hkeeps now arm⟩
  · rcases mem_append.mp hd with hd | hd
    · exact h'.handled d hd
    · obtain ⟨cmd, _, rfl⟩ := mem_map.mp hd
      exact ⟨h'.applied_le, h'.terminal⟩

theorem Sized.apply (h' : h.Sized initial) (e : IoEvent) (hkeeps : h.KeepsColumns env e) :
    (h.apply env e).Sized initial := by
  have hordered : (h.apply env e).Ordered := h'.toOrdered.apply e
  cases e with
  | sendResize rows cols =>
    refine ⟨hordered, h'.terminal.append h'.applied_le _, fun d hd => ?_⟩
    obtain ⟨hle, hgeometry⟩ := h'.handled d hd
    refine ⟨hle.trans ?_, hgeometry.append hle _⟩
    show _ ≤ (h.resizes ++ [(rows, cols)]).length
    rw [length_append]
    exact Nat.le_add_right ..
  | step now arm => exact h'.step hkeeps now arm
  | sendCommand cmd =>
    refine ⟨hordered, ?_, h'.handled⟩
    have hsame : (h.io.sendCommand cmd).terminal = h.io.terminal := by
      unfold PaneIo.sendCommand PaneIo.trySend
      repeat' split
      all_goals rfl
    show HasGeometry initial _ _ (h.io.sendCommand cmd).terminal
    rw [hsame]
    exact h'.terminal
  | sendBytes message =>
    refine ⟨hordered, ?_, h'.handled⟩
    have hsame : (h.io.apply env (.sendBytes message)).terminal = h.io.terminal := by
      unfold PaneIo.apply
      dsimp only
      split <;> rfl
    show HasGeometry initial _ _ (h.io.apply env (.sendBytes message)).terminal
    rw [hsame]
    exact h'.terminal
  | setShutdown | closeBytes | childExits => exact ⟨hordered, h'.terminal, h'.handled⟩

/-- A pane of one line. -/
def sample (es : List IoEvent) : IoHistory := run (apply PaneIo.narrowEnv) (new (.new 1 2 0 .dark)) es

/-- The terminal has the size of the last resize once that was taken. -/
def Arrived (h : IoHistory) : Prop :=
  h.io.pendingResize = pendingResizeNone →
    ∀ size ∈ h.resizes.getLast?, h.io.terminal.EachGrid (Grid.HasSize size.1.toNat size.2.toNat)

/-- More commands than the queue holds. -/
def flooded : IoHistory := sample (List.replicate 257 (.sendCommand .reset))

end IoHistory

end OriTerm
