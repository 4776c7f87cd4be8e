import OriTerm.Mux.Interceptor
import OriTerm.Term.Op
import OriTerm.Term.Search
import OriTerm.Term.Snapshot

/-!
# `Mux.IoThread` — the pane IO thread and its handle

The IO thread owns the terminal of a pane. It reads commands from a bounded queue, PTY bytes from another, and
resizes from a coalescing slot, and publishes snapshots to the double buffer.

`PaneIo` is the thread together with what it shares with the other side. `Pc` names the points of the run loop
between which the other side may act: each has at most one access to the shared state, so a run is a list of
`IoEvent`s, each a call of the handle, a message of the PTY reader or one step of the loop. `apply_pending_resize`
loads the slot and then swaps it; only this thread empties the slot, so the two take effect at one point.

A byte message is what the two parsers make of it: its 64 KiB chunks, each with the OSC strings the raw parser
dispatches, the operations the processor performs, and the deadline its synchronized-update timer is left with. What
the commands that only read reply with is left out, and so are the PTY's own resize, the replies to pending host
requests (`Mux.HostRequest` has them) and the abort effect of a timed-out update. The command channel stays open: the
handle joins the thread before it drops its sender.
-/

namespace OriTerm

open Lib Lib.Bitflags

/-- What the thread relies on: character widths, float arithmetic, the search and string decoding. -/
structure IoEnv where
  width : Char → Option Nat
  f32 : F32Arith
  findMatches : Grid → String → List SearchMatch
  text : TextOps

/-! ## Messages -/

structure ImageConfig where
  enabled : Bool
  memoryLimit : Nat
  maxSingle : Nat
  animationEnabled : Bool
  deriving DecidableEq, Repr

/-- Commands from the main thread. -/
inductive PaneIoCommand where
  | scrollDisplay (delta : Int)
  | scrollToBottom
  | scrollToPreviousPrompt
  | scrollToNextPrompt
  | setTheme (theme : Theme) (palette : Palette)
  | setCursorShape (shape : CursorShape)
  | setBoldIsBright (enabled : Bool)
  | markAllDirty
  | snapshotNow (reply : Nat)
  | setImageConfig (config : ImageConfig)
  | setCellDimensions (width height : Nat)
  | extractText
  | extractHtml
  | openSearch
  | closeSearch
  | searchSetQuery (query : String)
  | searchNextMatch
  | searchPrevMatch
  | enterMarkMode
  | reset
  | selectCommandOutput
  | selectCommandInput
  | shutdown
  | setAnswerback (bytes : List UInt8)
  deriving DecidableEq, Repr

/-- What a chunk of PTY bytes parses to. -/
structure Chunk where
  oscs : List (List (List UInt8)) := []
  ops : List TermOp := []
  syncTimeout : Option Image.Nanos := none

/-! ## The pending resize -/

/-- The valid tag. -/
def pendingResizeValid : BitVec 64 := 1#64 <<< 48

def pendingResizeNone : BitVec 64 := 0

/-- Encodes a resize; bit 48 is the tag, the rows are above the columns. -/
def packPendingResize (rows cols : BitVec 16) : BitVec 64 :=
  pendingResizeValid ||| (rows.setWidth 64 <<< 32) ||| cols.setWidth 64

/-- Decodes a resize. -/
def unpackPendingResize (packed : BitVec 64) : Option (BitVec 16 × BitVec 16) :=
  if packed &&& pendingResizeValid = 0 then none
  else some ((packed >>> 32).setWidth 16, packed.setWidth 16)

/-! ## The thread -/

/-- Who called `handle_bytes_chunked`. -/
inductive ChunkCaller where
  | pending | arm
  deriving DecidableEq, Repr

/-- Who called `drain_commands`: the top of the loop, or the parse of a message with chunks left. -/
inductive DrainCaller where
  | top
  | chunk (caller : ChunkCaller) (rest : List Chunk)

/-- The points of the run loop. -/
inductive Pc where
  /-- Before the first snapshot. -/
  | start
  /-- `drain_commands`: the resize before the first command. -/
  | drain (caller : DrainCaller)
  /-- `cmd_rx.try_recv`. -/
  | recvCommand (caller : DrainCaller)
  /-- A command was taken; the resize before it. -/
  | gotCommand (caller : DrainCaller) (cmd : PaneIoCommand)
  | doCommand (caller : DrainCaller) (cmd : PaneIoCommand)
  /-- `drain_commands` returned; the caller looks at the shutdown flag. -/
  | drained (caller : DrainCaller)
  /-- `byte_rx.try_recv`. -/
  | recvBytes
  /-- The chunks of a message still to parse. -/
  | chunks (caller : ChunkCaller) (rest : List Chunk)
  | tick
  | publish
  /-- The shutdown check before `select!`. -/
  | finalCheck
  /-- Waiting in `select!`. -/
  | blocked
  | armCommand (cmd : PaneIoCommand)
  | armDo (cmd : PaneIoCommand)
  /-- After the final snapshot, waiting for the child's exit status. -/
  | awaitExit
  | exited

/-- The IO thread with what it shares. -/
structure PaneIo where
  pc : Pc := .start
  terminal : Term
  search : Option SearchState := none
  gridDirty : Bool := false
  /-- The snapshots flipped into the double buffer, oldest first. -/
  published : List RenderableContent := []
  lastSnapshotPublish : Option Image.Nanos := none
  /-- The processor's synchronized-update timer. -/
  syncTimeout : Option Image.Nanos := none
  lastAnimationDeadline : Option Image.Nanos := none
  modeCache : TermMode := 0
  selectionDirty : Bool := false
  pendingChildExit : Option Int := none
  /-- Effects handed to the router, oldest first. -/
  routed : List Effect := []
  /-- The deadlines of `AnimationDeadlineChanged`. -/
  deadlines : List (Option Image.Nanos) := []
  /-- `SnapshotNow` replies that were sent. -/
  replies : List Nat := []
  /-- The exit code of `PaneExited`. -/
  paneExited : Option Int := none
  cmdQueue : List PaneIoCommand := []
  pendingResize : BitVec 64 := pendingResizeNone
  byteQueue : List (List Chunk) := []
  bytesClosed : Bool := false
  shutdown : Bool := false
  childExit : Option Int := none

/-- Commands the queue holds. -/
def cmdChannelCapacity : Nat := 512 * 1024 / (2 * 1024)

/-- 16 ms. -/
def snapshotInterval : Image.Nanos := 16000000

namespace PaneIo

variable (env : IoEnv) (now : Image.Nanos) (io : PaneIo)

/-! ### Publication -/

/-- The snapshot of the current state. -/
def content : RenderableContent :=
  fillSearchSnapshot io.search (io.terminal.renderableContent env.f32)

/-- A synchronized update is open. -/
def syncOpen : Bool := io.terminal.has .syncUpdate

def produceSnapshot : PaneIo :=
  { io with
    published := io.published ++ [io.content env]
    terminal := io.terminal.resetDamage
    lastSnapshotPublish := some now
    gridDirty := false }

/-- Publishes if something changed and no synchronized update is open. -/
def publishPendingSnapshot : PaneIo :=
  if io.syncOpen then io else if !io.gridDirty then io else io.produceSnapshot env now

/-- The same at most once in 16 ms. -/
def maybeProduceSnapshot : PaneIo :=
  if io.syncOpen then io
  else if !io.gridDirty then io
  else if io.lastSnapshotPublish.any fun last => now - last < snapshotInterval then io
  else io.produceSnapshot env now

/-! ### Commands -/

def dirtyGrid : PaneIo := { io with gridDirty := true }

/-- A change of the terminal. -/
def onTerm (f : Term → Term) : PaneIo := { io with terminal := f io.terminal }

/-- A change of the search session; without one the command is ignored. -/
def onSearch (f : SearchState → SearchState) : PaneIo :=
  match io.search with
  | some s => dirtyGrid { io with search := some (f s) }
  | none => io

/-- `isize::MIN`. -/
def scrollToLive : Int := -2 ^ 63

/-- Performs a command; `Shutdown` is intercepted before. -/
def handleCommand : PaneIoCommand → PaneIo
  | .scrollDisplay delta => (io.onTerm (·.scrollDisplay delta)).dirtyGrid
  | .scrollToBottom => (io.onTerm (·.scrollDisplay scrollToLive)).dirtyGrid
  | .setTheme theme palette => (io.onTerm fun t => ((t.setTheme theme).setPalette palette).markAllDirty).dirtyGrid
  | .setCursorShape shape => (io.onTerm (·.setCursorShape shape)).dirtyGrid
  | .setBoldIsBright enabled => (io.onTerm (·.setBoldIsBright enabled)).dirtyGrid
  | .markAllDirty => (io.onTerm (·.markAllDirty)).dirtyGrid
  | .setImageConfig config =>
    io.onTerm fun t =>
      ((t.setImageProtocolEnabled config.enabled).setImageLimits config.memoryLimit config.maxSingle)
        |>.setImageAnimationEnabled config.animationEnabled
  | .setCellDimensions width height => (io.onTerm (·.setCellDimensions width height)).dirtyGrid
  | .scrollToPreviousPrompt => (io.onTerm (·.scrollToPreviousPrompt)).dirtyGrid
  | .scrollToNextPrompt => (io.onTerm (·.scrollToNextPrompt)).dirtyGrid
  | .openSearch => dirtyGrid { io with search := some {} }
  | .closeSearch => dirtyGrid { io with search := none }
  | .searchSetQuery query => io.onSearch fun s => s.setQuery env.findMatches query io.terminal.activeGrid
  | .searchNextMatch => io.onSearch (·.nextMatch)
  | .searchPrevMatch => io.onSearch (·.prevMatch)
  | .reset => io
  | .setAnswerback bytes => io.onTerm (·.setAnswerback bytes)
  | .enterMarkMode =>
    (io.onTerm fun t => if t.activeGrid.displayOffset > 0 then t.scrollDisplay scrollToLive else t).dirtyGrid
  | .snapshotNow reply =>
    let io := io.dirtyGrid.publishPendingSnapshot env now
    { io with replies := io.replies ++ [reply] }
  | .extractText | .extractHtml | .selectCommandOutput | .selectCommandInput => io
  | .shutdown => io

/-- Takes the pending resize and applies it. -/
def applyPendingResize : PaneIo :=
  match unpackPendingResize io.pendingResize with
  | some (rows, cols) =>
    { io with
      pendingResize := pendingResizeNone
      terminal := io.terminal.resize rows.toNat cols.toNat true
      gridDirty := true }
  | none => { io with pendingResize := pendingResizeNone }

/-! ### Bytes -/

/-- Hands the queued effects to the router. -/
def drainEffects : PaneIo :=
  { io with routed := io.routed ++ io.terminal.effects, terminal := { io.terminal with effects := [] } }

/-- Completes the deferred marks, prunes the markers of evicted rows, and publishes the flags the main thread reads.
    The row counter is a `usize`. -/
def postParseHousekeeping (evictedBefore : Nat) : PaneIo :=
  let t := io.terminal.markPromptRow.markCommandStartRow.markOutputStartRow
  let newlyEvicted := (t.activeGrid.totalEvicted + 2 ^ 64 - evictedBefore) % 2 ^ 64
  let t := t.prunePromptMarkers newlyEvicted
  { io with
    terminal := { t with selectionDirty := false }
    modeCache := t.mode
    selectionDirty := io.selectionDirty || t.selectionDirty }

/-- What the housekeeping does, whatever the row counter says. -/
theorem postParseHousekeeping_eq (evictedBefore : Nat) :
    ∃ evicted modeCache selectionDirty, io.postParseHousekeeping evictedBefore =
      { io with
        terminal :=
          { (io.terminal.markPromptRow.markCommandStartRow.markOutputStartRow).prunePromptMarkers evicted with
            selectionDirty := false }
        modeCache
        selectionDirty } :=
  ⟨_, _, _, rfl⟩

/-- The terminal after both parsers ran over a chunk: the raw one over all of it first. -/
def parseChunk (t : Term) (chunk : Chunk) : Term :=
  run (TermOp.apply env.width) (chunk.oscs.foldl (Interceptor.oscDispatch env.text) t) chunk.ops

def handleBytes (chunk : Chunk) : PaneIo :=
  let evictedBefore := io.terminal.activeGrid.totalEvicted
  let io := { io with terminal := parseChunk env io.terminal chunk, syncTimeout := chunk.syncTimeout }
  let io := if io.syncOpen then io else io.dirtyGrid
  (io.postParseHousekeeping evictedBefore).drainEffects

/-- Closes an overdue synchronized update and publishes. The abort effect is for observers only. -/
def handleSyncTimeout : PaneIo :=
  let evictedBefore := io.terminal.activeGrid.totalEvicted
  let io := { io with terminal := io.terminal.applyPrivateMode .syncUpdate false, syncTimeout := none }
  (io.postParseHousekeeping evictedBefore).dirtyGrid.publishPendingSnapshot env now

/-- Advances the animations; a changed cache dirties the grid. -/
def tickAnimations : PaneIo :=
  let advanced := io.terminal.advanceAnimations now
  let taken := advanced.1.takeImageDirty
  { io with
    terminal := taken.1
    gridDirty := io.gridDirty || taken.2
    deadlines := if advanced.2 ≠ io.lastAnimationDeadline then io.deadlines ++ [advanced.2] else io.deadlines
    lastAnimationDeadline := advanced.2 }

/-! ### The loop -/

/-- Which arm of the `select!` fires. -/
inductive Arm where
  | command | bytes | childExit | wake | timeout
  deriving DecidableEq, Repr

def goto (pc : Pc) : PaneIo := { io with pc }

/-- A last publication, then the loop returns. -/
def exit : PaneIo := (io.publishPendingSnapshot env now).goto .exited

/-- The arm that fires; an arm that is not ready does nothing. -/
def select : Arm → PaneIo
  | .command =>
    match io.cmdQueue with
    | cmd :: rest => goto { io with cmdQueue := rest } (.armCommand cmd)
    | [] => io
  | .bytes =>
    match io.byteQueue with
    | message :: rest => goto { io with byteQueue := rest } (.chunks .arm message)
    | [] =>
      if io.bytesClosed then (io.drainEffects.dirtyGrid.publishPendingSnapshot env now).goto .awaitExit else io
  | .childExit =>
    match io.childExit with
    | some code => goto { io with pendingChildExit := some code, childExit := none } (.drain .top)
    | none => io
  | .wake => io.goto (.drain .top)
  | .timeout =>
    (if io.syncTimeout.any (· ≤ now) then io.handleSyncTimeout env now else io).goto (.drain .top)

/-- One step of the loop. -/
def advance (arm : Arm) (io : PaneIo) : PaneIo :=
  match io.pc with
  | .start => (io.dirtyGrid.produceSnapshot env now).goto (.drain .top)
  | .drain caller => io.applyPendingResize.goto (.recvCommand caller)
  | .recvCommand caller =>
    match io.cmdQueue with
    | cmd :: rest => goto { io with cmdQueue := rest } (.gotCommand caller cmd)
    | [] => io.drainEffects.goto (.drained caller)
  | .gotCommand caller cmd => io.applyPendingResize.goto (.doCommand caller cmd)
  | .doCommand caller .shutdown => goto { io with shutdown := true } (.drained caller)
  | .doCommand caller cmd => (io.handleCommand env now cmd).goto (.recvCommand caller)
  | .drained .top => if io.shutdown then io.exit env now else io.goto .recvBytes
  | .drained (.chunk .pending rest) =>
    if io.shutdown then io.exit env now else (io.maybeProduceSnapshot env now).goto (.chunks .pending rest)
  | .drained (.chunk .arm rest) =>
    if io.shutdown then io.goto (.drain .top) else (io.maybeProduceSnapshot env now).goto (.chunks .arm rest)
  | .recvBytes =>
    match io.byteQueue with
    | message :: rest => goto { io with byteQueue := rest } (.chunks .pending message)
    | [] => if io.shutdown then io.exit env now else io.goto .tick
  | .chunks caller (chunk :: rest) => (io.handleBytes env chunk).goto (.drain (.chunk caller rest))
  | .chunks .pending [] => if io.shutdown then io.exit env now else (io.maybeProduceSnapshot env now).goto .recvBytes
  | .chunks .arm [] => io.goto (.drain .top)
  | .tick => (io.tickAnimations now).goto .publish
  | .publish => (io.publishPendingSnapshot env now).goto .finalCheck
  | .finalCheck => if io.shutdown then io.exit env now else io.goto .blocked
  | .blocked => io.select env now arm
  | .armCommand cmd => io.applyPendingResize.goto (.armDo cmd)
  | .armDo .shutdown => exit env now { io with shutdown := true }
  | .armDo cmd => (io.handleCommand env now cmd).goto (.drain .top)
  | .awaitExit =>
    goto { io with paneExited := some (io.pendingChildExit.getD (io.childExit.getD 0)), pendingChildExit := none }
      .exited
  | .exited => io

end PaneIo

/-! ## Interleavings -/

/-- What may happen to a pane: a call of its handle, the reader's message, or a step of the thread. -/
inductive IoEvent where
  | sendCommand (cmd : PaneIoCommand)
  | sendResize (rows cols : BitVec 16)
  /-- The writer thread, or the handle when it is dropped. -/
  | setShutdown
  | sendBytes (message : List Chunk)
  | closeBytes
  | childExits (code : Int)
  /-- One step of the loop, at an instant, with the arm that fires if it waits. -/
  | step (now : Image.Nanos) (arm : PaneIo.Arm)

namespace PaneIo

/-- `cmd_tx.try_send`: a full queue drops the command. -/
def trySend (io : PaneIo) (cmd : PaneIoCommand) : PaneIo :=
  if io.cmdQueue.length < cmdChannelCapacity then { io with cmdQueue := io.cmdQueue ++ [cmd] } else io

def sendCommand (io : PaneIo) (cmd : PaneIoCommand) : PaneIo :=
  if cmd = .shutdown then trySend { io with shutdown := true } cmd else io.trySend cmd

/-- The last writer wins. -/
def sendResize (io : PaneIo) (rows cols : BitVec 16) : PaneIo :=
  { io with pendingResize := packPendingResize rows cols }

def apply (env : IoEnv) (io : PaneIo) : IoEvent → PaneIo
  | .sendCommand cmd => io.sendCommand cmd
  | .sendResize rows cols => io.sendResize rows cols
  | .setShutdown => { io with shutdown := true }
  | .sendBytes message => if io.bytesClosed then io else { io with byteQueue := io.byteQueue ++ [message] }
  | .closeBytes => { io with bytesClosed := true }
  | .childExits code => { io with childExit := some code }
  | .step now arm => io.advance env now arm

/-- A pane about to run. -/
def new (t : Term) : PaneIo := { terminal := t }

end PaneIo

end OriTerm
