import OriTerm.Term.Charset
import OriTerm.Term.Placeholder
import OriTerm.Term.Sgr

/-!
# `Term.State` — the terminal state machine's state

Two grids with an image cache each, of which `ALT_SCREEN` selects the active pair, and everything else the
escape sequences can change. The alternate pair is allocated on first use; a missing one falls back to the
primary pair, as in the source.

Timing diagnostics, the colours only queries read (OSC 5, 6, 13, 14, 17, 19) and the iTerm2 user variables are
left out; a command's start is recorded without its instant.
-/

namespace OriTerm

open Lib.Bitflags

/-! ## Effects -/

/-- What a reply to the child process answers. -/
inductive PtyWriteKind where
  | deviceAttribute | cursorReport | deviceStatus | modeReport | statusString | imageProtocolReply | mouseEvent
  | keyboardEvent | focusEvent | checksumReport | graphicsAttributeReport | answerback | other
  deriving DecidableEq, Repr

/-- Where a desktop notification came from. -/
inductive NotificationSource where
  | osc9 | osc99 | osc777
  deriving DecidableEq, Repr

/-- Clipboard selections. -/
inductive ClipboardSelection where
  | clipboard | primary | select
  deriving DecidableEq, Repr

/-- Boundary-crossing side effects, in the order they are emitted. -/
inductive Effect where
  | ptyWrite (bytes : List UInt8) (kind : PtyWriteKind)
  | bell
  | urgencyHint
  | desktopNotification (source : NotificationSource) (title body : String)
  | titleSet (value : Option String)
  | iconNameSet (value : Option String)
  | cwdSet (cwd : String)
  | clipboardStore (selection : ClipboardSelection) (data : String)
  | clipboardLoad (selection : ClipboardSelection) (clipboardChar : UInt8) (terminator : String)
  | commandComplete
  | clearPendingNotifications
  | cursorBlinkChanged (enabled : Bool)
  | mouseCursorDirty
  deriving DecidableEq, Repr

/-! ## Shell integration -/

/-- Shell integration prompt lifecycle state. -/
inductive PromptState where
  | none | promptStart | commandStart | outputStart
  deriving DecidableEq, Repr

/-- One prompt lifecycle's boundary rows, as absolute row indices. -/
structure PromptMarker where
  prompt : Nat
  command : Option Nat
  output : Option Nat
  deriving DecidableEq, Repr

/-- Deferred OSC 133 marking actions. -/
abbrev PendingMarks := BitVec 8

namespace PendingMarks

def prompt : PendingMarks := 1
def commandStart : PendingMarks := 2
def outputStart : PendingMarks := 4

end PendingMarks

/-! ## The terminal -/

/-- Sixel colour registers. -/
def colorRegistersMax : Nat := 256

/-- The terminal state machine. -/
structure Term where
  /-- Primary grid. -/
  grid : Grid
  /-- Alternate grid, without scrollback. -/
  altGrid : Option Grid := none
  mode : TermMode := .initial
  palette : Palette
  theme : Theme
  charset : CharsetState := {}
  savedCharset : Option CharsetState := none
  savedOriginMode : Option Bool := none
  inactiveSavedCharset : Option CharsetState := none
  inactiveSavedOriginMode : Option Bool := none
  title : String := ""
  iconName : String := ""
  cwd : Option String := none
  titleStack : List String := []
  cursorShape : CursorShape := .block
  keyboardModeStack : List KeyboardModes := []
  inactiveKeyboardModeStack : List KeyboardModes := []
  preCommandKbStackSnapshot : Option (List KeyboardModes) := none
  inactivePreCommandKbStackSnapshot : Option (List KeyboardModes) := none
  preCommandKbModeBitsSnapshot : Option KeyboardModes := none
  inactiveKeyboardModeBits : KeyboardModes := .noMode
  inactivePreCommandKbModeBitsSnapshot : Option KeyboardModes := none
  /-- Emitted effects, oldest first. -/
  effects : List Effect := []
  selectionDirty : Bool := false
  promptState : PromptState := .none
  pendingMarks : PendingMarks := 0
  promptMarkers : List PromptMarker := []
  /-- A command was started (OSC 133;C) and not finished. -/
  commandStarted : Bool := false
  hasExplicitTitle : Bool := false
  titleDirty : Bool := false
  boldIsBright : Bool := true
  savedPrivateModes : AList (fun _ : Nat => Bool) := ∅
  imageCache : Image.Cache := .new
  altImageCache : Option Image.Cache := none
  cellPixelWidth : Nat := 8
  cellPixelHeight : Nat := 16
  imageProtocolEnabled : Bool := true
  colorRegisterCount : Nat := colorRegistersMax
  deccolmDefaultCols : Nat
  mouseCursorIcon : Option CursorIcon := none
  lastCommandLine : Option String := none
  checksumFlags : Nat := 0
  charProtection : Bool := false
  conformanceLevel : Nat := 64
  c1SevenBit : Bool := true
  activeStatusDisplay : Nat := 0
  statusLineType : Nat := 0
  aceMode : AceMode := .stream
  answerback : List UInt8 := []

namespace Term

variable (t : Term) (flag : TermMode)

def new (lines cols scrollback : Nat) (theme : Theme) : Term :=
  { grid := .withScrollback lines cols scrollback, palette := .forTheme theme, theme, deccolmDefaultCols := cols }

/-- `ALT_SCREEN` is set. -/
def altActive : Bool := contains t.mode TermMode.altScreen

/-- `grid()`. -/
def activeGrid : Grid := if t.altActive then t.altGrid.getD t.grid else t.grid

/-- `image_cache()`. -/
def activeCache : Image.Cache := if t.altActive then t.altImageCache.getD t.imageCache else t.imageCache

/-- A mutation through `grid_mut()`. -/
def onGrid (f : Grid → Grid) : Term :=
  match t.altActive, t.altGrid with
  | true, some g => { t with altGrid := some (f g) }
  | _, _ => { t with grid := f t.grid }

/-- One grid operation on the active grid. -/
def gridOp (op : GridOp) : Term := t.onGrid fun g => op.apply g

/-- An edit in place of the active grid. -/
def gridEdit (e : GridEdit) : Term := t.gridOp (.edit e)

/-- Grid operations on the active grid, in order. -/
def gridOps (ops : List GridOp) : Term := ops.foldl gridOp t

/-- A mutation through `image_cache_mut()`. -/
def onCache (f : Image.Cache → Image.Cache) : Term :=
  match t.altActive, t.altImageCache with
  | true, some c => { t with altImageCache := some (f c) }
  | _, _ => { t with imageCache := f t.imageCache }

/-- A mutation of both caches. -/
def onCaches (f : Image.Cache → Image.Cache) : Term :=
  { t with imageCache := f t.imageCache, altImageCache := t.altImageCache.map f }

/-- `self.mode.contains(flag)`. -/
def has : Bool := contains t.mode flag

def insertMode : Term := { t with mode := insert t.mode flag }

def removeMode : Term := { t with mode := remove t.mode flag }

def setMode (value : Bool) : Term := { t with mode := set t.mode flag value }

/-- `effect_sink.push`. -/
def emit (e : Effect) : Term := { t with effects := t.effects ++ [e] }

def dirtySelection : Term := { t with selectionDirty := true }

end Term

end OriTerm
