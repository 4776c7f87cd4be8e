import OriTerm.Term.Handler

/-!
# `Term.Shell` — shell integration and host settings

What is done to a terminal from outside the escape sequence handlers: the prompt lifecycle of OSC 133, which the
raw interceptor drives and the IO thread completes, prompt navigation, and the settings the host pushes.

A mark is made in two steps. The interceptor only raises a bit of `pendingMarks`; the row is recorded later by
`markPromptRow` and its siblings, at wherever the cursor is by then.
-/

namespace OriTerm

open Lib.Bitflags

namespace Term

variable (t : Term)

/-! ## Prompt marks -/

def setPendingMark (mark : PendingMarks) (pending : Bool) : Term :=
  { t with pendingMarks := set t.pendingMarks mark pending }

/-- `prompt_markers.last_mut()`. -/
def onLastMarker (f : PromptMarker → PromptMarker) : Term :=
  { t with promptMarkers := t.promptMarkers.modify (t.promptMarkers.length - 1) f }

/-- OSC 133;A: records the cursor row as a prompt, unless the last marker is already there. -/
def markPromptRow : Term :=
  if contains t.pendingMarks PendingMarks.prompt then
    let t := { t with pendingMarks := remove t.pendingMarks PendingMarks.prompt }
    if t.promptMarkers.getLast?.any (·.prompt == t.cursorRow) then t
    else { t with promptMarkers := t.promptMarkers ++ [⟨t.cursorRow, none, none⟩] }
  else t

/-- OSC 133;B: the command of the last prompt starts at the cursor row. -/
def markCommandStartRow : Term :=
  if contains t.pendingMarks PendingMarks.commandStart then
    onLastMarker { t with pendingMarks := remove t.pendingMarks PendingMarks.commandStart } fun m =>
      { m with command := some t.cursorRow }
  else t

/-- OSC 133;C: the output of the last prompt's command starts at the cursor row. -/
def markOutputStartRow : Term :=
  if contains t.pendingMarks PendingMarks.outputStart then
    onLastMarker { t with pendingMarks := remove t.pendingMarks PendingMarks.outputStart } fun m =>
      { m with output := some t.cursorRow }
  else t

/-- A marker after `evicted` rows left the history; `none` when its prompt was one of them. -/
def pruneMarker (evicted : Nat) (m : PromptMarker) : Option PromptMarker :=
  if m.prompt < evicted then none
  else some
    { prompt := m.prompt - evicted, command := m.command.map (· - evicted), output := m.output.map (· - evicted) }

def prunePromptMarkers (evicted : Nat) : Term :=
  if evicted = 0 then t else { t with promptMarkers := t.promptMarkers.filterMap (pruneMarker evicted) }

/-! ## Keyboard modes at command boundaries -/

/-- OSC 133;C remembers the keyboard modes of both screens. -/
def snapshotKeyboardModeStack : Term :=
  { t with
    preCommandKbStackSnapshot := some t.keyboardModeStack
    inactivePreCommandKbStackSnapshot := some t.inactiveKeyboardModeStack
    preCommandKbModeBitsSnapshot := some (KeyboardModes.ofTermMode t.mode)
    inactivePreCommandKbModeBitsSnapshot := some t.inactiveKeyboardModeBits }

/-- OSC 133;A and D bring the remembered modes back, once. -/
def restoreKeyboardModeStack : Term :=
  let t :=
    { t with
      keyboardModeStack := t.preCommandKbStackSnapshot.getD t.keyboardModeStack
      preCommandKbStackSnapshot := none }
  let t := match t.preCommandKbModeBitsSnapshot with
    | some bits => setKeyboardMode { t with preCommandKbModeBitsSnapshot := none } bits .replace
    | none => t
  { t with
    inactiveKeyboardModeStack := t.inactivePreCommandKbStackSnapshot.getD t.inactiveKeyboardModeStack
    inactivePreCommandKbStackSnapshot := none
    inactiveKeyboardModeBits := t.inactivePreCommandKbModeBitsSnapshot.getD t.inactiveKeyboardModeBits
    inactivePreCommandKbModeBitsSnapshot := none }

/-! ## Prompt navigation -/

/-- Scrolls the primary view so that an absolute row is in its middle. -/
def scrollToAbsoluteRow (absRow : Nat) : Term :=
  let sbLen := t.grid.scrollback.len
  let offset := min (sbLen - (absRow - t.grid.lines / 2)) sbLen
  if offset ≠ t.grid.displayOffset then
    { t with grid := t.grid.scrollDisplay ((offset : Int) - t.grid.displayOffset) }
  else t

/-- Scrolls to the nearest prompt above the view. -/
def scrollToPreviousPrompt : Term :=
  let viewportTop := t.grid.scrollback.len - t.grid.displayOffset
  match t.promptMarkers.reverse.find? (·.prompt < viewportTop) with
  | some marker => t.scrollToAbsoluteRow marker.prompt
  | none => t

/-- Scrolls to the nearest prompt below the view. -/
def scrollToNextPrompt : Term :=
  let viewportBottom := t.grid.scrollback.len - t.grid.displayOffset + t.grid.lines
  match t.promptMarkers.find? (·.prompt ≥ viewportBottom) with
  | some marker => t.scrollToAbsoluteRow marker.prompt
  | none => t

/-! ## Host settings -/

def setBoldIsBright (enabled : Bool) : Term := { t with boldIsBright := enabled }

def setAnswerback (bytes : List UInt8) : Term := { t with answerback := bytes }

/-- `*palette_mut() = palette`. -/
def setPalette (palette : Palette) : Term := { t with palette }

/-- `grid_mut().dirty_mut().mark_all()`. -/
def markAllDirty : Term := t.gridEdit .markAll

/-- `grid_mut().scroll_display(delta)`. -/
def scrollDisplay (t : Term) (delta : Int) : Term := t.gridOp (.scrollDisplay delta)

end Term

end OriTerm
