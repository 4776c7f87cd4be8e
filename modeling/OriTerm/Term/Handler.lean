import OriTerm.Term.State

/-!
# `Term.Handler` — the escape sequence handlers

One definition for each handler that changes the terminal, grouped as in the source: control characters and
printing, erasing with its image clean-up, rectangles and columns, modes, screens, resets, the shell
integration and the resize. Grid changes go through `gridOp`, image changes through `onCache`, so that what a
handler may do to a screen is read off its text.

The width of a character comes from a Unicode table outside this development: `width` is a parameter of the
printing handlers.
-/

namespace OriTerm

open Lib.Bitflags

/-- Erase modes of ED. -/
inductive ClearMode where
  | below | above | all | saved
  deriving DecidableEq, Repr

/-- Raw, 1-based rectangle parameters; 0 means the default. -/
structure DecRect where
  top : Nat
  left : Nat
  bot : Nat
  right : Nat
  deriving DecidableEq, Repr

namespace Term

variable (t : Term) (rect : DecRect) (count : Nat) (width : Nat) (index : Nat)

/-! ## Images follow the grid -/

/-- Recomputes the placeholder anchors of the active screen from its grid. -/
def reconcilePlaceholderAnchorsFromGrid : Term :=
  if t.activeCache.placeholderAnchors = ∅ then t
  else
    let survivors := collectPlaceholderImageIdsInGrid t.activeGrid
    t.onCache (·.reconcilePlaceholderAnchors survivors)

/-- Prunes image placements that fell off the scrollback since `prevEvicted`. -/
def pruneImagesIfEvicted (prevEvicted : Nat) : Term :=
  let newEvicted := t.activeGrid.totalEvicted
  if newEvicted > prevEvicted then
    (t.onCache (·.pruneScrollback ⟨newEvicted⟩)).reconcilePlaceholderAnchorsFromGrid
  else t

/-- A visible line as a stable row index. -/
def gridLineStable (line : Nat) : StableRowIndex :=
  ⟨t.activeGrid.totalEvicted + t.activeGrid.scrollback.len + line⟩

/-- Removes image placements in the region ED erased. -/
def clearImagesAfterEd (mode : ClearMode) : Term :=
  let g := t.activeGrid
  let cl := g.cursor.line
  let cc := g.cursor.col
  let region := fun (t : Term) (top bottom : Nat) (left right : Option Nat) =>
    t.onCache (·.removePlacementsInRegion (t.gridLineStable top) (t.gridLineStable bottom) left right)
  let cleared := match mode with
    | .below =>
      let t := region t cl cl (some cc) none
      if cl + 1 < g.lines then region t (cl + 1) (g.lines - 1) none none else t
    | .above =>
      let t := region t cl cl none (some cc)
      if cl > 0 then region t 0 (cl - 1) none none else t
    | .all => region t 0 (g.lines - 1) none none
    | .saved => t.onCache (·.pruneScrollback ⟨g.totalEvicted⟩)
  cleared.reconcilePlaceholderAnchorsFromGrid

/-- Removes image placements on the erased part of the cursor line. -/
def clearImagesAfterEl (mode : LineEraseMode) : Term :=
  let cc := t.activeGrid.cursor.col
  let (left, right) := match mode with
    | .right => (some cc, none)
    | .left => (none, some cc)
    | .all => (none, none)
  let row := t.gridLineStable t.activeGrid.cursor.line
  (t.onCache (·.removePlacementsInRegion row row left right)).reconcilePlaceholderAnchorsFromGrid

/-- Removes image placements in the cells ECH erases. -/
def clearImagesAfterEch : Term :=
  let cc := t.activeGrid.cursor.col
  let stop := min (cc + count) t.activeGrid.cols
  if stop > cc then
    let row := t.gridLineStable t.activeGrid.cursor.line
    (t.onCache (·.removePlacementsInRegion row row (some cc) (some (stop - 1)))).reconcilePlaceholderAnchorsFromGrid
  else t

/-! ## Cursor positioning -/

/-- An incoming column as an absolute column: relative to the margins under DECOM and DECLRMM. -/
def originAwareCol (col : Nat) : Nat :=
  if t.has .origin ∧ t.has .leftRightMargin then min (col + t.activeGrid.leftMargin) t.activeGrid.rightMargin
  else min col (t.activeGrid.cols - 1)

/-- Absolute positioning; the line is relative to the scroll region under DECOM. -/
def gotoOriginAware (line : Int) (col : Nat) : Term :=
  let (offset, maxLine) :=
    if t.has .origin then (t.activeGrid.regionStart, t.activeGrid.regionEnd - 1) else (0, t.activeGrid.lines - 1)
  t.gridEdit (.moveTo (min (line.toNat + offset) maxLine) (t.originAwareCol col))

def gotoLine (line : Int) : Term := t.gotoOriginAware line t.activeGrid.cursor.col

def gotoCol (col : Nat) : Term := t.gridEdit (.moveToColumn (t.originAwareCol col))

/-- Reverse wraparound: from the left edge back to the right edge of a soft-wrapped line. -/
def tryReverseWrap : Option Term :=
  let g := t.activeGrid
  let inBand := g.cursorInMarginBand
  if g.cursor.col ≠ (if inBand then g.leftMargin else 0) then none
  else if g.cursor.line = 0 then none
  else
    let wrapCol := if inBand then g.rightMargin else g.cols - 1
    let prev := g.cursor.line - 1
    if (g.cell prev wrapCol).has CellFlags.wrap then some (t.gridEdit (.moveTo prev wrapCol)) else none

def backspace (t : Term) : Term :=
  if t.has .reverseWrap then t.tryReverseWrap.getD (t.gridEdit .backspace) else t.gridEdit .backspace

def putTab : Term := t.gridOps (List.replicate count (.edit .tab))

def moveBackwardTabs : Term := t.gridOps (List.replicate count (.edit .tabBackward))

def moveDownAndCr : Term := (t.gridEdit (.moveDown count)).gridEdit .carriageReturn

def moveUpAndCr : Term := (t.gridEdit (.moveUp count)).gridEdit .carriageReturn

def setScrollingRegion (top : Nat) (bottom : Option Nat) : Term :=
  (t.gridOp (.setScrollRegion top bottom)).gotoOriginAware 0 0

/-! ## Printing -/

/-- The cell under the cursor, or `offset` columns further, holds a placeholder. -/
def cellAtOffsetIsPlaceholder (offset : Nat) : Bool :=
  let col := t.activeGrid.cursor.col + offset
  col < t.activeGrid.cols && (t.activeGrid.cell t.activeGrid.cursor.line col).ch == kittyPlaceholder

/-- Without DECAWM a pending wrap goes back to the last column. -/
def dropPendingWrap : Term :=
  if !t.has .lineWrap && t.activeGrid.cursor.col ≥ t.activeGrid.cols then
    t.gridEdit (.setCol (t.activeGrid.cols - 1))
  else t

/-- The character takes the ASCII fast path. -/
def takesAsciiPath (c : Char) : Bool :=
  c.toNat ≤ 0x7E && 0x20 ≤ c.toNat && !t.has .insertMode && t.charset.isAscii && (t.activeGrid.putCharAscii c).isSome

/-- IRM makes room for the character. -/
def makeRoom : Term :=
  if t.has .insertMode then t.gridEdit (.insertBlank width) else t

/-- Reconciles when the write may have removed a placeholder cell. -/
def reconcileIf (b : Bool) : Term := if b then t.reconcilePlaceholderAnchorsFromGrid else t

/-- A wide character that does not fit without DECAWM. -/
def dropsWide : Bool :=
  width == 2 && !t.has .lineWrap && t.activeGrid.cursor.col + 1 ≥ t.activeGrid.cols

/-- The general path: translated character of positive width. -/
def inputWide (c : Char) (reconcile : Bool) : Term :=
  if t.dropsWide width then t.gridEdit (.setCol t.activeGrid.cols)
  else
    let prev := t.activeGrid.totalEvicted
    let plus1WasPlaceholder := width == 2 && t.cellAtOffsetIsPlaceholder 1
    let inserted := t.has .insertMode
    (((t.makeRoom width).gridOp (.putChar width c)).pruneImagesIfEvicted prev).reconcileIf
      (reconcile || plus1WasPlaceholder || inserted)

/-- Printable character input: charset translation, width handling, wrapping. -/
def inputChar (width : Char → Option Nat) (t : Term) (c : Char) : Term :=
  let t := t.dirtySelection.dropPendingWrap
  let reconcile := t.cellAtOffsetIsPlaceholder 0 || t.activeGrid.cursor.col ≥ t.activeGrid.cols
  if t.takesAsciiPath c then (t.gridEdit (.putCharAscii c)).reconcileIf reconcile
  else
    let translated := t.charset.translate c
    let t := { t with charset := translated.1 }
    match width translated.2 with
    | none => t
    | some 0 => t.gridEdit (.pushZerowidth translated.2)
    | some w => t.inputWide w translated.2 reconcile

/-! ## Control characters, erasing and scrolling -/

def bell (t : Term) : Term :=
  let t := t.emit .bell
  if t.has .urgencyHints then t.emit .urgencyHint else t

/-- LF, VT and FF; next line under LNM. -/
def linefeed (t : Term) : Term :=
  let prev := t.activeGrid.totalEvicted
  (t.dirtySelection.gridOp (if t.has .lineFeedNewLine then .nextLine else .linefeed)).pruneImagesIfEvicted prev

def newline : Term := (t.dirtySelection.gridOp .nextLine).pruneImagesIfEvicted t.activeGrid.totalEvicted

def scrollUp (t : Term) (count : Nat) : Term :=
  (t.dirtySelection.gridOp (.scrollUp count)).pruneImagesIfEvicted t.activeGrid.totalEvicted

/-- ED. -/
def clearScreen (mode : ClearMode) : Term :=
  let erase : DisplayEraseMode := match mode with
    | .below => .below
    | .above => .above
    | .all => .all
    | .saved => .scrollback
  (t.dirtySelection.gridOp (.eraseDisplay erase)).clearImagesAfterEd mode

/-- EL. -/
def clearLine (mode : LineEraseMode) : Term :=
  (t.dirtySelection.gridEdit (.eraseLine mode)).clearImagesAfterEl mode

/-- ECH; the images go first. -/
def eraseChars (t : Term) (count : Nat) : Term :=
  (t.dirtySelection.clearImagesAfterEch count).gridEdit (.eraseChars count)

/-! ## Rectangles -/

/-- The rectangle clamped to the screen and to the margins, 0-based; `none` when nothing is left. -/
def clampRect : Option RectArea :=
  let g := t.activeGrid
  if g.lines = 0 ∨ g.cols = 0 then none
  else
    let or := fun n default => if n = 0 then default else n
    let top := min (or rect.top 1) g.lines - 1
    let bot := min (or rect.bot g.lines) g.lines - 1
    let left := min (or rect.left 1) g.cols - 1
    let right := min (or rect.right g.cols) g.cols - 1
    let left := if g.hasHorizontalMargins then max left g.leftMargin else left
    let right := if g.hasHorizontalMargins then min right g.rightMargin else right
    if top > bot ∨ left > right then none else some { top, left, bot, right }

/-- The shared adapter of the rectangle handlers: clamp, then edit. -/
def onRect (f : Term → RectArea → Term) : Term :=
  match t.clampRect rect with
  | none => t
  | some area => f t.dirtySelection area

/-- DECSACE. -/
def decsace (mode : Nat) : Term := { t with aceMode := if mode = 2 then .rectangle else .stream }

def deccara (attrs : List Nat) : Term :=
  t.onRect rect fun t area => t.gridEdit (.applySgrRect area attrs t.aceMode)

def decrara (attrs : List Nat) : Term :=
  t.onRect rect fun t area => t.gridEdit (.reverseSgrRect area attrs t.aceMode)

def deccra (src : DecRect) (dstTop dstLeft : Nat) : Term :=
  let top := max dstTop 1 - 1
  let left := max dstLeft 1 - 1
  if top ≥ t.activeGrid.lines ∨ left ≥ t.activeGrid.cols then t
  else t.onRect src fun t area => (t.gridEdit (.copyRect area top left)).reconcilePlaceholderAnchorsFromGrid

/-- DECFRA; a fill character outside the printable ranges is ignored. -/
def decfra (ch : Nat) (rect : DecRect) : Term :=
  let fillCode := if ch = 0 then 0x20 else ch
  if 0x20 ≤ fillCode ∧ fillCode ≤ 0x7E ∨ 0xA0 ≤ fillCode ∧ fillCode ≤ 0xFF then
    t.onRect rect fun t area =>
      let template := { t.activeGrid.cursor.template with ch := Char.ofNat fillCode }
      (t.gridEdit (.fillRect area template)).reconcilePlaceholderAnchorsFromGrid
  else t

def xtchecksum (flags : Nat) : Term := { t with checksumFlags := flags }

def decera : Term :=
  t.onRect rect fun t area =>
    (t.gridEdit (.eraseRectAll area t.activeGrid.cursor.template.bg)).reconcilePlaceholderAnchorsFromGrid

def decsera : Term :=
  t.onRect rect fun t area =>
    (t.gridEdit (.eraseRectUnprotected area t.activeGrid.cursor.template.bg)).reconcilePlaceholderAnchorsFromGrid

/-! ## Columns -/

/-- The cursor is inside the margin band, or there are no margins. -/
def cursorInColumns : Bool :=
  let g := t.activeGrid
  !g.hasHorizontalMargins || (g.leftMargin ≤ g.cursor.col && g.cursor.col ≤ g.rightMargin)

/-- The bounds DECBI and DECFI scroll between. -/
def columnBounds : Nat × Nat :=
  let g := t.activeGrid
  if g.hasHorizontalMargins then (g.leftMargin, g.rightMargin) else (0, g.cols - 1)

def insertColumnsAt (count atCol : Nat) : Term :=
  (t.dirtySelection.gridEdit (.insertColumns count atCol)).reconcilePlaceholderAnchorsFromGrid

def deleteColumnsAt (count atCol : Nat) : Term :=
  (t.dirtySelection.gridEdit (.deleteColumns count atCol)).reconcilePlaceholderAnchorsFromGrid

def decic : Term :=
  if t.cursorInColumns then t.insertColumnsAt (max count 1) t.activeGrid.cursor.col else t

def decdc : Term :=
  if t.cursorInColumns then t.deleteColumnsAt (max count 1) t.activeGrid.cursor.col else t

def decbi : Term :=
  if t.activeGrid.cursor.col = t.columnBounds.1 then t.insertColumnsAt 1 t.columnBounds.1
  else t.gridEdit (.moveBackward 1)

def decfi : Term :=
  if t.activeGrid.cursor.col = t.columnBounds.2 then t.deleteColumnsAt 1 t.columnBounds.1
  else t.gridEdit (.moveForward 1)

/-! ## Saved cursor and margins -/

/-- DECSC. -/
def saveCursor (t : Term) : Term :=
  let t := t.gridEdit .saveCursor
  { t with savedCharset := some t.charset, savedOriginMode := some (t.has .origin) }

/-- DECRC. -/
def restoreCursor (t : Term) : Term :=
  let t := t.gridEdit .restoreCursor
  let t := { t with charset := t.savedCharset.getD t.charset }
  match t.savedOriginMode with
  | some origin => t.setMode .origin origin
  | none => t

/-- CSI s: DECSLRM under mode 69, otherwise save cursor. -/
def decslrmOrSaveCursor (hasParams : Bool) (left right : Nat) : Term :=
  if hasParams then
    if t.has .leftRightMargin then
      let r := if right = 0 then t.activeGrid.cols - 1 else right - 1
      t.gridOp (.setLeftRightMargins (max left 1 - 1) r)
    else t
  else if t.has .leftRightMargin then t.gridOp .resetLeftRightMargins
  else t.saveCursor

/-! ## Cursor style and keyboard -/

def setCursorShape (shape : CursorShape) : Term := { t with cursorShape := shape }

/-- DECSCUSR. -/
def setCursorStyle (style : Option (CursorShape × Bool)) : Term :=
  let t := match style with
    | some (shape, blinking) => (t.setCursorShape shape).setMode .cursorBlinking blinking
    | none => (t.setCursorShape .block).insertMode .cursorBlinking
  t.emit (.cursorBlinkChanged (t.has .cursorBlinking))

/-- Maximum depth of the kitty keyboard mode stacks. -/
def keyboardModeStackMaxDepth : Nat := 4096

/-- Applies keyboard mode flags. -/
def setKeyboardMode (mode : KeyboardModes) (apply : KeyboardModesApplyBehavior) : Term :=
  let active := t.mode &&& TermMode.kittyKeyboardProtocol
  let newMode := mode.toTermMode
  let applied := match apply with
    | .replace => newMode
    | .union => active ||| newMode
    | .difference => active &&& ~~~newMode
  (t.removeMode .kittyKeyboardProtocol).insertMode applied

/-- Pushes a keyboard mode; a full stack loses its oldest entry. -/
def pushKeyboardMode (mode : KeyboardModes) : Term :=
  let stack := if t.keyboardModeStack.length ≥ keyboardModeStackMaxDepth then t.keyboardModeStack.drop 1
    else t.keyboardModeStack
  setKeyboardMode { t with keyboardModeStack := stack ++ [mode] } mode .replace

def popKeyboardModes (toPop : Nat) : Term :=
  let stack := t.keyboardModeStack.take (t.keyboardModeStack.length - toPop)
  setKeyboardMode { t with keyboardModeStack := stack } (stack.getLast?.getD .noMode) .replace

/-! ## Screens -/

/-- Allocates the alternate grid and image cache on first use. -/
def ensureAltGrid : Term :=
  match t.altGrid with
  | some _ => t
  | none =>
    { t with altGrid := some (.withScrollback t.grid.lines t.grid.cols 0), altImageCache := some .new }

/-- Flips the screen, exchanges what is kept per screen, and marks everything. -/
def toggleAltCommon : Term :=
  let activeBits := KeyboardModes.ofTermMode (t.mode ^^^ TermMode.altScreen)
  let newBits := t.inactiveKeyboardModeBits
  let t :=
    { t with
      mode := t.mode ^^^ TermMode.altScreen
      keyboardModeStack := t.inactiveKeyboardModeStack
      inactiveKeyboardModeStack := t.keyboardModeStack
      preCommandKbStackSnapshot := t.inactivePreCommandKbStackSnapshot
      inactivePreCommandKbStackSnapshot := t.preCommandKbStackSnapshot
      preCommandKbModeBitsSnapshot := t.inactivePreCommandKbModeBitsSnapshot
      inactivePreCommandKbModeBitsSnapshot := t.preCommandKbModeBitsSnapshot
      savedCharset := t.inactiveSavedCharset
      inactiveSavedCharset := t.savedCharset
      savedOriginMode := t.inactiveSavedOriginMode
      inactiveSavedOriginMode := t.savedOriginMode
      inactiveKeyboardModeBits := activeBits }
  (t.setKeyboardMode newBits .replace).gridEdit .markAll

/-- Mode 1049: the cursor is saved on the screen left and restored on the screen entered. -/
def swapAlt : Term :=
  let t := t.dirtySelection.ensureAltGrid
  let t :=
    if t.altActive then { t with altGrid := t.altGrid.map Grid.saveCursor, grid := t.grid.restoreCursor }
    else { t with grid := t.grid.saveCursor, altGrid := t.altGrid.map Grid.restoreCursor }
  t.toggleAltCommon

/-- Mode 47. -/
def swapAltNoCursor : Term := t.dirtySelection.ensureAltGrid.toggleAltCommon

/-- Mode 1047: the alternate screen is cleared on enter. -/
def swapAltClear : Term :=
  let t := t.dirtySelection.ensureAltGrid
  toggleAltCommon { t with altGrid := t.altGrid.map Grid.reset, altImageCache := t.altImageCache.map (·.clear) }

/-! ## Modes -/

/-- DECSCNM; every cell's colours change. -/
def setReverseVideo (enable : Bool) : Term := (t.setMode .reverseVideo enable).gridEdit .markAll

/-- DECCOLM; the grid is resized only under mode 40. -/
def applyDeccolm (set : Bool) : Term :=
  let t :=
    if t.has .enableMode3 then
      t.gridOp (.resize t.activeGrid.lines (if set then 132 else t.deccolmDefaultCols) false)
    else t
  let t := (t.gridOp (.setScrollRegion 1 none)).gridOp .resetLeftRightMargins
  ((t.dirtySelection.gridOp (.eraseDisplay .all)).clearImagesAfterEd .all).gotoOriginAware 0 0

/-- Mouse reporting modes exclude each other. -/
def setMouseMode (flag : TermMode) : Term :=
  ((t.removeMode .anyMouse).insertMode flag).emit .mouseCursorDirty

/-- Mouse encodings exclude each other. -/
def setMouseEncoding (flag : TermMode) : Term := (t.removeMode .anyMouseEncoding).insertMode flag

/-- DECSET. -/
def applyDecset : NamedPrivateMode → Term
  | .cursorKeys => t.insertMode .appCursor
  | .origin => (t.insertMode .origin).gotoOriginAware 0 0
  | .lineWrap => t.insertMode .lineWrap
  | .blinkingCursor => (t.insertMode .cursorBlinking).emit (.cursorBlinkChanged true)
  | .showCursor => t.insertMode .showCursor
  | .x10Mouse => t.setMouseMode .mouseX10
  | .reportMouseClicks => t.setMouseMode .mouseReportClick
  | .reportCellMouseMotion => t.setMouseMode .mouseDrag
  | .reportAllMouseMotion => t.setMouseMode .mouseMotion
  | .reportFocusInOut => t.insertMode .focusInOut
  | .utf8Mouse => t.setMouseEncoding .mouseUtf8
  | .sgrMouse => t.setMouseEncoding .mouseSgr
  | .urxvtMouse => t.setMouseEncoding .mouseUrxvt
  | .urgencyHints => t.insertMode .urgencyHints
  | .reverseWraparound => t.insertMode .reverseWrap
  | .altScreen => if t.altActive then t else t.swapAltNoCursor
  | .altScreenOpt => if t.altActive then t else t.swapAltClear
  | .saveCursor => t.gridEdit .saveCursor
  | .swapScreenAndSetRestoreCursor => if t.altActive then t else t.swapAlt
  | .bracketedPaste => t.insertMode .bracketedPaste
  | .syncUpdate => t.insertMode .syncUpdate
  | .alternateScroll => t.insertMode .alternateScroll
  | .sixelScrolling => t.insertMode .sixelScrolling
  | .sixelCursorRight => t.insertMode .sixelCursorRight
  | .reverseVideo => t.setReverseVideo true
  | .enableMode3 => t.insertMode .enableMode3
  | .win32Input => t.insertMode .win32Input
  | .leftRightMargin => t.insertMode .leftRightMargin
  | .colorSchemeUpdate => t.insertMode .colorSchemeUpdate
  | .decNumericKeypad => t.insertMode .appKeypad
  | .decBackarrowKey => t.insertMode .decbkm
  | .columnMode => t.applyDeccolm true

/-- DECRST. -/
def applyDecrst : NamedPrivateMode → Term
  | .cursorKeys => t.removeMode .appCursor
  | .origin => (t.removeMode .origin).gotoOriginAware 0 0
  | .lineWrap => t.removeMode .lineWrap
  | .blinkingCursor => (t.removeMode .cursorBlinking).emit (.cursorBlinkChanged false)
  | .showCursor => t.removeMode .showCursor
  | .x10Mouse => (t.removeMode .mouseX10).emit .mouseCursorDirty
  | .reportMouseClicks => (t.removeMode .mouseReportClick).emit .mouseCursorDirty
  | .reportCellMouseMotion => (t.removeMode .mouseDrag).emit .mouseCursorDirty
  | .reportAllMouseMotion => (t.removeMode .mouseMotion).emit .mouseCursorDirty
  | .reportFocusInOut => t.removeMode .focusInOut
  | .utf8Mouse => t.removeMode .mouseUtf8
  | .sgrMouse => t.removeMode .mouseSgr
  | .urxvtMouse => t.removeMode .mouseUrxvt
  | .urgencyHints => t.removeMode .urgencyHints
  | .reverseWraparound => t.removeMode .reverseWrap
  | .altScreen | .altScreenOpt => if t.altActive then t.swapAltNoCursor else t
  | .saveCursor => t.gridEdit .restoreCursor
  | .swapScreenAndSetRestoreCursor => if t.altActive then t.swapAlt else t
  | .bracketedPaste => t.removeMode .bracketedPaste
  | .syncUpdate => t.removeMode .syncUpdate
  | .alternateScroll => t.removeMode .alternateScroll
  | .sixelScrolling => t.removeMode .sixelScrolling
  | .sixelCursorRight => t.removeMode .sixelCursorRight
  | .reverseVideo => t.setReverseVideo false
  | .enableMode3 => t.removeMode .enableMode3
  | .win32Input => t.removeMode .win32Input
  | .leftRightMargin => (t.removeMode .leftRightMargin).gridOp .resetLeftRightMargins
  | .colorSchemeUpdate => t.removeMode .colorSchemeUpdate
  | .decNumericKeypad => t.removeMode .appKeypad
  | .decBackarrowKey => t.removeMode .decbkm
  | .columnMode => t.applyDeccolm false

/-- DECSET or DECRST of a mode. -/
def applyPrivateMode (mode : NamedPrivateMode) (value : Bool) : Term :=
  if value then t.applyDecset mode else t.applyDecrst mode

/-- SM or RM of an ANSI mode. -/
def applyMode (mode : NamedMode) (value : Bool) : Term :=
  match mode with
  | .insert => t.setMode .insertMode value
  | .lineFeedNewLine => t.setMode .lineFeedNewLine value

/-- XTSAVE of one mode. -/
def xtsaveOne (num : Nat) : Term :=
  let isSet := ((NamedPrivateMode.ofNumber num).bind (·.flag)).any t.has
  { t with savedPrivateModes := t.savedPrivateModes.insert num isSet }

/-- XTSAVE. -/
def applyXtsave (modes : List Nat) : Term := modes.foldl xtsaveOne t

/-- XTRESTORE of one mode: a saved value is applied like DECSET or DECRST. -/
def xtrestoreOne (num : Nat) : Term :=
  match t.savedPrivateModes.lookup num, NamedPrivateMode.ofNumber num with
  | some saved, some named => t.applyPrivateMode named saved
  | _, _ => t

/-- XTRESTORE. -/
def applyXtrestore (modes : List Nat) : Term := modes.foldl xtrestoreOne t

/-! ## Resets -/

/-- The keyboard state of both screens, cleared with an empty state to restore at the next prompt. -/
def resetKeyboard : Term :=
  { t with
    keyboardModeStack := [], inactiveKeyboardModeStack := []
    preCommandKbStackSnapshot := some [], inactivePreCommandKbStackSnapshot := some []
    preCommandKbModeBitsSnapshot := some .noMode, inactivePreCommandKbModeBitsSnapshot := some .noMode
    inactiveKeyboardModeBits := .noMode }

/-- Modes, charsets and saved state of both screens, back to their defaults. -/
def resetModes : Term :=
  { t with
    mode := .initial, charset := {}
    savedCharset := none, savedOriginMode := none, inactiveSavedCharset := none, inactiveSavedOriginMode := none
    cursorShape := .block }

/-- DECSTR on one grid; the screen contents stay. -/
def softResetGrid (g : Grid) : Grid :=
  [GridOp.edit (.editTemplate fun _ => .blank), .edit (.setLine 0), .edit (.setCol 0), .setScrollRegion 0 none,
   .setLeftRightMargins 0 (g.cols - 1), .edit .clearSavedCursor, .edit .clearSgrStack].foldl GridOp.apply g

/-- DECSTR. -/
def softReset : Term :=
  let t := t.dirtySelection
  let t := { t with grid := softResetGrid t.grid, altGrid := t.altGrid.map softResetGrid }
  let t := { t.resetModes.resetKeyboard with charProtection := false }
  t.onCaches (·.clear)

/-- DECSCL: the level is stored, then DECSTR. -/
def decscl (level c1Mode : Nat) : Term :=
  softReset { t with conformanceLevel := level, c1SevenBit := c1Mode == 1 }

/-- RIS: both screens and everything else go back to the initial state. -/
def resetState : Term :=
  let t := t.dirtySelection
  let t := { t with grid := t.grid.reset, altGrid := t.altGrid.map Grid.reset }
  let t :=
    { t.resetModes.resetKeyboard with
      palette := .forTheme t.theme
      title := "", iconName := "", titleStack := [], cwd := none
      promptState := .none, pendingMarks := 0, promptMarkers := []
      commandStarted := false, hasExplicitTitle := false, titleDirty := true, savedPrivateModes := ∅
      charProtection := false, conformanceLevel := 64, c1SevenBit := true, activeStatusDisplay := 0
      statusLineType := 0, aceMode := .stream, colorRegisterCount := colorRegistersMax }
  ((t.emit .clearPendingNotifications).onCaches (·.clear)).emit (.titleSet none)

/-- The cell DECALN writes. -/
def alignmentCell : Cell := { ch := 'E', flags := CellFlags.drawn }

/-- DECALN. -/
def decaln : Term :=
  let t := (t.dirtySelection.gridOp (.setScrollRegion 1 none)).gridOp .resetLeftRightMargins
  (t.gridEdit (.fillScreen fun _ => alignmentCell)).gotoOriginAware 0 0

/-- DECSCA. -/
def decsca (isProtected : Nat) : Term :=
  let enable := isProtected == 1
  gridEdit { t with charProtection := enable }
    (.editTemplate fun c => { c with flags := set c.flags CellFlags.isProtected enable })

/-! ## Titles, colours, links -/

def setTitle (title : Option String) : Term :=
  emit { t with title := title.getD "", hasExplicitTitle := title.isSome, titleDirty := true } (.titleSet title)

def setIconName (name : Option String) : Term := emit { t with iconName := name.getD "" } (.iconNameSet name)

/-- Maximum depth of the title stack. -/
def titleStackMaxDepth : Nat := 4096

def pushTitle : Term :=
  let stack := if t.titleStack.length ≥ titleStackMaxDepth then t.titleStack.drop 1 else t.titleStack
  { t with titleStack := stack ++ [t.title] }

def popTitle : Term :=
  match t.titleStack.getLast? with
  | some title => setTitle { t with titleStack := t.titleStack.dropLast } (some title)
  | none => t

/-- A palette change repaints everything, but for the cursor colour. -/
def onPalette (f : Palette → Palette) : Term :=
  let t := { t with palette := f t.palette }
  if index ≠ NamedColor.cursor.index then t.gridEdit .markAll else t

/-- OSC 4, 10–12. -/
def setColor (color : Rgb) : Term := t.onPalette index (·.setIndexed index color)

/-- OSC 104, 110–112. -/
def resetColor : Term := t.onPalette index (·.resetIndexed index)

/-- OSC 8. -/
def setHyperlink (t : Term) (link : Option Hyperlink) : Term := t.gridEdit (.editTemplate (·.setHyperlink link))

/-- The absolute row of the primary screen's cursor. -/
def cursorRow : Nat := t.grid.scrollback.len + t.grid.cursor.line

/-- OSC 1337 SetMark: records the cursor row as a prompt, unless the last marker is already there. -/
def oscIterm2SetMark : Term :=
  if t.promptMarkers.getLast?.any (·.prompt == t.cursorRow) then t
  else { t with promptMarkers := t.promptMarkers ++ [⟨t.cursorRow, none, none⟩] }

/-- XTSMGRAPHICS on the colour register count; only the state change, the reply is a report. -/
def setGraphicsAttribute (pi pa pv : Nat) : Term :=
  if pi = 1 ∧ t.imageProtocolEnabled then
    if pa = 2 then { t with colorRegisterCount := colorRegistersMax }
    else if pa = 3 ∧ pv > 1 ∧ pv ≤ colorRegistersMax then { t with colorRegisterCount := pv }
    else t
  else t

/-- Switches the colour theme. -/
def setTheme (theme : Theme) : Term :=
  if t.theme = theme then t
  else
    let t := gridEdit { t with theme := theme, palette := .forTheme theme } .markAll
    if t.has .colorSchemeUpdate then
      match theme with
      | .dark => t.emit (.ptyWrite "\x1b[?997;1n".toUTF8.toList .other)
      | .light => t.emit (.ptyWrite "\x1b[?997;2n".toUTF8.toList .other)
      | .unknown => t
    else t

/-! ## Images -/

/-- The cursor after a kitty placement: down by its rows, then past its columns. -/
def kittyAdvance (cols rows : Nat) : Term :=
  let t := t.gridOps (List.replicate (rows - 1) .linefeed)
  t.gridEdit (.setCol (min (t.activeGrid.cursor.col + cols) t.activeGrid.cols))

/-- The cursor after an iTerm2 image, and after a sixel image under DECSDM. -/
def imageAdvance (rows : Nat) : Term :=
  (t.gridOps (List.replicate (rows - 1) .linefeed)).pruneImagesIfEvicted t.activeGrid.totalEvicted

/-- The cursor after a sixel image placed at column `col`. -/
def sixelAdvance (col cols rows : Nat) : Term :=
  if t.has .sixelCursorRight then t.gridEdit (.moveToColumn (min (col + cols) (t.activeGrid.cols - 1)))
  else if t.has .sixelScrolling then t.imageAdvance rows
  else t

def setCellDimensions (width height : Nat) : Term :=
  onCaches { t with cellPixelWidth := width, cellPixelHeight := height } (·.updateCellCoverage width height)

def setImageProtocolEnabled (enabled : Bool) : Term := { t with imageProtocolEnabled := enabled }

def setImageLimits (memoryLimit maxSingle : Nat) : Term :=
  t.onCaches fun c => (c.setMemoryLimit memoryLimit).setMaxSingleImage maxSingle

def setImageAnimationEnabled (enabled : Bool) : Term := t.onCaches (·.setAnimationEnabled enabled)

/-- Advances the animations of the active screen that the view shows. -/
def advanceAnimations (t : Term) (now : Image.Nanos) : Term × Option Image.Nanos :=
  let g := t.activeGrid
  let base := g.totalEvicted + (g.scrollback.len - min g.displayOffset g.scrollback.len)
  (t.onCache fun c => (c.advanceAnimations now ⟨base⟩ ⟨base + (g.lines - 1)⟩).1,
    (t.activeCache.advanceAnimations now ⟨base⟩ ⟨base + (g.lines - 1)⟩).2)

/-- `take_image_dirty`. -/
def takeImageDirty : Term × Bool := (t.onCache fun c => c.takeDirty.1, t.activeCache.dirty)

/-! ## Resize -/

/-- Re-derives the placeholder anchors of both screens. -/
def reconcileBothPlaceholderAnchors : Term :=
  let reconcile := fun (g : Grid) (c : Image.Cache) =>
    if c.placeholderAnchors = ∅ then c else c.reconcilePlaceholderAnchors (collectPlaceholderImageIdsInGrid g)
  { t with
    imageCache := reconcile t.grid t.imageCache
    altImageCache := match t.altGrid with
      | some g => t.altImageCache.map (reconcile g)
      | none => t.altImageCache }

/-- A cache after its grid was resized: placements follow the reflow, then those that fell off go. -/
def resizeCache (before after : Grid) (mapping : Option ReflowMapping) (newLines newCols : Nat) (c : Image.Cache) :
    Image.Cache :=
  let c := match mapping with
    | some m => c.remapPlacements m
    | none => c
  let c := if after.totalEvicted > before.totalEvicted then c.pruneScrollback ⟨after.totalEvicted⟩ else c
  c.onResize newCols newLines

/-- Resizes the terminal; the alternate grid never reflows. -/
def resize (t : Term) (newLines newCols : Nat) (reflow : Bool) : Term :=
  if newLines = 0 ∨ newCols = 0 then t
  else if t.grid.lines = newLines ∧ t.grid.cols = newCols then t
  else
    let resized := t.grid.resize newLines newCols reflow
    let altResized := t.altGrid.map fun g => (GridOp.resize newLines newCols false).apply g
    let altCache := match t.altGrid, altResized with
      | some before, some after => t.altImageCache.map (resizeCache before after none newLines newCols)
      | _, _ => t.altImageCache
    reconcileBothPlaceholderAnchors
      { t with
        deccolmDefaultCols := newCols
        grid := resized.1
        imageCache := resizeCache t.grid resized.1 resized.2 newLines newCols t.imageCache
        altGrid := altResized
        altImageCache := altCache
        selectionDirty := true }

end Term

end OriTerm
