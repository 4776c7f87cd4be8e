import OriTerm.Lib.Bitflags

/-!
# `Term.Mode` — terminal mode flags (DECSET/DECRST, SM/RM)
-/

namespace OriTerm

open Lib.Bitflags

/-- Terminal mode state. -/
abbrev TermMode := BitVec 64

namespace TermMode

def showCursor : TermMode := 1#64
def appCursor : TermMode := 1#64 <<< 1
def appKeypad : TermMode := 1#64 <<< 2
def mouseReportClick : TermMode := 1#64 <<< 3
def mouseDrag : TermMode := 1#64 <<< 4
def mouseMotion : TermMode := 1#64 <<< 5
def mouseSgr : TermMode := 1#64 <<< 6
def mouseUtf8 : TermMode := 1#64 <<< 7
/-- Mode 1049, the alternate screen. -/
def altScreen : TermMode := 1#64 <<< 8
/-- DECAWM. -/
def lineWrap : TermMode := 1#64 <<< 9
/-- DECOM. -/
def origin : TermMode := 1#64 <<< 10
/-- IRM. -/
def insertMode : TermMode := 1#64 <<< 11
def focusInOut : TermMode := 1#64 <<< 12
def bracketedPaste : TermMode := 1#64 <<< 13
/-- Mode 2026, synchronized output. -/
def syncUpdate : TermMode := 1#64 <<< 14
def urgencyHints : TermMode := 1#64 <<< 15
def cursorBlinking : TermMode := 1#64 <<< 16
/-- LNM. -/
def lineFeedNewLine : TermMode := 1#64 <<< 17
def disambiguateEscCodes : TermMode := 1#64 <<< 18
def reportEventTypes : TermMode := 1#64 <<< 19
def reportAlternateKeys : TermMode := 1#64 <<< 20
def reportAllKeysAsEsc : TermMode := 1#64 <<< 21
def reportAssociatedText : TermMode := 1#64 <<< 22
def alternateScroll : TermMode := 1#64 <<< 23
def reverseWrap : TermMode := 1#64 <<< 24
def mouseUrxvt : TermMode := 1#64 <<< 25
def mouseX10 : TermMode := 1#64 <<< 26
def sixelScrolling : TermMode := 1#64 <<< 27
def sixelCursorRight : TermMode := 1#64 <<< 28
/-- DECSCNM. -/
def reverseVideo : TermMode := 1#64 <<< 29
/-- Mode 40: DECCOLM may resize the grid. -/
def enableMode3 : TermMode := 1#64 <<< 30
def win32Input : TermMode := 1#64 <<< 31
/-- DECLRMM. -/
def leftRightMargin : TermMode := 1#64 <<< 32
def colorSchemeUpdate : TermMode := 1#64 <<< 33
def decbkm : TermMode := 1#64 <<< 34

/-- Any mouse reporting mode. -/
def anyMouse : TermMode := mouseReportClick ||| mouseDrag ||| mouseMotion ||| mouseX10

/-- Any mouse encoding mode. -/
def anyMouseEncoding : TermMode := mouseSgr ||| mouseUtf8 ||| mouseUrxvt

/-- The kitty keyboard protocol flags. -/
def kittyKeyboardProtocol : TermMode :=
  disambiguateEscCodes ||| reportEventTypes ||| reportAlternateKeys ||| reportAllKeysAsEsc
    ||| reportAssociatedText

/-- `TermMode::default()`. -/
def initial : TermMode :=
  showCursor ||| lineWrap ||| alternateScroll ||| sixelScrolling ||| cursorBlinking

end TermMode

/-! ## Kitty keyboard modes -/

/-- Kitty keyboard protocol flags, as they are pushed on the stack. -/
abbrev KeyboardModes := BitVec 8

namespace KeyboardModes

def noMode : KeyboardModes := 0
def disambiguateEscCodes : KeyboardModes := 1#8
def reportEventTypes : KeyboardModes := 1#8 <<< 1
def reportAlternateKeys : KeyboardModes := 1#8 <<< 2
def reportAllKeysAsEsc : KeyboardModes := 1#8 <<< 3
def reportAssociatedText : KeyboardModes := 1#8 <<< 4

/-- The flags with their terminal mode counterparts. -/
def table : List (KeyboardModes × TermMode) :=
  [(disambiguateEscCodes, .disambiguateEscCodes), (reportEventTypes, .reportEventTypes),
   (reportAlternateKeys, .reportAlternateKeys), (reportAllKeysAsEsc, .reportAllKeysAsEsc),
   (reportAssociatedText, .reportAssociatedText)]

/-- `TermMode::from(modes)`. -/
def toTermMode (modes : KeyboardModes) : TermMode :=
  table.foldl (fun result e => set result e.2 (contains modes e.1)) 0

/-- `KeyboardModes::from(mode)`: the kitty part of a terminal mode. -/
def ofTermMode (mode : TermMode) : KeyboardModes :=
  table.foldl (fun result e => set result e.1 (contains mode e.2)) 0

end KeyboardModes

/-- How new keyboard modes combine with the active ones. -/
inductive KeyboardModesApplyBehavior where
  | replace | union | difference
  deriving DecidableEq, Repr

/-! ## Named modes -/

/-- ANSI modes. -/
inductive NamedMode where
  | insert | lineFeedNewLine
  deriving DecidableEq, Repr

/-- Private DEC modes. -/
inductive NamedPrivateMode where
  | cursorKeys | columnMode | reverseVideo | origin | lineWrap | decNumericKeypad | decBackarrowKey | x10Mouse
  | enableMode3 | blinkingCursor | showCursor | reverseWraparound | altScreen | leftRightMargin
  | reportMouseClicks | reportCellMouseMotion | reportAllMouseMotion | reportFocusInOut | utf8Mouse | sgrMouse
  | alternateScroll | urxvtMouse | urgencyHints | altScreenOpt | saveCursor | swapScreenAndSetRestoreCursor
  | bracketedPaste | syncUpdate | colorSchemeUpdate | win32Input | sixelScrolling | sixelCursorRight
  deriving DecidableEq, Repr

namespace NamedPrivateMode

/-- `PrivateMode::new`, `none` for an unknown mode. -/
def ofNumber : Nat → Option NamedPrivateMode
  | 1 => some cursorKeys | 3 => some columnMode | 5 => some reverseVideo | 6 => some origin
  | 7 => some lineWrap | 9 => some x10Mouse | 12 => some blinkingCursor | 25 => some showCursor
  | 40 => some enableMode3 | 45 => some reverseWraparound | 47 => some altScreen
  | 66 => some decNumericKeypad | 67 => some decBackarrowKey | 69 => some leftRightMargin
  | 1000 => some reportMouseClicks | 1002 => some reportCellMouseMotion
  | 1003 => some reportAllMouseMotion | 1004 => some reportFocusInOut | 1005 => some utf8Mouse
  | 1006 => some sgrMouse | 1007 => some alternateScroll | 1015 => some urxvtMouse
  | 1042 => some urgencyHints | 1047 => some altScreenOpt | 1048 => some saveCursor
  | 1049 => some swapScreenAndSetRestoreCursor | 2004 => some bracketedPaste | 2026 => some syncUpdate
  | 2031 => some colorSchemeUpdate | 80 => some sixelScrolling | 8452 => some sixelCursorRight
  | 9001 => some win32Input
  | _ => none

/-- The flag of a private mode, if it has one. -/
def flag : NamedPrivateMode → Option TermMode
  | cursorKeys => some .appCursor
  | origin => some .origin
  | lineWrap => some .lineWrap
  | blinkingCursor => some .cursorBlinking
  | showCursor => some .showCursor
  | reverseWraparound => some .reverseWrap
  | altScreen | altScreenOpt | swapScreenAndSetRestoreCursor => some .altScreen
  | x10Mouse => some .mouseX10
  | reportMouseClicks => some .mouseReportClick
  | reportCellMouseMotion => some .mouseDrag
  | reportAllMouseMotion => some .mouseMotion
  | reportFocusInOut => some .focusInOut
  | utf8Mouse => some .mouseUtf8
  | sgrMouse => some .mouseSgr
  | urxvtMouse => some .mouseUrxvt
  | urgencyHints => some .urgencyHints
  | bracketedPaste => some .bracketedPaste
  | syncUpdate => some .syncUpdate
  | alternateScroll => some .alternateScroll
  | sixelScrolling => some .sixelScrolling
  | sixelCursorRight => some .sixelCursorRight
  | reverseVideo => some .reverseVideo
  | enableMode3 => some .enableMode3
  | win32Input => some .win32Input
  | leftRightMargin => some .leftRightMargin
  | colorSchemeUpdate => some .colorSchemeUpdate
  | decNumericKeypad => some .appKeypad
  | decBackarrowKey => some .decbkm
  | saveCursor | columnMode => none

end NamedPrivateMode

end OriTerm
