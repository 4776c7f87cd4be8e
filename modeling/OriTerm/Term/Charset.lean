import Mathlib.Data.List.Basic

/-!
# `Term.Charset` — character set translation (G0–G3, single shifts)
-/

namespace OriTerm

/-- Charset slot. -/
inductive CharsetIndex where
  | g0 | g1 | g2 | g3
  deriving DecidableEq, Repr

/-- Standardized character sets. -/
inductive StandardCharset where
  | ascii | specialCharacterAndLineDrawing
  deriving DecidableEq, Repr

/-- DEC special graphics. -/
def StandardCharset.lineDrawing : Char → Char
  | '_' => ' ' | '`' => '◆' | 'a' => '▒' | 'b' => '␉' | 'c' => '␌' | 'd' => '␍' | 'e' => '␊' | 'f' => '°'
  | 'g' => '±' | 'h' => '␤' | 'i' => '␋' | 'j' => '┘' | 'k' => '┐' | 'l' => '┌' | 'm' => '└' | 'n' => '┼'
  | 'o' => '⎺' | 'p' => '⎻' | 'q' => '─' | 'r' => '⎼' | 's' => '⎽' | 't' => '├' | 'u' => '┤' | 'v' => '┴'
  | 'w' => '┬' | 'x' => '│' | 'y' => '≤' | 'z' => '≥' | '{' => 'π' | '|' => '≠' | '}' => '£' | '~' => '·'
  | c => c

/-- Maps a character to the charset. -/
def StandardCharset.map : StandardCharset → Char → Char
  | ascii, c => c
  | specialCharacterAndLineDrawing, c => lineDrawing c

/-- Four charset slots, the active one, and a single-shift override for one character. -/
structure CharsetState where
  charsets : CharsetIndex → StandardCharset := fun _ => .ascii
  active : CharsetIndex := .g0
  singleShift : Option CharsetIndex := none

namespace CharsetState

variable (s : CharsetState) (index : CharsetIndex)

/-- Translates a character; a pending single shift is consumed. -/
def translate (ch : Char) : CharsetState × Char :=
  ({ s with singleShift := none }, (s.charsets (s.singleShift.getD s.active)).map ch)

/-- The active charset is plain ASCII with no single shift pending. -/
def isAscii : Bool := s.singleShift.isNone && s.charsets s.active == .ascii

def setCharset (charset : StandardCharset) : CharsetState :=
  { s with charsets := fun i => if i = index then charset else s.charsets i }

def setActive : CharsetState := { s with active := index }

def setSingleShift : CharsetState :=
  { s with singleShift := some index }

end CharsetState

end OriTerm
