import Mathlib.Algebra.Group.Nat.Defs
import OriTerm.Lib.Base64

/-!
# `Term.KittyCommand` — the commands of the kitty graphics protocol

The body of an APC sequence is `key=value,key=value;payload`: control data up to the first semicolon, then base64.
`parseKittyCommandInto` reads the control data first and decodes the payload after it, so a command whose payload is
malformed still has its control fields. Control data never fails: a pair without a key or a value is skipped, an
unknown key is ignored, and a value that is no number is taken as absent.
-/

namespace OriTerm

open Lib List

variable (data : List UInt8)

/-- The action to perform. -/
inductive KittyAction where
  | transmit | transmitAndPlace | place | delete | frame | animate | query | compose
  deriving DecidableEq, Repr

/-- How image data is delivered. -/
inductive KittyTransmission where
  | direct | file | tempFile | sharedMemory
  deriving DecidableEq, Repr

/-- Kitty protocol errors. -/
inductive KittyError where
  | invalidControlData (text : String)
  | invalidBase64
  | unsupportedFormat (format : Nat)
  deriving DecidableEq, Repr

/-- Parsed representation of one kitty graphics command. -/
structure KittyCommand where
  action : KittyAction := .transmitAndPlace
  imageId : Option Nat := none
  imageNumber : Option Nat := none
  placementId : Option Nat := none
  format : Nat := 32
  transmission : KittyTransmission := .direct
  compression : Option UInt8 := none
  sourceWidth : Nat := 0
  sourceHeight : Nat := 0
  loopCount : Option Nat := none
  sourceX : Nat := 0
  sourceY : Nat := 0
  displayCols : Option Nat := none
  displayRows : Option Nat := none
  widthPx : Option Nat := none
  heightPx : Option Nat := none
  cellXOffset : Nat := 0
  cellYOffset : Nat := 0
  zIndex : Int := 0
  noCursorMove : Bool := false
  unicodePlaceholder : Bool := false
  quiet : Nat := 0
  moreData : Bool := false
  deleteSpecifier : Option UInt8 := none
  payload : List UInt8 := []
  deriving DecidableEq, Repr

/-- The bytes of an ASCII text. -/
def asciiBytes (text : String) : List UInt8 := text.toList.map fun c => c.toNat.toUInt8

/-- `byte as char`. -/
def byteChar (b : UInt8) : Char := Char.ofNat b.toNat

/-! ## Values -/

/-- A run of decimal digits, at least one. -/
def parseDigits (digits : List UInt8) : Option Nat :=
  if digits.isEmpty then none
  else digits.foldlM (fun n b => if (byteChar b).isDigit then some (n * 10 + (b.toNat - 48)) else none) 0

/-- Parses a byte slice as a `u32` decimal number; a plus sign may stand in front. -/
def parseU32 (value : List UInt8) : Option Nat :=
  let digits := if value.head?.map byteChar = some '+' then value.tail else value
  (parseDigits digits).filter (· < 2 ^ 32)

/-- Parses a byte slice as an `i32` decimal number, 0 when it is none. -/
def parseI32 (value : List UInt8) : Int :=
  match value.head?.map byteChar with
  | some '-' => (((parseDigits value.tail).filter (· ≤ 2 ^ 31)).map fun n => -(n : Int)).getD 0
  | some '+' => (((parseDigits value.tail).filter (· < 2 ^ 31)).map fun n => (n : Int)).getD 0
  | _ => (((parseDigits value).filter (· < 2 ^ 31)).map fun n => (n : Int)).getD 0

/-- Decodes the `a=` byte; an absent or unknown one means transmit and place. -/
def decodeAction (value : Option UInt8) : KittyAction :=
  match value.map byteChar with
  | some 't' => .transmit
  | some 'T' => .transmitAndPlace
  | some 'p' => .place
  | some 'd' => .delete
  | some 'f' => .frame
  | some 'a' => .animate
  | some 'q' => .query
  | some 'c' => .compose
  | _ => .transmitAndPlace

/-- Decodes the `t=` byte. -/
def decodeTransmission (value : Option UInt8) : KittyTransmission :=
  match value.map byteChar with
  | some 'f' => .file
  | some 't' => .tempFile
  | some 's' => .sharedMemory
  | _ => .direct

/-! ## Control data -/

namespace KittyCommand

/-- Applies a single pair to the command. -/
def applyKeyValue (key : UInt8) (value : List UInt8) (cmd : KittyCommand) : KittyCommand :=
  match byteChar key with
  | 'a' => { cmd with action := decodeAction value.head? }
  | 'i' => { cmd with imageId := parseU32 value }
  | 'I' => { cmd with imageNumber := parseU32 value }
  | 'p' => { cmd with placementId := parseU32 value }
  | 'f' => { cmd with format := (parseU32 value).getD 32 }
  | 't' => { cmd with transmission := decodeTransmission value.head? }
  | 'o' => { cmd with compression := value.head? }
  | 's' => { cmd with sourceWidth := (parseU32 value).getD 0 }
  | 'v' => { cmd with sourceHeight := (parseU32 value).getD 0, loopCount := parseU32 value }
  | 'x' => { cmd with sourceX := (parseU32 value).getD 0 }
  | 'y' => { cmd with sourceY := (parseU32 value).getD 0 }
  | 'c' => { cmd with displayCols := parseU32 value }
  | 'r' => { cmd with displayRows := parseU32 value }
  | 'w' => { cmd with widthPx := parseU32 value }
  | 'h' => { cmd with heightPx := parseU32 value }
  | 'X' => { cmd with cellXOffset := (parseU32 value).getD 0 }
  | 'Y' => { cmd with cellYOffset := (parseU32 value).getD 0 }
  | 'z' => { cmd with zIndex := parseI32 value }
  | 'C' => { cmd with noCursorMove := value == asciiBytes "1" }
  | 'U' => { cmd with unicodePlaceholder := value == asciiBytes "1" }
  | 'q' => { cmd with quiet := (parseU32 value).getD 0 % 2 ^ 8 }
  | 'm' => { cmd with moreData := value == asciiBytes "1" }
  | 'd' => { cmd with deleteSpecifier := value.head? }
  | _ => cmd

/-- Applies one `key=value` pair; one without a key or without `=` is skipped. -/
def applyPair (cmd : KittyCommand) (pair : List UInt8) : KittyCommand :=
  match pair with
  | [] => cmd
  | key :: rest =>
    if byteChar key = '=' then cmd
    else
      match rest.dropWhile (byteChar · != '=') with
      | [] => cmd
      | _ :: value => cmd.applyKeyValue key value

/-- Parses comma-separated pairs. -/
def parseControlData (data : List UInt8) (cmd : KittyCommand) : KittyCommand :=
  (data.splitOnP (byteChar · == ',')).foldl applyPair cmd

end KittyCommand

/-! ## Payload -/

/-- `u8::is_ascii_whitespace`. -/
def isAsciiWhitespace (b : UInt8) : Bool := b == 32 || b == 9 || b == 10 || b == 12 || b == 13

/-- Decodes a payload, whitespace stripped. -/
def decodeBase64 : Option (List UInt8) :=
  if !data.any isAsciiWhitespace then Base64.decode data
  else
    let clean := data.filter (!isAsciiWhitespace ·)
    if clean.isEmpty then some [] else Base64.decode clean

/-- Parses an APC body. On an error the command keeps its control fields. -/
def parseKittyCommandInto (raw : List UInt8) : KittyCommand × Option KittyError :=
  let control := raw.takeWhile (byteChar · != ';')
  let payload := (raw.dropWhile (byteChar · != ';')).tail
  let cmd := KittyCommand.parseControlData control {}
  if payload.isEmpty then (cmd, none)
  else
    match decodeBase64 payload with
    | some bytes => ({ cmd with payload := bytes }, none)
    | none => (cmd, some .invalidBase64)

/-! ## What the parser reads -/

/-- The symbols of a payload. -/
def payloadSymbols : List UInt8 := data.filter (!isAsciiWhitespace ·)

@[simp] theorem payloadSymbols_append (data data' : List UInt8) :
    payloadSymbols (data ++ data') = payloadSymbols data ++ payloadSymbols data' := filter_append ..

/-- Only the symbols count. -/
theorem decodeBase64_eq : decodeBase64 data = Base64.decode (payloadSymbols data) := by
  unfold decodeBase64 payloadSymbols
  by_cases hany : data.any isAsciiWhitespace = true
  · rw [hany]
    cases hclean : data.filter (!isAsciiWhitespace ·) with
    | nil | cons => rfl
  · have hself : data.filter (!isAsciiWhitespace ·) = data := by
      refine filter_eq_self.2 fun b hb => ?_
      by_contra hne
      exact hany (any_eq_true.2 ⟨b, hb, by simpa using hne⟩)
    rw [Bool.not_eq_true] at hany
    rw [hany, hself]
    rfl

namespace KittyCommand

/-- Control data says nothing about the payload. -/
@[simp] theorem payload_applyKeyValue (key : UInt8) (value : List UInt8) (cmd : KittyCommand) :
    (cmd.applyKeyValue key value).payload = cmd.payload := by
  unfold applyKeyValue
  split <;> rfl

@[simp] theorem payload_applyPair (cmd : KittyCommand) (pair : List UInt8) :
    (cmd.applyPair pair).payload = cmd.payload := by
  unfold applyPair
  split
  · rfl
  · split
    · rfl
    · split
      · rfl
      · exact payload_applyKeyValue _ _ cmd

@[simp] theorem payload_parseControlData (data : List UInt8) (cmd : KittyCommand) :
    (parseControlData data cmd).payload = cmd.payload := by
  unfold parseControlData
  induction data.splitOnP (byteChar · == ',') generalizing cmd with
  | nil => rfl
  | cons pair pairs ih =>
    rw [foldl_cons, ih]
    exact payload_applyPair cmd pair

end KittyCommand

/-- The body of an APC sequence. -/
def kittyBody (control payload : List UInt8) : List UInt8 := control ++ asciiBytes ";" ++ payload

/-- **What a body parses to.** -/
theorem parseKittyCommandInto_body {control : List UInt8} (hcontrol : ∀ b ∈ control, byteChar b ≠ ';')
    (payload : List UInt8) :
    parseKittyCommandInto (kittyBody control payload)
      = match decodeBase64 payload with
        | some bytes => ({ KittyCommand.parseControlData control {} with payload := bytes }, none)
        | none => (KittyCommand.parseControlData control {}, some .invalidBase64) := by
  have hall : ∀ b ∈ control, (byteChar b != ';') = true := fun b hb => bne_iff_ne.2 (hcontrol b hb)
  have htake : (kittyBody control payload).takeWhile (byteChar · != ';') = control := by
    unfold kittyBody
    rw [append_assoc, takeWhile_append_of_pos hall]
    have hsep : (asciiBytes ";" ++ payload).takeWhile (byteChar · != ';') = [] := rfl
    rw [hsep, append_nil]
  have hdrop : (kittyBody control payload).dropWhile (byteChar · != ';') = asciiBytes ";" ++ payload := by
    unfold kittyBody
    rw [append_assoc, dropWhile_append_of_pos hall]
    rfl
  unfold parseKittyCommandInto
  rw [htake, hdrop]
  cases payload with
  | nil =>
    have hpayload : (KittyCommand.parseControlData control {}).payload = [] := by simp
    show (KittyCommand.parseControlData control {}, none)
      = ({ KittyCommand.parseControlData control {} with payload := [] }, none)
    generalize KittyCommand.parseControlData control {} = cmd at hpayload ⊢
    obtain ⟨⟩ := cmd
    obtain rfl : _ = [] := hpayload
    rfl
  | cons b rest => rfl

end OriTerm
