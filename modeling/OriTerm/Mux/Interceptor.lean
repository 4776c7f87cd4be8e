import OriTerm.Term.Shell

/-!
# `Mux.Interceptor` — the OSC sequences the processor drops

A second, raw parser reads the same bytes as the processor and hands its OSC strings to the interceptor, which acts
on OSC 7 (working directory), 9, 99 and 777 (notifications), 133 and 633 (prompt lifecycle). A dispatched OSC is its
list of `;`-separated parameters.

Strict and lossy UTF-8 decoding are the two functions of `TextOps`.
-/

namespace OriTerm

/-- `str::from_utf8` and `String::from_utf8_lossy`. -/
structure TextOps where
  fromUtf8 : List UInt8 → Option String
  fromUtf8Lossy : List UInt8 → String

namespace Interceptor

/-- The bytes of an ASCII string. -/
def ascii (s : String) : List UInt8 := s.toList.map fun c => UInt8.ofNat c.toNat

/-! ## Parsing -/

/-- Strips the query string, then the fragment. -/
def stripUriSuffix (path : List Char) : List Char := (path.takeWhile (· ≠ '?')).takeWhile (· ≠ '#')

/-- The path of an OSC 7 URI; the host name is skipped. -/
def parseOsc7Path (uri : List Char) : List Char :=
  if "file://".toList.isPrefixOf uri then
    let afterScheme := uri.drop 7
    if '/' ∈ afterScheme then stripUriSuffix (afterScheme.dropWhile (· ≠ '/')) else afterScheme
  else stripUriSuffix uri

/-- The value of a hex digit. -/
def hexDigit (b : UInt8) : Option UInt8 :=
  if 48 ≤ b ∧ b ≤ 57 then some (b - 48)
  else if 97 ≤ b ∧ b ≤ 102 then some (b - 97 + 10)
  else if 65 ≤ b ∧ b ≤ 70 then some (b - 65 + 10)
  else none

def decodeHexPair (hi lo : UInt8) : Option UInt8 :=
  (hexDigit hi).bind fun h => (hexDigit lo).map fun l => (h <<< 4) ||| l

/-- The loop of `percent_decode`: `%` and two hex digits are one byte. -/
def percentDecodeBytes : List UInt8 → List UInt8
  | 37 :: hi :: lo :: rest =>
    match decodeHexPair hi lo with
    | some b => b :: percentDecodeBytes rest
    | none => 37 :: percentDecodeBytes (hi :: lo :: rest)
  | b :: rest => b :: percentDecodeBytes rest
  | [] => []

/-- Percent-decodes a path; what does not decode to UTF-8 stays as it is. -/
def percentDecode (text : TextOps) (s : String) : String :=
  if '%' ∈ s.toList then (text.fromUtf8 (percentDecodeBytes s.toUTF8.toList)).getD s else s

/-- Splits `key=value` on the first `=`. -/
def splitKeyValue (pair : List UInt8) : Option (List UInt8 × List UInt8) :=
  if 61 ∈ pair then some (pair.takeWhile (· ≠ 61), (pair.dropWhile (· ≠ 61)).drop 1) else none

/-- What an OSC 99 payload is. -/
inductive Osc99PayloadKind where
  | title | body | unsupported
  deriving DecidableEq, Repr

/-- The first `p` key of the metadata decides; without one the payload is a title. -/
def parseOsc99PayloadKind (metadata : List UInt8) : Osc99PayloadKind :=
  let fields := (metadata.splitOn 58).map fun f => (f.takeWhile (· ≠ 61), (f.dropWhile (· ≠ 61)).drop 1)
  match fields.find? fun f => f.1 == ascii "p" with
  | none => .title
  | some (_, value) =>
    if value = ascii "title" then .title else if value = ascii "body" then .body else .unsupported

/-! ## Dispatch -/

variable (text : TextOps)

/-- A new working directory, from OSC 7 or OSC 633;P. -/
def setCwd (t : Term) (path : String) : Term :=
  Term.emit { t with cwd := some path, hasExplicitTitle := false, titleDirty := true } (.cwdSet path)

/-- OSC 7. -/
def handleOsc7 (t : Term) (params : List (List UInt8)) : Term :=
  match params with
  | _ :: uri :: _ =>
    let rawPath := parseOsc7Path ((text.fromUtf8 uri).getD "").toList
    if rawPath = [] then t else setCwd t (percentDecode text (String.ofList rawPath))
  | _ => t

/-- The prompt lifecycle, shared by OSC 133 and OSC 633; the actions are the letters A to D. -/
def handlePromptAction (t : Term) (sub : UInt8) : Term :=
  if sub = 65 then
    Term.setPendingMark { t.restoreKeyboardModeStack with promptState := .promptStart } PendingMarks.prompt true
  else if sub = 66 then
    Term.setPendingMark { t with promptState := .commandStart } PendingMarks.commandStart true
  else if sub = 67 then
    let t := { t with promptState := .outputStart, commandStarted := true }
    (t.setPendingMark PendingMarks.outputStart true).snapshotKeyboardModeStack
  else if sub = 68 then
    let t := { t.restoreKeyboardModeStack with promptState := .none }
    if t.commandStarted then Term.emit { t with commandStarted := false } .commandComplete else t
  else t

/-- OSC 133. -/
def handleOsc133 (t : Term) (params : List (List UInt8)) : Term :=
  match params with
  | _ :: (sub :: _) :: _ => handlePromptAction t sub
  | _ => t

/-- OSC 633. -/
def handleOsc633 (t : Term) (params : List (List UInt8)) : Term :=
  match params with
  | _ :: (sub :: _) :: rest =>
    if 65 ≤ sub ∧ sub ≤ 68 then handlePromptAction t sub
    else if sub = 69 then { t with lastCommandLine := rest.head?.map text.fromUtf8Lossy }
    else if sub = 80 then
      match rest.head?.bind splitKeyValue with
      | some (key, value) =>
        let path := (text.fromUtf8 value).getD ""
        if key = ascii "Cwd" ∧ path ≠ "" then setCwd t path else t
      | none => t
    else t
  | _ => t

/-- OSC 9: the payload is the body, even an empty one. -/
def handleOsc9 (t : Term) (params : List (List UInt8)) : Term :=
  t.emit (.desktopNotification .osc9 "" ((params[1]?.map text.fromUtf8Lossy).getD ""))

/-- OSC 99: the metadata decides what the payload is; an empty notification is dropped. -/
def handleOsc99 (t : Term) (params : List (List UInt8)) : Term :=
  let payload := (params[2]?.map text.fromUtf8Lossy).getD ""
  match parseOsc99PayloadKind (params[1]?.getD []) with
  | .unsupported => t
  | .title => if payload = "" then t else t.emit (.desktopNotification .osc99 payload "")
  | .body => if payload = "" then t else t.emit (.desktopNotification .osc99 "" payload)

/-- OSC 777. -/
def handleNotification777 (t : Term) (params : List (List UInt8)) : Term :=
  if params[1]?.bind text.fromUtf8 = some "notify" then
    t.emit (.desktopNotification .osc777 ((params[2]?.map text.fromUtf8Lossy).getD "")
      ((params[3]?.map text.fromUtf8Lossy).getD ""))
  else t

/-- Dispatches one OSC string. -/
def oscDispatch (t : Term) (params : List (List UInt8)) : Term :=
  match params.head? with
  | none => t
  | some code =>
    if code = ascii "7" then handleOsc7 text t params
    else if code = ascii "133" then handleOsc133 t params
    else if code = ascii "633" then handleOsc633 text t params
    else if code = ascii "9" then handleOsc9 text t params
    else if code = ascii "99" then handleOsc99 text t params
    else if code = ascii "777" then handleNotification777 text t params
    else t

end Interceptor

end OriTerm
