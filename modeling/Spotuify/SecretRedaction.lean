import Spotuify.Utf8Text
import Spotuify.SeekInputs
import Mathlib.Data.List.MinMax

/-!
# Redacting secrets

A text is redacted in two passes.  The first one looks for assignments to a
label that names a secret and replaces each of them, label and value; the
second one replaces what looks like a token.  Offsets count bytes, and a slice
that does not fall on characters, or ends before it starts, is a panic.
-/

namespace Spotuify.Redaction

inductive Failure where
  | slicePanic
  | outOfFuel
  deriving DecidableEq, Repr

/-- A slice of the source panics where it has no value. -/
def orPanic {Value : Type} : Option Value → Except Failure Value
  | some value => .ok value
  | none => .error .slicePanic

def redacted : List Char := "<redacted>".toList

/-- `SECRET_LABELS`. -/
def secretLabels : List (List Char) :=
  ["access_token", "access-token", "refresh_token", "refresh-token",
    "client_secret", "client-secret", "authorization", "password", "passwd",
    "api_key", "api-key", "apikey", "secret", "token"].map String.toList

/-- A byte literal. -/
def ascii (char : Char) : UInt8 := char.toNat.toUInt8

/-- `u8::is_ascii_whitespace`. -/
def isAsciiWhitespace (byte : UInt8) : Bool :=
  byte = 32 ∨ byte = 9 ∨ byte = 10 ∨ byte = 12 ∨ byte = 13

def isSecretLabelChar (byte : UInt8) : Bool :=
  (48 ≤ byte ∧ byte ≤ 57) ∨ (65 ≤ byte ∧ byte ≤ 90) ∨
    (97 ≤ byte ∧ byte ≤ 122) ∨ byte = ascii '_' ∨ byte = ascii '-'

def isQuoteByte (byte : UInt8) : Bool := byte = ascii '\'' ∨ byte = ascii '"'

def isQuote (char : Char) : Bool := char = '\'' ∨ char = '"'

/-- What an unquoted value ends before. -/
def endsValue (char : Char) : Bool :=
  isWhitespace char || [',', ';', '}', ']', ')'].contains char

def skipAsciiWhitespace (bytes : List UInt8) (cursor : Nat) : Nat :=
  cursor + ((bytes.drop cursor).takeWhile isAsciiWhitespace).length

/-- The loop over a quoted value: the offset of the closing quote, when the
value is not empty. -/
def closingQuote (quote : Char) : Bool → Nat → List Char → Option Nat
  | _, _, [] => none
  | true, offset, char :: rest =>
    closingQuote quote false (offset + char.utf8Size) rest
  | false, offset, char :: rest =>
    if char = '\\' then closingQuote quote true (offset + char.utf8Size) rest
    else if char = quote then
      if offset > 0 then some offset else none
    else closingQuote quote false (offset + char.utf8Size) rest

def consumeSecretValue (input : List Char) (start : Nat) :
    Except Failure (Option Nat) := do
  match ← orPanic (Utf8.sliceFrom input start) with
  | [] => return none
  | first :: rest =>
    if isQuote first then
      let valueStart := start + first.utf8Size
      let value ← orPanic (Utf8.sliceFrom input valueStart)
      return (closingQuote first false 0 value).map fun offset =>
        valueStart + offset + first.utf8Size
    else
      let value := (first :: rest).takeWhile fun char => !endsValue char
      let stop := start + Utf8.size value
      return if stop > start then some stop else none

def consumeAuthorizationValue (input : List Char) (start : Nat) :
    Except Failure (Option Nat) := do
  match ← orPanic (Utf8.sliceFrom input start) with
  | [] => return none
  | first :: _ =>
    if isQuote first then consumeSecretValue input start
    else
      match ← consumeSecretValue input start with
      | none => return none
      | some schemeEnd =>
        let credentialStart :=
          skipAsciiWhitespace (Utf8.bytes input) schemeEnd
        if credentialStart = schemeEnd then return some schemeEnd
        else consumeSecretValue input credentialStart

def labeledSecretSpan (input : List Char) (keyStart : Nat)
    (label : List Char) : Except Failure (Option (Nat × Nat)) := do
  let bytes := Utf8.bytes input
  let before := if keyStart > 0 then bytes[keyStart - 1]? else none
  let keyEnd := keyStart + Utf8.size label
  if before.any isSecretLabelChar then return none
  if bytes[keyEnd]?.any isSecretLabelChar then return none
  let keyQuote := before.filter isQuoteByte
  if keyQuote.isSome ∧ bytes[keyEnd]? ≠ keyQuote then return none
  let cursor := skipAsciiWhitespace bytes
    (if keyQuote.isSome then keyEnd + 1 else keyEnd)
  if bytes[cursor]? ≠ some (ascii '=') ∧ bytes[cursor]? ≠ some (ascii ':') then
    return none
  let cursor := skipAsciiWhitespace bytes (cursor + 1)
  let valueEnd ←
    if label = "authorization".toList then
      consumeAuthorizationValue input cursor
    else consumeSecretValue input cursor
  let start := if keyQuote.isSome then keyStart - 1 else keyStart
  return valueEnd.map fun valueEnd => (start, valueEnd)

/-- `next_labeled_secret_span`; of spans that start together the first one is
taken. -/
def nextLabeledSecretSpan (input lower : List Char) (searchFrom : Nat) :
    Except Failure (Option (Nat × Nat)) := do
  let rest ← orPanic (Utf8.sliceFrom lower searchFrom)
  let matched := secretLabels.flatMap fun label =>
    (Utf8.matchIndices label 0 0 rest).map fun offset => (label, offset)
  let spans ← matched.mapM fun (label, offset) =>
    labeledSecretSpan input (searchFrom + offset) label
  return spans.reduceOption.argmin Prod.fst

/-- The loop of `redact_labeled_secrets`. -/
def redactLabeledSecretsFrom (input lower : List Char) :
    Nat → Nat → Nat → List Char → Except Failure (List Char)
  | 0, _, _, _ => .error .outOfFuel
  | fuel + 1, copiedTo, searchFrom, out => do
    match ← nextLabeledSecretSpan input lower searchFrom with
    | some (start, stop) =>
      let plain ← orPanic (Utf8.slice input copiedTo start)
      redactLabeledSecretsFrom input lower fuel stop stop
        (out ++ plain ++ redacted)
    | none =>
      let plain ← orPanic (Utf8.sliceFrom input copiedTo)
      return out ++ plain

/-- `redact_labeled_secrets`.  Every span holds a character, so the loop ends
within the text's length. -/
def redactLabeledSecrets (input : List Char) : Except Failure (List Char) :=
  redactLabeledSecretsFrom input (input.map Char.toLower) (input.length + 1) 0
    0 []

def isTokenChar (char : Char) : Bool :=
  char.isAlphanum || ['-', '_', '.', '+', '/', '='].contains char

def flushRedactionRun (predicate : List Char → Bool) (out run : List Char) :
    List Char :=
  if run.isEmpty then out
  else if predicate run then out ++ redacted
  else out ++ run

/-- One character of the second pass: what is written and the open run. -/
def redactTokenChar (predicate : List Char → Bool)
    (state : List Char × List Char) (char : Char) : List Char × List Char :=
  if isTokenChar char then (state.1, state.2 ++ [char])
  else (flushRedactionRun predicate state.1 state.2 ++ [char], [])

def redactTokens (predicate : List Char → Bool) (contextual : List Char) :
    List Char :=
  let state := contextual.foldl (redactTokenChar predicate) ([], [])
  flushRedactionRun predicate state.1 state.2

def redactSensitiveTextWith (input : List Char)
    (predicate : List Char → Bool) : Except Failure (List Char) := do
  let contextual ← redactLabeledSecrets input
  return redactTokens predicate contextual

def assignedLabels : List (List Char) :=
  ["token", "access_token", "access-token", "refresh_token", "refresh-token",
    "api_key", "api-key", "apikey", "client_secret", "client-secret",
    "secret", "password", "passwd", "authorization"].map String.toList

def looksSensitiveAssignment (value : List Char) : Bool :=
  match value.dropWhile (· != '=') with
  | [] => false
  | _ :: assigned =>
    !assigned.isEmpty && assignedLabels.contains
      ((value.takeWhile (· != '=')).map Char.toLower)

def looksSensitiveToken (value : List Char) : Bool :=
  if looksSensitiveAssignment value then true
  else if Utf8.size value < 32 || !value.any Char.isAlpha then false
  else
    let hasDigit := value.any Char.isDigit
    let hasStrongTokenPunctuation :=
      value.any fun char => ['_', '+', '/', '='].contains char
    let hasUpper := value.any Char.isUpper
    let hasLower := value.any Char.isLower
    let allAlpha := value.all Char.isAlpha
    hasDigit || hasStrongTokenPunctuation ||
      (40 ≤ Utf8.size value && hasUpper && hasLower) ||
      (48 ≤ Utf8.size value && allAlpha)

def redactSensitiveText (input : List Char) : Except Failure (List Char) :=
  redactSensitiveTextWith input looksSensitiveToken

end Spotuify.Redaction
