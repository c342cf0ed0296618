import EmsDnp3.Json.Decimal
import EmsDnp3.Python.Patterns

/-!
# `redact_text`

The four patterns of `evidence.py`, applied one after another, and the bound on the length. Each is a function from
the text at a place to its match there; none has two ways to match at one place that differ. `\w`, which `\b` looks
at, is left open: it is `str.isalnum` or an underscore.
-/

namespace EmsDnp3.Python

/-- How `(?i)` compares with an ASCII letter: four letters beyond ASCII count as `i`, `s` and `k`. -/
def fold (c : CodePoint) : CodePoint :=
  if 0x41 ≤ c.val ∧ c.val ≤ 0x5A then .ofNat (c.val + 0x20)
  else if c.val = 0x130 ∨ c.val = 0x131 then 0x69
  else if c.val = 0x17F then 0x73
  else if c.val = 0x212A then 0x6B
  else c

/-- A word in either case. -/
def foldedWord (word t : Text) : Option Text :=
  if (t.take word.length).map fold = word then some (t.drop word.length) else none

/-- One of some words. No word used here begins with another. -/
def foldedWords (words : List Text) (t : Text) : Option Text := words.findSome? fun word => foldedWord word t

/-- The names that are redacted. -/
def secretNames : List Text :=
  [text "safety_token", text "password", text "secret", text "api_key", text "private_key", text "operator_id",
    text "dut_id"]

/-- A name between quotes. -/
def secretKey (t : Text) : Option Text := do
  let t ← literal [Json.quote] t
  secretNames.findSome? fun name => do
    let t ← foldedWord name t
    literal [Json.quote] t

/-- `_JSON_SECRET_PATTERN` -/
def jsonSecretPattern : Matcher CodePoint := fun _ t => do
  let value ← fieldStart secretKey t
  let rest ← literal [Json.quote] (value.dropWhile (· ≠ Json.quote))
  return (t.length - rest.length, consumed t value ++ text "<redacted>" ++ [Json.quote])

section
variable (isWord : CodePoint → Bool)

/-- `\b` -/
def boundary (before : Option CodePoint) (t : Text) : Bool := before.any isWord != t.head?.any isWord

/-- `[^\s,;]` -/
def isValuePoint (c : CodePoint) : Bool := !isSpace c && c ≠ 0x2C && c ≠ 0x3B

/-- `_ASSIGNMENT_SECRET_PATTERN` -/
def assignmentSecretPattern : Matcher CodePoint := fun before t =>
  if boundary isWord before t then do
    let behind ← foldedWords secretNames t
    let value ← literal [0x3D] (spaces behind)
    let value := spaces value
    let rest := value.dropWhile isValuePoint
    if rest.length < value.length then
      return (t.length - rest.length, consumed t behind ++ text "=<redacted>")
    else none
  else none

/-- `_HEX_SAFETY_TOKEN_PATTERN` -/
def hexSafetyTokenPattern : Matcher CodePoint := fun before t =>
  if boundary isWord before t && (t.take 32).length = 32 && (t.take 32).all isHexDigit &&
      boundary isWord t[31]? (t.drop 32) then
    some (32, text "<redacted-128-bit-token>")
  else none

/-- `[A-Za-z0-9._~+/=-]`, in either case. -/
def isBearerPoint (c : CodePoint) : Bool :=
  let c := fold c
  (0x61 ≤ c.val && c.val ≤ 0x7A) || isDigit c || c ∈ text "._~+/=-"

/-- `_BEARER_PATTERN` -/
def bearerPattern : Matcher CodePoint := fun before t =>
  if boundary isWord before t then do
    let behind ← foldedWord (text "bearer") t
    let value := spaces behind
    let rest := value.dropWhile isBearerPoint
    if value.length < behind.length && rest.length < value.length then
      return (t.length - rest.length, text "Bearer <redacted>")
    else none
  else none

/-- `pattern.sub(replacement, text)` -/
def sub (pattern : Matcher CodePoint) (t : Text) : Text := substitute pattern 0 none t

/-- The message in place of the middle of a long text. -/
def omission (omitted : Nat) : Text :=
  text "\n... <" ++ decimal omitted ++ text " characters omitted by evidence bound> ...\n"

/-- The end of `redact_text`. A slice `text[-0:]` is the whole text. -/
def bounded (maximumChars : Nat) (t : Text) : Text :=
  if t.length ≤ maximumChars then t
  else
    let head := maximumChars / 2
    let tail := maximumChars - head
    t.take head ++ omission (t.length - maximumChars) ++ (if tail = 0 then t else t.rtake tail)

/-- `_MAX_REPORT_TEXT_CHARS` -/
def maxReportTextChars : Nat := 16384

/-- The last three substitutions. -/
def redactPlain (t : Text) : Text :=
  sub (bearerPattern isWord) (sub (hexSafetyTokenPattern isWord) (sub (assignmentSecretPattern isWord) t))

/-- `redact_text` -/
def redactText (maximumChars : Nat) (t : Text) : Text :=
  bounded maximumChars (redactPlain isWord (sub jsonSecretPattern t))

end

/-- `\w` on ASCII. -/
def isAsciiWord (c : CodePoint) : Bool :=
  isDigit c || (0x41 ≤ c.val && c.val ≤ 0x5A) || (0x61 ≤ c.val && c.val ≤ 0x7A) || c = 0x5F

example : redactText isAsciiWord maxReportTextChars
    (text "\x7b\"operator_id\":\"alice\"\x7d password=hunter2 Authorization: Bearer abc.def") =
    text "\x7b\"operator_id\":\"<redacted>\"\x7d password=<redacted> Authorization: Bearer <redacted>" := by
  decide +kernel

end EmsDnp3.Python
