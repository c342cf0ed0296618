import EmsDnp3.Json.Dump

/-!
# Bytes and their hexadecimal text

Byte strings, little-endian integers, and the two hexadecimal forms the trace uses: pairs
of digits separated by blanks in a log line, and `bytes.hex().upper()` in results.
-/

namespace EmsDnp3

/-- An octet. -/
abbrev Byte := Fin 256

def Byte.ofNat (n : Nat) : Byte := ⟨n % 256, Nat.mod_lt _ (by decide)⟩

/-- Octets, given as numbers. -/
def octets (values : List Nat) : List Byte := values.map .ofNat

/-- `int.from_bytes(data, "little")` -/
def littleEndian : List Byte → Nat
  | [] => 0
  | b :: rest => b.val + 256 * littleEndian rest

/-- `value.to_bytes(2, "little")` -/
def twoBytes (value : Fin 65536) : List Byte :=
  [⟨value.val % 256, Nat.mod_lt _ (by decide)⟩, ⟨value.val / 256, by omega⟩]

@[simp] theorem littleEndian_twoBytes (value : Fin 65536) : littleEndian (twoBytes value) = value.val := by
  simp only [littleEndian, twoBytes]
  omega

/-- The value of a hexadecimal digit of either case. -/
def hexValue? (c : CodePoint) : Option (Fin 16) :=
  if h : 0x30 ≤ c.val ∧ c.val ≤ 0x39 then some ⟨c.val - 0x30, by omega⟩
  else if h : 0x41 ≤ c.val ∧ c.val ≤ 0x46 then some ⟨c.val - 0x37, by omega⟩
  else if h : 0x61 ≤ c.val ∧ c.val ≤ 0x66 then some ⟨c.val - 0x57, by omega⟩
  else none

/-- An upper-case hexadecimal digit. -/
def upperHexPoint (d : Fin 16) : CodePoint :=
  if d.val < 10 then .ofNat (0x30 + d.val) else .ofNat (0x37 + d.val)

@[simp] theorem hexValue?_upperHexPoint (d : Fin 16) : hexValue? (upperHexPoint d) = some d := by
  revert d
  decide

/-- Two hexadecimal digits, the high one first. -/
def hexByte? (high low : CodePoint) : Option Byte :=
  match hexValue? high, hexValue? low with
  | some h, some l => some ⟨16 * h.val + l.val, by omega⟩
  | _, _ => none

/-- Two upper-case digits. -/
def hexPair (b : Byte) : Text := [upperHexPoint ⟨b.val / 16, by omega⟩, upperHexPoint ⟨b.val % 16, by omega⟩]

/-- `data.hex(" ").upper()`, a line of the hexadecimal log. -/
def hexLine : List Byte → Text
  | [] => []
  | [b] => hexPair b
  | b :: rest => hexPair b ++ .ofNat 0x20 :: hexLine rest

/-- The bytes of a text of digit pairs separated by single blanks. -/
def hexLine? : Text → Option (List Byte)
  | [high, low] => (hexByte? high low).map fun b => [b]
  | high :: low :: blank :: rest =>
    if blank = .ofNat 0x20 then
      match hexByte? high low, hexLine? rest with
      | some b, some bytes => some (b :: bytes)
      | _, _ => none
    else none
  | _ => none

/-- The two digits of an octet are read as that octet. -/
theorem hexByte?_hexPair (b : Byte) :
    hexByte? (upperHexPoint ⟨b.val / 16, by omega⟩) (upperHexPoint ⟨b.val % 16, by omega⟩) = some b := by
  simp only [hexByte?, hexValue?_upperHexPoint, Option.some.injEq, Fin.ext_iff]
  omega

/-- A log line is read back as the bytes it shows. -/
theorem hexLine?_hexLine {bytes : List Byte} (some_ : bytes ≠ []) : hexLine? (hexLine bytes) = some bytes := by
  induction bytes with
  | nil => exact absurd rfl some_
  | cons b rest ih =>
    cases rest with
    | nil => simp [hexLine, hexPair, hexLine?, hexByte?_hexPair]
    | cons c rest =>
      have tail := ih (by simp)
      have shape : hexLine (b :: c :: rest) = hexPair b ++ .ofNat 0x20 :: hexLine (c :: rest) := rfl
      rw [shape, hexPair]
      simp [hexLine?, hexByte?_hexPair, tail]

end EmsDnp3
