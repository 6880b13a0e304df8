import FlashDisk.Toml.Scan
import FlashDisk.Toml.Value
import FlashDisk.Word

/-!
# Numbers

* An integer is decimal without leading zeros and with an optional sign, or hexadecimal, octal or
  binary without one; it must be a signed 64-bit word.
* A float has a fraction, an exponent or both, or is an infinity or not a number. One that rounds to
  positive infinity as a 64-bit float is refused.
* Digits may be separated by single underscores.
-/

namespace FlashDisk.Toml

open Scan

/-- The value of a digit of any base up to sixteen. -/
def digitValue (c : Char) : Nat :=
  if c.isDigit then c.toNat - 0x30
  else if 'a' ≤ c then c.toNat - 0x61 + 10
  else c.toNat - 0x41 + 10

/-- The number with the given digits, highest first. -/
def ofDigits (base : Nat) (ds : List Char) : Nat :=
  ds.foldl (fun n c => n * base + digitValue c) 0

/-- A decimal digit. -/
def isDecimal (c : Char) : Bool := '0' ≤ c && c ≤ '9'

/-- A hexadecimal digit in either case. -/
def isHex (c : Char) : Bool := isDecimal c || ('a' ≤ c && c ≤ 'f') || ('A' ≤ c && c ≤ 'F')

namespace Scan

/-- Digits with single underscores between them; the answer is without underscores. -/
def digits (isDigit : Char → Bool) : Scan (List Char) := do
  let first ← satisfy isDigit
  iterate (fun seen => do
    match ← peek? with
    | some '_' => do
      char '_'
      let d ← satisfy isDigit
      return .again (d :: seen)
    | some c =>
      if isDigit c then do
        let d ← satisfy isDigit
        return .again (d :: seen)
      else return .done seen.reverse
    | none => return .done seen.reverse) [first]

/-- A sign; the answer tells whether it is a minus. -/
def sign : Scan Bool := do
  match ← peek? with
  | some '-' => do char '-'; return true
  | some '+' => do char '+'; return false
  | _ => return false

/-- Decimal digits without a leading zero. -/
def wholeDigits : Scan (List Char) := do
  match ← peek? with
  | some '0' => do char '0'; return ['0']
  | _ => digits isDecimal

/-- Digits of a base behind its prefix. -/
def based (mark : String) (base : Nat) (isDigit : Char → Bool) : Scan Int := do
  literal mark
  return (ofDigits base (← digits isDigit) : Nat)

/-- A decimal integer. -/
def decimalInteger : Scan Int := do
  let negative ← sign
  let n : Nat := ofDigits 10 (← wholeDigits)
  return if negative then -(n : Int) else n

/-- An integer that is a signed 64-bit word. -/
def integer : Scan Int64 := do
  let n ← based "0x" 16 isHex <|> based "0o" 8 (fun c => '0' ≤ c && c ≤ '7') <|>
    based "0b" 2 (fun c => c == '0' || c == '1') <|> decimalInteger
  let n ← StateT.lift (Word.signed64? n)
  return Int64.ofInt n

end Scan

/-! ## Floats -/

/-- Half a step above the largest 64-bit float: from here on a number rounds to infinity. -/
def floatLimit : Nat := Nat.pow 2 1024 - Nat.pow 2 970

/-- Whether `digits · 10 ^ exponent` is below the limit. The count of digits settles all but a few
exponents, so that no power is taken that is much larger than the text. -/
def isFinite (digits : Nat) (exponent : Int) : Bool :=
  let count : Int := (Nat.toDigits 10 digits).length
  if digits = 0 ∨ count + exponent ≤ 0 then true
  else if 310 < count + exponent then false
  else if 0 ≤ exponent then digits * Nat.pow 10 exponent.toNat < floatLimit
  else digits < floatLimit * Nat.pow 10 (-exponent).toNat

/-- Whether a float is not positive infinity. -/
def Decimal.isAllowed : Decimal → Bool
  | .finite negative digits exponent => negative || isFinite digits exponent
  | .infinite _ | .notANumber => true

namespace Scan

/-- An exponent. -/
def exponent : Scan Int := do
  let _ ← satisfy fun c => c == 'e' || c == 'E'
  let negative ← sign
  let n : Nat := ofDigits 10 (← digits isDecimal)
  return if negative then -(n : Int) else n

/-- A fraction; the answer is its digits. -/
def fraction : Scan (List Char) := do
  char '.'
  digits isDecimal

/-- A float written in digits. -/
def digitFloat : Scan Decimal := do
  let negative ← sign
  let whole ← wholeDigits
  let (part, power) ← (do return ([], ← exponent)) <|> do
    let part ← fraction
    return (part, (← optional exponent).getD 0)
  let x := Decimal.finite negative (ofDigits 10 (whole ++ part)) (power - part.length)
  guard x.isAllowed
  return x

/-- An infinity or not a number. -/
def specialFloat : Scan Decimal := do
  let negative ← sign
  (do literal "inf"; return .infinite negative) <|> (do literal "nan"; return .notANumber)

/-- A float. -/
def float : Scan Decimal := digitFloat <|> specialFloat

end Scan

end FlashDisk.Toml
