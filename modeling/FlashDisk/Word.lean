/-!
# Arithmetic within a word

Addresses, lengths and block indices are 32-bit words, the sizes of a flash layout are signed
64-bit words. Both are computed with as exact numbers, and a result that no word can hold is
refused instead of wrapped around.

* `add32?_eq_some_iff`, `mul32?_eq_some_iff`: the exact result, and only where it fits.
-/

namespace FlashDisk.Word

/-- One more than the largest 32-bit word. -/
abbrev limit32 : Nat := 0x100000000

/-- One more than the largest signed 64-bit word, and the distance of the least one from zero. -/
abbrev limit63 : Int := 0x8000000000000000

/-- The sum, if it is a 32-bit word. -/
def add32? (a b : Nat) : Option Nat :=
  if a + b < limit32 then some (a + b) else none

/-- The product, if it is a 32-bit word. -/
def mul32? (a b : Nat) : Option Nat :=
  if a * b < limit32 then some (a * b) else none

theorem add32?_eq_some_iff {a b c : Nat} : add32? a b = some c ↔ c = a + b ∧ c < limit32 := by
  grind [add32?]

theorem mul32?_eq_some_iff {a b c : Nat} : mul32? a b = some c ↔ c = a * b ∧ c < limit32 := by
  grind [mul32?]

/-- The number, if it is a signed 64-bit word. -/
def signed64? (n : Int) : Option Int :=
  if -limit63 ≤ n ∧ n < limit63 then some n else none

/-- The sum, if it is a signed 64-bit word. -/
def add64? (a b : Int) : Option Int := signed64? (a + b)

/-- The difference, if it is a signed 64-bit word. -/
def sub64? (a b : Int) : Option Int := signed64? (a - b)

/-- The quotient rounded toward zero, if the divisor allows one and it is a signed 64-bit word. -/
def div64? (a b : Int) : Option Int :=
  if b = 0 then none else signed64? (a.tdiv b)

/-- The remainder with the sign of the dividend, wherever the quotient is a signed 64-bit word. -/
def rem64? (a b : Int) : Option Int := do
  let _ ← div64? a b
  return a.tmod b

theorem signed64?_eq_some_iff {n m : Int} :
    signed64? n = some m ↔ m = n ∧ -limit63 ≤ n ∧ n < limit63 := by
  grind [signed64?]

end FlashDisk.Word
