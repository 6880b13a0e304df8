import FlashDisk.Toml.Number

/-!
# Dates and times

A date or time is written the same way as a value of a document and as a text of its own. An offset
stands only behind a date with a time.

* `Scan.dateTime`: a date or time at the front of a text.
* `Value.resolve?`: the value with tables that stand for a date or time replaced by it. Such a table
  starts with a reserved key, and whatever follows in it is not looked at.
-/

namespace FlashDisk.Toml

/-- The number of days of a month. -/
def daysOfMonth (year month : Nat) : Nat :=
  if month = 2 then
    if year % 4 = 0 ∧ (year % 100 ≠ 0 ∨ year % 400 = 0) then 29 else 28
  else if month = 4 ∨ month = 6 ∨ month = 9 ∨ month = 11 then 30
  else 31

namespace Scan

/-- A number of exactly `n` decimal digits. -/
def fixed (n : Nat) : Scan Nat := do
  let ds ← (List.replicate n ()).mapM fun _ => satisfy isDecimal
  return ofDigits 10 ds

/-- A number of two digits that is at most `last`. -/
def upTo (last : Nat) : Scan Nat := do
  let n ← fixed 2
  guard (n ≤ last)
  return n

/-- A day that the calendar has. -/
def date : Scan Date := do
  let year ← fixed 4
  char '-'
  let month ← fixed 2
  char '-'
  let day ← fixed 2
  guard (1 ≤ month ∧ month ≤ 12 ∧ 1 ≤ day ∧ day ≤ daysOfMonth year month)
  return { year, month, day }

/-- The digits of a fraction of a second; those behind the ninth are dropped. -/
def nanoseconds : Scan Nat := do
  char '.'
  let ds ← spanOf isDecimal
  guard !ds.isEmpty
  return ofDigits 10 ((ds ++ List.replicate 9 '0').take 9)

/-- A time of day; a minute may have a leap second. -/
def time : Scan Time := do
  let hour ← upTo 23
  char ':'
  let minute ← upTo 59
  char ':'
  let second ← upTo 60
  match ← peek? with
  | some '.' => return { hour, minute, second, nanosecond := ← nanoseconds }
  | _ => return { hour, minute, second, nanosecond := 0 }

/-- What stands between a date and a time. -/
def isSeparator (c : Char) : Bool := c == 'T' || c == 't' || c == ' '

/-- The letter for universal time. -/
def universal : Scan Offset := do
  let _ ← satisfy fun c => c == 'Z' || c == 'z'
  return .universal

/-- A signed distance in hours and minutes. -/
def distance : Scan Offset := do
  let mark ← satisfy fun c => c == '+' || c == '-'
  let hours ← upTo 23
  char ':'
  let minutes ← upTo 59
  let n : Int := (hours * 60 + minutes : Nat)
  return .minutes (if mark == '-' then -n else n)

/-- A time behind a date, with an offset or without. -/
def timeOfDate : Scan (Time × Option Offset) := do
  let _ ← satisfy isSeparator
  let clock ← time
  return (clock, ← optional (universal <|> distance))

/-- A date, a date with a time, or a time. -/
def dateTime : Scan DateTime :=
  (do
    let day ← date
    match ← optional timeOfDate with
    | some (clock, offset) => return ⟨some day, some clock, offset⟩
    | none => return ⟨some day, none, none⟩) <|>
  (do return ⟨none, some (← time), none⟩)

end Scan

/-- The date or time that a text stands for. -/
def DateTime.ofText? (s : String) : Option DateTime := Scan.dateTime.accepts? s.toList

/-! ## Tables that stand for a date or time -/

/-- The key that marks a table as a date or time. -/
def dateTimeKey : String := "$__toml_private_datetime"

/-- The value at the reserved key, if a table starts with it. -/
def markedValue? : List (String × Value) → Option Value
  | (key, v) :: _ => if key = dateTimeKey then some v else none
  | [] => none

/-- The date or time that a marked table stands for; only a text can name one. -/
def Value.asDateTime? : Value → Option Value
  | .string s => (DateTime.ofText? s).map .dateTime
  | _ => none

mutual

/-- The value with every marked table replaced by its date or time. -/
def Value.resolve? : Value → Option Value
  | .array items => .array <$> resolveItems? items
  | .table entries =>
    match markedValue? entries with
    | some v => v.asDateTime?
    | none => .table <$> resolveEntries? entries
  | v => some v

/-- The items of an array with every marked table replaced. -/
def resolveItems? : List Value → Option (List Value)
  | [] => some []
  | v :: rest => do
    let v ← v.resolve?
    return v :: (← resolveItems? rest)

/-- The entries of a table with every marked table replaced. -/
def resolveEntries? : List (String × Value) → Option (List (String × Value))
  | [] => some []
  | (key, v) :: rest => do
    let v ← v.resolve?
    return (key, v) :: (← resolveEntries? rest)

end

end FlashDisk.Toml
