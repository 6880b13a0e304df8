/-!
# Values of a configuration document

A TOML document is a table of keys and values in the order in which they are written.

* `Value`: integers are signed 64-bit words; floats, strings and dates are kept as read.
* `Value.get?`: the value at a key, if the value is a table that has it.
-/

namespace FlashDisk.Toml

/-- A decimal float: `digits · 10 ^ exponent`, an infinity, or not a number. -/
inductive Decimal where
  | finite (negative : Bool) (digits : Nat) (exponent : Int)
  | infinite (negative : Bool)
  | notANumber
  deriving DecidableEq, Repr

/-- A day of the calendar. -/
structure Date where
  year : Nat
  month : Nat
  day : Nat
  deriving DecidableEq, Repr

/-- A time of day. -/
structure Time where
  hour : Nat
  minute : Nat
  second : Nat
  nanosecond : Nat
  deriving DecidableEq, Repr

/-- A distance from universal time. -/
inductive Offset where
  | universal
  | minutes (n : Int)
  deriving DecidableEq, Repr

/-- A date, a time, or both with or without an offset. -/
structure DateTime where
  date : Option Date
  time : Option Time
  offset : Option Offset
  deriving DecidableEq, Repr

/-- A value of a document. -/
inductive Value where
  | integer (n : Int64)
  | float (x : Decimal)
  | string (s : String)
  | boolean (b : Bool)
  | dateTime (d : DateTime)
  | array (items : List Value)
  | table (entries : List (String × Value))

/-- The value at a key of a table. -/
def Value.get? (v : Value) (key : String) : Option Value :=
  match v with
  | .table entries => entries.lookup key
  | _ => none

end FlashDisk.Toml
