import FlashDisk.Driver
import FlashDisk.Word

/-!
# NOR flash as a driver

The usual interface of a NOR flash erases from one address to another and names its errors by
kind. `NorDriver` makes a driver of any such flash.

* A length is narrowed to a word before it is added to the address, so of a length of `2^32` or
  more only the remainder is erased.
* A sum that leaves the address space is out of bounds, and the flash is not called.
-/

namespace FlashDisk

/-- The kinds of error that a NOR flash tells apart. -/
inductive NorError where
  | notAligned
  | outOfBounds
  | other
  deriving DecidableEq, Repr

/-- The driver error for a kind of NOR error. -/
def NorError.toDriverError : NorError → DriverError
  | .notAligned => .notAligned
  | .outOfBounds => .outOfBounds
  | .other => .failed

/-- A flash that erases from an address up to another. -/
class NorFlash (σ : Type) where
  /-- The number of bytes. -/
  capacity : σ → Nat
  /-- Sets the bytes from `first` up to `stop` to the erased value. -/
  erase (first stop : Nat) : Call σ NorError Unit
  /-- Fills the buffer beside the flash from `addr` on. -/
  read {n : Nat} (addr : Nat) : Call (σ × Vector UInt8 n) NorError Unit
  /-- Programs `data` from `addr` on. -/
  write {n : Nat} (addr : Nat) (data : Vector UInt8 n) : Call σ NorError Unit

/-- A driver over a NOR flash. -/
structure NorDriver (σ : Type) where
  flash : σ

namespace NorDriver

variable {σ : Type} [NorFlash σ]

/-- Runs a call of the wrapped flash. -/
def onFlash {α : Type} (c : Call σ NorError α) : Call (NorDriver σ) DriverError α :=
  (c.mapError NorError.toDriverError).zoom NorDriver.flash fun flash _ => ⟨flash⟩

/-- Erases `len` bytes, with `len` taken as a word. -/
def erase (addr len : Nat) : Call (NorDriver σ) DriverError Unit :=
  match Word.add32? addr (len % Word.limit32) with
  | some stop => onFlash (NorFlash.erase addr stop)
  | none => Call.fail .outOfBounds

instance : FlashDriver (NorDriver σ) where
  erase := erase
  read addr :=
    ((NorFlash.read addr).mapError NorError.toDriverError).zoom
      (fun s => (s.1.flash, s.2)) (fun s _ => (⟨s.1⟩, s.2))
  write addr data := onFlash (NorFlash.write addr data)

end NorDriver

end FlashDisk
