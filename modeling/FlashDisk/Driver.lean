import FlashDisk.Call
import FlashDisk.Error

/-!
# What a device needs of its hardware

* `FlashDriver`: erase, program and read a range of flash. A driver may be any state machine: it
  may fail, report success falsely, or trap. What it must keep is the length of the caller's buffer,
  and the type of `read` sees to that.
* `CacheMaintenance`: drop what the processor has cached of the flash.
* `DriverCall`: one driver access, as it appears in a log.
-/

namespace FlashDisk

/-- A flash that can be erased, programmed and read. -/
class FlashDriver (σ : Type) where
  /-- Brings the flash up. -/
  init : Call σ DriverError Unit := pure ()
  /-- Sets `len` bytes from `addr` on to the erased value. -/
  erase (addr len : Nat) : Call σ DriverError Unit
  /-- Fills the buffer beside the flash from `addr` on; a failed read may leave it partly filled. -/
  read {n : Nat} (addr : Nat) : Call (σ × Vector UInt8 n) DriverError Unit
  /-- Programs `data` from `addr` on. -/
  write {n : Nat} (addr : Nat) (data : Vector UInt8 n) : Call σ DriverError Unit

/-- A driver access. -/
inductive DriverCall where
  | init
  | erase (addr len : Nat)
  | read (addr len : Nat)
  | write (addr len : Nat)
  deriving DecidableEq, Repr

/-- One line of a log. -/
def DriverCall.line : DriverCall → String
  | .init => "init"
  | .erase addr len => s!"erase {addr} {len}"
  | .read addr len => s!"read {addr} {len}"
  | .write addr len => s!"write {addr} {len}"

/-- A processor cache in front of the flash. -/
class CacheMaintenance (κ : Type) where
  /-- Drops every cached view of the flash. -/
  invalidateAll : κ → κ

/-- Counts how often the cache was asked to drop its content. -/
structure InvalidationCounter where
  invalidations : Nat := 0
  deriving DecidableEq, Repr

instance : CacheMaintenance InvalidationCounter where
  invalidateAll c := ⟨c.invalidations + 1⟩

/-- A processor without a cache in front of its flash. -/
inductive NoCache where
  | none
  deriving DecidableEq, Repr

instance : CacheMaintenance NoCache where
  invalidateAll c := c

end FlashDisk
