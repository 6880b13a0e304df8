import FlashDisk.Control

/-!
# A block device behind one lock

The cache of a device stands for one page in flight, so the device is locked as a whole for each
request. The lock is not reentrant: to take it while it is held is a trap.

* `Shared.withLock`: the lock is free again after its body, however that ended.
-/

namespace FlashDisk

/-- A device and its lock. -/
structure Shared (δ : Type) where
  device : δ
  held : Bool := false

namespace Shared

variable {δ ε α : Type}

/-- Takes the lock for the time of a call. -/
def withLock (body : Call (Shared δ) ε α) : Call (Shared δ) ε α := fun s =>
  if s.held then (.trap, s)
  else
    let (o, s) := body { s with held := true }
    (o, { s with held := false })

/-- A call on the device alone. -/
def onDevice (c : Call δ ε α) : Call (Shared δ) ε α :=
  c.zoom Shared.device fun device s => { s with device }

/-- A call on the device with the lock taken. -/
def locked (c : Call δ ε α) : Call (Shared δ) ε α := withLock (onDevice c)

variable [BlockStore δ]

/-- The number of blocks. -/
def blockCount : Call (Shared δ) ε Nat :=
  locked do return BlockStore.blockCount (← Call.get)

/-- Reads a block into a buffer that must be one block long. -/
def readBlock {n : Nat} (block : Nat) : Call (Shared δ × Vector UInt8 n) DeviceError Unit :=
  fun (s, buffer) =>
    if s.held then (.trap, (s, buffer))
    else
      let (o, (device, buffer)) := BlockStore.readBlock block (s.device, buffer)
      (o, ({ s with device }, buffer))

/-- Writes a block from data that must be one block long. -/
def writeBlock {n : Nat} (block : Nat) (data : Vector UInt8 n) :
    Call (Shared δ) DeviceError Unit :=
  locked (BlockStore.writeBlock block data)

/-- Makes every earlier write durable. -/
def sync : Call (Shared δ) DeviceError Unit := locked BlockStore.sync

end Shared

end FlashDisk
