import FlashDisk.Bytes
import FlashDisk.Shared

/-!
# The self-test

The test writes a pattern to the last block of a shared device, syncs, reads the block back, then
restores and syncs what was there before. It answers whether the pattern came back.

Each step takes the lock for itself, so other clients may use the device between two steps.
`SelfTest.runAmid` is the test with that activity given, `SelfTest.run` the test without any.
-/

namespace FlashDisk.SelfTest

variable {δ ε α : Type}

/-- The pattern: the low byte of the position with four bits flipped. -/
def pattern (n : Nat) : Vector UInt8 n := Vector.ofFn fun i => UInt8.ofNat i.val ^^^ 0xA5

/-- What other clients do to the shared device before each step of the test. -/
abbrev Activity (δ : Type) : Type := Nat → Shared δ → Shared δ

variable [BlockStore δ]

/-- Reads a block of `n` bytes into a cleared buffer. -/
def readOut (n block : Nat) : Call (Shared δ) DeviceError (Vector UInt8 n) :=
  (Shared.readBlock block).filling (Bytes.filled n 0)

/-- Runs the test for blocks of `n` bytes, with `others k` done before its `k`-th step. A device
without blocks is a trap. -/
def runAmid (others : Activity δ) (n : Nat) : Call (Shared δ) DeviceError Bool := do
  Call.modify (others 0)
  let count ← Shared.blockCount
  if count = 0 then Call.trap
  let block := count - 1
  Call.modify (others 1)
  let saved ← readOut n block
  Call.modify (others 2)
  Shared.writeBlock block (pattern n)
  Call.modify (others 3)
  Shared.sync
  Call.modify (others 4)
  let readback ← readOut n block
  Call.modify (others 5)
  Shared.writeBlock block saved
  Call.modify (others 6)
  Shared.sync
  return readback == pattern n

/-- Runs the test on a device that nobody else uses. -/
def run (n : Nat) : Call (Shared δ) DeviceError Bool := runAmid (fun _ s => s) n

end FlashDisk.SelfTest
