import FlashDisk.Call
import FlashDisk.Error
import FlashDisk.Word

/-!
# Control requests

Beside reading and writing, a block device answers numbered control requests: 1 to 6 as is usual for
block devices, and `0x100` for a cache invalidation.

* `Control.ofCode?` and `Control.code`: the number of a request, and the request of a number.
* `BlockStore.control`: the answers that any block store can give.
-/

namespace FlashDisk

/-- A control request. -/
inductive Control where
  | init
  | deinit
  | sync
  | blockCount
  | blockSize
  /-- Discard a block. -/
  | blockErase (block : Nat)
  /-- Acknowledge a cache invalidation. -/
  | irqHandler
  deriving DecidableEq, Repr

namespace Control

/-- The request with a number and an argument. -/
def ofCode? (code arg : Nat) : Option Control :=
  match code with
  | 1 => some .init
  | 2 => some .deinit
  | 3 => some .sync
  | 4 => some .blockCount
  | 5 => some .blockSize
  | 6 => some (.blockErase arg)
  | 0x100 => some .irqHandler
  | _ => none

/-- The number of a request. -/
def code : Control → Nat
  | .init => 1
  | .deinit => 2
  | .sync => 3
  | .blockCount => 4
  | .blockSize => 5
  | .blockErase _ => 6
  | .irqHandler => 0x100

/-- The name of a request, with its argument. -/
def name : Control → String
  | .init => "Init"
  | .deinit => "Deinit"
  | .sync => "Sync"
  | .blockCount => "BlockCount"
  | .blockSize => "BlockSize"
  | .blockErase block => s!"BlockErase({block})"
  | .irqHandler => "IrqHandler"

@[simp] theorem ofCode?_code (c : Control) (arg : Nat) (h : ∀ b, c = .blockErase b → b = arg) :
    ofCode? c.code arg = some c := by
  cases c <;> simp_all [ofCode?, code]

end Control

/-- Storage in blocks of one size. A write is durable once a later `sync` returns. -/
class BlockStore (δ : Type) where
  /-- The number of bytes of a block. -/
  blockSize : δ → Nat
  /-- The number of blocks. -/
  blockCount : δ → Nat
  /-- Brings the device up. -/
  init : Call δ DeviceError Unit
  /-- Makes every earlier write durable. -/
  sync : Call δ DeviceError Unit
  /-- Reads a block into the buffer beside the device, which must be one block long. -/
  readBlock {n : Nat} (block : Nat) : Call (δ × Vector UInt8 n) DeviceError Unit
  /-- Writes a block from `data`, which must be one block long. -/
  writeBlock {n : Nat} (block : Nat) (data : Vector UInt8 n) : Call δ DeviceError Unit

/-- The control answers of a store: discarding a block and a cache invalidation do nothing. -/
def BlockStore.control {δ : Type} [BlockStore δ] : Control → Call δ DeviceError Nat
  | .init => do init; return 0
  | .deinit | .sync => do sync; return 0
  | .blockCount => do return blockCount (← Call.get)
  | .blockSize => do return blockSize (← Call.get) % Word.limit32
  | .blockErase _ | .irqHandler => pure 0

/-- A block store that also answers control requests. -/
class BlockDevice (δ : Type) extends BlockStore δ where
  /-- Answers a control request with a word. -/
  control : Control → Call δ DeviceError Nat := BlockStore.control

end FlashDisk
