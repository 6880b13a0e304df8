import FlashDisk.Control
import FlashDisk.PageCache
import FlashDisk.Region

/-!
# The block device

Block indices are translated into the region. A read is answered from the cache if the page of the
block is resident, and from flash otherwise. A write goes into the cache, and reaches flash when
another page is written or on `sync`.

* `Device.create`: a device whose block and page size are those of its region.
* `readBlock`, `writeBlock`, `readBlocks`, `writeBlocks`: refused before `init` has succeeded. The
  range of a multi-block request is checked as a whole before anything is done.
* `sync`: the only request that makes all earlier writes durable.
* `Device.control`: the control requests; discarding a block only checks its index.
-/

namespace FlashDisk

/-- Whether the driver of a device was brought up. -/
inductive DeviceState where
  | uninitialized
  | ready
  deriving DecidableEq, Repr

/-- A block device over a region of flash, with one page cached. -/
structure Device (r : Region) (σ κ : Type) where
  flash : σ
  cacheControl : κ
  cache : PageCache r.pageSize := {}
  state : DeviceState := .uninitialized

namespace Device

variable {r : Region} {σ κ ε α : Type} {n : Nat}

/-- A new device, if the sizes it is made for are those of the region. -/
def create (blockSize pageSize : Nat) (flash : σ) (cacheControl : κ) (r : Region) :
    Except GeometryError (Device r σ κ) :=
  if r.blockSize = blockSize ∧ r.pageSize = pageSize then .ok { flash, cacheControl }
  else .error .sizeMismatch

/-- The flash and the cache control. Writes that were not synced are dropped. -/
def release (d : Device r σ κ) : σ × κ := (d.flash, d.cacheControl)

/-- Whether a sync would put writes on the flash. -/
def hasPendingWrites (d : Device r σ κ) : Bool := d.cache.isDirty

/-- The address of the cached page. -/
def residentPage (d : Device r σ κ) : Option Nat := d.cache.resident

/-! ## Calls on the parts of a device -/

/-- A call on the cache over the flash. -/
def onCache (c : Call (PageCache r.pageSize × σ) FlashError α) :
    Call (Device r σ κ) DeviceError α :=
  (c.mapError .flash).zoom (fun d => (d.cache, d.flash))
    fun (cache, flash) d => { d with cache, flash }

/-- A call on the cached page alone. -/
def onPage (c : Call (PageCache r.pageSize) ε α) : Call (Device r σ κ) ε α :=
  c.zoom Device.cache fun cache d => { d with cache }

/-- Fails unless the device is ready. -/
def ensureReady : Call (Device r σ κ) DeviceError Unit := do
  match (← Call.get).state with
  | .ready => pure ()
  | .uninitialized => Call.fail .notInitialized

/-- The address of a block of the region. -/
def locate {τ : Type} (r : Region) (block : Nat) : Call τ DeviceError Nat :=
  Call.ofExcept ((r.translate block).mapError .outOfRange)

/-- The number of blocks that a buffer of `n` bytes holds, if it holds whole blocks and a word can
count them. -/
def blocksIn (r : Region) (n : Nat) : Except DeviceError Nat :=
  if n % r.blockSize = 0 ∧ n / r.blockSize < Word.limit32 then .ok (n / r.blockSize)
  else .error .bufferLength

variable [FlashDriver σ]

/-- Reads the flash at an address into the buffer beside the device. -/
def fetch (addr : Nat) : Call (Device r σ κ × Vector UInt8 n) DeviceError Unit :=
  ((FlashDriver.read addr).mapError fun cause => .flash ⟨.read, cause⟩).zoom
    (fun (d, buffer) => (d.flash, buffer))
    (fun (flash, buffer) (d, _) => ({ d with flash }, buffer))

/-- Reads a block from the cache or the flash. -/
def readInto (block : Nat) : Call (Device r σ κ × Block r) DeviceError Unit := do
  let addr ← locate r block
  let (d, _) ← Call.get
  let cached ← (d.cache.readSpan (r.pageBase addr) (r.pageOffset addr)).onSnd
  if !cached then fetch addr

/-- Writes a block into the cache, with its page made resident first. -/
def writeFrom (block : Nat) (data : Block r) : Call (Device r σ κ) DeviceError Unit := do
  let addr ← locate r block
  onCache (PageCache.load (r.pageBase addr))
  onPage (PageCache.writeSpan (r.pageOffset addr) data)

/-! ## Requests -/

/-- Brings up the driver, unless that has been done. -/
def init : Call (Device r σ κ) DeviceError Unit := do
  match (← Call.get).state with
  | .ready => pure ()
  | .uninitialized =>
    (FlashDriver.init.mapError fun cause => .flash ⟨.init, cause⟩).zoom
      Device.flash fun flash d => { d with flash }
    Call.modify fun d => { d with state := .ready }

/-- Reads one block. -/
def readBlock (block : Nat) : Call (Device r σ κ) DeviceError (Block r) := do
  ensureReady
  (readInto block).filling (Bytes.filled r.blockSize 0)

/-- Writes one block into the cache. -/
def writeBlock (block : Nat) (data : Block r) : Call (Device r σ κ) DeviceError Unit := do
  ensureReady
  writeFrom block data

/-- Reads `count` blocks, block `start + i` into the `i`-th block of the buffer. -/
def readRun (start i count : Nat) : Call (Device r σ κ × Vector UInt8 n) DeviceError Unit :=
  match count with
  | 0 => pure ()
  | count + 1 => do
    let block ← Call.ofOption (Word.add32? start i)
    (readInto block).onSlice (i * r.blockSize) r.blockSize
    readRun start (i + 1) count

/-- Writes `count` blocks, block `start + i` from the `i`-th block of the data. -/
def writeRun (data : Vector UInt8 n) (start i count : Nat) : Call (Device r σ κ) DeviceError Unit :=
  match count with
  | 0 => pure ()
  | count + 1 => do
    let block ← Call.ofOption (Word.add32? start i)
    if inside : i * r.blockSize + r.blockSize ≤ n then
      writeFrom block (Bytes.slice data (i * r.blockSize) r.blockSize inside)
    else Call.trap
    writeRun data start (i + 1) count

/-- Reads consecutive blocks into the buffer beside the device. -/
def readBlocks (start : Nat) : Call (Device r σ κ × Vector UInt8 n) DeviceError Unit := do
  ensureReady.onFst
  let count ← Call.ofExcept (blocksIn r n)
  Call.ofExcept ((r.checkSpan start count).mapError .outOfRange)
  readRun start 0 count

/-- Writes consecutive blocks. -/
def writeBlocks (start : Nat) (data : Vector UInt8 n) : Call (Device r σ κ) DeviceError Unit := do
  ensureReady
  let count ← Call.ofExcept (blocksIn r n)
  Call.ofExcept ((r.checkSpan start count).mapError .outOfRange)
  writeRun data start 0 count

variable [CacheMaintenance κ]

/-- Drops what the processor has cached of the flash; the page cache is not touched. -/
def invalidate : Call (Device r σ κ) ε Unit :=
  Call.modify fun d => { d with cacheControl := CacheMaintenance.invalidateAll d.cacheControl }

/-- Writes the cached page back, then drops what the processor has cached of the flash. -/
def sync : Call (Device r σ κ) DeviceError Unit := do
  onCache PageCache.flush
  invalidate

/-! ## A device as a block device -/

/-- Reads one block into a buffer that must be one block long. -/
def readExactly (block : Nat) : Call (Device r σ κ × Vector UInt8 n) DeviceError Unit :=
  if one : n = r.blockSize then one ▸ do
    ensureReady.onFst
    readInto block
  else Call.fail .bufferLength

/-- Writes one block from data that must be one block long. -/
def writeExactly (block : Nat) (data : Vector UInt8 n) : Call (Device r σ κ) DeviceError Unit :=
  if one : n = r.blockSize then writeBlock block (data.cast one) else Call.fail .bufferLength

instance : BlockStore (Device r σ κ) where
  blockSize _ := r.blockSize
  blockCount _ := r.blockCount
  init := init
  sync := sync
  readBlock := readExactly
  writeBlock := writeExactly

/-- Answers a control request. A page is only erased as it is written back, so to discard a block
checks the index and does nothing else. -/
def control : Control → Call (Device r σ κ) DeviceError Nat
  | .init => do init; return 0
  | .deinit | .sync => do sync; return 0
  | .blockCount => pure r.blockCount
  | .blockSize => pure r.blockSize
  | .blockErase block => do let _ ← locate r block; return 0
  | .irqHandler => do invalidate; return 0

instance : BlockDevice (Device r σ κ) where
  control := control

end Device

end FlashDisk
