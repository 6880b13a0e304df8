import FlashDisk.Bytes
import FlashDisk.Driver

/-!
# A write-back cache of one page

Flash is erased and programmed by whole pages while blocks are written one at a time. The cache
holds one page in memory and takes every write that lands in it. The page goes to flash when another
page is wanted or on a flush.

While a page is resident the buffer is its content; the flash below it may be stale until a flush
succeeds.

* `flush`: erase, then program, then release. If either fails the page stays resident and dirty,
  so the next flush starts over with an erase.
* `load`: flush, then read the wanted page into the same buffer. If the read fails no page is
  resident.
* `writeSpan`, `readSpan`: bytes of the resident page. A span past the end of the page is a trap.
-/

namespace FlashDisk

/-- A cache of one page of `pageSize` bytes. -/
structure PageCache (pageSize : Nat) where
  /-- The address of the resident page. -/
  resident : Option Nat := none
  /-- The buffer differs from the flash. -/
  dirty : Bool := false
  buffer : Vector UInt8 pageSize := Bytes.filled pageSize 0

namespace PageCache

variable {p n : Nat} {σ ε : Type}

/-- Whether the resident page has writes that are not on the flash. -/
def isDirty (c : PageCache p) : Bool := c.resident.isSome && c.dirty

/-- The cache without its page. -/
def released (c : PageCache p) : PageCache p := { c with resident := none, dirty := false }

/-- The cache with the content of its buffer taken as the clean page at `base`. -/
def holding (c : PageCache p) (base : Nat) : PageCache p :=
  { c with resident := some base, dirty := false }

/-! ## The resident page -/

/-- Copies `data` into the resident page. No resident page, or a span past its end, is a trap. -/
def writeSpan (offset : Nat) (data : Vector UInt8 n) : Call (PageCache p) ε Unit := do
  let c ← Call.get
  if c.resident.isSome ∧ offset + n ≤ p then
    Call.modify fun c => { c with buffer := Bytes.patch c.buffer offset data, dirty := true }
  else Call.trap

/-- Copies bytes of the page at `base` into the caller's buffer, if that page is resident; the answer
tells whether it is. A span past its end is a trap. -/
def readSpan (c : PageCache p) (base offset : Nat) : Call (Vector UInt8 n) ε Bool :=
  if c.resident = some base then
    if inside : offset + n ≤ p then do
      Call.modify fun _ => Bytes.slice c.buffer offset n inside
      return true
    else Call.trap
  else pure false

/-! ## A cache over a flash -/

/-- A driver call that belongs to a phase. -/
def onFlash (phase : Phase) (c : Call σ DriverError Unit) :
    Call (PageCache p × σ) FlashError Unit :=
  (c.mapError (FlashError.mk phase)).onSnd

/-- Changes the cache and leaves the flash alone. -/
def update (f : PageCache p → PageCache p) : Call (PageCache p × σ) FlashError Unit :=
  Call.modify fun (c, flash) => (f c, flash)

variable [FlashDriver σ]

/-- Erases and programs the page at `base` with the buffer. -/
def writeBack (base : Nat) : Call (PageCache p × σ) FlashError Unit := do
  onFlash .erase (FlashDriver.erase base p)
  let (c, _) ← Call.get
  onFlash .program (FlashDriver.write base c.buffer)

/-- Writes the resident page back if it is dirty, and releases it. -/
def flush : Call (PageCache p × σ) FlashError Unit := do
  let (c, _) ← Call.get
  match c.resident with
  | none => pure ()
  | some base =>
    if c.dirty then writeBack base
    update released

/-- Reads the page at `base` into the buffer. -/
def fetch (base : Nat) : Call (PageCache p × σ) FlashError Unit :=
  ((FlashDriver.read base).mapError (FlashError.mk .read)).zoom
    (fun (c, flash) => (flash, c.buffer))
    (fun (flash, buffer) (c, _) => ({ c with buffer }, flash))

/-- Makes the page at `base` resident; nothing happens if it is. -/
def load (base : Nat) : Call (PageCache p × σ) FlashError Unit := do
  let (c, _) ← Call.get
  if c.resident = some base then pure ()
  else
    flush
    fetch base
    update (holding · base)

end PageCache

end FlashDisk
