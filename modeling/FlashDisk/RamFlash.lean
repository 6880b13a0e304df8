import FlashDisk.Bytes
import FlashDisk.Driver

/-!
# A strict flash in memory

A flash of eight pages from address 0 that insists on correct use: it erases and programs whole
pages only, and programming a page that is not erased is a trap. It logs up to 128 calls, the next
one is a trap before it has any effect, and it can be told to fail every call of one phase.
-/

namespace FlashDisk

/-- The state of the flash. -/
structure RamFlash where
  cells : Vector UInt8 0x8000 := Bytes.filled 0x8000 0xFF
  log : Array DriverCall := #[]
  /-- The phase whose calls all fail. -/
  failing : Option Phase := none

namespace RamFlash

/-- The number of bytes. -/
abbrev size : Nat := 0x8000

/-- The unit of erasing and programming. -/
abbrev pageSize : Nat := 4096

/-- The number of calls that the log holds. -/
abbrev logSize : Nat := 128

/-- Makes every call of a phase fail, or none. -/
def failOn (phase : Option Phase) (f : RamFlash) : RamFlash := { f with failing := phase }

/-- Empties the log. -/
def clearLog (f : RamFlash) : RamFlash := { f with log := #[] }

/-- The number of erase calls in the log. -/
def eraseCount (f : RamFlash) : Nat := f.log.countP (· matches .erase ..)

/-- The number of program calls in the log. -/
def writeCount (f : RamFlash) : Nat := f.log.countP (· matches .write ..)

/-- Logs a call, then fails it if its phase is to fail. -/
def record (phase : Phase) (call : DriverCall) : Call RamFlash DriverError Unit := do
  let f ← Call.get
  if f.log.size < logSize then
    Call.modify fun f => { f with log := f.log.push call }
    if f.failing = some phase then Call.fail .failed
  else Call.trap

/-- Checks that a range lies in the flash. -/
def checkBounds (addr len : Nat) : Except DriverError Unit :=
  if addr + len > size then .error .outOfBounds else .ok ()

/-- Checks that a range is one page of the flash. -/
def checkPage (addr len : Nat) : Except DriverError Unit :=
  if addr % pageSize ≠ 0 ∨ len ≠ pageSize then .error .notAligned else checkBounds addr len

/-- Whether `len` bytes from `addr` on are erased. -/
def isErased (f : RamFlash) (addr len : Nat) : Bool :=
  (List.range len).all fun i => f.cells[addr + i]? == some 0xFF

/-- Erases one page. -/
def erase (addr len : Nat) : Call RamFlash DriverError Unit := do
  record .erase (.erase addr len)
  Call.ofExcept (checkPage addr len)
  Call.modify fun f => { f with cells := Bytes.patch f.cells addr (Bytes.filled len 0xFF) }

/-- Programs one erased page. -/
def write {n : Nat} (addr : Nat) (data : Vector UInt8 n) : Call RamFlash DriverError Unit := do
  record .program (.write addr n)
  Call.ofExcept (checkPage addr n)
  if (← Call.get).isErased addr n then
    Call.modify fun f => { f with cells := Bytes.patch f.cells addr data }
  else Call.trap

/-- Reads into the buffer beside the flash. -/
def read {n : Nat} (addr : Nat) : Call (RamFlash × Vector UInt8 n) DriverError Unit := do
  (record .read (.read addr n)).onFst
  Call.ofExcept (checkBounds addr n)
  Call.modify fun (f, buffer) => (f, buffer.mapIdx fun i b => f.cells[addr + i]?.getD b)

instance : FlashDriver RamFlash where
  init := record .init .init
  erase := erase
  read := read
  write := write

end RamFlash

end FlashDisk
