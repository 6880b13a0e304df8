import FlashDisk.Bytes
import FlashDisk.NorFlash

/-!
# A simulated flash chip with a fault schedule

A chip is a row of bytes at some origin, with an erase granularity, a list of scheduled faults and a
log. Each access is logged, then meets the faults of its phase, then the checks, then takes effect:
an erase sets bytes to `0xFF`, a program clears the bits that its data has clear, a read copies.

* `Fault.strike`: which scheduled fault strikes an access, and the schedule after it.
* `Chip.judge`: how many leading bytes of an access take effect, and what it reports.
* `byte?_erased`, `byte?_programmed`, `getElem_readOut`: the effects, seen as memory at addresses.
* A chip that logs `DriverCall`s is a `FlashDriver`, one that logs `NorCall`s is a `NorFlash`.
-/

namespace FlashDisk

/-- A scheduled fault: it lets `skip` accesses of its phase pass and strikes the next `times`. -/
structure Fault where
  phase : Phase
  skip : Nat
  times : Nat
  /-- The error reported; `none` reports success. -/
  cause : Option DriverError
  /-- How many leading bytes of the access still take effect. -/
  extent : Nat
  deriving DecidableEq, Repr

namespace Fault

/-- What an access struck by the fault reports. -/
def report (f : Fault) : Except DriverError Unit :=
  match f.cause with
  | some e => .error e
  | none => .ok ()

/-- The first due fault of a phase, and the schedule with skips and strikes counted. -/
def strike (phase : Phase) : List Fault → Option Fault × List Fault
  | [] => (none, [])
  | f :: rest =>
    if f.phase = phase ∧ 0 < f.times then
      if 0 < f.skip then
        let (hit, rest) := strike phase rest
        (hit, { f with skip := f.skip - 1 } :: rest)
      else (some f, { f with times := f.times - 1 } :: rest)
    else
      let (hit, rest) := strike phase rest
      (hit, f :: rest)

end Fault

/-- A simulated flash of `size` bytes that logs entries of type `α`. -/
structure Chip (size : Nat) (α : Type) where
  /-- The address of the first byte. -/
  origin : Nat
  eraseSize : Nat
  cells : Vector UInt8 size
  faults : List Fault := []
  log : Array α := #[]

namespace Chip

variable {size n : Nat} {α : Type}

/-- A chip with `content` at its start and erased bytes behind. -/
def ofContent (size origin eraseSize : Nat) (content : Array UInt8) : Chip size α where
  origin
  eraseSize
  cells := Vector.ofFn fun i => content[i.val]?.getD 0xFF

/-- The byte at an address. -/
def byte? (c : Chip size α) (addr : Nat) : Option UInt8 :=
  if c.origin ≤ addr then c.cells[addr - c.origin]? else none

/-- Whether `len` bytes from `addr` on lie on the chip. -/
def covers (c : Chip size α) (addr len : Nat) : Bool :=
  c.origin ≤ addr && addr + len ≤ c.origin + size

/-- Whether a range is made of whole erase units. -/
def isAligned (c : Chip size α) (addr len : Nat) : Bool :=
  addr % c.eraseSize == 0 && len % c.eraseSize == 0

/-- Adds an entry to the log. -/
def record (entry : α) (c : Chip size α) : Chip size α := { c with log := c.log.push entry }

/-- Adds a fault behind those scheduled. -/
def schedule (f : Fault) (c : Chip size α) : Chip size α := { c with faults := c.faults ++ [f] }

/-- Forgets all scheduled faults. -/
def clearFaults (c : Chip size α) : Chip size α := { c with faults := [] }

/-- Decides on an access: the number of leading bytes that take effect, and the report. A fault comes
before the checks of alignment and bounds, and takes no effect on a range that leaves the chip. -/
def judge (phase : Phase) (aligned : Bool) (addr len : Nat) (c : Chip size α) :
    (Nat × Except DriverError Unit) × Chip size α :=
  let (hit, faults) := Fault.strike phase c.faults
  let c := { c with faults }
  match hit with
  | some f => ((if c.covers addr len then min f.extent len else 0, f.report), c)
  | none =>
    if !aligned then ((0, .error .notAligned), c)
    else if c.covers addr len then ((len, .ok ()), c)
    else ((0, .error .outOfBounds), c)

/-! ## Effects -/

/-- The chip with `len` bytes from `addr` on erased. -/
def erased (c : Chip size α) (addr len : Nat) : Chip size α :=
  { c with cells := c.cells.mapIdx fun i b =>
      if addr ≤ c.origin + i ∧ c.origin + i < addr + len then 0xFF else b }

/-- The chip with the first `len` bytes of `data` programmed from `addr` on; bits are only cleared. -/
def programmed (c : Chip size α) (addr len : Nat) (data : Vector UInt8 n) : Chip size α :=
  { c with cells := c.cells.mapIdx fun i b =>
      if addr ≤ c.origin + i ∧ c.origin + i < addr + len
      then b &&& data[c.origin + i - addr]?.getD 0xFF else b }

/-- The buffer with its first `len` bytes read from `addr` on. -/
def readOut (c : Chip size α) (addr len : Nat) (buffer : Vector UInt8 n) : Vector UInt8 n :=
  buffer.mapIdx fun i b => if i < len then (c.byte? (addr + i)).getD b else b

/-- An erase sets the bytes of its range and no others. -/
theorem byte?_erased (c : Chip size α) (addr len a : Nat) :
    (c.erased addr len).byte? a =
      if addr ≤ a ∧ a < addr + len then (c.byte? a).map fun _ => 0xFF else c.byte? a := by
  by_cases h : c.origin ≤ a
  · have e : c.origin + (a - c.origin) = a := Nat.add_sub_cancel' h
    by_cases k : addr ≤ a ∧ a < addr + len <;> simp [byte?, erased, h, e, k]
  · simp [byte?, erased, h]

/-- A program clears bits in the bytes of its range and no others. -/
theorem byte?_programmed (c : Chip size α) (addr len : Nat) (data : Vector UInt8 n) (a : Nat) :
    (c.programmed addr len data).byte? a =
      if addr ≤ a ∧ a < addr + len then (c.byte? a).map (· &&& data[a - addr]?.getD 0xFF)
      else c.byte? a := by
  by_cases h : c.origin ≤ a
  · have e : c.origin + (a - c.origin) = a := Nat.add_sub_cancel' h
    by_cases k : addr ≤ a ∧ a < addr + len <;> simp [byte?, programmed, h, e, k]
  · simp [byte?, programmed, h]

/-- A chip has bytes exactly from its origin on. -/
theorem isSome_byte? (c : Chip size α) (a : Nat) :
    (c.byte? a).isSome ↔ c.origin ≤ a ∧ a < c.origin + size := by
  by_cases h : c.origin ≤ a
  · simp [byte?, h]
    omega
  · simp [byte?, h]

theorem getElem_readOut (c : Chip size α) (addr len : Nat) (buffer : Vector UInt8 n) (i : Nat)
    (h : i < n) :
    (c.readOut addr len buffer)[i] =
      if i < len then (c.byte? (addr + i)).getD buffer[i] else buffer[i] := by
  simp [readOut]

/-! ## Accesses -/

/-- Meets the faults of the initialisation. -/
def bringUp : Call (Chip size α) DriverError Unit := fun c =>
  let (hit, faults) := Fault.strike .init c.faults
  (.ofExcept ((hit.map Fault.report).getD (.ok ())), { c with faults })

/-- Erases a range of whole erase units. -/
def erase (addr len : Nat) : Call (Chip size α) DriverError Unit := fun c =>
  let ((extent, report), c) := c.judge .erase (c.isAligned addr len) addr len
  (.ofExcept report, c.erased addr extent)

/-- Reads a range into the buffer beside the chip. -/
def read (addr : Nat) : Call (Chip size α × Vector UInt8 n) DriverError Unit := fun (c, buffer) =>
  let ((extent, report), c) := c.judge .read true addr n
  (.ofExcept report, (c, c.readOut addr extent buffer))

/-- Programs a range. -/
def write (addr : Nat) (data : Vector UInt8 n) : Call (Chip size α) DriverError Unit := fun c =>
  let ((extent, report), c) := c.judge .program true addr n
  (.ofExcept report, c.programmed addr extent data)

/-- Logs an entry, then makes the access. -/
def logged {β : Type} (entry : α) (access : Call (Chip size α) DriverError β) :
    Call (Chip size α) DriverError β := fun c => access (c.record entry)

/-- Logs an entry, then reads. -/
def loggedRead (entry : α) (addr : Nat) : Call (Chip size α × Vector UInt8 n) DriverError Unit :=
  fun (c, buffer) => read addr (c.record entry, buffer)

/-! ## A chip as a driver -/

instance : FlashDriver (Chip size DriverCall) where
  init := logged .init bringUp
  erase addr len := logged (.erase addr len) (erase addr len)
  read {n} addr := loggedRead (.read addr n) addr
  write {n} addr data := logged (.write addr n) (write addr data)

end Chip

/-! ## A chip as a NOR flash -/

/-- An access of a NOR flash. -/
inductive NorCall where
  | erase (first stop : Nat)
  | read (addr len : Nat)
  | write (addr len : Nat)
  deriving DecidableEq, Repr

/-- One line of a log. -/
def NorCall.line : NorCall → String
  | .erase first stop => s!"nor-erase {first}..{stop}"
  | .read addr len => s!"nor-read {addr} {len}"
  | .write addr len => s!"nor-write {addr} {len}"

/-- The kind of NOR error that a cause has. -/
def NorError.ofDriverError : DriverError → NorError
  | .notAligned => .notAligned
  | .outOfBounds => .outOfBounds
  | .busy | .failed => .other

namespace Chip

variable {size : Nat}

/-- Erases from one address to another; a reversed range is out of bounds before any fault strikes. -/
def eraseUpTo (first stop : Nat) : Call (Chip size NorCall) DriverError Unit :=
  logged (.erase first stop)
    (if stop < first then Call.fail .outOfBounds else erase first (stop - first))

instance : NorFlash (Chip size NorCall) where
  capacity _ := size
  erase first stop := (eraseUpTo first stop).mapError NorError.ofDriverError
  read {n} addr := (loggedRead (.read addr n) addr).mapError NorError.ofDriverError
  write {n} addr data := (logged (.write addr n) (write addr data)).mapError NorError.ofDriverError

end Chip

end FlashDisk
