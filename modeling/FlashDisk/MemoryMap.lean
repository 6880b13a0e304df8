import FlashDisk.Layout

/-!
# The memory map of a layout

Flash appears at a fixed address. The second-stage loader comes first, the firmware behind it, and
the region of the block device at the end.

* `MemoryMap.ofLayout?`: the map, if all its numbers are signed 64-bit words.
* `MemoryMap.text`: the map as a linker script.
* `constantsText`: the block and page size as constants for the firmware.
-/

namespace FlashDisk

/-- The digits of a number in base sixteen behind their mark; a negative number is written as the
64-bit word that represents it. -/
def hexText (n : Int) : String :=
  "0x" ++ String.ofList (Nat.toDigits 16 (n % (2 * Word.limit63)).toNat)

/-- The start and length of the firmware and of the region of the block device. -/
structure MemoryMap where
  regionOrigin : Int
  firmwareLength : Int
  regionLength : Int
  deriving DecidableEq, Repr

namespace MemoryMap

/-- The address of the first byte of flash. -/
abbrev flashOrigin : Int := 0x10000000

/-- The size of the second-stage loader. -/
abbrev loaderSize : Int := 0x100

/-- The map of a layout, if every sum on the way is a signed 64-bit word. -/
def ofLayout? (l : Layout) : Option MemoryMap := do
  let stop ← Word.add64? flashOrigin l.flashSize.toInt
  let regionOrigin ← Word.sub64? stop l.regionSize.toInt
  let below ← Word.sub64? l.flashSize.toInt l.regionSize.toInt
  let firmwareLength ← Word.sub64? below loaderSize
  return { regionOrigin, firmwareLength, regionLength := l.regionSize.toInt }

/-- A line that places a part of the memory. -/
def placed (name origin length : String) : String :=
  s!"    {name} : ORIGIN = {origin}, LENGTH = {length}\n"

/-- The map as a linker script. -/
def text (m : MemoryMap) : String :=
  "MEMORY \x7b\n" ++
    placed "BOOT2   " (hexText flashOrigin) (hexText loaderSize) ++
    placed "FLASH   " (hexText (flashOrigin + loaderSize)) (hexText m.firmwareLength) ++
    placed "FLASH_FS" (hexText m.regionOrigin) (hexText m.regionLength) ++
    placed "RAM     " "0x20000000" "256K" ++
    "\x7d\n" ++
    "\n" ++
    "__flash_fs_start = ORIGIN(FLASH_FS);\n" ++
    "__flash_fs_end = ORIGIN(FLASH_FS) + LENGTH(FLASH_FS);\n"

end MemoryMap

/-- The block and page size as constants for the firmware. -/
def constantsText (l : Layout) : String :=
  "/// Block size presented to the filesystem\n" ++
    s!"pub const BLOCK_SIZE: usize = {l.blockSize.toInt};\n" ++
    "/// Flash erase/program unit\n" ++
    s!"pub const PAGE_SIZE: usize = {l.pageSize.toInt};\n"

end FlashDisk
