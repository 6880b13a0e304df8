import FlashDisk.Error
import FlashDisk.Word

/-!
# The storage region and its blocks

A region is a range of flash addresses cut into blocks. Its base and length are whole pages, so
erasing the page of any block stays inside it, and a page holds a whole number of blocks. Both
facts are part of the type.

* `Region.ofWords`: the region with four given sizes, or the first relation between them that fails.
* `Region.translate`: the address of a block that lies in the region as a whole.
* `Region.checkSpan`: whether consecutive blocks all lie in the region; it looks at the two ends.
-/

namespace FlashDisk

/-- A page-aligned range of flash addresses, with its block and page size. -/
structure Region where
  base : Nat
  length : Nat
  blockSize : Nat
  pageSize : Nat
  blockSize_pos : 0 < blockSize
  pageSize_pos : 0 < pageSize
  blockSize_dvd_pageSize : blockSize ∣ pageSize
  pageSize_dvd_base : pageSize ∣ base
  pageSize_dvd_length : pageSize ∣ length
  pageSize_lt : pageSize < Word.limit32
  stop_lt : base + length < Word.limit32
  deriving DecidableEq

namespace Region

/-- The region with these sizes, or the first relation that they fail. -/
def ofWords (base length blockSize pageSize : UInt32) : Except GeometryError Region :=
  if blockSize_pos : 0 < blockSize.toNat then
    if page : 0 < pageSize.toNat ∧ blockSize.toNat ∣ pageSize.toNat then
      if base_dvd : pageSize.toNat ∣ base.toNat then
        if length_dvd : pageSize.toNat ∣ length.toNat then
          if stop_lt : base.toNat + length.toNat < Word.limit32 then
            .ok {
              base := base.toNat
              length := length.toNat
              blockSize := blockSize.toNat
              pageSize := pageSize.toNat
              blockSize_pos
              pageSize_pos := page.1
              blockSize_dvd_pageSize := page.2
              pageSize_dvd_base := base_dvd
              pageSize_dvd_length := length_dvd
              pageSize_lt := pageSize.toNat_lt
              stop_lt }
          else .error .addressOverflow
        else .error .lengthNotPageMultiple
      else .error .baseNotPageAligned
    else .error .pageNotBlockMultiple
  else .error .zeroBlockSize

/-- One past the last address. -/
def stop (r : Region) : Nat := r.base + r.length

/-- Whether the region holds no blocks. -/
def isEmpty (r : Region) : Bool := r.length == 0

/-- The number of blocks. -/
def blockCount (r : Region) : Nat := r.length / r.blockSize

/-- The number of blocks in a page. -/
def blocksPerPage (r : Region) : Nat := r.pageSize / r.blockSize

/-- Whether an address lies in the region. -/
def contains (r : Region) (addr : Nat) : Bool := r.base ≤ addr && addr < r.stop

/-- The first address of the page that an address lies in. -/
def pageBase (r : Region) (addr : Nat) : Nat := addr - addr % r.pageSize

/-- How far into its page an address lies. -/
def pageOffset (r : Region) (addr : Nat) : Nat := addr % r.pageSize

/-- The end of the block at `addr`, if the block ends inside the region. -/
def blockEnd? (r : Region) (addr : Nat) : Option Nat :=
  (Word.add32? addr r.blockSize).filter (· ≤ r.stop)

/-- The address of a block, if every step to it stays within a word and the block ends in the region. -/
def translate? (r : Region) (block : Nat) : Option Nat := do
  let offset ← Word.mul32? block r.blockSize
  let addr ← Word.add32? r.base offset
  let _ ← r.blockEnd? addr
  return addr

/-- The address of a block that lies in the region as a whole. -/
def translate (r : Region) (block : Nat) : Except OutOfRange Nat :=
  match r.translate? block with
  | some addr => .ok addr
  | none => .error ⟨block, r.blockCount⟩

/-- Checks that the `count` blocks from `start` on lie in the region. A last index that is no
word is reported as the largest one. -/
def checkSpan (r : Region) (start count : Nat) : Except OutOfRange Unit :=
  if count = 0 then .ok ()
  else
    match Word.add32? start (count - 1) with
    | none => .error ⟨Word.limit32 - 1, r.blockCount⟩
    | some last => do
      let _ ← r.translate start
      let _ ← r.translate last
      return ()

end Region

/-- The content of one block of a region. -/
abbrev Block (r : Region) : Type := Vector UInt8 r.blockSize

end FlashDisk
