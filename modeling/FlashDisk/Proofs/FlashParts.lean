import FlashDisk.Proofs.BuildRuns
import FlashDisk.Proofs.ReadBack

/-!
# The parts of the flash

The memory map places the loader, the firmware and the region of the block device in the flash.
What the linker goes by is the text of the map, so the parts are read back from it, and the sizes
from the file of constants.

* `Segment`, `segments`: the parts that a text places.
* `Adjoining`: parts one behind the other, none of them empty. They share no address
  (`Adjoining.pairwise`), and they cover the range as a whole (`Adjoining.holds_iff`).
* `segments_text`, `constants_text`, `blockCounts_buildLines`: what is read back from the texts.
* `memory_map_partitions_flash`: the parts of the flash, for every run that makes a map.
-/

namespace FlashDisk

open Reading

/-! ## Parts of a memory -/

/-- A part of a memory under a name. -/
structure Segment where
  name : String
  origin : Nat
  length : Nat
  deriving DecidableEq, Repr

namespace Segment

/-- One past the last address. -/
def stop (s : Segment) : Nat := s.origin + s.length

/-- An address of the part. -/
def Holds (s : Segment) (a : Nat) : Prop := s.origin ≤ a ∧ a < s.stop

end Segment

/-- Parts from one address up to another, each of them where the one before it ends, and none of
them empty. -/
inductive Adjoining : Nat → List Segment → Nat → Prop where
  | nil {start stop : Nat} (h : start = stop) : Adjoining start [] stop
  | cons {start stop : Nat} {s : Segment} {rest : List Segment} (h : s.origin = start)
      (pos : 0 < s.length) (tail : Adjoining s.stop rest stop) : Adjoining start (s :: rest) stop

namespace Adjoining

variable {start stop a : Nat} {parts : List Segment} {s : Segment}

theorem le (h : Adjoining start parts stop) : start ≤ stop := by
  induction h with
  | nil h => exact Nat.le_of_eq h
  | cons h pos tail ih =>
    unfold Segment.stop at ih
    omega

/-- The parts cover the range, and nothing else. -/
theorem holds_iff (h : Adjoining start parts stop) :
    (start ≤ a ∧ a < stop) ↔ ∃ s ∈ parts, s.Holds a := by
  induction h with
  | nil h =>
    subst h
    simp
  | cons h pos tail ih =>
    have hle := tail.le
    simp only [List.mem_cons, exists_eq_or_imp]
    rw [← ih]
    unfold Segment.Holds
    unfold Segment.stop at hle ⊢
    omega

/-- The parts share no address. -/
theorem pairwise (h : Adjoining start parts stop) :
    parts.Pairwise fun s t => ∀ a, s.Holds a → ¬t.Holds a := by
  induction h with
  | nil h => exact .nil
  | cons h pos tail ih =>
    refine .cons (fun t ht a hs ht' => ?_) ih
    have hbehind := tail.holds_iff.mpr ⟨t, ht, ht'⟩
    exact Nat.not_lt.mpr hbehind.1 hs.2

end Adjoining

/-! ## Reading the files -/

/-- The part that a line places by numbers in base sixteen. -/
def segment? (line : List Char) : Option Segment := do
  match ← gaps? [none, some "ORIGIN", none, some "LENGTH", none] (words line) with
  | [name, origin, length] =>
    return { name := String.ofList name, origin := ← hex? origin, length := ← hex? length }
  | _ => none

/-- The parts that a linker script places by numbers in base sixteen. -/
def segments (text : String) : List Segment := readLines segment? text.toList

/-- The constant that a line defines. -/
def constant? (line : List Char) : Option (String × Nat) := do
  match ← gaps? [some "pub", some "const", none, some "usize", none] (words line) with
  | [name, value] => return (String.ofList name, ← decimal? value)
  | _ => none

/-- The constants that a file defines. -/
def constants (text : String) : List (String × Nat) := readLines constant? text.toList

/-- How many blocks a printed line tells of, and how large they are. -/
def blockCount? (line : String) : Option (Nat × Nat) := do
  match ← gaps? [some "cargo", some "warning", some "storage.toml", some "validated", none,
      some "blocks", some "of", none, some "bytes"] (words line.toList) with
  | [count, size] => return (← decimal? count, ← decimal? size)
  | _ => none

/-! ## The memory map -/

namespace MemoryMap

variable {name origin length : String} {word : List Char} {o n : Nat} {m : MemoryMap}

/-- A line that places a part, up to its first number. -/
def placedHead (name : String) : List Char :=
  "    ".toList ++ (name.toList ++ " : ORIGIN = ".toList)

/-- The line from its first number on. -/
def placedTail (origin length : String) : List Char :=
  origin.toList ++ (", LENGTH = ".toList ++ (length.toList ++ []))

theorem toList_placed (name origin length : String) :
    (placed name origin length).toList = placedHead name ++ placedTail origin length ++ ['\n'] := by
  show ("    " ++ name ++ " : ORIGIN = " ++ origin ++ ", LENGTH = " ++ length ++ "\n").toList = _
  unfold placedHead placedTail
  repeat rw [String.toList_append]
  simp only [List.append_assoc, List.append_nil]
  rfl

section Placed

variable (hname : words (placedHead name) = [word, "ORIGIN".toList])
  (horigin : Reads hex? origin o) (hlength : Reads hex? length n)
include hname horigin hlength

/-- A line with two numbers places a part. -/
theorem segment?_placed :
    segment? (placedHead name ++ placedTail origin length) = some ⟨String.ofList word, o, n⟩ := by
  have hhead : (placedHead name).getLast?.all isSeparator = true := by
    unfold placedHead
    rw [List.getLast?_append_of_ne_nil _ (by simp), List.getLast?_append_of_ne_nil _ (by decide)]
    decide
  have hnext : (", LENGTH = ".toList ++ (length.toList ++ [])).head?.all isSeparator = true := by
    rw [List.head?_append_of_ne_nil _ (by decide)]
    decide
  have hmiddle : words (", LENGTH = ".toList ++ (length.toList ++ [])) =
      ["LENGTH".toList, length.toList] := by
    rw [words_around (by decide) hlength.isWord (by decide), words_nil]
    rfl
  have hwords : words (placedHead name ++ placedTail origin length) =
      [word, "ORIGIN".toList, origin.toList, "LENGTH".toList, length.toList] := by
    unfold placedTail
    rw [words_around hhead horigin.isWord hnext, hmiddle, hname]
    rfl
  unfold segment?
  rw [hwords]
  simp [gaps?, horigin.read_eq, hlength.read_eq]

theorem readLines_placed (hline : '\n' ∉ placedHead name) (rest : List Char) :
    readLines segment? ((placed name origin length).toList ++ rest) =
      ⟨String.ofList word, o, n⟩ :: readLines segment? rest := by
  have hbreak : isSeparator '\n' = true := by decide
  have htail : '\n' ∉ placedTail origin length := by
    unfold placedTail
    simp only [List.mem_append, horigin.isWord.not_mem hbreak, hlength.isWord.not_mem hbreak]
    decide
  rw [toList_placed, List.append_assoc, List.singleton_append,
    readLines_line (List.not_mem_append hline htail), segment?_placed hname horigin hlength]
  rfl

end Placed

theorem toList_text (m : MemoryMap) :
    m.text.toList = "MEMORY \x7b\n".toList ++
      ((placed "BOOT2   " (hexText flashOrigin) (hexText loaderSize)).toList ++
      ((placed "FLASH   " (hexText (flashOrigin + loaderSize)) (hexText m.firmwareLength)).toList ++
      ((placed "FLASH_FS" (hexText m.regionOrigin) (hexText m.regionLength)).toList ++
      ((placed "RAM     " "0x20000000" "256K").toList ++ ("\x7d\n".toList ++ ("\n".toList ++
      ("__flash_fs_start = ORIGIN(FLASH_FS);\n".toList ++
        "__flash_fs_end = ORIGIN(FLASH_FS) + LENGTH(FLASH_FS);\n".toList))))))) := by
  unfold text
  repeat rw [String.toList_append]
  simp only [List.append_assoc]

/-- **The parts of the flash are read back** from the text of a map. -/
theorem segments_text (hfirmware : 0 ≤ m.firmwareLength ∧ m.firmwareLength < Word.limit63)
    (horigin : 0 ≤ m.regionOrigin ∧ m.regionOrigin < Word.limit63)
    (hregion : 0 ≤ m.regionLength ∧ m.regionLength < Word.limit63) :
    segments m.text = [⟨"BOOT2", 0x10000000, 0x100⟩,
      ⟨"FLASH", 0x10000100, m.firmwareLength.toNat⟩,
      ⟨"FLASH_FS", m.regionOrigin.toNat, m.regionLength.toNat⟩] := by
  have hboot : words (placedHead "BOOT2   ") = ["BOOT2".toList, "ORIGIN".toList] := by decide
  have hflash : words (placedHead "FLASH   ") = ["FLASH".toList, "ORIGIN".toList] := by decide
  have hfs : words (placedHead "FLASH_FS") = ["FLASH_FS".toList, "ORIGIN".toList] := by decide
  have htitle : readLines segment? "MEMORY \x7b\n".toList = [] := by decide
  have hrest : readLines segment? ((placed "RAM     " "0x20000000" "256K").toList ++
      ("\x7d\n".toList ++ ("\n".toList ++ ("__flash_fs_start = ORIGIN(FLASH_FS);\n".toList ++
        "__flash_fs_end = ORIGIN(FLASH_FS) + LENGTH(FLASH_FS);\n".toList)))) = [] := by
    decide +kernel
  unfold segments
  rw [toList_text, readLines_append rfl (by decide), htitle,
    readLines_placed hboot (reads_hexText (by decide) (by decide))
      (reads_hexText (by decide) (by decide)) (by decide),
    readLines_placed hflash (reads_hexText (by decide) (by decide))
      (reads_hexText hfirmware.1 hfirmware.2) (by decide),
    readLines_placed hfs (reads_hexText horigin.1 horigin.2) (reads_hexText hregion.1 hregion.2)
      (by decide), hrest]
  simp only [String.ofList_toList]
  rfl

end MemoryMap

/-- The loader, the firmware and the region of the block device in the flash of a layout. -/
def Layout.flashParts (l : Layout) : List Segment :=
  [⟨"BOOT2", 0x10000000, 0x100⟩,
    ⟨"FLASH", 0x10000100, (l.flashSize.toInt - l.regionSize.toInt - 0x100).toNat⟩,
    ⟨"FLASH_FS", (0x10000000 + l.flashSize.toInt - l.regionSize.toInt).toNat,
      l.regionSize.toInt.toNat⟩]

namespace Layout.Consistent

variable {l : Layout} (h : l.Consistent)
  (hstop : MemoryMap.flashOrigin + l.flashSize.toInt < Word.limit63)
include h

theorem adjoining_flashParts :
    Adjoining 0x10000000 l.flashParts (0x10000000 + l.flashSize.toInt).toNat := by
  obtain ⟨hb, hbp, hpr, hroom⟩ := h.sizes
  refine .cons rfl (by decide) (.cons rfl ?_ (.cons ?_ ?_ (.nil ?_))) <;>
    dsimp only [Segment.stop] <;> omega

include hstop

theorem segments_flashParts : segments (MemoryMap.exact l).text = l.flashParts := by
  obtain ⟨hb, hbp, hpr, hroom⟩ := h.sizes
  have hword : 0x10000000 + l.flashSize.toInt < 0x8000000000000000 := hstop
  refine MemoryMap.segments_text ?_ ?_ ?_ <;>
    simp only [MemoryMap.exact, MemoryMap.flashOrigin, MemoryMap.loaderSize, Word.limit63] <;>
    omega

end Layout.Consistent

/-! ## The constants -/

section Constants

variable {head value : String} {word : List Char} {n : Nat} {l : Layout}

/-- A line with a number in base ten defines a constant. -/
theorem readLines_constant
    (hhead : words head.toList = ["pub".toList, "const".toList, word, "usize".toList])
    (hlast : head.toList.getLast?.all isSeparator = true) (hline : '\n' ∉ head.toList)
    (hvalue : Reads decimal? value n) (rest : List Char) :
    readLines constant? (head.toList ++ (value.toList ++ (";\n".toList ++ rest))) =
      (String.ofList word, n) :: readLines constant? rest := by
  have hwords : words (head.toList ++ (value.toList ++ [';'])) =
      ["pub".toList, "const".toList, word, "usize".toList, value.toList] := by
    rw [words_around hlast hvalue.isWord (by decide), hhead]
    rfl
  have hread : constant? (head.toList ++ (value.toList ++ [';'])) =
      some (String.ofList word, n) := by
    unfold constant?
    rw [hwords]
    simp [gaps?, hvalue.read_eq]
  have hbreak : '\n' ∉ value.toList := hvalue.isWord.not_mem (by decide)
  have hsplit : head.toList ++ (value.toList ++ (";\n".toList ++ rest)) =
      (head.toList ++ (value.toList ++ [';'])) ++ '\n' :: rest := by
    rw [List.append_assoc, List.append_assoc]
    rfl
  rw [hsplit, readLines_line (List.not_mem_append hline (List.not_mem_append hbreak (by decide))),
    hread]
  rfl

theorem toList_constantsText (l : Layout) :
    (constantsText l).toList = "/// Block size presented to the filesystem\n".toList ++
      ("pub const BLOCK_SIZE: usize = ".toList ++ ((toString l.blockSize.toInt).toList ++
      (";\n".toList ++ ("/// Flash erase/program unit\n".toList ++
      ("pub const PAGE_SIZE: usize = ".toList ++ ((toString l.pageSize.toInt).toList ++
      (";\n".toList ++ []))))))) := by
  show ("/// Block size presented to the filesystem\n" ++
    ("pub const BLOCK_SIZE: usize = " ++ toString l.blockSize.toInt ++ ";\n") ++
    "/// Flash erase/program unit\n" ++
    ("pub const PAGE_SIZE: usize = " ++ toString l.pageSize.toInt ++ ";\n")).toList = _
  repeat rw [String.toList_append]
  simp only [List.append_assoc, List.append_nil]

/-- **The block and page size are read back** from the file of constants. -/
theorem constants_text (hblock : 0 ≤ l.blockSize.toInt) (hpage : 0 ≤ l.pageSize.toInt) :
    constants (constantsText l) =
      [("BLOCK_SIZE", l.blockSize.toInt.toNat), ("PAGE_SIZE", l.pageSize.toInt.toNat)] := by
  have hblockHead : words "pub const BLOCK_SIZE: usize = ".toList =
      ["pub".toList, "const".toList, "BLOCK_SIZE".toList, "usize".toList] := by decide
  have hpageHead : words "pub const PAGE_SIZE: usize = ".toList =
      ["pub".toList, "const".toList, "PAGE_SIZE".toList, "usize".toList] := by decide
  have hfirst : readLines constant? "/// Block size presented to the filesystem\n".toList = [] := by
    decide +kernel
  have hsecond : readLines constant? "/// Flash erase/program unit\n".toList = [] := by
    decide +kernel
  unfold constants
  rw [toList_constantsText, readLines_append rfl (by decide), hfirst,
    readLines_constant hblockHead (by decide) (by decide) (reads_toString hblock),
    readLines_append rfl (by decide), hsecond,
    readLines_constant hpageHead (by decide) (by decide) (reads_toString hpage)]
  simp only [String.ofList_toList]
  rfl

end Constants

/-! ## The printed lines -/

/-- What the printed lines tell of blocks. -/
def blockCounts (printed : List String) : List (Nat × Nat) := printed.filterMap blockCount?

namespace Generator

variable {parse : String → Option Toml.Value} {directory : String} {l : Layout}

/-- A line with two numbers in base ten tells of blocks. -/
theorem blockCount?_line {count size : String} {m n : Nat} (hcount : Reads decimal? count m)
    (hsize : Reads decimal? size n) :
    blockCount? ("cargo:warning=storage.toml validated: " ++ count ++ " blocks of " ++ size ++
      " bytes") = some (m, n) := by
  have hline : ("cargo:warning=storage.toml validated: " ++ count ++ " blocks of " ++ size ++
      " bytes").toList = "cargo:warning=storage.toml validated: ".toList ++ (count.toList ++
        (" blocks of ".toList ++ (size.toList ++ " bytes".toList))) := by
    repeat rw [String.toList_append]
    simp only [List.append_assoc]
  have hfirst : words "cargo:warning=storage.toml validated: ".toList =
      ["cargo".toList, "warning".toList, "storage.toml".toList, "validated".toList] := by decide
  have hmiddle : words " blocks of ".toList = ["blocks".toList, "of".toList] := by decide
  have hlast : words " bytes".toList = ["bytes".toList] := by decide
  have hnext : (" blocks of ".toList ++ (size.toList ++ " bytes".toList)).head?.all
      isSeparator = true := by
    rw [List.head?_append_of_ne_nil _ (by decide)]
    decide
  unfold blockCount?
  rw [hline, words_around (by decide) hcount.isWord hnext,
    words_around (by decide) hsize.isWord (by decide), hfirst, hmiddle, hlast]
  simp [gaps?, hcount.read_eq, hsize.read_eq]

/-- No line for the linker is taken for a count, whatever the directory is called. -/
theorem blockCount?_linkLines {line : String} (h : line ∈ linkLines directory) :
    blockCount? line = none := by
  have hsearch : blockCount? s!"cargo:rustc-link-search={directory}" = none := by
    have hwords : words (s!"cargo:rustc-link-search={directory}").toList =
        ["cargo".toList, "rustc-link-search".toList] ++ words directory.toList := by
      show words ("cargo:rustc-link-search=" ++ directory).toList = _
      have hlast : "cargo:rustc-link-search=".toList.getLast?.all isSeparator = true := by decide
      rw [String.toList_append, words_append_of_getLast? hlast]
      rfl
    unfold blockCount?
    rw [hwords]
    rfl
  simp only [linkLines, List.mem_cons, List.not_mem_nil, or_false] at h
  rcases h with rfl | rfl | rfl | rfl | rfl
  · exact hsearch
  all_goals decide +kernel

/-- **The number of blocks is read back** from what a run prints. -/
theorem blockCounts_buildLines (hcount : 0 ≤ l.regionSize.toInt.tdiv l.blockSize.toInt)
    (hsize : 0 ≤ l.blockSize.toInt) :
    blockCounts ("cargo:rerun-if-changed=storage.toml" :: buildLines directory l) =
      [((l.regionSize.toInt.tdiv l.blockSize.toInt).toNat, l.blockSize.toInt.toNat)] := by
  have hlink : (linkLines directory).filterMap blockCount? = [] :=
    List.filterMap_eq_nil_iff.mpr fun line hline => blockCount?_linkLines hline
  have hfirst : blockCount? "cargo:rerun-if-changed=storage.toml" = none := by decide +kernel
  have hlast : blockCount? "cargo:rerun-if-changed=build.rs" = none := by decide +kernel
  have hcountLine : blockCount? (countLine l) = _ :=
    blockCount?_line (reads_toString hcount) (reads_toString hsize)
  unfold blockCounts buildLines
  rw [List.filterMap_cons_none hfirst, List.cons_append, List.filterMap_cons_some hcountLine,
    List.filterMap_append, hlink, List.filterMap_cons_none hlast]
  rfl

/-- A run that makes files has done so for a consistent layout whose flash ends at a word. -/
theorem files_of_run {file : ConfigFile} {files : BuildFiles} {out printed : List String}
    (h : run parse directory file out = (.ok files, printed)) :
    ∃ config l, file.Describes parse config ∧ Layout.Names config l ∧ l.Consistent ∧
      MemoryMap.flashOrigin + l.flashSize.toInt < Word.limit63 ∧
      files = { memoryMap := (MemoryMap.exact l).text, constants := constantsText l } ∧
      printed = out ++ "cargo:rerun-if-changed=storage.toml" :: buildLines directory l := by
  have hok : (run parse directory file out).1 = .ok files := congrArg Prod.fst h
  by_cases hdocument : ∃ config, file.Describes parse config
  · obtain ⟨config, hconfig⟩ := hdocument
    rw [run_of_describes hconfig] at h hok
    rcases Layout.lookup_cases config with ⟨l, hl⟩ | ⟨errors, -, -, hlookup⟩
    · have hconsistent := consistent_of_build hl hok
      have hstop : MemoryMap.flashOrigin + l.flashSize.toInt < Word.limit63 := by
        refine Decidable.byContradiction fun hstop => ?_
        cases hok.symm.trans ((build_of_consistent hl hconsistent).trans (if_neg hstop))
      have hmap := (MemoryMap.ofLayout?_eq_of_consistent hconsistent).trans (if_pos hstop)
      rw [build_of_map (Layout.lookup_of_names hl) hconsistent hmap] at h
      obtain ⟨hfiles, rfl⟩ := Prod.mk.inj h
      exact ⟨config, l, hconfig, hl, hconsistent, hstop, (Outcome.ok.inj hfiles).symm,
        List.append_assoc _ _ _⟩
    · cases hok.symm.trans (build_of_no_layout hlookup)
  · obtain ⟨failure, -, herror⟩ := run_of_no_document (not_exists.mp hdocument)
    cases hok.symm.trans herror

end Generator

open Generator in
/-- **The memory map is a partition of the flash.** What is read back from the map of any run that
makes its files are three parts, one behind the other from the first address of the flash to its
last: the loader, the firmware with the room that it needs at least, and the region with the size
that the configuration gives it. The constants are the other two sizes of that configuration, and
the blocks that the run tells of make up the region. -/
theorem memory_map_partitions_flash {parse : String → Option Toml.Value} {directory : String}
    {file : ConfigFile} {files : BuildFiles} {printed : List String}
    (h : run parse directory file [] = (.ok files, printed)) :
    ∃ config l, file.Describes parse config ∧ Layout.Names config l ∧
      (∃ loader firmware region,
        segments files.memoryMap = [loader, firmware, region] ∧
        loader.name = "BOOT2" ∧ firmware.name = "FLASH" ∧ region.name = "FLASH_FS" ∧
        ∃ stop : Nat, (stop : Int) = 0x10000000 + l.flashSize.toInt ∧
          Adjoining 0x10000000 [loader, firmware, region] stop ∧
          (∀ a, (0x10000000 ≤ a ∧ a < stop) ↔
            ∃ s ∈ [loader, firmware, region], s.Holds a) ∧
          [loader, firmware, region].Pairwise (fun s t => ∀ a, s.Holds a → ¬t.Holds a) ∧
          256 * 1024 - 0x100 ≤ firmware.length ∧ (region.length : Int) = l.regionSize.toInt ∧
          region.stop = stop) ∧
      (∃ blockSize pageSize : Nat,
        constants files.constants = [("BLOCK_SIZE", blockSize), ("PAGE_SIZE", pageSize)] ∧
        (blockSize : Int) = l.blockSize.toInt ∧ (pageSize : Int) = l.pageSize.toInt) ∧
      ∃ count size : Nat, blockCounts printed = [(count, size)] ∧
        (size : Int) = l.blockSize.toInt ∧
        (count : Int) * l.blockSize.toInt = l.regionSize.toInt := by
  obtain ⟨config, l, hconfig, hl, hconsistent, hstop, rfl, rfl⟩ := files_of_run h
  obtain ⟨hb, hbp, hpr, hroom⟩ := hconsistent.sizes
  have hparts := hconsistent.adjoining_flashParts
  have hdvd := Int.dvd_trans hconsistent.blockSize_dvd_pageSize hconsistent.pageSize_dvd_regionSize
  have hcount : 0 ≤ l.regionSize.toInt.tdiv l.blockSize.toInt :=
    Int.tdiv_nonneg (by omega) (by omega)
  refine ⟨config, l, hconfig, hl, ⟨_, _, _, hconsistent.segments_flashParts hstop, rfl, rfl, rfl, _,
    ?_, hparts, fun a => hparts.holds_iff, hparts.pairwise, ?_, ?_, ?_⟩,
    ⟨_, _, constants_text (by omega) (by omega), ?_, ?_⟩,
    ⟨_, _, blockCounts_buildLines hcount (by omega), ?_, ?_⟩⟩
  · omega
  · dsimp only
    omega
  · exact Int.toNat_of_nonneg (by omega)
  · unfold Segment.stop
    dsimp only
    omega
  · exact Int.toNat_of_nonneg (by omega)
  · exact Int.toNat_of_nonneg (by omega)
  · exact Int.toNat_of_nonneg (by omega)
  · rw [Int.toNat_of_nonneg hcount, Int.tdiv_mul_cancel hdvd]

/-- The board with two megabytes of flash. -/
theorem memory_map_partitions_flash_of_board :
    let text := "[flash]\nsize = 2097152\n[storage]\n" ++
      "region_size = 417792\nblock_size = 512\npage_size = 4096\n"
    ∃ files printed,
      Generator.run Toml.Value.ofText? "out" (.content text.toUTF8) [] = (.ok files, printed) ∧
      (∃ loader firmware region, segments files.memoryMap = [loader, firmware, region] ∧
        Adjoining 0x10000000 [loader, firmware, region] 0x10200000) ∧
      constants files.constants = [("BLOCK_SIZE", 512), ("PAGE_SIZE", 4096)] ∧
      blockCounts printed = [(816, 512)] := by
  intro text
  let board : Layout := ⟨2097152, 417792, 512, 4096⟩
  have hfile : (ConfigFile.content text.toUTF8).Describes Toml.Value.ofText? board.document :=
    ConfigFile.describes_toUTF8 (by dsimp only [text, board, Layout.document]; cbv)
  have hconsistent : board.Consistent := by decide +kernel
  have hmap : MemoryMap.ofLayout? board = some (MemoryMap.exact board) :=
    (MemoryMap.ofLayout?_eq_of_consistent hconsistent).trans (if_pos (by decide))
  have hrun :
      Generator.run Toml.Value.ofText? "out" (.content text.toUTF8) [] = (.ok _, _) :=
    (Generator.run_of_describes hfile).trans
      (Generator.build_of_map (Layout.lookup_of_names board.names_document) hconsistent hmap)
  obtain ⟨config, l, hconfig, hl,
    ⟨loader, firmware, region, hsegments, -, -, -, stop, hstop, hparts, -⟩,
    ⟨blockSize, pageSize, hconstants, hblock, hpage⟩, count, size, hcounts, hsize, hcount⟩ :=
    memory_map_partitions_flash hrun
  obtain rfl := hfile.unique hconfig
  obtain rfl := board.names_document.unique hl
  have hflash : board.flashSize.toInt = 2097152 := by decide
  have hregion : board.regionSize.toInt = 417792 := by decide
  have hsector : board.blockSize.toInt = 512 := by decide
  have hunit : board.pageSize.toInt = 4096 := by decide
  rw [hsector] at hblock hsize hcount
  obtain rfl : stop = 0x10200000 := by omega
  obtain rfl : blockSize = 512 := by omega
  obtain rfl : pageSize = 4096 := by omega
  obtain rfl : count = 816 := by omega
  obtain rfl : size = 512 := by omega
  exact ⟨_, _, hrun, ⟨loader, firmware, region, hsegments, hparts⟩, hconstants, hcounts⟩

end FlashDisk
