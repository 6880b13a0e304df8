import FlashDisk.Proofs.AcceptedConfigs
import FlashDisk.Toml.Document
import Mathlib

/-!
# How a run of the generator ends

A run on a file that holds a document makes its two files, or shows what is wrong in a box, or stops
amid its arithmetic. The checks of a layout divide by no number that is not positive, and a check
that is skipped is skipped for that reason. But the room for the firmware is the difference of two
sizes of any sign, and the address behind the flash is a sum that no check bounds.

* `ConfigFile.Describes`: the document that a file holds, as a reader has it. `run_of_describes`,
  `run_of_no_document`: the run is on that document, or ends with what is wrong with the file.
* `LeavesWord`: a layout with a difference or sum that is no word. `names_document`: any layout is
  named by some document.
* `traps_iff_leavesWord`: these are the runs that stop, and nothing else in them can.
  `least_regionSize_stops` is a document that should have been refused in a box.
-/

namespace FlashDisk

open Call

/-- The file holds a document, as a reader has it. -/
def ConfigFile.Describes (file : ConfigFile) (parse : String → Option Toml.Value)
    (config : Toml.Value) : Prop :=
  ∃ bytes text, file = .content bytes ∧ String.fromUTF8? bytes = some text ∧
    parse text = some config

theorem ConfigFile.Describes.unique {file : ConfigFile} {parse : String → Option Toml.Value}
    {config config' : Toml.Value} (h : file.Describes parse config)
    (h' : file.Describes parse config') : config = config' := by
  obtain ⟨bytes, text, rfl, htext, hconfig⟩ := h
  obtain ⟨bytes', text', hfile, htext', hconfig'⟩ := h'
  obtain rfl := ConfigFile.content.inj hfile
  obtain rfl := Option.some.inj (htext.symm.trans htext')
  exact Option.some.inj (hconfig.symm.trans hconfig')

/-- A file with the text of a document. -/
theorem ConfigFile.describes_toUTF8 {text : String} {parse : String → Option Toml.Value}
    {config : Toml.Value} (h : parse text = some config) :
    (ConfigFile.content text.toUTF8).Describes parse config :=
  ⟨text.toUTF8, text, rfl, dif_pos text.isValidUTF8, h⟩

namespace Layout

/-- The room for the firmware is no word, or the layout is accepted and the address behind its flash
is none. -/
def LeavesWord (l : Layout) : Prop :=
  ¬l.RoomFits ∨ l.Consistent ∧ Word.limit63 ≤ MemoryMap.flashOrigin + l.flashSize.toInt

variable {config : Toml.Value} {l l' : Layout}

/-- A document names one layout at most. -/
theorem Names.unique (h : Names config l) (h' : Names config l') : l = l' :=
  Except.ok.inj ((lookup_of_names h).symm.trans (lookup_of_names h'))

/-- A document with the sizes of a layout and nothing else. -/
def document (l : Layout) : Toml.Value :=
  .table [("flash", .table [("size", .integer l.flashSize)]),
    ("storage", .table [("region_size", .integer l.regionSize),
      ("block_size", .integer l.blockSize), ("page_size", .integer l.pageSize)])]

theorem names_document (l : Layout) : Names l.document l where
  flashSize := ⟨_, _, rfl, rfl, rfl⟩
  regionSize := ⟨_, _, rfl, rfl, rfl⟩
  blockSize := ⟨_, _, rfl, rfl, rfl⟩
  pageSize := ⟨_, _, rfl, rfl, rfl⟩

/-- A layout whose room is no word has relations that fail. -/
theorem fails_of_not_roomFits (h : ¬l.RoomFits) :
    relations.filter (fun e => decide (l.Fails e)) ≠ [] := by
  intro hnil
  refine h (consistent_iff_not_fails.mpr fun e hfails => ?_).roomFits
  have hmem : e ∈ relations.filter fun e => decide (l.Fails e) :=
    List.mem_filter.mpr ⟨mem_relations e, decide_eq_true hfails⟩
  rw [hnil] at hmem
  cases hmem

end Layout

namespace MemoryMap

variable {l : Layout}

/-- The numbers of a map are words once the address behind the flash is one. -/
theorem ofLayout?_eq_none_iff (h : l.Consistent) :
    ofLayout? l = none ↔ Word.add64? flashOrigin l.flashSize.toInt = none := by
  have hflash := h.sizes
  have hadd : Word.add64? flashOrigin l.flashSize.toInt = none ↔
      ¬flashOrigin + l.flashSize.toInt < Word.limit63 := by
    unfold Word.add64? Word.signed64? flashOrigin
    simp only [ite_eq_right_iff, reduceCtorEq, imp_false]
    omega
  rw [ofLayout?_eq_of_consistent h, hadd]
  simp

end MemoryMap

namespace Generator

variable {parse : String → Option Toml.Value} {directory : String} {file : ConfigFile}
  {config : Toml.Value} {l : Layout} {out : List String}

/-! ## Runs on files -/

/-- A run on a file that holds a document is one on the document. -/
theorem run_of_describes (h : file.Describes parse config) :
    run parse directory file out =
      build directory config (out ++ ["cargo:rerun-if-changed=storage.toml"]) := by
  obtain ⟨bytes, text, rfl, htext, hconfig⟩ := h
  exact run_of_document htext hconfig

/-- A file with a text that is no document. -/
theorem run_of_malformed {bytes : ByteArray} {text : String}
    (htext : String.fromUTF8? bytes = some text) (hconfig : parse text = none) :
    run parse directory (.content bytes) out =
      (.error .malformed, out ++ ["cargo:rerun-if-changed=storage.toml"]) := by
  unfold run
  rw [readText_of_utf8 htext, pure_bind, readConfig_of_no_document hconfig]
  rfl

/-- A file that holds no document ends a run before any layout is looked at. -/
theorem run_of_no_document (h : ∀ config, ¬file.Describes parse config) :
    ∃ failure, (∀ errors, failure ≠ .invalid errors) ∧
      (run parse directory file out).1 = .error failure := by
  cases file with
  | missing => exact ⟨.notFound, nofun, rfl⟩
  | unreadable reason => exact ⟨.unreadable reason, nofun, rfl⟩
  | content bytes =>
    cases htext : String.fromUTF8? bytes with
    | none =>
      refine ⟨.unreadable "stream did not contain valid UTF-8", nofun, ?_⟩
      unfold run
      rw [readText_of_no_utf8 htext]
      rfl
    | some text =>
      cases hconfig : parse text with
      | none => exact ⟨.malformed, nofun, congrArg Prod.fst (run_of_malformed htext hconfig)⟩
      | some config => exact absurd ⟨bytes, text, rfl, htext, hconfig⟩ (h config)

/-! ## Runs that stop -/

theorem build_eq_trap_iff (h : Layout.Names config l) :
    (build directory config out).1 = .trap ↔ l.LeavesWord := by
  constructor
  · intro htrap
    by_cases hroom : l.RoomFits
    · by_cases hl : l.Consistent
      · rw [build_of_consistent h hl] at htrap
        split at htrap
        next => cases htrap
        next hstop => exact .inr ⟨hl, Int.not_lt.mp hstop⟩
      · obtain ⟨causes, -, -, herror⟩ := build_of_inconsistent h hroom hl
        cases herror.symm.trans htrap
    · exact .inl hroom
  · rintro (hroom | ⟨hl, hstop⟩)
    · exact build_of_room_overflow h hroom
    · exact (build_of_consistent h hl).trans (if_neg (Int.not_lt.mpr hstop))

/-- Any other document has its files made, or is told all that is wrong with it. -/
theorem build_cases (directory : String) (config : Toml.Value) (out : List String) :
    (∃ l, Layout.Names config l ∧ l.LeavesWord) ∨
      (∃ files, (build directory config out).1 = .ok files) ∨
      ∃ errors, errors ≠ [] ∧ (build directory config out).1 = .error (.invalid errors) := by
  rcases Layout.lookup_cases config with ⟨l, hl⟩ | ⟨errors, hne, -, hlookup⟩
  · by_cases hword : l.LeavesWord
    · exact .inl ⟨l, hl, hword⟩
    · obtain ⟨hroom, hstop⟩ := not_or.mp hword
      refine .inr ?_
      by_cases hconsistent : l.Consistent
      · have hbelow := Int.not_le.mp fun habove => hstop ⟨hconsistent, habove⟩
        exact .inl ⟨_, (build_of_consistent hl hconsistent).trans (if_pos hbelow)⟩
      · obtain ⟨causes, hne, -, herror⟩ := build_of_inconsistent hl (Decidable.of_not_not hroom)
          hconsistent
        exact .inr ⟨_, mt List.map_eq_nil_iff.mp hne, herror⟩
  · exact .inr (.inr ⟨errors, hne, build_of_no_layout hlookup⟩)

end Generator

open Generator in
/-- **A run stops amid its arithmetic exactly if its layout leaves the word**: two sizes whose
difference is no word, or a layout that is accepted and whose flash ends behind the last word. Any
other run on a document makes the two files, or shows a box with all that is wrong. No other step
can stop a run: the checks of the other relations have an answer, so has the count of the blocks,
and so have all numbers of the memory map once the address behind the flash is a word. A layout
whose room is no word has relations that fail, so a box was due to it. -/
theorem traps_iff_leavesWord (parse : String → Option Toml.Value) (directory : String)
    (file : ConfigFile) (out : List String) :
    let outcome := (run parse directory file out).1
    (outcome = .trap ↔
      ∃ config l, file.Describes parse config ∧ Layout.Names config l ∧ l.LeavesWord) ∧
    (∀ config, file.Describes parse config → outcome ≠ .trap → (∃ files, outcome = .ok files) ∨
      ∃ errors, errors ≠ [] ∧ outcome = .error (.invalid errors)) ∧
    (∀ (l : Layout) e, l.violates? e = none ↔ e = .firmwareRoom ∧ ¬l.RoomFits) ∧
    (∀ l : Layout, ¬l.RoomFits → Layout.relations.filter (fun e => decide (l.Fails e)) ≠ []) ∧
    ∀ l : Layout, l.Consistent →
      (∃ count, Word.div64? l.regionSize.toInt l.blockSize.toInt = some count) ∧
      (MemoryMap.ofLayout? l = none ↔
        Word.add64? MemoryMap.flashOrigin l.flashSize.toInt = none) := by
  intro outcome
  refine ⟨⟨?_, ?_⟩, ?_, fun l e => Layout.violates?_eq_none_iff,
    fun l => Layout.fails_of_not_roomFits,
    fun l hl => ⟨⟨_, Word.div64?_of_pos hl.blockSize_pos⟩, MemoryMap.ofLayout?_eq_none_iff hl⟩⟩
  · intro htrap
    by_cases hdocument : ∃ config, file.Describes parse config
    · obtain ⟨config, hconfig⟩ := hdocument
      have hbuild := (congrArg Prod.fst (run_of_describes hconfig)).symm.trans htrap
      rcases build_cases directory config _ with ⟨l, hl, hword⟩ | ⟨files, hok⟩ | ⟨errors, -, herror⟩
      · exact ⟨config, l, hconfig, hl, hword⟩
      · cases hok.symm.trans hbuild
      · cases herror.symm.trans hbuild
    · obtain ⟨failure, -, herror⟩ := run_of_no_document (not_exists.mp hdocument)
      cases herror.symm.trans htrap
  · rintro ⟨config, l, hconfig, hl, hword⟩
    show (run parse directory file out).1 = .trap
    rw [run_of_describes hconfig]
    exact (build_eq_trap_iff hl).mpr hword
  · intro config hconfig hne
    have hrun : outcome = (build directory config _).1 :=
      congrArg Prod.fst (run_of_describes hconfig)
    rcases build_cases directory config _ with
      ⟨l, hl, hword⟩ | ⟨files, hok⟩ | ⟨errors, herrors, herror⟩
    · exact absurd (hrun.trans ((build_eq_trap_iff hl).mpr hword)) hne
    · exact .inl ⟨files, hrun.trans hok⟩
    · exact .inr ⟨errors, herrors, hrun.trans herror⟩

/-- A flash that ends behind the last word, and a board whose blocks are no sectors. -/
theorem traps_iff_leavesWord_at_last_word :
    let vast := "[flash]\nsize = 9223372036854771712\n[storage]\n" ++
      "region_size = 417792\nblock_size = 512\npage_size = 4096\n"
    let odd := "[flash]\nsize = 2097152\n[storage]\n" ++
      "region_size = 417792\nblock_size = 100\npage_size = 4096\n"
    let outcome (text : String) :=
      (Generator.run Toml.Value.ofText? "out" (.content text.toUTF8) []).1
    outcome vast = .trap ∧ outcome odd ≠ .trap ∧
      ((∃ files, outcome odd = .ok files) ∨
        ∃ errors, errors ≠ [] ∧ outcome odd = .error (.invalid errors)) := by
  intro vast odd outcome
  let vastLayout : Layout := ⟨9223372036854771712, 417792, 512, 4096⟩
  let oddLayout : Layout := ⟨2097152, 417792, 100, 4096⟩
  have hvast : (ConfigFile.content vast.toUTF8).Describes Toml.Value.ofText? vastLayout.document :=
    ConfigFile.describes_toUTF8 (by dsimp only [vast, vastLayout, Layout.document]; cbv)
  have hodd : (ConfigFile.content odd.toUTF8).Describes Toml.Value.ofText? oddLayout.document :=
    ConfigFile.describes_toUTF8 (by dsimp only [odd, oddLayout, Layout.document]; cbv)
  have hne : outcome odd ≠ .trap := by
    show (Generator.run _ "out" (.content odd.toUTF8) []).1 ≠ _
    rw [Generator.run_of_describes hodd]
    decide +kernel
  obtain ⟨hstops, -⟩ := traps_iff_leavesWord Toml.Value.ofText? "out" (.content vast.toUTF8) []
  obtain ⟨-, hends, -⟩ := traps_iff_leavesWord Toml.Value.ofText? "out" (.content odd.toUTF8) []
  have hleaves : vastLayout.LeavesWord := .inr ⟨by decide +kernel, by decide⟩
  exact ⟨hstops.mpr ⟨_, _, hvast, vastLayout.names_document, hleaves⟩, hne, hends _ hodd hne⟩

/-- **A run stops on a document that is to be refused.** The size of the region is the least word;
it is no positive multiple of the page size, and that is all that is wrong. -/
theorem least_regionSize_stops :
    let text := "[flash]\nsize = 2097152\n[storage]\n" ++
      "region_size = -9223372036854775808\nblock_size = 512\npage_size = 4096\n"
    let l : Layout := ⟨2097152, -9223372036854775808, 512, 4096⟩
    (∃ config, (ConfigFile.content text.toUTF8).Describes Toml.Value.ofText? config ∧
        Layout.Names config l) ∧
      Layout.relations.filter (fun e => decide (l.Fails e)) = [.regionSize] ∧
      Generator.run Toml.Value.ofText? "out" (.content text.toUTF8) [] =
        (.trap, ["cargo:rerun-if-changed=storage.toml"]) := by
  intro text l
  have hfile : (ConfigFile.content text.toUTF8).Describes Toml.Value.ofText? l.document :=
    ConfigFile.describes_toUTF8 (by dsimp only [text, l, Layout.document]; cbv)
  refine ⟨⟨_, hfile, l.names_document⟩, by decide +kernel, ?_⟩
  rw [Generator.run_of_describes hfile]
  decide +kernel

end FlashDisk
