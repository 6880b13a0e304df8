import FlashDisk.Generator
import FlashDisk.Proofs.LayoutChecks

/-!
# Which configurations are accepted

The generator looks four integers up in a document, checks the relations between them and makes a
memory map. A document that it refuses is answered with a box of all that is wrong with it, either
with the entries or, once these are integers, with the relations.

* `HasEntry`: the value at a key of a table of a document, whatever else the document holds.
* `Names`: a document whose entries are the sizes of a layout. `Listed`: the errors of one that
  names none, one for each size that is missing or no integer.
* `lookup_of_names`, `lookup_cases`: one of the two is what the lookup finds.
* `ConfigError.nodup_lines`: the lines of the box tell the errors apart.
* `readLayout_of_consistent` and the lemmas before it: the ways that a layout is read.
* `Generator.buildLines`: the lines that a run prints once a layout is accepted.
* `accepts_consistent_layouts`: what becomes of every document.
-/

namespace FlashDisk

open Call

/-! ## Entries of a document -/

/-- The value at a key of a table of the document. -/
def Toml.Value.HasEntry (config : Toml.Value) (table key : String) (v : Toml.Value) : Prop :=
  ∃ tables entries, config = .table tables ∧ tables.lookup table = some (.table entries) ∧
    entries.lookup key = some v

namespace Layout

variable {config : Toml.Value} {table key : String} {k : String × String} {e : ConfigError}
  {l : Layout}

/-- The tables and keys of the sizes, in the order in which they are looked up. -/
def sizeKeys : List (String × String) :=
  [("flash", "size"), ("storage", "region_size"), ("storage", "block_size"),
    ("storage", "page_size")]

/-- The document names a layout: each of the sizes is an integer in its place. -/
structure Names (config : Toml.Value) (l : Layout) : Prop where
  flashSize : config.HasEntry "flash" "size" (.integer l.flashSize)
  regionSize : config.HasEntry "storage" "region_size" (.integer l.regionSize)
  blockSize : config.HasEntry "storage" "block_size" (.integer l.blockSize)
  pageSize : config.HasEntry "storage" "page_size" (.integer l.pageSize)

/-- What is wrong with a size of the document: it is missing, be it for want of its table, or it is
no integer. -/
inductive Wrong (config : Toml.Value) : String × String → ConfigError → Prop where
  | missing {table key : String} (h : ∀ v, ¬config.HasEntry table key v) :
      Wrong config (table, key) (.missing table key)
  | notInteger {table key : String} {v : Toml.Value} (h : config.HasEntry table key v)
      (hv : ∀ n, v ≠ .integer n) : Wrong config (table, key) (.notInteger table key)

/-- One error for each of the sizes that is not an integer, in order, and no other. -/
inductive Listed (config : Toml.Value) : List (String × String) → List ConfigError → Prop where
  | nil : Listed config [] []
  | integer {k : String × String} {n : Int64} {ks : List (String × String)}
      {errors : List ConfigError} (h : config.HasEntry k.1 k.2 (.integer n))
      (rest : Listed config ks errors) : Listed config (k :: ks) errors
  | wrong {k : String × String} {e : ConfigError} {ks : List (String × String)}
      {errors : List ConfigError} (h : Wrong config k e) (rest : Listed config ks errors) :
      Listed config (k :: ks) (e :: errors)

theorem get?_eq_some_iff {v : Toml.Value} :
    (config.get? table >>= (·.get? key)) = some v ↔ config.HasEntry table key v := by
  constructor
  · intro h
    obtain ⟨found, hfound, hv⟩ := Option.bind_eq_some_iff.mp h
    unfold Toml.Value.get? at hfound hv
    split at hfound
    next tables =>
      split at hv
      next entries => exact ⟨tables, entries, rfl, hfound, hv⟩
      next => cases hv
    next => cases hfound
  · rintro ⟨tables, entries, rfl, htable, hv⟩
    simp [Toml.Value.get?, htable, hv]

/-- **A size is an integer of the document, or it is wrong in one way.** -/
theorem requireInteger_cases (config : Toml.Value) (table key : String) :
    (∃ n, config.HasEntry table key (.integer n) ∧ requireInteger config table key = .ok n) ∨
      ∃ e, Wrong config (table, key) e ∧ requireInteger config table key = .error e := by
  unfold requireInteger
  cases hfound : (config.get? table >>= (·.get? key)) with
  | none =>
    refine .inr ⟨_, .missing fun v hv => ?_, rfl⟩
    rw [get?_eq_some_iff.mpr hv] at hfound
    cases hfound
  | some v =>
    have hentry := get?_eq_some_iff.mp hfound
    cases v with
    | integer n => exact .inl ⟨n, hentry, rfl⟩
    | _ => exact .inr ⟨_, .notInteger hentry nofun, rfl⟩

theorem requireInteger_eq_ok_iff {n : Int64} :
    requireInteger config table key = .ok n ↔ config.HasEntry table key (.integer n) := by
  constructor
  · intro h
    rcases requireInteger_cases config table key with ⟨m, hm, hok⟩ | ⟨e, -, herror⟩
    · obtain rfl := Except.ok.inj (hok.symm.trans h)
      exact hm
    · cases herror.symm.trans h
  · intro h
    unfold requireInteger
    rw [get?_eq_some_iff.mpr h]

/-- The errors of any sizes that are looked up. -/
theorem listed_errors (config : Toml.Value) (ks : List (String × String)) :
    Listed config ks ((ks.map fun k => requireInteger config k.1 k.2).filterMap errorOf?) := by
  induction ks with
  | nil => exact .nil
  | cons k ks ih =>
    rcases requireInteger_cases config k.1 k.2 with ⟨n, hn, hok⟩ | ⟨e, he, herror⟩
    · rw [List.map_cons, hok]
      exact .integer hn ih
    · rw [List.map_cons, herror]
      exact .wrong he ih

/-- There are no errors exactly if each size is an integer. -/
theorem Listed.eq_nil_iff {ks : List (String × String)} {errors : List ConfigError}
    (h : Listed config ks errors) :
    errors = [] ↔ ∀ k ∈ ks, ∃ n, config.HasEntry k.1 k.2 (.integer n) := by
  induction h with
  | nil => simp
  | integer hn _ ih =>
    rw [ih, List.forall_mem_cons]
    exact ⟨fun hrest => ⟨⟨_, hn⟩, hrest⟩, And.right⟩
  | wrong he _ _ =>
    refine ⟨nofun, fun hall => ?_⟩
    obtain ⟨n, hn⟩ := hall _ List.mem_cons_self
    cases he with
    | missing hnone => exact absurd hn (hnone _)
    | notInteger hv hnot =>
      rw [← get?_eq_some_iff] at hn hv
      exact absurd (Option.some.inj (hv.symm.trans hn)) (hnot n)

theorem lookup_of_names (h : Names config l) : lookup config = .ok l := by
  unfold lookup
  rw [requireInteger_eq_ok_iff.mpr h.flashSize, requireInteger_eq_ok_iff.mpr h.regionSize,
    requireInteger_eq_ok_iff.mpr h.blockSize, requireInteger_eq_ok_iff.mpr h.pageSize]

/-- **A document names a layout, or the errors of its sizes are found.** -/
theorem lookup_cases (config : Toml.Value) :
    (∃ l, Names config l) ∨
      ∃ errors, errors ≠ [] ∧ Listed config sizeKeys errors ∧ lookup config = .error errors := by
  have hlisted := listed_errors config sizeKeys
  by_cases hnil : (sizeKeys.map fun k => requireInteger config k.1 k.2).filterMap errorOf? = []
  · have hall := hlisted.eq_nil_iff.mp hnil
    simp only [sizeKeys, List.forall_mem_cons] at hall
    obtain ⟨⟨flashSize, hf⟩, ⟨regionSize, hr⟩, ⟨blockSize, hb⟩, ⟨pageSize, hp⟩, -⟩ := hall
    exact .inl ⟨⟨flashSize, regionSize, blockSize, pageSize⟩, hf, hr, hb, hp⟩
  · refine .inr ⟨_, hnil, hlisted, ?_⟩
    unfold lookup
    split
    next hf hr hb hp =>
      refine absurd ?_ hnil
      simp [sizeKeys, hf, hr, hb, hp, errorOf?]
    next => rfl

end Layout

/-! ## The box -/

namespace ConfigError

/-- The line of an error in the box. -/
def line (e : ConfigError) : String := Boxed.row "║  • " 62 e.message.toList

/-- All that a document can be told to be wrong with. -/
def all : List ConfigError :=
  Layout.sizeKeys.flatMap (fun k => [.missing k.1 k.2, .notInteger k.1 k.2]) ++
    Layout.relations.map .layout

end ConfigError

/-! ## Reading and building -/

namespace Generator

variable {parse : String → Option Toml.Value} {directory : String} {config : Toml.Value} {l : Layout}
  {errors : List ConfigError} {causes : List LayoutError} {failure : BuildFailure}
  {out out' : List String}

theorem check_of_trap (h : l.violations? = none) : check l out = (.trap, out) := by
  unfold check
  rw [h]
  rfl

theorem check_of_violations (h : l.violations? = some causes) (hne : causes ≠ []) :
    check l out = (.error (.invalid (causes.map .layout)), out) := by
  unfold check
  rw [h, bind_apply, Call.ofOption, pure_apply]
  dsimp only
  rw [if_pos hne, fail_apply]

theorem check_of_consistent (h : l.Consistent) : check l out = (.ok (), out) := by
  unfold check
  rw [(Layout.violations?_eq_nil_iff l).mpr h]
  rfl

theorem readLayout_of_error (h : Layout.lookup config = .error errors) :
    readLayout config out = (.error (.invalid errors), out) := by
  unfold readLayout
  rw [h]
  rfl

theorem readLayout_of_check_error (h : Layout.lookup config = .ok l)
    (hcheck : check l out = (.error failure, out')) :
    readLayout config out = (.error failure, out') := by
  unfold readLayout
  rw [h]
  show (check l >>= _) out = _
  rw [bind_apply, hcheck]

theorem readLayout_of_check_trap (h : Layout.lookup config = .ok l)
    (hcheck : check l out = (.trap, out')) : readLayout config out = (.trap, out') := by
  unfold readLayout
  rw [h]
  show (check l >>= _) out = _
  rw [bind_apply, hcheck]

/-- The line that tells how many blocks a layout has. -/
def countLine (l : Layout) : String :=
  let count := l.regionSize.toInt.tdiv l.blockSize.toInt
  s!"cargo:warning=storage.toml validated: {count} blocks of {l.blockSize.toInt} bytes"

theorem readLayout_of_consistent (h : Layout.lookup config = .ok l) (hl : l.Consistent) :
    readLayout config out = (.ok l, out ++ [countLine l]) := by
  have hcount := Word.div64?_of_pos (n := l.regionSize) hl.blockSize_pos
  unfold readLayout
  rw [h]
  show (check l >>= _) out = _
  rw [bind_apply, check_of_consistent hl, hcount]
  rfl

/-- The lines that tell the linker where the memory map is. -/
def linkLines (directory : String) : List String :=
  [s!"cargo:rustc-link-search={directory}", "cargo:rustc-link-arg-bins=--nmagic",
    "cargo:rustc-link-arg-bins=-Tlink.x", "cargo:rustc-link-arg-bins=-Tlink-rp.x",
    "cargo:rustc-link-arg-bins=-Tdefmt.x"]

theorem emit_of_map {m : MemoryMap} (h : MemoryMap.ofLayout? l = some m) :
    emit directory l out = (.ok { memoryMap := m.text, constants := constantsText l },
      out ++ linkLines directory) := by
  unfold emit
  rw [h]
  show (_, _) = (_, _)
  simp only [linkLines, List.append_assoc, List.cons_append, List.nil_append]

theorem emit_of_no_map (h : MemoryMap.ofLayout? l = none) :
    emit directory l out = (.trap, out) := by
  unfold emit
  rw [h]
  rfl

theorem build_of_error (h : readLayout config out = (.error failure, out')) :
    (build directory config out).1 = .error failure := by
  unfold build
  rw [bind_apply, h]

theorem build_of_trap (h : readLayout config out = (.trap, out')) :
    (build directory config out).1 = .trap := by
  unfold build
  rw [bind_apply, h]

/-- All that a run prints for a layout that is accepted, behind the line on the configuration. -/
def buildLines (directory : String) (l : Layout) : List String :=
  countLine l :: linkLines directory ++ ["cargo:rerun-if-changed=build.rs"]

/-- A consistent layout that has a map has its files made. -/
theorem build_of_map {m : MemoryMap} (h : Layout.lookup config = .ok l) (hl : l.Consistent)
    (hmap : MemoryMap.ofLayout? l = some m) :
    build directory config out = (.ok { memoryMap := m.text, constants := constantsText l },
      out ++ buildLines directory l) := by
  unfold build
  rw [bind_apply, readLayout_of_consistent h hl]
  show (emit directory l >>= _) _ = _
  rw [bind_apply, emit_of_map hmap]
  show (_, _) = (_, _)
  simp only [buildLines, List.append_assoc, List.cons_append, List.nil_append]

theorem build_of_no_map (h : Layout.lookup config = .ok l) (hl : l.Consistent)
    (hmap : MemoryMap.ofLayout? l = none) : (build directory config out).1 = .trap := by
  unfold build
  rw [bind_apply, readLayout_of_consistent h hl]
  show ((emit directory l >>= _) _).1 = _
  rw [bind_apply, emit_of_no_map hmap]

/-! ## What becomes of a document -/

theorem readText_of_utf8 {bytes : ByteArray} {text : String}
    (h : String.fromUTF8? bytes = some text) : readText (.content bytes) = pure text := by
  unfold readText
  dsimp only
  rw [h]

theorem readText_of_no_utf8 {bytes : ByteArray} (h : String.fromUTF8? bytes = none) :
    readText (.content bytes) =
      Call.fail (.unreadable "stream did not contain valid UTF-8") := by
  unfold readText
  dsimp only
  rw [h]

theorem readConfig_of_document {text : String} (h : parse text = some config) :
    readConfig parse text = pure config := by
  unfold readConfig
  rw [h]

theorem readConfig_of_no_document {text : String} (h : parse text = none) :
    readConfig parse text = Call.fail .malformed := by
  unfold readConfig
  rw [h]

/-- A file that describes a document is built as the document. -/
theorem run_of_document {bytes : ByteArray} {text : String}
    (htext : String.fromUTF8? bytes = some text) (hconfig : parse text = some config) :
    run parse directory (.content bytes) out =
      build directory config (out ++ ["cargo:rerun-if-changed=storage.toml"]) := by
  unfold run
  rw [readText_of_utf8 htext, pure_bind, readConfig_of_document hconfig, pure_bind]
  rfl

theorem build_of_no_layout (h : Layout.lookup config = .error errors) :
    (build directory config out).1 = .error (.invalid errors) :=
  build_of_error (readLayout_of_error h)

/-- The relations that fail are reported, and there are some. -/
theorem build_of_inconsistent (h : Layout.Names config l) (hroom : l.RoomFits)
    (hl : ¬l.Consistent) :
    ∃ causes, causes ≠ [] ∧ causes = Layout.relations.filter (fun e => decide (l.Fails e)) ∧
      (build directory config out).1 = .error (.invalid (causes.map .layout)) := by
  have hchecks := Layout.violations?_eq hroom
  have hne : Layout.relations.filter (fun e => decide (l.Fails e)) ≠ [] := by
    intro hnil
    rw [hnil] at hchecks
    exact hl ((Layout.violations?_eq_nil_iff l).mp hchecks)
  exact ⟨_, hne, rfl, build_of_error
    (readLayout_of_check_error (Layout.lookup_of_names h) (check_of_violations hchecks hne))⟩

theorem build_of_room_overflow (h : Layout.Names config l) (hroom : ¬l.RoomFits) :
    (build directory config out).1 = .trap :=
  build_of_trap (readLayout_of_check_trap (Layout.lookup_of_names h)
    (check_of_trap (Layout.violations?_eq_none hroom)))

/-- A consistent layout has its files made, if its flash ends at a word. -/
theorem build_of_consistent (h : Layout.Names config l) (hl : l.Consistent) :
    (build directory config out).1 =
      if MemoryMap.flashOrigin + l.flashSize.toInt < Word.limit63 then
        .ok { memoryMap := (MemoryMap.exact l).text, constants := constantsText l }
      else .trap := by
  have hlookup := Layout.lookup_of_names h
  have hmap := MemoryMap.ofLayout?_eq_of_consistent hl
  split
  next hstop =>
    rw [if_pos hstop] at hmap
    rw [build_of_map hlookup hl hmap]
  next hstop =>
    rw [if_neg hstop] at hmap
    exact build_of_no_map hlookup hl hmap

/-- No other layout has its files made. -/
theorem consistent_of_build {files : BuildFiles} (h : Layout.Names config l)
    (hfiles : (build directory config out).1 = .ok files) : l.Consistent := by
  by_cases hroom : l.RoomFits
  · refine Decidable.byContradiction fun hl => ?_
    obtain ⟨causes, -, -, herror⟩ := build_of_inconsistent h hroom hl
    cases hfiles.symm.trans herror
  · cases hfiles.symm.trans (build_of_room_overflow h hroom)

end Generator

end FlashDisk
