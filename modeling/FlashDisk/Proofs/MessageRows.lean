import FlashDisk.Proofs.BuildRuns
import FlashDisk.Proofs.TextLines

/-!
# Messages in a box

A line of a message that takes more than 64 bytes is cut behind its 61st byte. Characters take one
to four bytes, so the cut may fall amid one, and the message has no rows then.

* `takeBytes?_eq_some_iff`: a cut leaves the characters that take the bytes in front of it.
* `Splits`: a character lies across the cut. `takeBytes?_eq_none_iff`: there is no cut then, and
  only then; `splits_iff_not_isValid`: the cut is no position in the encoding of the line.
* `rows?_eq_none_iff`: which messages have no rows.
* `shown_unless_split`: which failures have a box. `wide_line_is_not_shown` is what a reader may say
  of a text that is no document, and it has none.
-/

namespace FlashDisk

namespace Boxed

variable {n : Nat} {cs head line : List Char} {text : String}

/-- A character lies across the first `n` bytes of a line: it begins among them and ends behind. -/
def Splits (n : Nat) (line : List Char) : Prop :=
  ∃ head c tail, line = head ++ c :: tail ∧ byteLength head < n ∧ n < byteLength head + c.utf8Size

/-! ## Bytes of a text -/

/-- The bytes are those of the encoding. -/
theorem utf8ByteSize_ofList (cs : List Char) : (String.ofList cs).utf8ByteSize = byteLength cs := by
  induction cs with
  | nil => rfl
  | cons c cs ih =>
    rw [String.ofList_cons, String.utf8ByteSize_append, ih, String.utf8ByteSize_singleton]
    rfl

theorem byteLength_eq_zero_iff : byteLength cs = 0 ↔ cs = [] := by
  cases cs with
  | nil => exact iff_of_true rfl rfl
  | cons c cs =>
    have hpos := c.utf8Size_pos
    simp only [byteLength, reduceCtorEq, iff_false]
    omega

/-! ## Cuts -/

theorem takeBytes?_zero :
    takeBytes? 0 cs = some head ↔ ∃ tail, cs = head ++ tail ∧ byteLength head = 0 := by
  rw [takeBytes?]
  constructor
  · intro h
    obtain rfl := Option.some.inj h
    exact ⟨cs, rfl, rfl⟩
  · rintro ⟨-, -, hlength⟩
    rw [byteLength_eq_zero_iff.mp hlength]

/-- **A cut leaves the characters that take the bytes in front of it.** -/
theorem takeBytes?_eq_some_iff :
    takeBytes? n cs = some head ↔ ∃ tail, cs = head ++ tail ∧ byteLength head = n := by
  induction cs generalizing n head with
  | nil =>
    cases n with
    | zero => exact takeBytes?_zero
    | succ n =>
      simp only [takeBytes?, reduceCtorEq, List.nil_eq_append_iff, false_iff]
      rintro ⟨tail, ⟨rfl, -⟩, hlength⟩
      cases hlength
  | cons c cs ih =>
    cases n with
    | zero => exact takeBytes?_zero
    | succ n =>
      have hpos := c.utf8Size_pos
      rw [takeBytes?]
      split
      next hfits =>
        simp only [Option.map_eq_map, Option.map_eq_some_iff, ih]
        constructor
        · rintro ⟨rest, ⟨tail, rfl, hlength⟩, rfl⟩
          exact ⟨tail, rfl, by simp only [byteLength]; omega⟩
        · rintro ⟨tail, hsplit, hlength⟩
          cases head with
          | nil => cases hlength
          | cons d rest =>
            obtain ⟨rfl, rfl⟩ := List.cons.inj hsplit
            exact ⟨rest, ⟨tail, rfl, by simp only [byteLength] at hlength; omega⟩, rfl⟩
      next hwide =>
        simp only [reduceCtorEq, false_iff]
        rintro ⟨tail, hsplit, hlength⟩
        cases head with
        | nil => cases hlength
        | cons d rest =>
          obtain ⟨rfl, -⟩ := List.cons.inj hsplit
          simp only [byteLength] at hlength
          omega

/-- A character ends at the cut or lies across it, so a line has just one of a cut and a character
that it splits. -/
theorem takeBytes?_eq_none_iff (h : n ≤ byteLength cs) : takeBytes? n cs = none ↔ Splits n cs := by
  induction cs generalizing n with
  | nil =>
    obtain rfl : n = 0 := Nat.le_zero.mp h
    simp [takeBytes?, Splits]
  | cons c cs ih =>
    cases n with
    | zero => simp [takeBytes?, Splits]
    | succ n =>
      have hpos := c.utf8Size_pos
      simp only [byteLength] at h
      rw [takeBytes?]
      split
      next hfits =>
        rw [Option.map_eq_map, Option.map_eq_none_iff, ih (by omega)]
        constructor
        · rintro ⟨head, d, tail, rfl, hlow, hhigh⟩
          exact ⟨c :: head, d, tail, rfl, by simp only [byteLength]; omega,
            by simp only [byteLength]; omega⟩
        · rintro ⟨head, d, tail, hsplit, hlow, hhigh⟩
          cases head with
          | nil =>
            obtain ⟨rfl, -⟩ := List.cons.inj hsplit
            simp only [byteLength] at hhigh
            omega
          | cons e head =>
            obtain ⟨rfl, rfl⟩ := List.cons.inj hsplit
            simp only [byteLength] at hlow hhigh
            exact ⟨head, d, tail, rfl, by omega, by omega⟩
      next hwide =>
        exact iff_of_true rfl
          ⟨[], c, cs, rfl, by simp [byteLength], by simp only [byteLength]; omega⟩

/-- A character is split exactly where the encoding has no position. -/
theorem splits_iff_not_isValid (h : n ≤ byteLength cs) :
    Splits n cs ↔ ¬String.Pos.Raw.IsValid (String.ofList cs) ⟨n⟩ := by
  rw [← takeBytes?_eq_none_iff h, String.Pos.Raw.isValid_ofList, Option.eq_none_iff_forall_ne_some]
  simp only [utf8ByteSize_ofList, ne_eq, takeBytes?_eq_some_iff]
  constructor
  · rintro hnone ⟨i, hi⟩
    exact hnone _ ⟨cs.drop i, (List.take_append_drop i cs).symm, hi.symm⟩
  · rintro hnone head ⟨tail, rfl, hlength⟩
    exact hnone ⟨head.length, by rw [List.take_left, hlength]⟩

/-! ## Rows -/

/-- The lines of a message that are cut amid a character. -/
def CutAmid (line : List Char) : Prop := 64 < byteLength line ∧ Splits 61 line

theorem messageRow?_eq_none_iff : messageRow? line = none ↔ CutAmid line := by
  unfold messageRow? shortened? CutAmid
  rw [Option.map_eq_map, Option.map_eq_none_iff]
  split
  next hlong =>
    rw [Option.map_eq_map, Option.map_eq_none_iff, takeBytes?_eq_none_iff (by omega)]
    exact (and_iff_right hlong).symm
  next hshort => simp [hshort]

/-- A list of which some member has no answer. -/
theorem mapM_eq_none_iff {α β : Type} {f : α → Option β} {xs : List α} :
    xs.mapM f = none ↔ ∃ x ∈ xs, f x = none := by
  induction xs with
  | nil => simp
  | cons x xs ih =>
    simp only [List.mapM_cons, List.mem_cons, exists_eq_or_imp, ← ih]
    cases f x <;> cases xs.mapM f <;> simp

/-- **A message has no rows exactly if a line of it is cut amid a character.** -/
theorem rows?_eq_none_iff : rows? text = none ↔ ∃ line ∈ textLines text, CutAmid line := by
  unfold rows?
  rw [Option.map_eq_map, Option.map_eq_none_iff, mapM_eq_none_iff]
  simp only [messageRow?_eq_none_iff]

/-! ## Messages without wide characters -/

theorem mem_of_mem_textLines {c : Char} (hline : line ∈ textLines text) (hc : c ∈ line) :
    c ∈ text.toList :=
  ((isLines_iff.mpr rfl).subset_and_not_mem hline).1 hc

/-- A character of one byte lies across no cut. -/
theorem not_splits_of_narrow (h : ∀ c ∈ line, c.utf8Size = 1) : ¬Splits n line := by
  rintro ⟨head, c, tail, rfl, hlow, hhigh⟩
  have hsize := h c (List.mem_append_right _ List.mem_cons_self)
  omega

end Boxed

open Generator in
/-- **What a reader says is shown unless a character is split.** The words of the reader have no
rows exactly if one of their lines takes more than 64 bytes and a character of it lies across the
cut behind the 61st, where the encoding of the line has no position. So words in characters of one
byte have rows. A text that is no document ends the run, and its box is shown exactly if the words
of the reader have rows; any other failure is shown whatever they are. -/
theorem shown_unless_split (reason : String) :
    (Boxed.rows? reason = none ↔ ∃ line ∈ Boxed.textLines reason, Boxed.CutAmid line) ∧
    (∀ line, Boxed.CutAmid line ↔ 64 < (String.ofList line).utf8ByteSize ∧
      ¬String.Pos.Raw.IsValid (String.ofList line) ⟨61⟩) ∧
    ((∀ c ∈ reason.toList, c.utf8Size = 1) → ∃ rows, Boxed.rows? reason = some rows) ∧
    (∀ parse directory bytes text out, String.fromUTF8? bytes = some text → parse text = none →
      (run parse directory (.content bytes) out).1 = .error .malformed) ∧
    (BuildFailure.malformed.shown? reason = none ↔ Boxed.rows? reason = none) ∧
    ∀ failure : BuildFailure, failure ≠ .malformed →
      failure.shown? reason = some failure.message := by
  refine ⟨Boxed.rows?_eq_none_iff, ?_, ?_, ?_, ?_, ?_⟩
  · intro line
    rw [Boxed.utf8ByteSize_ofList]
    refine and_congr_right fun hlong => Boxed.splits_iff_not_isValid ?_
    exact Nat.le_of_lt (Nat.lt_of_le_of_lt (by decide) hlong)
  · intro hnarrow
    refine Option.ne_none_iff_exists'.mp fun hnone => ?_
    obtain ⟨line, hline, -, hsplit⟩ := Boxed.rows?_eq_none_iff.mp hnone
    refine Boxed.not_splits_of_narrow (fun c hc => ?_) hsplit
    exact hnarrow c (Boxed.mem_of_mem_textLines hline hc)
  · intro parse directory bytes text out htext hconfig
    rw [run_of_malformed htext hconfig]
  · show (Boxed.rows? reason >>= _) = none ↔ _
    cases Boxed.rows? reason <;> simp
  · intro failure hne
    cases failure with
    | malformed => exact absurd rfl hne
    | _ => rfl

/-- A text without a sign between a key and its value. -/
theorem shown_unless_split_for_plain_words :
    let text := "size 2097152"
    let reason := "TOML parse error at line 1, column 6\nexpected an equals sign"
    (∀ c ∈ reason.toList, c.utf8Size = 1) ∧
      (Generator.run Toml.Value.ofText? "out" (.content text.toUTF8) []).1 = .error .malformed ∧
      ∃ box, BuildFailure.malformed.shown? reason = some box := by
  intro text reason
  obtain ⟨-, -, hplain, hends, hshown, -⟩ := shown_unless_split reason
  have hall : reason.toList.all (fun c => c.utf8Size == 1) = true := by decide +kernel
  have hnarrow : ∀ c ∈ reason.toList, c.utf8Size = 1 := fun c hc =>
    eq_of_beq (List.all_eq_true.mp hall c hc)
  obtain ⟨rows, hrows⟩ := hplain hnarrow
  refine ⟨hnarrow, hends _ _ _ text _ (dif_pos text.isValidUTF8) (by dsimp only [text]; cbv),
    Option.ne_none_iff_exists'.mp fun hnone => ?_⟩
  cases hrows.symm.trans (hshown.mp hnone)

/-- **What a reader says of a text need not be shown.** It quotes a line of the text, and a
character of that lies across the cut. -/
theorem wide_line_is_not_shown :
    let reason := "TOML parse error at line 1, column 7\n  |\n" ++
      "1 | notes éééééééééééééééééééééééééééééé\n  |       ^\n"
    Boxed.rows? reason = none ∧ BuildFailure.malformed.shown? reason = none := by
  decide +kernel

end FlashDisk
