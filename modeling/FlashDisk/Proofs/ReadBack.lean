import FlashDisk.MemoryMap
import FlashDisk.Toml.Number
import Mathlib.Data.List.Basic

/-!
# Reading numbers back

The files of a layout hold numbers among fixed words. Here is a reader for such lines, which knows
nothing of how they are written: it takes a line apart into words, compares them with a form, and
reads the words in the gaps of the form as numbers.

* `words`: the words of a line. `words_around`: a word between parts of the line is one of them.
* `gaps?`: the words in the gaps of a form.
* `reads_hexText`, `reads_toString`: a number that is written in base sixteen or ten is the number
  that is read.
* `readLines`: what is read in the lines of a text, line by line (`readLines_line`,
  `readLines_append`).
-/

namespace FlashDisk.Reading

variable {α : Type} {b d n : Nat} {c : Char} {cs u v w : List Char}

/-! ## Words -/

/-- What separates the words of a line. -/
def isSeparator (c : Char) : Bool := c.isWhitespace || [':', '=', ',', ';'].contains c

/-- The words of a line. -/
def words (line : List Char) : List (List Char) := (line.splitOnP isSeparator).filter (· ≠ [])

/-- The words in the gaps of a form, if all others are those of the form. -/
def gaps? : List (Option String) → List (List Char) → Option (List (List Char))
  | [], [] => some []
  | none :: form, word :: rest => (word :: ·) <$> gaps? form rest
  | some fixed :: form, word :: rest => if word = fixed.toList then gaps? form rest else none
  | _, _ => none

/-- A word stands between separators and holds none. -/
structure IsWord (w : List Char) : Prop where
  ne_nil : w ≠ []
  not_isSeparator : ∀ c ∈ w, isSeparator c = false

theorem IsWord.not_mem (h : IsWord w) (hc : isSeparator c = true) : c ∉ w := by
  intro hmem
  cases hc.symm.trans (h.not_isSeparator c hmem)

theorem words_nil : words [] = [] := rfl

theorem words_of_isWord (h : IsWord w) : words w = [w] := by
  unfold words
  rw [List.splitOnP_eq_singleton h.not_isSeparator]
  simp [h.ne_nil]

theorem words_separated (u v : List Char) (hc : isSeparator c = true) :
    words (u ++ c :: v) = words u ++ words v := by
  unfold words
  rw [List.splitOnP_append_cons u v hc, List.filter_append]

/-- A separator at the end of a part, if there is one, keeps the words apart. -/
theorem words_append_of_getLast? (h : u.getLast?.all isSeparator = true) (v : List Char) :
    words (u ++ v) = words u ++ words v := by
  cases hlast : u.getLast? with
  | none =>
    obtain rfl := List.getLast?_eq_none_iff.mp hlast
    rfl
  | some c =>
    have hc : isSeparator c = true := by rwa [hlast] at h
    obtain ⟨us, rfl⟩ := List.getLast?_eq_some_iff.mp hlast
    rw [words_separated us [] hc, words_nil, List.append_nil, List.append_assoc]
    exact words_separated us v hc

/-- A separator at the front of a part does so as well. -/
theorem words_append_of_head? (u : List Char) (h : v.head?.all isSeparator = true) :
    words (u ++ v) = words u ++ words v := by
  cases v with
  | nil => rw [words_nil, List.append_nil, List.append_nil]
  | cons c vs =>
    have hc : isSeparator c = true := h
    have hempty := words_separated [] vs hc
    rw [words_nil, List.nil_append, List.nil_append] at hempty
    rw [words_separated u vs hc, hempty]

/-- **A word between two parts is a word of the whole**, if separators stand next to it. -/
theorem words_around (hu : u.getLast?.all isSeparator = true) (hw : IsWord w)
    (hv : v.head?.all isSeparator = true) :
    words (u ++ (w ++ v)) = words u ++ w :: words v := by
  rw [words_append_of_getLast? hu, words_append_of_head? w hv, words_of_isWord hw]
  rfl

/-! ## Numbers -/

/-- The number with the given digits. -/
def digits? (base : Nat) (isDigit : Char → Bool) (ds : List Char) : Option Nat :=
  if ds ≠ [] ∧ ds.all isDigit then some (Toml.ofDigits base ds) else none

/-- The number that a word stands for in base sixteen. -/
def hex? : List Char → Option Nat
  | '0' :: 'x' :: ds => digits? 16 Toml.isHex ds
  | _ => none

/-- The number that a word stands for in base ten. -/
def decimal? (word : List Char) : Option Nat := digits? 10 Toml.isDecimal word

theorem digitValue_digitChar : ∀ d < 16, Toml.digitValue d.digitChar = d := by
  decide

theorem isHex_digitChar : ∀ d < 16, Toml.isHex d.digitChar = true := by
  decide

theorem isDecimal_digitChar : ∀ d < 10, Toml.isDecimal d.digitChar = true := by
  decide

theorem isSeparator_digitChar : ∀ d < 16, isSeparator d.digitChar = false := by
  decide

/-- The digits of a number are digits of its base. -/
theorem mem_toDigits (hb : 1 < b) (hc : c ∈ Nat.toDigits b n) : ∃ d < b, c = d.digitChar := by
  induction n using Nat.base_induction b hb with
  | single m hm =>
    rw [Nat.toDigits_of_lt_base hm] at hc
    exact ⟨m, hm, List.mem_singleton.mp hc⟩
  | digit m k hk hm ih =>
    rw [← Nat.toDigits_append_toDigits hb hm hk, Nat.toDigits_of_lt_base hk] at hc
    rcases List.mem_append.mp hc with hc | hc
    · exact ih hc
    · exact ⟨k, hk, List.mem_singleton.mp hc⟩

/-- **The digits of a number stand for the number.** -/
theorem ofDigits_toDigits (hb : 1 < b) (hb' : b ≤ 16) :
    Toml.ofDigits b (Nat.toDigits b n) = n := by
  induction n using Nat.base_induction b hb with
  | single m hm =>
    rw [Nat.toDigits_of_lt_base hm]
    simp [Toml.ofDigits, digitValue_digitChar m (by omega)]
  | digit m k hk hm ih =>
    rw [← Nat.toDigits_append_toDigits hb hm hk, Nat.toDigits_of_lt_base hk]
    unfold Toml.ofDigits at ih ⊢
    rw [List.foldl_append, ih]
    simp [digitValue_digitChar k (by omega), Nat.mul_comm]

theorem digits?_toDigits {isDigit : Char → Bool} (hb : 1 < b) (hb' : b ≤ 16)
    (hdigit : ∀ d < b, isDigit d.digitChar = true) :
    digits? b isDigit (Nat.toDigits b n) = some n := by
  have hall : (Nat.toDigits b n).all isDigit = true := by
    rw [List.all_eq_true]
    intro c hc
    obtain ⟨d, hd, rfl⟩ := mem_toDigits hb hc
    exact hdigit d hd
  unfold digits?
  rw [if_pos ⟨Nat.toDigits_ne_nil, hall⟩, ofDigits_toDigits hb hb']

theorem isWord_toDigits (hb : 1 < b) (hb' : b ≤ 16) : IsWord (Nat.toDigits b n) where
  ne_nil := Nat.toDigits_ne_nil
  not_isSeparator c hc := by
    obtain ⟨d, hd, rfl⟩ := mem_toDigits hb hc
    exact isSeparator_digitChar d (by omega)

/-- A text is one word, and it is read as a number. -/
structure Reads (read? : List Char → Option Nat) (text : String) (n : Nat) : Prop where
  isWord : IsWord text.toList
  read_eq : read? text.toList = some n

/-- **A number in base sixteen is read back.** -/
theorem reads_hexText {n : Int} (h₀ : 0 ≤ n) (h : n < Word.limit63) :
    Reads hex? (hexText n) n.toNat := by
  have htext : (hexText n).toList = '0' :: 'x' :: Nat.toDigits 16 n.toNat := by
    unfold hexText
    rw [Int.emod_eq_of_lt h₀ (by omega), String.toList_append]
    exact congrArg ("0x".toList ++ ·) String.toList_ofList
  have hdigits : IsWord (Nat.toDigits 16 n.toNat) := isWord_toDigits (by decide) (by decide)
  refine ⟨?_, ?_⟩ <;> rw [htext]
  · refine ⟨List.cons_ne_nil _ _, List.forall_mem_cons.mpr ⟨by decide, ?_⟩⟩
    exact List.forall_mem_cons.mpr ⟨by decide, hdigits.not_isSeparator⟩
  · exact digits?_toDigits (by decide) (by decide) isHex_digitChar

/-- **A number in base ten is read back.** -/
theorem reads_toString {n : Int} (h₀ : 0 ≤ n) : Reads decimal? (toString n) n.toNat := by
  have htext : (toString n).toList = Nat.toDigits 10 n.toNat := by
    rw [Int.toString_eq_repr, Int.repr_eq_if, if_pos h₀, Nat.toList_repr]
  refine ⟨?_, ?_⟩ <;> rw [htext]
  · exact isWord_toDigits (by decide) (by decide)
  · exact digits?_toDigits (by decide) (by decide) isDecimal_digitChar

/-! ## Lines -/

/-- What `read?` finds in the lines of a text. -/
def readLines (read? : List Char → Option α) (text : List Char) : List α :=
  (text.splitOn '\n').filterMap read?

variable {read? : List Char → Option α}

/-- A line is read, and then those behind it. -/
theorem readLines_line (hline : '\n' ∉ u) (v : List Char) :
    readLines read? (u ++ '\n' :: v) = (read? u).toList ++ readLines read? v := by
  unfold readLines
  rw [List.splitOn_append_cons_self_of_not_mem hline]
  cases h : read? u <;> simp [h]

/-- Whole lines are read, and then those behind them. -/
theorem readLines_append (h : read? [] = none) (hu : u.getLast? = some '\n') (v : List Char) :
    readLines read? (u ++ v) = readLines read? u ++ readLines read? v := by
  obtain ⟨us, rfl⟩ := List.getLast?_eq_some_iff.mp hu
  have hends := List.splitOn_append_cons_self (a := '\n') us []
  unfold readLines
  rw [List.append_assoc, List.singleton_append, List.splitOn_append_cons_self, hends,
    List.filterMap_append, List.filterMap_append]
  simp [h]

end FlashDisk.Reading
