import FlashDisk.Proofs.MessageRows
import Mathlib.Data.List.Forall2

/-!
# The shape of a message's rows

Each line of a message has a row, and all rows are equally wide: a field of 64 characters stands
between edges. A line is cut by its bytes and padded by its characters. A character takes a byte at
least, so what is shown of a line fits the field.

* `Shows`: what is shown of a line; `IsRow`: its row, `length_of_isRow` characters wide.
* `rows?_eq_some_iff`: the rows of a message are those of its lines and nothing else.
* `rows_show_each_line`: a message that has rows has one for each line, in order, and they are what
  one reads in the answer line by line.
-/

namespace FlashDisk.Boxed

variable {line row shown : List Char} {lines rows : List (List Char)} {text out : String}

/-! ## What is shown of a line -/

/-- What is shown of a line: all of a line that takes 64 bytes at most, and the first 61 bytes and
three dots of any other. -/
inductive Shows : List Char → List Char → Prop where
  | whole {line : List Char} : (String.ofList line).utf8ByteSize ≤ 64 → Shows line line
  | cut {head tail : List Char} : 64 < (String.ofList (head ++ tail)).utf8ByteSize →
      (String.ofList head).utf8ByteSize = 61 → Shows (head ++ tail) (head ++ ['.', '.', '.'])

theorem shortened?_eq_some_iff : shortened? line = some shown ↔ Shows line shown := by
  unfold shortened?
  rw [← utf8ByteSize_ofList]
  constructor
  · intro h
    split at h
    next hlong =>
      obtain ⟨head, hhead, rfl⟩ := Option.map_eq_some_iff.mp h
      obtain ⟨tail, rfl, hbytes⟩ := takeBytes?_eq_some_iff.mp hhead
      exact .cut hlong ((utf8ByteSize_ofList head).trans hbytes)
    next hshort =>
      obtain rfl := Option.some.inj h
      exact .whole (Nat.le_of_not_lt hshort)
  · intro h
    cases h with
    | whole hshort => exact if_neg (Nat.not_lt.mpr hshort)
    | @cut head tail hlong hbytes =>
      rw [utf8ByteSize_ofList] at hbytes
      rw [if_pos hlong, takeBytes?_eq_some_iff.mpr ⟨tail, rfl, hbytes⟩]
      rfl

/-- A character takes a byte at least. -/
theorem length_le_utf8ByteSize (cs : List Char) : cs.length ≤ (String.ofList cs).utf8ByteSize := by
  rw [utf8ByteSize_ofList]
  induction cs with
  | nil => exact Nat.le_refl 0
  | cons c cs ih =>
    have hpos := c.utf8Size_pos
    simp only [List.length_cons, byteLength]
    omega

/-- **What is shown of a line fits the field**, as it has at most 64 bytes. -/
theorem Shows.length_le (h : Shows line shown) : shown.length ≤ 64 := by
  cases h with
  | whole hshort => exact Nat.le_trans (length_le_utf8ByteSize line) hshort
  | @cut head tail hlong hbytes =>
    have hhead := length_le_utf8ByteSize head
    simp only [List.length_append, List.length_cons, List.length_nil]
    omega

theorem Shows.not_mem (h : Shows line shown) (hline : '\n' ∉ line) : '\n' ∉ shown := by
  cases h with
  | whole => exact hline
  | @cut head tail =>
    have hhead : '\n' ∉ head := fun hmem => hline (List.mem_append_left tail hmem)
    simp [hhead]

/-! ## The row of a line -/

/-- The row of a line. The field between its edges has 64 characters: what is shown of the line, and
blanks behind it. -/
def IsRow (line row : List Char) : Prop :=
  ∃ field, row = ['║', ' ', ' '] ++ field ++ [' ', '║'] ∧ field.length = 64 ∧
    ∃ shown blanks, Shows line shown ∧ field = shown ++ List.replicate blanks ' '

theorem toList_row : (Boxed.row "║  " 64 shown).toList =
    ['║', ' ', ' '] ++ padded 64 shown ++ [' ', '║'] := by
  unfold Boxed.row
  rw [String.toList_append, String.toList_append, @String.toList_ofList (padded 64 shown)]
  rfl

theorem messageRow?_eq_some_iff {row : String} :
    messageRow? line = some row ↔ IsRow line row.toList := by
  unfold messageRow? IsRow
  constructor
  · intro h
    obtain ⟨shown, hshown, rfl⟩ := Option.map_eq_some_iff.mp h
    have hshows := shortened?_eq_some_iff.mp hshown
    refine ⟨padded 64 shown, toList_row, ?_, shown, _, hshows, rfl⟩
    unfold padded
    rw [List.length_rightpad, Nat.max_eq_left hshows.length_le]
  · rintro ⟨field, hrow, hlength, shown, blanks, hshows, rfl⟩
    -- The width of the field leaves one number of blanks.
    have hfield : padded 64 shown = shown ++ List.replicate blanks ' ' := by
      rw [List.length_append, List.length_replicate] at hlength
      unfold padded List.rightpad
      rw [← hlength, Nat.add_sub_cancel_left]
    rw [shortened?_eq_some_iff.mpr hshows]
    refine congrArg some (String.toList_injective ?_)
    rw [toList_row, hfield, hrow]

/-- **A row is 69 characters wide**, whatever its line. -/
theorem length_of_isRow (h : IsRow line row) : row.length = 69 := by
  obtain ⟨field, rfl, hlength, -⟩ := h
  simp [hlength]

theorem not_mem_of_isRow (h : IsRow line row) (hline : '\n' ∉ line) : '\n' ∉ row := by
  obtain ⟨field, rfl, -, shown, blanks, hshows, rfl⟩ := h
  simp [hshows.not_mem hline]

theorem getLast?_of_isRow (h : IsRow line row) : row.getLast? = some '║' := by
  obtain ⟨field, rfl, -⟩ := h
  exact List.getLast?_append_of_ne_nil _ (List.cons_ne_nil _ _)

/-! ## The rows of a message -/

/-- A list whose members all have answers. -/
theorem mapM_eq_some_iff {α β : Type} {f : α → Option β} {xs : List α} {ys : List β} :
    xs.mapM f = some ys ↔ List.Forall₂ (fun x y => f x = some y) xs ys := by
  induction xs generalizing ys with
  | nil => cases ys <;> simp
  | cons x xs ih =>
    rw [List.mapM_cons]
    cases ys with
    | nil => cases f x <;> cases xs.mapM f <;> simp
    | cons y ys =>
      rw [List.forall₂_cons, ← ih]
      cases f x <;> cases xs.mapM f <;> simp

/-- **The rows of a message are those of its lines**, with line feeds between them. -/
theorem rows?_eq_some_iff : rows? text = some out ↔
    ∃ rows, List.Forall₂ IsRow (textLines text) rows ∧ out.toList = ['\n'].intercalate rows := by
  unfold rows?
  rw [Option.map_eq_map, Option.map_eq_some_iff]
  simp only [mapM_eq_some_iff, messageRow?_eq_some_iff]
  constructor
  · rintro ⟨rows, hrows, rfl⟩
    exact ⟨rows.map String.toList, List.forall₂_map_right_iff.mpr hrows,
      String.toList_intercalate⟩
  · rintro ⟨rows, hrows, hout⟩
    have hmap : (rows.map String.ofList).map String.toList = rows := by simp
    rw [← hmap, List.forall₂_map_right_iff] at hrows
    refine ⟨rows.map String.ofList, hrows, String.toList_injective ?_⟩
    rw [String.toList_intercalate, hmap, hout]
    rfl

/-- Each of the rows is the row of a line. -/
theorem exists_line_of_mem (h : List.Forall₂ IsRow lines rows) (hrow : row ∈ rows) :
    ∃ line ∈ lines, IsRow line row := by
  induction h with
  | nil => cases hrow
  | @cons line _ lines _ hisRow _ ih =>
    rcases List.mem_cons.mp hrow with rfl | hrow
    · exact ⟨line, List.mem_cons_self, hisRow⟩
    · obtain ⟨line, hline, hisRow⟩ := ih hrow
      exact ⟨line, List.mem_cons_of_mem _ hline, hisRow⟩

/-- What all rows of a message have in common. -/
theorem shape_of_mem (h : List.Forall₂ IsRow (textLines text) rows) (hrow : row ∈ rows) :
    row.length = 69 ∧ '\n' ∉ row ∧ row.getLast? = some '║' := by
  have htext : IsLines text.toList (textLines text) := isLines_iff.mpr rfl
  obtain ⟨line, hline, hisRow⟩ := exists_line_of_mem h hrow
  have hfeed := (htext.subset_and_not_mem hline).2
  exact ⟨length_of_isRow hisRow, not_mem_of_isRow hisRow hfeed, getLast?_of_isRow hisRow⟩

/-- The rows are what one reads in the answer line by line. -/
theorem textLines_of_rows (hrows : List.Forall₂ IsRow (textLines text) rows)
    (hout : out.toList = ['\n'].intercalate rows) : textLines out = rows := by
  rw [← isLines_iff, hout]
  refine isLines_intercalate fun row hrow => ?_
  obtain ⟨-, hfeed, hlast⟩ := shape_of_mem hrows hrow
  -- The right edge stands last, so a row is not empty and no carriage return is taken off it.
  refine ⟨?_, hfeed, ?_⟩
  · rintro rfl
    cases hlast
  · rw [hlast]
    decide

/-- **A message that has rows has one for each of its lines, in their order.** They stand in the
answer with line feeds between them, and an empty message has none. Each has 69 characters: the left
edge and two blanks, a field of 64 characters, a blank and the right edge. The field holds the line
if that takes 64 bytes at most, and otherwise its first 61 bytes and three dots, with blanks behind.
So no line, however long and whatever its characters, makes a row wider. The messages without rows
are those of `rows?_eq_none_iff`. -/
theorem rows_show_each_line (h : rows? text = some out) :
    (∀ lines, IsLines text.toList lines ↔ textLines text = lines) ∧
    (textLines text = [] ↔ text = "") ∧ (out = "" ↔ text = "") ∧
    out.toList = ['\n'].intercalate (textLines out) ∧
    (textLines out).length = (textLines text).length ∧
    List.Forall₂ IsRow (textLines text) (textLines out) ∧
    ∀ row ∈ textLines out, row.length = 69 ∧ '\n' ∉ row := by
  obtain ⟨rows, hrows, hout⟩ := rows?_eq_some_iff.mp h
  obtain rfl := textLines_of_rows hrows hout
  have hlength := hrows.length_eq
  refine ⟨fun _ => isLines_iff, textLines_eq_nil_iff, ?_, hout, hlength.symm, hrows, ?_⟩
  · rw [← textLines_eq_nil_iff, ← textLines_eq_nil_iff, ← List.length_eq_zero_iff, ← hlength,
      List.length_eq_zero_iff]
  · intro row hrow
    obtain ⟨hwidth, hfeed, -⟩ := shape_of_mem hrows hrow
    exact ⟨hwidth, hfeed⟩

/-- Four lines, of which one is cut and one is empty. -/
theorem rows_show_each_line_of_wide_line :
    let text := "TOML parse error at line 1, column 8\r\n  |\r\n" ++
      "1 | note = éééééééééééééééééééééééééééééé\r\n\n"
    let out := "║  TOML parse error at line 1, column 8                             ║\n" ++
      "║    |                                                              ║\n" ++
      "║  1 | note = ééééééééééééééééééééééééé...                          ║\n" ++
      "║                                                                   ║"
    rows? text = some out ∧ (textLines out).length = 4 ∧ ∀ row ∈ textLines out, row.length = 69 := by
  intro text out
  have hrows : rows? text = some out := by decide +kernel
  have hlines : (textLines text).length = 4 := by decide +kernel
  obtain ⟨-, -, -, -, hlength, -, hwidth⟩ := rows_show_each_line hrows
  exact ⟨hrows, hlength.trans hlines, fun row hrow => (hwidth row hrow).1⟩

end FlashDisk.Boxed
