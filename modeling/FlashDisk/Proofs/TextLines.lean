import FlashDisk.Boxed
import Mathlib.Logic.Basic

/-!
# The lines of a text

* `IsLines`: a text has these lines.
* `isLines_iff`: `textLines` finds the lines of a text, and a text has no others.
* `IsLines.subset_and_not_mem`: a line is a part of the text and holds no line feed.
* `isLines_intercalate`: lines with line feeds between them are the lines of the whole.
-/

namespace FlashDisk.Boxed

variable {begun cs line : List Char} {lines : List (List Char)} {text : String}

/-- A text has these lines. A line ends at a line feed, with or without a carriage return before it,
or at the end of the text. An empty rest behind the last line end is no line, and a carriage return
at the end of the text is part of one. -/
inductive IsLines : List Char → List (List Char) → Prop where
  | none : IsLines [] []
  | last {line : List Char} : line ≠ [] → '\n' ∉ line → IsLines line [line]
  | feed {line rest : List Char} {lines : List (List Char)} : '\n' ∉ line →
      line.getLast? ≠ some '\r' → IsLines rest lines → IsLines (line ++ '\n' :: rest) (line :: lines)
  | returnFeed {line rest : List Char} {lines : List (List Char)} : '\n' ∉ line →
      IsLines rest lines → IsLines (line ++ '\r' :: '\n' :: rest) (line :: lines)

/-! ## The lines that are found -/

/-- The line that is begun has no line end yet, so it goes on with what is read next. -/
theorem isLines_linesFrom (hbegun : '\n' ∉ begun) :
    IsLines (begun.reverse ++ cs) (linesFrom begun cs) := by
  induction cs generalizing begun with
  | nil =>
    unfold linesFrom
    split
    next hnil =>
      subst hnil
      exact .none
    next hline =>
      rw [List.append_nil]
      exact .last (mt List.reverse_eq_nil_iff.mp hline) (mt List.mem_reverse.mp hbegun)
  | cons c cs ih =>
    unfold linesFrom
    split
    next hfeed =>
      subst hfeed
      have hrest : IsLines cs (linesFrom [] cs) := ih List.not_mem_nil
      have hline : '\n' ∉ begun.reverse := mt List.mem_reverse.mp hbegun
      unfold dropReturn
      split
      next hreturn =>
        obtain ⟨line, hsplit⟩ := List.getLast?_eq_some_iff.mp hreturn
        rw [hsplit] at hline ⊢
        rw [List.dropLast_concat, List.append_assoc]
        exact .returnFeed (fun hmem => hline (List.mem_append_left _ hmem)) hrest
      next hreturn => exact .feed hline hreturn hrest
    next hfeed =>
      have hmore : '\n' ∉ c :: begun := List.not_mem_cons_of_ne_of_not_mem (Ne.symm hfeed) hbegun
      have hlines := ih hmore
      rwa [List.reverse_cons, List.append_assoc] at hlines

/-- What has no line feed is taken up by the line that is begun. -/
theorem linesFrom_append (h : '\n' ∉ line) :
    linesFrom begun (line ++ cs) = linesFrom (line.reverse ++ begun) cs := by
  induction line generalizing begun with
  | nil => rfl
  | cons c line ih =>
    obtain ⟨hc, hline⟩ := not_or.mp (mt List.mem_cons.mpr h)
    rw [List.cons_append, linesFrom, if_neg (Ne.symm hc), ih hline, List.reverse_cons,
      List.append_assoc, List.singleton_append]

theorem IsLines.linesFrom_eq (h : IsLines cs lines) : linesFrom [] cs = lines := by
  induction h with
  | none => rfl
  | @last line hne hline =>
    rw [← List.append_nil line, linesFrom_append hline]
    simp [linesFrom, hne]
  | feed hline hreturn _ ih =>
    rw [linesFrom_append hline]
    simp [linesFrom, dropReturn, hreturn, ih]
  | returnFeed hline _ ih =>
    rw [linesFrom_append hline]
    simp [linesFrom, dropReturn, ih]

/-- **A text has the lines that are found in it, and no others.** -/
theorem isLines_iff : IsLines text.toList lines ↔ textLines text = lines :=
  ⟨IsLines.linesFrom_eq, fun h => h ▸ isLines_linesFrom List.not_mem_nil⟩

/-! ## What lines hold -/

theorem IsLines.eq_nil (h : IsLines cs []) : cs = [] := by
  cases h
  rfl

/-- Only the empty text has no lines. -/
theorem textLines_eq_nil_iff : textLines text = [] ↔ text = "" := by
  rw [← isLines_iff, ← String.toList_eq_nil_iff]
  exact ⟨IsLines.eq_nil, fun h => h ▸ .none⟩

/-- A line is a part of the text and holds no line feed. -/
theorem IsLines.subset_and_not_mem (h : IsLines cs lines) (hline : line ∈ lines) :
    line ⊆ cs ∧ '\n' ∉ line := by
  induction h with
  | none => cases hline
  | last _ hlast =>
    obtain rfl := List.mem_singleton.mp hline
    exact ⟨List.Subset.refl _, hlast⟩
  | feed hhead _ _ ih =>
    rcases List.mem_cons.mp hline with rfl | hline
    · exact ⟨List.subset_append_left _ _, hhead⟩
    · obtain ⟨hrest, hfeed⟩ := ih hline
      exact ⟨List.subset_append_of_subset_right _ (List.subset_cons_of_subset _ hrest), hfeed⟩
  | @returnFeed _ rest _ hhead _ ih =>
    rcases List.mem_cons.mp hline with rfl | hline
    · exact ⟨List.subset_append_left _ _, hhead⟩
    · obtain ⟨hrest, hfeed⟩ := ih hline
      have hend : line ⊆ '\r' :: '\n' :: rest :=
        List.subset_cons_of_subset _ (List.subset_cons_of_subset _ hrest)
      exact ⟨List.subset_append_of_subset_right _ hend, hfeed⟩

/-! ## Lines put together -/

/-- Lines that are not empty and end in no carriage return are the lines of the whole, if line feeds
stand between them. -/
theorem isLines_intercalate
    (h : ∀ line ∈ lines, line ≠ [] ∧ '\n' ∉ line ∧ line.getLast? ≠ some '\r') :
    IsLines (['\n'].intercalate lines) lines := by
  induction lines with
  | nil => exact .none
  | cons line lines ih =>
    obtain ⟨⟨hne, hline, hreturn⟩, hlines⟩ := List.forall_mem_cons.mp h
    cases lines with
    | nil =>
      rw [List.intercalate_singleton]
      exact .last hne hline
    | cons next lines =>
      rw [List.intercalate_cons_cons, List.append_assoc]
      exact .feed hline hreturn (ih hlines)

end FlashDisk.Boxed
