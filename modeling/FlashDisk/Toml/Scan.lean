/-!
# Scanning characters

A scanner takes characters from the front of the text, or fails and takes none. Scanners are
sequenced by `do`, and `p <|> q` tries `q` on the same text if `p` fails.

* `Scan.iterate`: repeats a scanner for as long as it asks for another turn and has taken something.
* `Scan.accepts?`: the result of a scanner that takes the whole text.
-/

namespace FlashDisk.Toml

/-- A scanner: the value read and the rest of the text, or a failure. -/
abbrev Scan : Type → Type := StateT (List Char) Option

/-- Whether a repeated scanner is to run again. -/
inductive Turn (β α : Type) where
  | again (state : β)
  | done (value : α)

namespace Scan

variable {α β : Type}

/-- The next character, which is left in place. -/
def peek? : Scan (Option Char) := fun s => some (s.head?, s)

/-- The next character, if it satisfies `p`. -/
def satisfy (p : Char → Bool) : Scan Char
  | c :: s => if p c then some (c, s) else none
  | [] => none

/-- One given character. -/
def char (c : Char) : Scan Unit := do let _ ← satisfy (· == c)

/-- Given characters. -/
def literal (t : String) : Scan Unit := t.toList.forM char

/-- The end of the text. -/
def eof : Scan Unit
  | [] => some ((), [])
  | _ :: _ => none

/-- As many characters as satisfy `p`. -/
def spanOf (p : Char → Bool) : Scan (List Char) := fun s => some (s.takeWhile p, s.dropWhile p)

/-- As many characters as satisfy `p`, but at least one. -/
def runOf (p : Char → Bool) : Scan (List Char) := do
  let first ← satisfy p
  return first :: (← spanOf p)

/-- A scanner that takes nothing where it would fail. -/
def optional (p : Scan α) : Scan (Option α) := (some <$> p) <|> pure none

/-- Repeats `step` from a state until it is done; a turn that takes nothing may not be repeated. -/
def iterate (step : β → Scan (Turn β α)) (b : β) : Scan α := fun s =>
  match step b s with
  | none => none
  | some (.done a, rest) => some (a, rest)
  | some (.again b, rest) => if rest.length < s.length then iterate step b rest else none
termination_by s => s.length

/-- The result of a scanner on a text that it takes as a whole. -/
def accepts? (p : Scan α) (s : List Char) : Option α :=
  match p s with
  | some (a, []) => some a
  | _ => none

/-! ## Blanks, line ends and comments -/

/-- A space or tab. -/
def isBlank (c : Char) : Bool := c == ' ' || c == '\t'

/-- A character beyond ASCII. -/
def isWide (c : Char) : Bool := 0x80 ≤ c.toNat

/-- A character that a comment may hold. -/
def isCommentChar (c : Char) : Bool := c == '\t' || (0x20 ≤ c.toNat && c.toNat ≤ 0x7E) || isWide c

/-- Spaces and tabs. -/
def blanks : Scan Unit := do let _ ← spanOf isBlank

/-- A line feed, with or without a carriage return before it. -/
def newline : Scan Unit := char '\n' <|> literal "\r\n"

/-- A comment up to the end of its line. -/
def comment : Scan Unit := do
  char '#'
  let _ ← spanOf isCommentChar

/-- What may stand behind an item on its line. -/
def lineEnd : Scan Unit := do
  blanks
  let _ ← optional comment
  newline <|> eof

/-- Blanks, line ends, and comments that end with their line. -/
def filler : Scan Unit :=
  iterate (fun _ => do
    blanks
    match ← peek? with
    | some '#' => do comment; newline; return .again ()
    | some '\n' | some '\r' => do newline; return .again ()
    | _ => return .done ()) ()

end Scan

end FlashDisk.Toml
