/-!
# Boxed messages

A message is shown in a box drawn with double lines. The rows of a message are one character wider
than the rows of the box's own text.

* `row`: one line of a box, padded to a width that is counted in characters.
* `textLines`: the lines of a text.
* `rows?`: a text as rows of a box. A line longer than 64 bytes is cut to its first 61 bytes and three
  dots, and there is no answer if that cuts a character.
-/

namespace FlashDisk.Boxed

/-- The text with blanks added up to a number of characters. -/
def padded (width : Nat) (cs : List Char) : List Char := cs.rightpad width ' '

/-- One row: the left edge, a lead, the text padded to a width, and the right edge. -/
def row (lead : String) (width : Nat) (text : List Char) : String :=
  lead ++ String.ofList (padded width text) ++ " ║"

/-- The number of bytes of a text. -/
def byteLength : List Char → Nat
  | [] => 0
  | c :: cs => c.utf8Size + byteLength cs

/-- The first characters of a text that are `n` bytes together. -/
def takeBytes? : Nat → List Char → Option (List Char)
  | 0, _ => some []
  | _ + 1, [] => none
  | n + 1, c :: cs =>
    if c.utf8Size ≤ n + 1 then (c :: ·) <$> takeBytes? (n + 1 - c.utf8Size) cs else none

/-- A line without the carriage return at its end. -/
def dropReturn (line : List Char) : List Char :=
  if line.getLast? = some '\r' then line.dropLast else line

/-- The lines of a text, `line` being the reverse of what is read of the first one. A line ends at a
line feed, with or without a carriage return before it; nothing behind the last line end is no line. -/
def linesFrom (line : List Char) : List Char → List (List Char)
  | [] => if line = [] then [] else [line.reverse]
  | c :: cs =>
    if c = '\n' then dropReturn line.reverse :: linesFrom [] cs else linesFrom (c :: line) cs

/-- The lines of a text. -/
def textLines (text : String) : List (List Char) := linesFrom [] text.toList

/-- A line that takes more than 64 bytes, cut to 61 bytes and three dots. -/
def shortened? (line : List Char) : Option (List Char) :=
  if 64 < byteLength line then (· ++ ['.', '.', '.']) <$> takeBytes? 61 line else some line

/-- The row of a line of a message. -/
def messageRow? (line : List Char) : Option String := row "║  " 64 <$> shortened? line

/-- The rows of a message. -/
def rows? (text : String) : Option String :=
  "\n".intercalate <$> (textLines text).mapM messageRow?

/-! ## Boxes -/

/-- The upper edge. -/
def top : String := "╔══════════════════════════════════════════════════════════════════╗"

/-- The line between a title and what follows. -/
def divider : String := "╠══════════════════════════════════════════════════════════════════╣"

/-- The lower edge. -/
def bottom : String := "╚══════════════════════════════════════════════════════════════════╝"

/-- A row of the box's own text. -/
def line (text : String) : String := row "║  " 63 text.toList

/-- A box with the given rows, on lines of its own. -/
def box (rows : List String) : String :=
  "\n".intercalate ([""] ++ [top] ++ rows ++ [bottom] ++ [""])

end FlashDisk.Boxed
