import FlashDisk.Toml.Number

/-!
# Strings and keys

A string is basic, with escapes, or literal, without; either may run over several lines between
threefold quotes.

* A line end inside a string is read as a line feed, and one right behind the opening quotes is
  dropped.
* Up to two quotes may stand right before the closing ones and belong to the text.
* A key is a row of dotted parts, each of them bare or a string of one line.
-/

namespace FlashDisk.Toml.Scan

/-- A character that a basic string may hold as it is. -/
def isBasicChar (c : Char) : Bool := isCommentChar c && c != '"' && c != '\\'

/-- A character that a literal string may hold. -/
def isLiteralChar (c : Char) : Bool := isCommentChar c && c != '\''

/-- A character given by `n` hexadecimal digits. -/
def codePoint (n : Nat) : Scan Char := do
  let ds ← (List.replicate n ()).mapM fun _ => satisfy isHex
  let code := ofDigits 16 ds
  guard code.isValidChar
  return Char.ofNat code

/-- An escaped character. -/
def escape : Scan Char := do
  char '\\'
  match ← satisfy fun _ => true with
  | 'b' => return '\x08'
  | 't' => return '\t'
  | 'n' => return '\n'
  | 'f' => return '\x0c'
  | 'r' => return '\r'
  | '"' => return '"'
  | '\\' => return '\\'
  | 'u' => codePoint 4
  | 'U' => codePoint 8
  | _ => failure

/-- A backslash at the end of a line, with all blanks and line ends behind it. -/
def continuation : Scan Unit := do
  char '\\'
  blanks
  newline
  let _ ← spanOf fun c => isBlank c || c == '\n'
  iterate (fun _ => do
    match ← peek? with
    | some '\r' => do
      newline
      let _ ← spanOf fun c => isBlank c || c == '\n'
      return .again ()
    | _ => return .done ()) ()

/-- Text between single marks, taken piece by piece until the mark stands next. -/
def quoted (mark : Char) (piece : Scan (List Char)) : Scan String := do
  char mark
  let text ← iterate (fun seen => do
    match ← peek? with
    | some c =>
      if c == mark then return .done seen.reverse else return .again ((← piece).reverse ++ seen)
    | none => failure) []
  char mark
  return String.ofList text

/-- Text between threefold quotes. A run of quotes closes it from the third one on, and at most two
more before that are part of the text. -/
def blockQuoted (mark : Char) (piece : Scan (List Char)) : Scan String := do
  let _ ← (List.replicate 3 ()).mapM fun _ => char mark
  let _ ← optional newline
  let text ← iterate (fun seen => do
    let run ← spanOf (· == mark)
    if 3 ≤ run.length then
      guard (run.length ≤ 5)
      return .done (run.drop 3 ++ seen).reverse
    else return .again ((← piece).reverse ++ (run ++ seen))) []
  return String.ofList text

/-- A string of one line between double quotes. -/
def basicString : Scan String := quoted '"' (runOf isBasicChar <|> List.singleton <$> escape)

/-- A string of one line between single quotes. -/
def literalString : Scan String := quoted '\'' (runOf isLiteralChar)

/-- A line end as text. -/
def lineFeed : Scan (List Char) := do newline; return ['\n']

/-- A string between threefold double quotes. -/
def basicBlock : Scan String :=
  blockQuoted '"' <|
    runOf isBasicChar <|> (do continuation; return []) <|> List.singleton <$> escape <|> lineFeed

/-- A string between threefold single quotes. -/
def literalBlock : Scan String :=
  blockQuoted '\'' (runOf isLiteralChar <|> lineFeed)

/-- A string of any kind. -/
def string : Scan String := basicBlock <|> basicString <|> literalBlock <|> literalString

/-! ## Keys -/

/-- A character of a bare key. -/
def isBareChar (c : Char) : Bool := c.isAlphanum || c == '-' || c == '_'

/-- A bare key. -/
def bareKey : Scan String := String.ofList <$> runOf isBareChar

/-- One part of a key, with blanks around it. -/
def keyPart : Scan String := do
  blanks
  let part ← basicString <|> literalString <|> bareKey
  blanks
  return part

/-- A key: the parts before the last one, and the last one. Eighty parts are too many. -/
def key : Scan (List String × String) := do
  let first ← keyPart
  let (path, last) ← iterate (fun (path, last) => do
    match ← peek? with
    | some '.' => do
      char '.'
      return .again (last :: path, ← keyPart)
    | _ => return .done (path.reverse, last)) ([], first)
  guard (path.length + 1 < 80)
  return (path, last)

end FlashDisk.Toml.Scan
