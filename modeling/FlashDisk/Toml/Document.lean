import FlashDisk.Toml.DateTime
import FlashDisk.Toml.Text
import FlashDisk.Toml.Tree

/-!
# Documents

A document is a row of lines, each of them empty, a comment, a header, or a key with its value.

* `Scan.value`: a value. Arrays and inline tables nest at most 79 deep.
* `Value.ofText?`: the table that a text describes, if the text is a document.
-/

namespace FlashDisk.Toml

namespace Scan

/-- An option as a scanner that takes nothing. -/
def ofOption {α : Type} (a : Option α) : Scan α := StateT.lift a

/-- Values between brackets, separated by commas; one more comma may follow the last. -/
def array (item : Scan Value) : Scan Value := do
  char '['
  let items ← iterate (fun seen => do
    filler
    match ← peek? with
    | some ']' => return .done seen.reverse
    | _ => do
      let v ← item
      filler
      match ← peek? with
      | some ',' => do char ','; return .again (v :: seen)
      | _ => return .done (v :: seen).reverse) []
  char ']'
  return .array items

/-- A key, an equals sign and a value. -/
def keyValue (item : Scan Value) : Scan ((List String × String) × Value) := do
  let k ← key
  char '='
  blanks
  return (k, ← item)

/-- Keys with values between braces, on one line and without a comma behind the last. -/
def inlineTable (item : Scan Value) : Scan Value := do
  char '{'
  blanks
  let entries ← optional (char '}')
  match entries with
  | some () => return .table []
  | none =>
    let entries ← iterate (fun entries => do
      let ((path, last), v) ← keyValue item
      let entries ← ofOption (Entries.insertDotted? path last (.value v) entries)
      blanks
      match ← peek? with
      | some ',' => do char ','; return .again entries
      | _ => return .done entries) ([] : Entries)
    char '}'
    return entries.close

/-- A value that is no array or table. -/
def scalar : Scan Value := do
  match ← peek? with
  | some '"' | some '\'' => return .string (← string)
  | some 't' => do literal "true"; return .boolean true
  | some 'f' => do literal "false"; return .boolean false
  | _ => Value.dateTime <$> dateTime <|> Value.float <$> float <|> Value.integer <$> integer

/-- A value with `depth` levels of arrays and inline tables. -/
def value : Nat → Scan Value
  | 0 => scalar
  | depth + 1 => do
    match ← peek? with
    | some '[' => array (value depth)
    | some '{' => inlineTable (value depth)
    | _ => scalar

/-- A header in brackets; doubled brackets add a row to an array of tables. -/
def header (b : Builder) : Scan Builder := do
  char '['
  match ← peek? with
  | some '[' => do
    char '['
    let (path, last) ← key
    literal "]]"
    ofOption (b.startRow? path last)
  | _ => do
    let (path, last) ← key
    char ']'
    ofOption (b.startTable? path last)

/-- The lines of a document. -/
def lines (b : Builder) : Scan Builder :=
  iterate (fun b => do
    match ← peek? with
    | none => return .done b
    | some '\n' | some '\r' => do newline; blanks; return .again b
    | some '#' => do lineEnd; blanks; return .again b
    | some '[' => do
      let b ← header b
      lineEnd
      blanks
      return .again b
    | some _ => do
      let ((path, last), v) ← keyValue (value 79)
      let b ← ofOption (b.insert? path last v)
      lineEnd
      blanks
      return .again b) b

/-- A document, behind an optional byte order mark. -/
def document : Scan Value := do
  let _ ← optional (char '\uFEFF')
  blanks
  let b ← lines {}
  ofOption b.close?

end Scan

/-- The table that a document describes. -/
def Value.ofText? (s : String) : Option Value := Scan.document.accepts? s.toList >>= Value.resolve?

end FlashDisk.Toml
