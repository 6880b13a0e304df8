import FlashDisk.Toml.Value

/-!
# The tree of tables under construction

Tables of a document may be written in pieces: by headers, by dotted keys, or both. What may still be
added to a table depends on how it came to be.

* `Origin`: a header defines a table once, and a longer header or a dotted key implies its parents.
* `Entries.alter`: a change to the table at a path, with missing tables made on the way.
* `Node.close`: the finished value.
-/

namespace FlashDisk.Toml

/-- How a table came to be. -/
inductive Origin where
  /-- A header of its own. -/
  | header
  /-- A longer header. -/
  | implied
  /-- A dotted key. -/
  | dotted
  deriving DecidableEq, Repr

/-- Whether a table was not written as such. -/
def Origin.isImplicit : Origin → Bool
  | .header => false
  | .implied | .dotted => true

/-- A node of the tree: a finished value, a table, or the rows of an array of tables. -/
inductive Node where
  | value (v : Value)
  | table (origin : Origin) (entries : List (String × Node))
  | rows (tables : List (List (String × Node)))

/-- The keys of a table with their nodes, in order. -/
abbrev Entries : Type := List (String × Node)

namespace Entries

variable {α : Type}

/-- Changes the node at a key in its place, or adds one behind the last. -/
def update? (key : String) (f : Option Node → Option (α × Node)) :
    Entries → Option (α × Entries)
  | [] => do
    let (a, node) ← f none
    return (a, [(key, node)])
  | (k, node) :: rest =>
    if k = key then do
      let (a, node) ← f (some node)
      return (a, (k, node) :: rest)
    else do
      let (a, rest) ← update? key f rest
      return (a, (k, node) :: rest)

/-- Adds a key that is not there yet. -/
def insert? (key : String) (node : Node) (entries : Entries) : Option Entries :=
  if (entries.lookup key).isSome then none else some (entries ++ [(key, node)])

/-- Changes the table at a path, where `made` is the origin of tables that are missing on the way. A
step into an array of tables leads into its last row. A dotted path leads through no table that has a
header of its own. -/
def alter? (made : Origin) (f : Origin → Entries → Option (α × Entries)) :
    List String → Origin → Entries → Option (α × Entries)
  | [], origin, entries => f origin entries
  | key :: path, _, entries =>
    entries.update? key fun node =>
      match node with
      | none => do
        let (a, entries) ← alter? made f path made []
        return (a, .table made entries)
      | some (.table origin entries) => do
        guard (made ≠ .dotted ∨ origin.isImplicit)
        let (a, entries) ← alter? made f path origin entries
        return (a, .table origin entries)
      | some (.rows tables) => do
        let last ← tables.getLast?
        let (a, last) ← alter? made f path .header last
        return (a, .rows (tables.dropLast ++ [last]))
      | some (.value _) => none

/-- Adds a node at a dotted key. All but its last part name a table made by dotted keys. -/
def insertDotted? (path : List String) (last : String) (node : Node) (entries : Entries) :
    Option Entries := do
  let add (origin : Origin) (entries : Entries) : Option (Unit × Entries) := do
    guard (path = [] ∨ origin = .dotted)
    return ((), ← entries.insert? last node)
  let ((), entries) ← entries.alter? .dotted add path .header
  return entries

end Entries

/-! ## Finished values -/

mutual

/-- The finished value of a node. -/
def Node.close : Node → Value
  | .value v => v
  | .table _ entries => .table (closeEntries entries)
  | .rows tables => .array (closeRows tables)

/-- The finished values of entries. -/
def closeEntries : List (String × Node) → List (String × Value)
  | [] => []
  | (key, node) :: rest => (key, node.close) :: closeEntries rest

/-- The finished values of the rows of an array of tables. -/
def closeRows : List (List (String × Node)) → List Value
  | [] => []
  | entries :: rest => .table (closeEntries entries) :: closeRows rest

end

/-- The finished value of the table with these entries. -/
def Entries.close (entries : Entries) : Value := .table (closeEntries entries)

/-! ## A document under construction -/

/-- The tables finished so far, and the one that is being filled. -/
structure Builder where
  root : Entries := []
  /-- The header of the table being filled; none before the first header. -/
  header : Option (List String × String) := none
  /-- The header adds a row to an array of tables. -/
  isRow : Bool := false
  current : Entries := []

namespace Builder

/-- Puts the table being filled into its place. -/
def settle? (b : Builder) : Option Entries :=
  match b.header with
  | none => some b.current
  | some (path, last) => do
    let put (_ : Origin) (entries : Entries) : Option (Unit × Entries) :=
      entries.update? last fun node =>
        if b.isRow then
          match node with
          | none => some ((), .rows [b.current])
          | some (.rows tables) => some ((), .rows (tables ++ [b.current]))
          | _ => none
        else
          match node with
          | none => some ((), .table .header b.current)
          | _ => none
    let ((), root) ← b.root.alter? .implied put path .header
    return root

/-- Starts the table of a header. A table implied before is taken up with its entries. -/
def startTable? (path : List String) (last : String) (b : Builder) : Option Builder := do
  let root ← b.settle?
  let take (_ : Origin) (entries : Entries) : Option (Entries × Entries) :=
    match entries.lookup last with
    | none => some ([], entries)
    | some (.table .implied inner) => some (inner, entries.filter (·.1 ≠ last))
    | some _ => none
  let (current, root) ← root.alter? .implied take path .header
  return { root, header := some (path, last), isRow := false, current }

/-- Starts a row of an array of tables. -/
def startRow? (path : List String) (last : String) (b : Builder) : Option Builder := do
  let root ← b.settle?
  let check (_ : Origin) (entries : Entries) : Option (Unit × Entries) :=
    entries.update? last fun node =>
      match node with
      | none => some ((), .rows [])
      | some (.rows tables) => some ((), .rows tables)
      | some _ => none
  let ((), root) ← root.alter? .implied check path .header
  return { root, header := some (path, last), isRow := true, current := [] }

/-- Adds a value to the table being filled. -/
def insert? (path : List String) (last : String) (v : Value) (b : Builder) : Option Builder := do
  return { b with current := ← b.current.insertDotted? path last (.value v) }

/-- The document. -/
def close? (b : Builder) : Option Value := Entries.close <$> b.settle?

end Builder

end FlashDisk.Toml
