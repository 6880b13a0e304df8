import FlashDisk.Boxed
import FlashDisk.Call
import FlashDisk.MemoryMap

/-!
# Generating the build inputs of the firmware

The generator reads a flash layout from a configuration file, checks it, and produces a memory map
and a file of constants. On the way it prints directives for the build; a layout that is refused
ends the run with a message in a box. What document a text holds is for the reader to say that the
generator is given.

* `BuildFailure.shown?`: the box of a failure, around the words of the reader if there are any.
* `Generator.readLayout`: the layout that a configuration names, or why it is refused.
* `Generator.emit`: the two files of a layout.
* `Generator.build`: the files of a configuration; `Generator.run`: those of a configuration file.
-/

namespace FlashDisk

/-- The configuration file as it was found. -/
inductive ConfigFile where
  | missing
  | unreadable (reason : String)
  | content (bytes : ByteArray)

/-- Why a run of the generator ended. -/
inductive BuildFailure where
  | notFound
  | unreadable (reason : String)
  | malformed
  | invalid (errors : List ConfigError)
  deriving DecidableEq, Repr

namespace BuildFailure

/-- The rows of a box under its title. -/
def rows : BuildFailure → List String
  | .notFound =>
    [ Boxed.line "ERROR: storage.toml not found!",
      Boxed.line "",
      Boxed.line "The firmware requires a storage.toml flash layout file.",
      Boxed.line "Please create one in the flashblk-firmware directory." ]
  | .unreadable reason =>
    [ Boxed.line "ERROR: Failed to read storage.toml",
      Boxed.line "",
      Boxed.row "║  Error: " 56 reason.toList ]
  | .malformed =>
    [ Boxed.line "ERROR: Invalid TOML syntax in storage.toml",
      Boxed.divider,
      Boxed.line "The file is not a TOML document." ]
  | .invalid errors =>
    [ Boxed.line "ERROR: Invalid storage configuration in storage.toml", Boxed.divider ] ++
      errors.map fun e => Boxed.row "║  • " 62 e.message.toList

/-- The failure as a box. -/
def message (f : BuildFailure) : String := Boxed.box f.rows

/-- The failure as a box in which a text that is no document is shown with what its reader says of
it. There is none if a line of that cannot be cut. -/
def shown? (reason : String) : BuildFailure → Option String
  | .malformed => do
    let said ← Boxed.rows? reason
    return Boxed.box
      [Boxed.line "ERROR: Invalid TOML syntax in storage.toml", Boxed.divider, said]
  | f => some f.message

end BuildFailure

/-- The files that a run produces. -/
structure BuildFiles where
  memoryMap : String
  constants : String
  deriving DecidableEq, Repr

namespace Generator

/-- A step of the generator; its state is the lines printed so far. -/
abbrev Step (α : Type) : Type := Call (List String) BuildFailure α

/-- Prints a line. -/
def printLine (line : String) : Step Unit := Call.modify (· ++ [line])

/-- The text of a file that is there and readable. -/
def readText : ConfigFile → Step String
  | .missing => Call.fail .notFound
  | .unreadable reason => Call.fail (.unreadable reason)
  | .content bytes =>
    match String.fromUTF8? bytes with
    | some text => pure text
    | none => Call.fail (.unreadable "stream did not contain valid UTF-8")

/-- The configuration that a reader finds in a text. -/
def readConfig (parse : String → Option Toml.Value) (text : String) : Step Toml.Value :=
  match parse text with
  | some config => pure config
  | none => Call.fail .malformed

/-- A layout without violations. Sizes whose difference leaves the word are a trap. -/
def check (l : Layout) : Step Unit := do
  let errors ← Call.ofOption l.violations?
  if errors ≠ [] then Call.fail (.invalid (errors.map .layout))

/-- The layout that a configuration names, if it has no violations. -/
def readLayout (config : Toml.Value) : Step Layout := do
  let l ← Call.ofExcept ((Layout.lookup config).mapError .invalid)
  check l
  let count ← Call.ofOption (Word.div64? l.regionSize.toInt l.blockSize.toInt)
  printLine s!"cargo:warning=storage.toml validated: {count} blocks of {l.blockSize.toInt} bytes"
  return l

/-- The files of a layout, with the directives to link by its memory map in a directory. A map whose
numbers leave the word is a trap. -/
def emit (directory : String) (l : Layout) : Step BuildFiles := do
  let m ← Call.ofOption (MemoryMap.ofLayout? l)
  printLine s!"cargo:rustc-link-search={directory}"
  printLine "cargo:rustc-link-arg-bins=--nmagic"
  printLine "cargo:rustc-link-arg-bins=-Tlink.x"
  printLine "cargo:rustc-link-arg-bins=-Tlink-rp.x"
  printLine "cargo:rustc-link-arg-bins=-Tdefmt.x"
  return { memoryMap := m.text, constants := constantsText l }

/-- The files of the layout that a configuration names. -/
def build (directory : String) (config : Toml.Value) : Step BuildFiles := do
  let l ← readLayout config
  let files ← emit directory l
  printLine "cargo:rerun-if-changed=build.rs"
  return files

/-- The files of the layout that a configuration file names. -/
def run (parse : String → Option Toml.Value) (directory : String) (file : ConfigFile) :
    Step BuildFiles := do
  printLine "cargo:rerun-if-changed=storage.toml"
  build directory (← readConfig parse (← readText file))

end Generator

end FlashDisk
