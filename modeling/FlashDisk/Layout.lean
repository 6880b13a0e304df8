import FlashDisk.Toml.Value
import FlashDisk.Word

/-!
# The flash layout

A layout says how large the flash is, how much of it the block device gets, and how large blocks and
pages are.

* `Layout.violations?`: the relations between the four sizes that fail, in a fixed order. The check
  has no answer if it leaves the 64-bit word.
* `Layout.lookup`: the layout that a configuration names, or every entry that is missing or wrong.
-/

namespace FlashDisk

/-- The sizes of a flash layout, in bytes. -/
structure Layout where
  flashSize : Int64
  regionSize : Int64
  blockSize : Int64
  pageSize : Int64
  deriving DecidableEq

/-- A relation between the sizes of a layout that fails. -/
inductive LayoutError where
  | blockSize
  | pageSize
  | pageNotBlockMultiple
  | regionSize
  | flashSize
  | firmwareRoom
  deriving DecidableEq, Repr

/-- What is wrong with a configuration. -/
inductive ConfigError where
  | missing (table key : String)
  | notInteger (table key : String)
  | layout (cause : LayoutError)
  deriving DecidableEq, Repr

namespace Layout

/-- The unit of erasing. -/
abbrev eraseSize : Int := 4096

/-- The least room that is left for the firmware. -/
abbrev firmwareRoom : Int := 256 * 1024

end Layout

/-- The text of an error. -/
def LayoutError.message : LayoutError → String
  | .blockSize => "block_size must be a positive multiple of 512"
  | .pageSize => s!"page_size must be a multiple of {Layout.eraseSize}"
  | .pageNotBlockMultiple => "page_size must be a multiple of block_size"
  | .regionSize => "region_size must be a positive multiple of page_size"
  | .flashSize => s!"flash size must be a multiple of {Layout.eraseSize}"
  | .firmwareRoom =>
    s!"region_size leaves less than {Layout.firmwareRoom / 1024}KB for firmware"

/-- The text of an error. -/
def ConfigError.message : ConfigError → String
  | .missing table key => s!"[{table}] missing '{key}'"
  | .notInteger table key => s!"[{table}] {key} must be an integer"
  | .layout cause => cause.message

namespace Layout

/-- Whether a size is not a positive multiple of another. -/
def misfits? (size unit : Int) : Option Bool :=
  if size ≤ 0 then some true else (· != 0) <$> Word.rem64? size unit

/-- Whether a relation fails, if the arithmetic of its check stays within the word. A relation to a
size that is not positive is left to the check of that size. -/
def violates? (l : Layout) : LayoutError → Option Bool
  | .blockSize => misfits? l.blockSize.toInt 512
  | .pageSize => misfits? l.pageSize.toInt eraseSize
  | .pageNotBlockMultiple =>
    if 0 < l.blockSize.toInt then (· != 0) <$> Word.rem64? l.pageSize.toInt l.blockSize.toInt
    else some false
  | .regionSize =>
    if 0 < l.pageSize.toInt then misfits? l.regionSize.toInt l.pageSize.toInt else some false
  | .flashSize => (· != 0) <$> Word.rem64? l.flashSize.toInt eraseSize
  | .firmwareRoom => do
    let room ← Word.sub64? l.flashSize.toInt l.regionSize.toInt
    return room < firmwareRoom

/-- The relations in the order in which they are reported. -/
def relations : List LayoutError :=
  [.blockSize, .pageSize, .pageNotBlockMultiple, .regionSize, .flashSize, .firmwareRoom]

/-- The relations that fail, in order, if every check stays within the word. -/
def violations? (l : Layout) : Option (List LayoutError) := relations.filterM l.violates?

/-! ## Layouts in a configuration -/

/-- The integer at a key of a table. -/
def requireInteger (config : Toml.Value) (table key : String) : Except ConfigError Int64 :=
  match config.get? table >>= (·.get? key) with
  | some (.integer n) => .ok n
  | some _ => .error (.notInteger table key)
  | none => .error (.missing table key)

/-- The error of a result that is one. -/
def errorOf? {ε α : Type} : Except ε α → Option ε
  | .ok _ => none
  | .error e => some e

/-- The layout that a configuration names, or what is wrong with each size that it does not name. -/
def lookup (config : Toml.Value) : Except (List ConfigError) Layout :=
  match requireInteger config "flash" "size", requireInteger config "storage" "region_size",
    requireInteger config "storage" "block_size", requireInteger config "storage" "page_size" with
  | .ok flashSize, .ok regionSize, .ok blockSize, .ok pageSize =>
    .ok { flashSize, regionSize, blockSize, pageSize }
  | flash, region, block, page => .error ([flash, region, block, page].filterMap errorOf?)

end Layout

end FlashDisk
