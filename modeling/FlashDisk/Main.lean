import FlashDisk.Generator
import FlashDisk.Toml.Document

/-!
# The command line

Reads `storage.toml` in the working directory, and writes the memory map and the constants to the
directory that `OUT_DIR` names.
-/

open FlashDisk

/-- The configuration file of the working directory. -/
def readConfigFile : IO ConfigFile := do
  try
    return .content (← IO.FS.readBinFile "storage.toml")
  catch
    | .noFileOrDirectory .. => return .missing
    | e => return .unreadable (toString e)

def main : IO UInt32 := do
  let directory := (← IO.getEnv "OUT_DIR").getD "."
  let (outcome, printed) := Generator.run Toml.Value.ofText? directory (← readConfigFile) []
  printed.forM fun line => IO.println line
  match outcome with
  | .ok files =>
    IO.FS.writeFile s!"{directory}/memory.x" files.memoryMap
    IO.FS.writeFile s!"{directory}/storage_config.rs" files.constants
    return 0
  | .error failure =>
    IO.eprintln failure.message
    return 1
  | .trap =>
    IO.eprintln "the sizes of the layout do not fit a 64-bit word"
    return 1
