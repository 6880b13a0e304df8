/-!
# Errors

* `DriverError`: why a flash driver refused or failed an access.
* `FlashError`: a driver error together with the phase it struck in.
* `GeometryError`: sizes that do not fit together; found while a region or device is set up.
* `DeviceError`: why a block request was not carried out.
-/

namespace FlashDisk

/-- The reason a flash driver gives. -/
inductive DriverError where
  | notAligned
  | outOfBounds
  | busy
  | failed
  deriving DecidableEq, Repr

/-- What the flash was asked to do. -/
inductive Phase where
  | init
  | erase
  | program
  | read
  deriving DecidableEq, Repr

/-- A driver error and the phase it struck in. -/
structure FlashError where
  phase : Phase
  cause : DriverError
  deriving DecidableEq, Repr

/-- A block index that is not in a region of `blockCount` blocks. -/
structure OutOfRange where
  block : Nat
  blockCount : Nat
  deriving DecidableEq, Repr

/-- Sizes and addresses that make no region or device. -/
inductive GeometryError where
  | zeroBlockSize
  | pageNotBlockMultiple
  | baseNotPageAligned
  | lengthNotPageMultiple
  | addressOverflow
  | sizeMismatch
  deriving DecidableEq, Repr

/-- Why a block request was not carried out. -/
inductive DeviceError where
  | outOfRange (range : OutOfRange)
  | flash (failure : FlashError)
  | notInitialized
  | bufferLength
  deriving DecidableEq, Repr

end FlashDisk
