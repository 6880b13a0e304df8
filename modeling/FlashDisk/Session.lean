import FlashDisk.Device
import FlashDisk.SelfTest

/-!
# Requests and sessions

A device can be used in three ways: through its own functions, as any block device, and shared
behind a lock. A `Request` names a function of one of them with its arguments, an `Answer` is what
comes back, and a session serves a list of requests in turn. A request that fails or traps does not
end the session: the next one meets the device as it was left.

* `Request.serve`: the answer to a request, and the shared device after it.
* `Session.run`: the answers to a list of requests.
-/

namespace FlashDisk

/-- The value of a request that was carried out. -/
inductive Reply where
  | done
  | number (n : Nat)
  | bytes (data : Array UInt8)
  | geometry (r : Region)
  | passed (result : Bool)
  deriving DecidableEq

/-- What comes back for a request. -/
structure Answer where
  outcome : Outcome DeviceError Reply
  /-- The caller's buffer as it was left, if the request had one. -/
  buffer : Option (Array UInt8) := none
  deriving DecidableEq

namespace Answer

variable {σ α : Type}

/-- The answer of a call that gives a value. -/
def query (value : α → Reply) (c : Call σ DeviceError α) (s : σ) : Answer × σ :=
  let (o, s) := c s
  ({ outcome := o.map value }, s)

/-- The answer of a call that gives none. -/
def command (c : Call σ DeviceError Unit) : σ → Answer × σ := query (fun _ => .done) c

/-- The answer of a read into the caller's buffer. -/
def reading (buffer : Array UInt8) (c : Call (σ × Vector UInt8 buffer.size) DeviceError Unit)
    (s : σ) : Answer × σ :=
  let (o, (s, buffer)) := c (s, buffer.toVector)
  ({ outcome := o.map fun _ => .bytes buffer.toArray, buffer := some buffer.toArray }, s)

end Answer

open Answer

/-! ## The three surfaces -/

/-- A function of a device over the region `r`. -/
inductive DeviceRequest (r : Region) where
  | init
  | sync
  | blockCount
  | blockSize
  | region
  | readBlock (block : Nat)
  | writeBlock (block : Nat) (data : Block r)
  | readBlocks (start : Nat) (buffer : Array UInt8)
  | writeBlocks (start : Nat) (data : Array UInt8)
  | invalidate

/-- Answers a request by the functions of the device. -/
def DeviceRequest.serve {r : Region} {σ κ : Type} [FlashDriver σ] [CacheMaintenance κ] :
    DeviceRequest r → Device r σ κ → Answer × Device r σ κ
  | .init => command Device.init
  | .sync => command Device.sync
  | .blockCount => query .number (pure r.blockCount)
  | .blockSize => query .number (pure r.blockSize)
  | .region => query .geometry (pure r)
  | .readBlock block => query (fun data => .bytes data.toArray) (Device.readBlock block)
  | .writeBlock block data => command (Device.writeBlock block data)
  | .readBlocks start buffer => reading buffer (Device.readBlocks start)
  | .writeBlocks start data => command (Device.writeBlocks start data.toVector)
  | .invalidate => command Device.invalidate

/-- A function of any block device. -/
inductive StoreRequest where
  | init
  | sync
  | blockSize
  | blockCount
  | readBlock (block : Nat) (buffer : Array UInt8)
  | writeBlock (block : Nat) (data : Array UInt8)
  /-- A control request by number; an unknown number is ignored. -/
  | control (code arg : Nat)
  /-- The same, answered as any block store does. -/
  | storeControl (code arg : Nat)

/-- Answers a request by the functions of a block device. -/
def StoreRequest.serve {δ : Type} [BlockDevice δ] : StoreRequest → δ → Answer × δ
  | .init => command BlockStore.init
  | .sync => command BlockStore.sync
  | .blockSize => query .number do return BlockStore.blockSize (← Call.get)
  | .blockCount => query .number do return BlockStore.blockCount (← Call.get)
  | .readBlock block buffer => reading buffer (BlockStore.readBlock block)
  | .writeBlock block data => command (BlockStore.writeBlock block data.toVector)
  | .control code arg => byNumber BlockDevice.control code arg
  | .storeControl code arg => byNumber BlockStore.control code arg
where
  /-- Looks the number up and makes the request. -/
  byNumber {δ : Type} (answer : Control → Call δ DeviceError Nat) (code arg : Nat) :
      δ → Answer × δ :=
    match Control.ofCode? code arg with
    | some request => query .number (answer request)
    | none => command (pure ())

/-- A function of a shared device. -/
inductive SharedRequest where
  | blockCount
  | readBlock (block : Nat) (buffer : Array UInt8)
  | writeBlock (block : Nat) (data : Array UInt8)
  | sync
  /-- Ask for the block count with the lock already taken. -/
  | reenter

/-- Answers a request by the functions of a shared device. -/
def SharedRequest.serve {δ : Type} [BlockStore δ] : SharedRequest → Shared δ → Answer × Shared δ
  | .blockCount => query .number Shared.blockCount
  | .readBlock block buffer => reading buffer (Shared.readBlock block)
  | .writeBlock block data => command (Shared.writeBlock block data.toVector)
  | .sync => command Shared.sync
  | .reenter => query .number (Shared.withLock Shared.blockCount)

/-! ## Sessions -/

/-- A request to a shared device over the region `r`. -/
inductive Request (r : Region) where
  | own (request : DeviceRequest r)
  | store (request : StoreRequest)
  | shared (request : SharedRequest)
  /-- Release the device and put a new one on its flash and cache control. -/
  | renew
  | selfTest

namespace Request

variable {r : Region} {σ κ : Type} [FlashDriver σ] [CacheMaintenance κ]

/-- Lets the device behind the lock answer. -/
def onDevice {δ : Type} (serve : δ → Answer × δ) (s : Shared δ) : Answer × Shared δ :=
  let (answer, device) := serve s.device
  (answer, { s with device })

/-- Answers a request. -/
def serve : Request r → Shared (Device r σ κ) → Answer × Shared (Device r σ κ)
  | .own request => onDevice request.serve
  | .store request => onDevice request.serve
  | .shared request => request.serve
  | .renew => command <| Call.modify fun s =>
      { device := { flash := s.device.release.1, cacheControl := s.device.release.2 } }
  | .selfTest => query .passed (SelfTest.run r.blockSize)

end Request

/-- Serves requests in turn and collects the answers. -/
def Session.run {r : Region} {σ κ : Type} [FlashDriver σ] [CacheMaintenance κ] :
    List (Request r) → Shared (Device r σ κ) → List Answer × Shared (Device r σ κ)
  | [], s => ([], s)
  | request :: rest, s =>
    let (answer, s) := request.serve s
    let (answers, s) := run rest s
    (answer :: answers, s)

end FlashDisk
