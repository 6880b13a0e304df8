import FlashDisk.Proofs.Invalidations
import FlashDisk.Proofs.UnsetBytes

/-!
# One device, three surfaces

A device has its own functions, those of any block device, with numbered control requests among
them, and those of a shared device. Most requests on the last two surfaces are other ways to ask
for a function of the first, its counterpart. They make the same accesses and leave the same
device, and a run stays the same if calls are exchanged for their counterparts.

What a read delivers is the one difference. The device's own read brings a buffer of zeros, the
others fill the caller's, and a byte that the driver reports read without setting it is told apart.

* `Request.inherent?`: the counterpart of a request.
* `Request.Agrees`: the answer to a request says what the answer to its counterpart says.
* `Request.serve_inherent`, `Session.play_inherent`: a request, and a run, with counterparts.
* `surfaces_agree`: so it is in every state in which the lock is free.
-/

namespace FlashDisk

open Call

variable {r : Region} {σ κ : Type} {n : Nat}

/-! ## Counterparts -/

/-- The device's own function that a control request asks for. To discard a block is none. -/
def Control.inherent? : Control → Option (DeviceRequest r)
  | .init => some .init
  | .deinit | .sync => some .sync
  | .blockCount => some .blockCount
  | .blockSize => some .blockSize
  | .blockErase _ => none
  | .irqHandler => some .invalidate

/-- The device's own function that a request to any block device asks for. A buffer that is not one
block long has none, and to any block store a cache invalidation has none either. -/
def StoreRequest.inherent? : StoreRequest → Option (DeviceRequest r)
  | .init => some .init
  | .sync => some .sync
  | .blockSize => some .blockSize
  | .blockCount => some .blockCount
  | .readBlock block buffer => if buffer.size = r.blockSize then some (.readBlock block) else none
  | .writeBlock block data =>
    if one : data.size = r.blockSize then some (.writeBlock block (data.toVector.cast one))
    else none
  | .control code arg => (Control.ofCode? code arg).bind Control.inherent?
  | .storeControl code arg =>
    if code = Control.irqHandler.code then none
    else (Control.ofCode? code arg).bind Control.inherent?

/-- The device's own function that a request to a shared device asks for. -/
def SharedRequest.inherent? : SharedRequest → Option (DeviceRequest r)
  | .blockCount => some .blockCount
  | .readBlock block buffer => StoreRequest.inherent? (.readBlock block buffer)
  | .writeBlock block data => StoreRequest.inherent? (.writeBlock block data)
  | .sync => some .sync
  | .reenter => none

namespace Request

/-- The device's own function that a request asks for. -/
def inherent? : Request r → Option (DeviceRequest r)
  | .own request => some request
  | .store request => request.inherent?
  | .shared request => request.inherent?
  | .renew => none
  | .selfTest => none

/-- The request with its counterpart in its place, if it has one. -/
def inherent (q : Request r) : Request r := (q.inherent?.map .own).getD q

/-- The block that the request reads into the caller's buffer, and the buffer. -/
def reading? : Request r → Option (Nat × Array UInt8)
  | .store (.readBlock block buffer) => some (block, buffer)
  | .shared (.readBlock block buffer) => some (block, buffer)
  | _ => none

/-- The request brings no buffer to be read into that holds anything but zeros. -/
def Blank (q : Request r) : Prop :=
  ∀ block buffer, q.reading? = some (block, buffer) → ∀ byte ∈ buffer, byte = 0

/-- The device has cached what the request reads into the caller's buffer. -/
def Cached (q : Request r) (d : Device r σ κ) : Prop :=
  ∀ block buffer, q.reading? = some (block, buffer) → d.residentPage = some (r.pageOf block)

end Request

/-! ### What is answered -/

/-- Outcomes of one kind, with the same error or with values that are related. -/
inductive Outcome.Rel {ε α β : Type} (P : α → β → Prop) : Outcome ε α → Outcome ε β → Prop where
  | ok {a : α} {b : β} (h : P a b) : Rel P (.ok a) (.ok b)
  | error (e : ε) : Rel P (.error e) (.error e)
  | trap : Rel P .trap .trap

theorem Outcome.rel_of_eq {ε α : Type} {o o' : Outcome ε α} (h : o' = o) :
    o.Rel (fun a b => b = a) o' := by
  subst h
  cases o' with
  | ok a => exact .ok rfl
  | error e => exact .error e
  | trap => exact .trap

theorem Outcome.Rel.eq {ε α : Type} {P : α → α → Prop} {o o' : Outcome ε α} (h : o.Rel P o')
    (hP : ∀ a b, P a b → b = a) : o' = o := by
  cases h with
  | ok h => rw [hP _ _ h]
  | error e => rfl
  | trap => rfl

/-- A control request answers with a number, and that is 0 if there is none to tell. -/
def Reply.numbered : Reply → Reply
  | .done => .number 0
  | reply => reply

/-- Bytes that were read into a buffer of zeros, and those that were read into `buffer`: each byte
is the same, unless it was not set. -/
def Reply.ReadAlike (unset : Nat → Prop) (buffer : Array UInt8) : Reply → Reply → Prop
  | .bytes blank, .bytes data => blank.size = buffer.size ∧ data.size = buffer.size ∧
      ∀ i < buffer.size,
        (unset i → blank[i]? = some 0 ∧ data[i]? = buffer[i]?) ∧ (¬unset i → data[i]? = blank[i]?)
  | _, _ => False

theorem Reply.ReadAlike.eq {unset : Nat → Prop} {buffer : Array UInt8} {plain reply : Reply}
    (h : plain.ReadAlike unset buffer reply)
    (hunset : ∀ i < buffer.size, unset i → buffer[i]? = some 0) : reply = plain := by
  cases plain with
  | bytes blank =>
    cases reply with
    | bytes data =>
      obtain ⟨hblank, hdata, hbytes⟩ := h
      refine congrArg Reply.bytes (Array.ext (hdata.trans hblank.symm) fun i hi hi' => ?_)
      have hin : i < buffer.size := by omega
      obtain ⟨hleft, hset⟩ := hbytes i hin
      refine Option.some.inj ?_
      rw [← Array.getElem?_eq_getElem, ← Array.getElem?_eq_getElem]
      by_cases hi : unset i
      · obtain ⟨hzero, hkept⟩ := hleft hi
        rw [hzero, hkept, hunset i hin hi]
      · exact hset hi
    | _ => cases h
  | _ => cases h

variable [FlashDriver σ]

/-- A reply to the request on the device says what the reply `plain` to its counterpart says. -/
def Request.Replies (q : Request r) (d : Device r σ κ) (plain reply : Reply) : Prop :=
  match q with
  | .store (.readBlock block buffer) => plain.ReadAlike (d.Unset block) buffer reply
  | .shared (.readBlock block buffer) => plain.ReadAlike (d.Unset block) buffer reply
  | .store (.control _ _) => reply = plain.numbered
  | .store (.storeControl _ _) => reply = plain.numbered
  | _ => reply = plain

/-- The answer to the request on the device says what the answer `plain` to its counterpart says. -/
structure Request.Agrees (q : Request r) (d : Device r σ κ) (plain answer : Answer) : Prop where
  /-- A request without a counterpart is its own. -/
  same : q.inherent? = none → answer = plain
  replies : q.inherent?.isSome → plain.outcome.Rel (q.Replies d) answer.outcome
  /-- A read says the very same if the driver sets all of a buffer, or the buffer holds zeros, or the
  driver is not asked. -/
  delivers : q.reading?.isSome →
    FlashDriver.SetsAll σ ∨ q.Blank ∨ q.Cached d → answer.outcome = plain.outcome

/-- The answers to a run say what the answers to the run with counterparts say, each of them on the
device that its request meets. -/
inductive Session.Agree [CacheMaintenance κ] :
    List (Event r σ) → Shared (Device r σ κ) → List Answer → List Answer → Prop where
  | nil {s : Shared (Device r σ κ)} : Agree [] s [] []
  | request {q : Request r} {rest : List (Event r σ)} {s : Shared (Device r σ κ)}
      {plain answer : Answer} {plains answers : List Answer} (h : q.Agrees s.device plain answer)
      (hrest : Agree rest (q.serve s).2 plains answers) :
      Agree (.request q :: rest) s (plain :: plains) (answer :: answers)
  | outside {change : σ → σ} {rest : List (Event r σ)} {s : Shared (Device r σ κ)}
      {plains answers : List Answer}
      (hrest : Agree rest (s.withFlash (change s.device.flash)) plains answers) :
      Agree (.outside change :: rest) s plains answers

/-- Each request of the run brings nothing but zeros to be read into, or meets a device that has
cached what it reads. -/
def Session.Sheltered [CacheMaintenance κ] :
    List (Event r σ) → Shared (Device r σ κ) → Prop
  | [], _ => True
  | .request q :: rest, s => (q.Blank ∨ q.Cached s.device) ∧ Sheltered rest (q.serve s).2
  | .outside change :: rest, s => Sheltered rest (s.withFlash (change s.device.flash))

/-! ### Requests to the device -/

/-- The second way to serve a request says what the first one says, and leaves the same device. -/
def Answer.Accords {δ : Type} (P : Reply → Reply → Prop) (plain served : Answer × δ) : Prop :=
  plain.1.outcome.Rel P served.1.outcome ∧ served.2 = plain.2

theorem Answer.accords_refl {δ : Type} (served : Answer × δ) :
    Accords (fun plain reply => reply = plain) served served := ⟨Outcome.rel_of_eq rfl, rfl⟩

/-- A command that is asked for by number. -/
theorem Answer.command_accords {δ : Type} (c : Call δ DeviceError Unit) (d : δ) :
    Accords (fun plain reply => reply = plain.numbered) (command c d)
      (query .number (do c; return 0) d) := by
  unfold command query
  rw [bind_pure_apply]
  refine ⟨?_, rfl⟩
  dsimp only
  cases (c d).1 with
  | ok _ => exact .ok rfl
  | error e => exact .error e
  | trap => exact .trap

variable {d : Device r σ κ}

/-- The device's own read is a read into a buffer of zeros. -/
theorem Device.query_readBlock (hn : n = r.blockSize) (block : Nat) (d : Device r σ κ) :
    Answer.query (fun data => .bytes data.toArray) (readBlock block) d =
      let x := readExactly block (d, Bytes.filled n 0)
      ({ outcome := x.1.map fun _ => .bytes x.2.2.toArray }, x.2.1) := by
  subst hn
  unfold Answer.query
  rw [readBlock_eq_filling, filling_apply]
  dsimp only
  cases (readExactly block (d, Bytes.filled r.blockSize 0)).1 <;> rfl

/-- **A read into the caller's buffer delivers what the device's own read does**, but for bytes that
are not set. -/
theorem Device.reading_accords {buffer : Array UInt8} (one : buffer.size = r.blockSize)
    {block : Nat} (h : d.ReadsAlike block (Bytes.filled buffer.size 0) buffer.toVector) :
    Answer.Accords (Reply.ReadAlike (d.Unset block) buffer)
      (Answer.query (fun data => .bytes data.toArray) (readBlock block) d)
      (Answer.reading buffer (readExactly block) d) := by
  obtain ⟨hout, hdevice, hset⟩ := readExactly_alike h
  rw [query_readBlock one]
  refine ⟨?_, hdevice⟩
  unfold Answer.reading
  dsimp only
  rw [hout]
  cases hx : (readExactly block (d, Bytes.filled buffer.size 0)).1 with
  | ok _ =>
    refine .ok ⟨Vector.size_toArray _, Vector.size_toArray _, fun i hi => ?_⟩
    obtain ⟨hkept, hsame⟩ := hset hx i hi
    refine ⟨fun hunset => ?_, fun hunset => ?_⟩
    · obtain ⟨hblank, hdata⟩ := hkept hunset
      have hzero : (Bytes.filled buffer.size 0)[i] = 0 := Vector.getElem_replicate _
      exact ⟨by simp [hi, hblank.trans hzero], by simp [hi, hdata]⟩
    · simp [hi, hsame hunset]
  | error e => exact .error e
  | trap => exact .trap

/-- A request to read may fill its buffer as well as one of zeros. -/
theorem Request.readsAlike {q : Request r} {block : Nat} {buffer : Array UInt8}
    (hq : q.reading? = some (block, buffer))
    (h : FlashDriver.ReadsBlindly σ ∨ FlashDriver.SetsAll σ ∨ q.Blank ∨ q.Cached d) :
    d.ReadsAlike block (Bytes.filled buffer.size 0) buffer.toVector := by
  refine h.imp_right fun h => h.imp_right fun h => h.imp (fun hblank => ?_) fun hcached => ?_
  · apply Vector.ext
    intro i hi
    have hzero : buffer[i] = 0 := hblank block buffer hq _ (Array.getElem_mem hi)
    simp [Bytes.filled, hzero]
  · exact hcached block buffer hq

theorem Request.of_reading? {q : Request r} {block : Nat} {buffer : Array UInt8}
    (hq : q.reading? = some (block, buffer)) :
    q = .store (.readBlock block buffer) ∨ q = .shared (.readBlock block buffer) := by
  unfold reading? at hq
  split at hq
  · cases hq
    exact .inl rfl
  · cases hq
    exact .inr rfl
  · cases hq

/-- A request to read has a counterpart only if its buffer is one block long. -/
theorem Request.size_of_reading? {q : Request r} {block : Nat} {buffer : Array UInt8}
    {plain : DeviceRequest r} (hq : q.reading? = some (block, buffer))
    (h : q.inherent? = some plain) : buffer.size = r.blockSize := by
  have hsize : (if buffer.size = r.blockSize then some (.readBlock block) else none) =
      some plain := by
    rcases of_reading? hq with rfl | rfl
    · exact h
    · exact h
  split at hsize
  · next one => exact one
  · cases hsize

/-- Nothing is told apart if the driver sets all of a buffer, or the buffer holds zeros, or the
driver is not asked. -/
theorem Request.eq_of_replies {q : Request r} {plain reply : Reply} {block : Nat}
    {buffer : Array UInt8} (hq : q.reading? = some (block, buffer))
    (one : buffer.size = r.blockSize) (hreplies : q.Replies d plain reply)
    (h : FlashDriver.SetsAll σ ∨ q.Blank ∨ q.Cached d) : reply = plain := by
  have halike : plain.ReadAlike (d.Unset block) buffer reply := by
    rcases of_reading? hq with rfl | rfl
    · exact hreplies
    · exact hreplies
  refine halike.eq fun i hi hunset => ?_
  rcases h with hall | hblank | hcached
  · exact absurd hunset.2 (hall.not_unset (by omega))
  · rw [Array.getElem?_eq_getElem hi, hblank block buffer hq _ (Array.getElem_mem hi)]
  · exact absurd (hcached block buffer hq) hunset.1

variable [CacheMaintenance κ]

theorem Device.control_accords {request : Control} {plain : DeviceRequest r}
    (h : request.inherent? = some plain) (d : Device r σ κ) :
    Answer.Accords (fun plain reply => reply = plain.numbered) (plain.serve d)
      (Answer.query .number (control request) d) := by
  cases request with
  | blockErase block => cases h
  | init =>
    obtain rfl := Option.some.inj h
    exact Answer.command_accords Device.init d
  | deinit =>
    obtain rfl := Option.some.inj h
    exact Answer.command_accords Device.sync d
  | sync =>
    obtain rfl := Option.some.inj h
    exact Answer.command_accords Device.sync d
  | blockCount =>
    obtain rfl := Option.some.inj h
    exact ⟨.ok rfl, rfl⟩
  | blockSize =>
    obtain rfl := Option.some.inj h
    exact ⟨.ok rfl, rfl⟩
  | irqHandler =>
    obtain rfl := Option.some.inj h
    exact Answer.command_accords Device.invalidate d

/-- A number stands for one request. -/
theorem Control.code_of_ofCode? {code arg : Nat} {request : Control}
    (h : ofCode? code arg = some request) : code = request.code := by
  unfold ofCode? at h
  split at h <;> cases h <;> rfl

/-- The block size of a region is a word, so nothing of it is cut off. -/
theorem Device.storeControl_blockSize :
    (BlockStore.control .blockSize : Call (Device r σ κ) DeviceError Nat) = control .blockSize := by
  have hsize : r.blockSize < Word.limit32 :=
    Nat.lt_of_le_of_lt (Nat.le_of_dvd r.pageSize_pos r.blockSize_dvd_pageSize) r.pageSize_lt
  funext d
  exact congrArg (fun size => (Outcome.ok size, d)) (Nat.mod_eq_of_lt hsize)

/-- **A device answers as any block store does**, but for the discarding of a block and a cache
invalidation. -/
theorem StoreRequest.serve_storeControl {code arg : Nat} (herase : code ≠ 6) (hirq : code ≠ 0x100)
    (d : Device r σ κ) : (storeControl code arg).serve d = (control code arg).serve d := by
  show serve.byNumber BlockStore.control code arg d = serve.byNumber Device.control code arg d
  unfold serve.byNumber
  cases hrequest : Control.ofCode? code arg with
  | none => rfl
  | some request =>
    have hcode := Control.code_of_ofCode? hrequest
    cases request with
    | init => rfl
    | deinit => rfl
    | sync => rfl
    | blockCount => rfl
    | blockSize =>
      dsimp only
      rw [Device.storeControl_blockSize]
    | blockErase block => exact absurd hcode herase
    | irqHandler => exact absurd hcode hirq

theorem StoreRequest.serve_accords (request : StoreRequest) {plain : DeviceRequest r}
    (h : request.inherent? = some plain) (d : Device r σ κ)
    (hread : FlashDriver.ReadsBlindly σ ∨ FlashDriver.SetsAll σ ∨
      (Request.store request : Request r).Blank ∨ (Request.store request).Cached d) :
    Answer.Accords ((Request.store request : Request r).Replies d) (plain.serve d)
      (request.serve d) := by
  have numbered : ∀ {code arg}, (Control.ofCode? code arg).bind Control.inherent? = some plain →
      Answer.Accords (fun plain reply => reply = plain.numbered) (plain.serve d)
        ((control code arg).serve d) := by
    intro code arg hplain
    obtain ⟨request, hrequest, hinherent⟩ := Option.bind_eq_some_iff.mp hplain
    show Answer.Accords _ _ (serve.byNumber Device.control code arg d)
    rw [byNumber_of_ofCode? hrequest]
    exact Device.control_accords hinherent d
  cases request with
  | init =>
    obtain rfl := Option.some.inj h
    exact Answer.accords_refl _
  | sync =>
    obtain rfl := Option.some.inj h
    exact Answer.accords_refl _
  | blockSize =>
    obtain rfl := Option.some.inj h
    exact Answer.accords_refl _
  | blockCount =>
    obtain rfl := Option.some.inj h
    exact Answer.accords_refl _
  | readBlock block buffer =>
    change (if buffer.size = r.blockSize then some _ else none) = some plain at h
    split at h
    · next one =>
      obtain rfl := Option.some.inj h
      exact Device.reading_accords one (Request.readsAlike rfl hread)
    · cases h
  | writeBlock block data =>
    change (if one : data.size = r.blockSize then some _ else none) = some plain at h
    split at h
    · next one =>
      obtain rfl := Option.some.inj h
      have hcall : (BlockStore.writeBlock block data.toVector :
          Call (Device r σ κ) DeviceError Unit) =
            Device.writeBlock block (data.toVector.cast one) := dif_pos one
      show Answer.Accords _ _ (Answer.command (BlockStore.writeBlock block data.toVector) d)
      rw [hcall]
      exact Answer.accords_refl _
    · cases h
  | control code arg => exact numbered h
  | storeControl code arg =>
    change (if code = 0x100 then none else _) = some plain at h
    split at h
    · cases h
    · next hirq =>
      have herase : code ≠ 6 := by
        rintro rfl
        cases h
      rw [serve_storeControl herase hirq]
      exact numbered h

/-! ### Requests and runs -/

variable {s : Shared (Device r σ κ)}

omit [FlashDriver σ] [CacheMaintenance κ] in
theorem Request.onDevice_accords {P : Reply → Reply → Prop}
    {plain serve : Device r σ κ → Answer × Device r σ κ}
    (h : Answer.Accords P (plain s.device) (serve s.device)) :
    Answer.Accords P (onDevice plain s) (onDevice serve s) := by
  refine ⟨h.1, ?_⟩
  unfold onDevice
  dsimp only
  rw [h.2]

theorem Request.serve_accords (hs : s.held = false) {q : Request r} {plain : DeviceRequest r}
    (h : q.inherent? = some plain)
    (hread : FlashDriver.ReadsBlindly σ ∨ FlashDriver.SetsAll σ ∨ q.Blank ∨ q.Cached s.device) :
    Answer.Accords (q.Replies s.device) ((Request.own plain).serve s) (q.serve s) := by
  cases q with
  | own request =>
    obtain rfl := Option.some.inj h
    exact Answer.accords_refl _
  | store request => exact onDevice_accords (request.serve_accords h s.device hread)
  | shared request =>
    have hserve := Operation.serve_shared (r := r) hs request
    show Answer.Accords _ _ ((Operation.shared request).serve s)
    rw [hserve]
    cases request with
    | blockCount =>
      obtain rfl := Option.some.inj h
      exact Answer.accords_refl _
    | readBlock block buffer =>
      exact onDevice_accords (StoreRequest.serve_accords (.readBlock block buffer) h s.device hread)
    | writeBlock block data =>
      exact onDevice_accords (StoreRequest.serve_accords (.writeBlock block data) h s.device
        (.inr (.inr (.inl nofun))))
    | sync =>
      obtain rfl := Option.some.inj h
      exact Answer.accords_refl _
    | reenter => cases h
  | renew => cases h
  | selfTest => cases h

/-- **A request may be exchanged for its counterpart**: that answers the same and leaves the same
device. -/
theorem Request.serve_inherent (hs : s.held = false) {q : Request r}
    (hread : FlashDriver.ReadsBlindly σ ∨ FlashDriver.SetsAll σ ∨ q.Blank ∨ q.Cached s.device) :
    q.Agrees s.device (q.inherent.serve s).1 (q.serve s).1 ∧
      (q.serve s).2 = (q.inherent.serve s).2 := by
  unfold inherent
  cases h : q.inherent? with
  | none => exact ⟨⟨fun _ => rfl, by simp [h], fun _ _ => rfl⟩, rfl⟩
  | some plain =>
    obtain ⟨hreplies, hnext⟩ := q.serve_accords hs h hread
    refine ⟨⟨by simp [h], fun _ => hreplies, fun hreading hsame => ?_⟩, hnext⟩
    obtain ⟨⟨block, buffer⟩, hq⟩ := Option.isSome_iff_exists.mp hreading
    refine hreplies.eq fun _ _ hreply => ?_
    exact eq_of_replies hq (size_of_reading? hq h) hreply hsame

omit [FlashDriver σ] [CacheMaintenance κ] in
/-- The event with the counterpart of its request in its place. -/
def Event.inherent : Event r σ → Event r σ
  | .request q => .request q.inherent
  | .outside change => .outside change

omit [FlashDriver σ] [CacheMaintenance κ] in
theorem Event.map_traced_inherent (events : List (Event r σ)) :
    (events.map Event.inherent).map Event.traced =
      (events.map Event.traced).map Event.inherent := by
  rw [List.map_map, List.map_map]
  exact List.map_congr_left fun event _ => by cases event <;> rfl

omit [FlashDriver σ] [CacheMaintenance κ] in
theorem Event.request_mem_traced {events : List (Event r σ)} {q : Request r} :
    Event.request q ∈ events.map Event.traced ↔ Event.request q ∈ events := by
  refine ⟨fun h => ?_, fun h => List.mem_map.mpr ⟨_, h, rfl⟩⟩
  obtain ⟨event, hmem, hevent⟩ := List.mem_map.mp h
  cases event with
  | request q' =>
    cases hevent
    exact hmem
  | outside change => cases hevent

theorem Session.sheltered_of_blank {events : List (Event r σ)}
    (h : ∀ q, Event.request q ∈ events → q.Blank) (s : Shared (Device r σ κ)) :
    Sheltered events s := by
  induction events generalizing s with
  | nil => trivial
  | cons event rest ih =>
    have hrest : ∀ q, Event.request q ∈ rest → q.Blank :=
      fun q hq => h q (List.mem_cons_of_mem _ hq)
    cases event with
    | request q => exact ⟨.inl (h q List.mem_cons_self), ih hrest _⟩
    | outside change => exact ih hrest _

/-- A trace does not change what the device has cached. -/
theorem Session.Sheltered.traced {events : List (Event r σ)} {t : Shared (Device r (Traced σ) κ)}
    (htwin : Shared.Twin TraceOf t s) (h : Sheltered events s) :
    Sheltered (events.map Event.traced) t := by
  induction events generalizing s t with
  | nil => trivial
  | cons event rest ih =>
    obtain ⟨-, hnext⟩ := Event.happen_twin (traceOf_mirrors r) htwin event.twin_traced
    cases event with
    | request q =>
      obtain ⟨hthis, hrest⟩ := h
      refine ⟨hthis.imp_right fun hcached block buffer hq => ?_, ih hnext hrest⟩
      have hres : t.device.residentPage = s.device.residentPage :=
        congrArg PageCache.resident htwin.device.cache_eq.symm
      exact hres.trans (hcached block buffer hq)
    | outside change => exact ih hnext h

/-- **A run stays the same if its calls are exchanged for their counterparts.** -/
theorem Session.play_inherent {events : List (Event r σ)}
    (hread : FlashDriver.ReadsBlindly σ ∨ FlashDriver.SetsAll σ ∨ Sheltered events s)
    (hs : s.held = false) :
    let plain := play (events.map Event.inherent) s
    let run := play events s
    Agree events s plain.1 run.1 ∧ run.2 = plain.2 := by
  induction events generalizing s with
  | nil => exact ⟨.nil, rfl⟩
  | cons event rest ih =>
    cases event with
    | request q =>
      have hthis : FlashDriver.ReadsBlindly σ ∨ FlashDriver.SetsAll σ ∨ q.Blank ∨
          q.Cached s.device := hread.imp_right (Or.imp_right And.left)
      obtain ⟨hagrees, hnext⟩ := q.serve_inherent hs hthis
      have hfree : (q.serve s).2.held = false :=
        (q.serve_walk (O := fun _ _ => True) s).free hs
      obtain ⟨hlater, hlast⟩ := ih (hread.imp_right (Or.imp_right And.right)) hfree
      have hplain : play (rest.map Event.inherent) (q.serve s).2 =
          play (rest.map Event.inherent) (q.inherent.serve s).2 := by rw [hnext]
      rw [hplain] at hlater hlast
      exact ⟨.request hagrees hlater, hlast⟩
    | outside change =>
      obtain ⟨hlater, hlast⟩ := ih (s := s.withFlash (change s.device.flash)) hread hs
      exact ⟨.outside hlater, hlast⟩

/-! ## Runs of a new device -/

/-- A request to discard a block checks its index. -/
theorem Request.serve_discard (arg : Nat) (s : Shared (Device r σ κ)) :
    (Request.store (.control 6 arg)).serve s =
      ({ outcome :=
          if arg < r.blockCount then .ok (.number 0)
          else .error (.outOfRange ⟨arg, r.blockCount⟩) }, s) := by
  show onDevice (Answer.query .number (do let _ ← Device.locate r arg; return 0)) s = _
  unfold onDevice Answer.query
  rw [bind_pure_apply, Device.locate, Region.translate_eq]
  by_cases h : arg < r.blockCount
  · simp only [h, if_true]
    rfl
  · simp only [h, if_false]
    rfl

/-- **The surfaces of a device agree**, but for bytes that a read does not set. In every state in
which the lock is free, as it is between requests, and over any driver:

* a request to a block device or to a shared device, one by number among them, answers what its
  counterpart among the device's own functions answers, after the same accesses, and leaves the same
  device; so does a run whose calls are exchanged for their counterparts. For a read into the
  caller's buffer the driver has to fill buffers without a look at what they hold, or set all of
  them, or the buffer has to hold zeros, or the page of the block has to be in the cache; in a run
  the reads may differ in which of the latter two it is. A byte that the driver is asked for, and
  that it reports read without setting it, is 0 to the counterpart and in the buffer it stays as it
  was; every other byte is the same. In the last three of these cases the whole answer is the same;
* to discard a block succeeds with 0 exactly if the block is there, and does nothing; a cache
  invalidation by number drops what the processor has cached once; to any block store both answer 0
  and do nothing, and every other number is answered alike;
* what is neither a read, a write, a sync nor an initialisation makes no access and leaves the cache
  and the state;
* a run drops what the processor has cached as often as it asks for that or syncs with success, in
  its self-tests too. -/
theorem surfaces_agree (hs : s.held = false) :
    (∀ q : Request r,
      FlashDriver.ReadsBlindly σ ∨ FlashDriver.SetsAll σ ∨ q.Blank ∨ q.Cached s.device →
      q.Agrees s.device (q.inherent.serve s).1 (q.serve s).1 ∧
        (q.serve s).2 = (q.inherent.serve s).2 ∧
        (q.serve s.traced).2 = (q.inherent.serve s.traced).2) ∧
      (∀ events : List (Event r σ),
        FlashDriver.ReadsBlindly σ ∨ FlashDriver.SetsAll σ ∨
          (∀ q, Event.request q ∈ events → q.Blank) ∨
          Resides r s.device.cache ∧ Session.Sheltered events s →
        let plain := events.map Event.inherent
        Session.Agree events s (Session.play plain s).1 (Session.play events s).1 ∧
          (Session.play events s).2 = (Session.play plain s).2 ∧
          (Session.play (events.map Event.traced) s.traced).2 =
            (Session.play (plain.map Event.traced) s.traced).2) ∧
      (∀ arg,
        (Request.store (.control 6 arg)).serve s =
            ({ outcome :=
                if arg < r.blockCount then .ok (.number 0)
                else .error (.outOfRange ⟨arg, r.blockCount⟩) }, s) ∧
          (Request.store (.control 0x100 arg)).serve s =
            ({ outcome := .ok (.number 0) }, { s with device := s.device.invalidated }) ∧
          (∀ code, code = 6 ∨ code = 0x100 →
            (Request.store (.storeControl code arg)).serve s =
              ({ outcome := .ok (.number 0) }, s)) ∧
          ∀ code, code ≠ 6 → code ≠ 0x100 →
            (Request.store (.storeControl code arg)).serve s =
              (Request.store (.control code arg)).serve s) ∧
      (∀ op : Operation r, op.span? = none → op.isSync = false → op.toRequest.isInit = false →
        (op.serve s).2.device =
            (if op.isInvalidation then s.device.invalidated else s.device) ∧
          (op.serve s.traced).2.device =
            if op.isInvalidation then s.traced.device.invalidated else s.traced.device) ∧
      ∀ events : List (Event r σ),
        (Session.play events s).2.device.cacheControl =
          CacheMaintenance.invalidateAll^[Session.invalidations (Session.performed events s)]
            s.device.cacheControl := by
  refine ⟨?_, ?_, ?_, ?_, ?_⟩
  · intro q hread
    obtain ⟨hagrees, hnext⟩ := q.serve_inherent hs hread
    refine ⟨hagrees, hnext, ?_⟩
    exact (q.serve_inherent (s := s.traced) hs
      (hread.imp Traced.readsBlindly (Or.imp_left Traced.setsAll))).2
  · intro events hread plain
    have hsheltered : FlashDriver.ReadsBlindly σ ∨ FlashDriver.SetsAll σ ∨
        Session.Sheltered events s := by
      rcases hread with hblind | hall | hblank | ⟨-, hrun⟩
      · exact .inl hblind
      · exact .inr (.inl hall)
      · exact .inr (.inr (Session.sheltered_of_blank hblank s))
      · exact .inr (.inr hrun)
    obtain ⟨hagree, hlast⟩ := Session.play_inherent hsheltered hs
    refine ⟨hagree, hlast, ?_⟩
    rw [Event.map_traced_inherent]
    refine (Session.play_inherent (s := s.traced) ?_ hs).2
    refine hread.imp Traced.readsBlindly (Or.imp Traced.setsAll ?_)
    rintro (hblank | ⟨hr, hrun⟩)
    · exact Session.sheltered_of_blank (fun q hq => hblank q (Event.request_mem_traced.mp hq)) _
    · exact hrun.traced (Shared.twin_traced hr)
  · intro arg
    refine ⟨Request.serve_discard arg s, rfl, ?_, ?_⟩
    · rintro code (rfl | rfl) <;> rfl
    · intro code herase hirq
      exact congrArg (fun served => (served.1, { s with device := served.2 }))
        (StoreRequest.serve_storeControl herase hirq s.device)
  · intro op hspan hsync hinit
    have hnone : op.toRequest.isInit = true → False := by simp [hinit]
    exact ⟨op.serve_idle hs (fun h => (hnone h).elim) hspan hsync,
      op.serve_idle (s := s.traced) hs (fun h => (hnone h).elim) hspan hsync⟩
  · exact fun events => Session.play_cacheControl events hs

/-- A block is read on another surface, into a buffer with something in it: from the cached page,
and over a flash in memory. Then two numbered syncs of the first device succeed, with an
invalidation by number and a self-test in between. -/
theorem surfaces_agree_on_small_chip :
    let d : Device Chip.smallRegion (Chip 16 DriverCall) InvalidationCounter :=
      { flash := Chip.small [], cacheControl := {} }
    let s := (Session.play [.request (.own .init), .request (.own (.writeBlock 0 #v[1, 2]))]
      { device := d }).2
    let inMemory : Shared (Device Chip.smallRegion RamFlash InvalidationCounter) :=
      { device := { flash := {}, cacheControl := {} } }
    let read : Request Chip.smallRegion := .shared (.readBlock 0 #[7, 7])
    let events : List (Event Chip.smallRegion (Chip 16 DriverCall)) :=
      [.request (.store (.control 3 0)), .request (.shared (.writeBlock 1 #[3, 4])),
        .request (.store (.control 0x100 0)), .request .selfTest,
        .request (.store (.storeControl 2 0))]
    (s.held = false ∧ read.Cached s.device ∧ inMemory.held = false ∧
        (read.inherent.serve s).1.outcome = .ok (.bytes #[1, 2])) ∧
      (read.serve s).1.outcome = (read.inherent.serve s).1.outcome ∧
        (read.serve s).2 = (read.inherent.serve s).2 ∧
        (read.serve inMemory).1.outcome = (read.inherent.serve inMemory).1.outcome ∧
        Session.Agree events s (Session.play (events.map Event.inherent) s).1
          (Session.play events s).1 ∧
        (Session.play events s).2 = (Session.play (events.map Event.inherent) s).2 ∧
        (Session.play events s).2.device.cacheControl = ⟨5⟩ := by
  intro d s inMemory read events
  have hs : s.held = false := by decide +kernel
  have hcached : read.Cached s.device := by
    rintro block buffer ⟨⟩
    decide +kernel
  obtain ⟨hrequest, hrun, -, -, hcount⟩ := surfaces_agree hs
  obtain ⟨hread, hnext, -⟩ := hrequest read (.inr (.inr (.inr hcached)))
  obtain ⟨hagree, hlast, -⟩ := hrun events (.inl (Chip.readsBlindly 16))
  obtain ⟨hmemory, -⟩ := (surfaces_agree (s := inMemory) rfl).1 read (.inr (.inl RamFlash.setsAll))
  have hdropped := hcount events
  have hfive : Session.invalidations (Session.performed events s) = 5 := by decide +kernel
  have hstart : s.device.cacheControl = ⟨0⟩ := by decide +kernel
  refine ⟨⟨hs, hcached, rfl, by decide +kernel⟩, hread.delivers rfl (.inr (.inr hcached)), hnext,
    hmemory.delivers rfl (.inl RamFlash.setsAll), hagree, hlast, ?_⟩
  rw [hdropped, hfive, hstart]
  rfl

/-- **A read that sets no byte and reports success tells the surfaces apart.** The device's own
function delivers the zeros of its own buffer, the other one what was in the caller's. -/
theorem surfaces_differ_on_unset_bytes :
    let d := Chip.smallDevice [⟨.read, 0, 2, none, 0⟩]
    let s := (Session.play [.request (.own .init)] { device := d }).2
    let read : Request Chip.smallRegion := .store (.readBlock 0 #[0xCC, 0xCC])
    read.inherent? = some (.readBlock 0) ∧
      (read.inherent.serve s).1.outcome = .ok (.bytes #[0, 0]) ∧
      (read.serve s).1.outcome = .ok (.bytes #[0xCC, 0xCC]) := by
  intro d s read
  refine ⟨rfl, ?_, ?_⟩ <;> decide +kernel

end FlashDisk
