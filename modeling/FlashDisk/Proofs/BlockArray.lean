import FlashDisk.Proofs.ChipFlash
import FlashDisk.Proofs.Operations

/-!
# A device is a plain array of blocks

The contents of a device are the blocks of the memory that its cache over its flash shows. Over
an honest flash every move of the device is a step of the array: a block write that is carried
out replaces one block, and nothing else that happens, at whichever access it fails, changes
any block.

* `Coherent`: the flash is sound, a cached page is a page of the region, and without pending
  writes the flash alone shows the contents. Every move keeps it (`Move.coherent`).
* `Moves.coherent`, `serve_contents`, `run_contents`: the contents follow the journal.
* `Operation.Refines`: what an operation answers and does, in terms of the array.
* `behaves_as_array`: in every state that a new device comes to, every operation does that.
-/

namespace FlashDisk

namespace Device

open Call

variable {r : Region} {σ κ : Type} {v : FlashView σ} {d d' : Device r σ κ}

/-- The byte at an address, of the cached page or else of the flash. -/
def memory (v : FlashView σ) (d : Device r σ κ) : Nat → UInt8 := PageCache.memory v d.cache d.flash

/-- What the blocks of the device hold. -/
def contents (v : FlashView σ) (d : Device r σ κ) : Contents r := .ofMemory r (d.memory v)

/-- The parts of the device fit together. -/
structure Coherent (v : FlashView σ) (d : Device r σ κ) : Prop where
  sound : v.Sound d.flash
  clean : d.hasPendingWrites = false → v.byte d.flash = d.memory v
  resides : Resides r d.cache

theorem Coherent.shows (h : d.Coherent v) : d.Shows v (d.memory v) := ⟨h.sound, rfl, h.clean⟩

theorem Shows.coherent {m : Nat → UInt8} (h : d.Shows v m) (hr : Resides r d.cache) :
    d.Coherent v :=
  ⟨h.sound, fun hd => (h.clean hd).trans h.memory_eq.symm, hr⟩

theorem Shows.contents_eq {m : Nat → UInt8} (h : d.Shows v m) : d.contents v = .ofMemory r m :=
  congrArg (Contents.ofMemory r) h.memory_eq

/-- A new device shows what is on its flash. -/
theorem shows_of_create {blockSize pageSize : Nat} {flash : σ} {cacheControl : κ}
    (hf : v.Sound flash) (hd : create blockSize pageSize flash cacheControl r = .ok d) :
    d.Shows v (v.byte flash) ∧ Resides r d.cache := by
  obtain rfl := eq_of_create hd
  exact ⟨PageCache.shows_self hf, resides_of_none rfl⟩

/-! ## Moves are steps of the array -/

variable [FlashDriver σ] {js : List (JournalEntry r)}

/-- A page that a flush leaves was there before. -/
theorem resides_flush (hr : Resides r d.cache) : Resides r (onCache PageCache.flush d).2.cache := by
  have h : PageCache.flush.Ends (d.cache, d.flash) (fun _ x => Resides r x.1)
      fun _ x => Resides r x.1 := by
    refine (PageCache.flush_leaves (d.cache, d.flash)).mono ?_ ?_
    · intro _ x hx
      rw [hx]
      exact resides_of_none (PageCache.resident_evicted _)
    · intro _ x hx
      rw [hx]
      exact hr
  exact h.always (I := fun x : _ × σ => Resides r x.1)

/-- A page that a write leaves is that of its block, or was there before. -/
theorem resides_writeBlock (hr : Resides r d.cache) (b : Nat) (data : Block r) :
    Resides r (writeBlock b data d).2.cache := by
  cases hd : d.state with
  | uninitialized =>
    rw [writeBlock_of_uninitialized hd]
    exact hr
  | ready =>
    rw [writeBlock_of_ready hd]
    have h : (writeFrom b data).Ends d (fun _ d' => Resides r d'.cache)
        fun _ d' => Resides r d'.cache := by
      refine (writeFrom_leaves b data d).mono ?_ ?_
      · rintro _ d' ⟨hb, -, hpage, -⟩ base hbase
        rw [hpage] at hbase
        obtain rfl := Option.some.inj hbase
        exact Region.isPage_pageOf hb
      · rintro _ d' ⟨-, hsame | ⟨buffer, hnone⟩⟩
        · rw [hsame]
          exact hr
        · rw [hnone]
          exact resides_of_none (PageCache.resident_evicted d.cache)
    exact h.always (I := fun d' : Device r σ κ => Resides r d'.cache)

theorem shows_flush {m : Nat → UInt8} (hv : v.Honest r.pageSize) (hm : d.Shows v m) :
    (onCache PageCache.flush d).2.Shows v m :=
  (PageCache.flush_ends hv hm).always (I := PageCache.Shows v m)

theorem shows_writeBlock_of_ok {m : Nat → UInt8} (hv : v.Honest r.pageSize) (hm : d.Shows v m)
    {w : BlockWrite r} (h : (writeBlock w.block w.data d).1 = .ok ()) :
    (writeBlock w.block w.data d).2.Shows v (Bytes.overlaid m (r.blockAddr w.block) w.data) := by
  cases hd : d.state with
  | uninitialized =>
    rw [writeBlock_of_uninitialized hd] at h
    cases h
  | ready =>
    rw [writeBlock_of_ready hd] at h ⊢
    exact (writeFrom_shows hv hm w.block w.data).of_fst h

theorem shows_writeBlock_of_not_ok {m : Nat → UInt8} (hv : v.Honest r.pageSize) (hm : d.Shows v m)
    {w : BlockWrite r} (h : ∀ u, (writeBlock w.block w.data d).1 ≠ .ok u) :
    (writeBlock w.block w.data d).2.Shows v m := by
  cases hd : d.state with
  | uninitialized =>
    rw [writeBlock_of_uninitialized hd]
    exact hm
  | ready =>
    rw [writeBlock_of_ready hd] at h ⊢
    obtain ⟨_, hshows⟩ := (writeFrom_shows hv hm w.block w.data).of_not_ok h
    exact hshows

/-- **A move keeps the device coherent, and its contents follow the journal.** -/
theorem Move.coherent (hv : v.Honest r.pageSize) (h : Move v d js d') (hd : d.Coherent v) :
    d'.Coherent v ∧ d'.contents v = (d.contents v).after (writesOf js) := by
  cases h with
  | still h =>
    have hm := h.shows hd.shows
    refine ⟨hm.coherent ?_, hm.contents_eq⟩
    rw [h.cache_eq]
    exact hd.resides
  | flush =>
    have hm := shows_flush hv hd.shows
    exact ⟨hm.coherent (resides_flush hd.resides), hm.contents_eq⟩
  | write w h =>
    have hm := shows_writeBlock_of_ok hv hd.shows h
    refine ⟨hm.coherent (resides_writeBlock hd.resides _ _), ?_⟩
    rw [hm.contents_eq, Contents.ofMemory_overlaid]
    rfl
  | failed w h =>
    have hm := shows_writeBlock_of_not_ok hv hd.shows h
    exact ⟨hm.coherent (resides_writeBlock hd.resides _ _), hm.contents_eq⟩

theorem Moves.coherent (hv : v.Honest r.pageSize) (h : Moves v d js d') (hd : d.Coherent v) :
    d'.Coherent v ∧ d'.contents v = (d.contents v).after (writesOf js) := by
  refine h.preserve (I := fun hist d' => d'.Coherent v ∧
    d'.contents v = (d.contents v).after (writesOf hist)) ?_ ⟨hd, rfl⟩
  rintro hist d₁ js d₂ m ⟨hd₁, hcontents₁⟩
  obtain ⟨hd₂, hcontents₂⟩ := m.coherent hv hd₁
  refine ⟨hd₂, ?_⟩
  rw [hcontents₂, hcontents₁, writesOf_append, Contents.after_append]

end Device

variable {r : Region} {σ κ : Type} {v : FlashView σ} [FlashDriver σ] [CacheMaintenance κ]

/-! ## Runs of operations -/

/-- After any run the device is coherent, and its contents are those it began with after the
writes that were carried out. -/
theorem run_contents (hv : v.Honest r.pageSize) (ops : List (Operation r))
    {s : Shared (Device r σ κ)} (hs : s.held = false) (hd : s.device.Coherent v) :
    (Session.after ops s).device.Coherent v ∧
      (Session.after ops s).device.contents v =
        (s.device.contents v).after (Session.writes ops s) :=
  (Session.run_moves hv.toLocal ops hs hd.sound).coherent hv hd

namespace Operation

open Call

variable {s : Shared (Device r σ κ)} {op : Operation r}

/-- After an operation the device is coherent, and its contents are those before it after the
writes that were carried out. -/
theorem serve_contents (hv : v.Honest r.pageSize) (hs : s.held = false) (hd : s.device.Coherent v)
    (op : Operation r) :
    (op.serve s).2.device.Coherent v ∧
      (op.serve s).2.device.contents v = (s.device.contents v).after (op.writes s) :=
  (op.serve_moves hs hv.toLocal hd.sound).coherent hv hd

theorem reads_own (hv : v.Honest r.pageSize) (hd : s.device.Coherent v) {request : DeviceRequest r}
    {start n : Nat} {value : Reply} (hop : (own request).readRange? = some (start, n))
    (hok : ((own request).serve s).1.outcome = .ok value) :
    value = .bytes ((s.device.contents v).bytes start n) := by
  cases request with
  | readBlock block =>
    obtain ⟨rfl, rfl⟩ := Prod.mk.inj (Option.some.inj hop)
    obtain ⟨data, hdata, rfl⟩ := Outcome.map_eq_ok_iff.mp hok
    rw [(Device.readBlock_delivers hv hd.shows hd.resides block).of_fst hdata]
    exact congrArg Reply.bytes (Contents.toArray_eq_bytes fun j hj => Contents.getElem_ofMemory hj)
  | readBlocks first buffer =>
    obtain ⟨rfl, rfl⟩ := Prod.mk.inj (Option.some.inj hop)
    obtain ⟨_, hdata, rfl⟩ := Outcome.map_eq_ok_iff.mp hok
    have h := Device.readBlocks_delivers hv hd.shows hd.resides first buffer.toVector
    exact congrArg Reply.bytes (h.of_fst hdata)
  | _ => cases hop

theorem reads_store (hv : v.Honest r.pageSize) (hd : s.device.Coherent v) {request : StoreRequest}
    {start n : Nat} {value : Reply}
    (hop : (store request : Operation r).readRange? = some (start, n))
    (hok : ((store request : Operation r).serve s).1.outcome = .ok value) :
    value = .bytes ((s.device.contents v).bytes start n) := by
  cases request with
  | readBlock block buffer =>
    obtain ⟨rfl, rfl⟩ := Prod.mk.inj (Option.some.inj hop)
    obtain ⟨_, hdata, rfl⟩ := Outcome.map_eq_ok_iff.mp hok
    have h := Device.readExactly_delivers hv hd.shows hd.resides block buffer.toVector
    exact congrArg Reply.bytes (h.of_fst hdata)
  | _ => cases hop

/-- **A read of any form that succeeds delivers the contents.** -/
theorem reads_contents (hv : v.Honest r.pageSize) (hs : s.held = false) (hd : s.device.Coherent v)
    {start n : Nat} {value : Reply} (hop : op.readRange? = some (start, n))
    (hok : (op.serve s).1.outcome = .ok value) :
    value = .bytes ((s.device.contents v).bytes start n) := by
  cases op with
  | own request => exact reads_own hv hd hop hok
  | store request => exact reads_store hv hd hop hok
  | shared request =>
    rw [serve_shared hs] at hok
    cases request with
    | readBlock block buffer =>
      have hop' : (store (.readBlock block buffer) : Operation r).readRange? = some (start, n) :=
        hop
      exact reads_store hv hd hop' hok
    | _ => cases hop

/-- What the operation answers and does is what it would do to the array `m`. -/
structure Refines (v : FlashView σ) (op : Operation r) (m : Contents r)
    (s : Shared (Device r σ κ)) : Prop where
  /-- The device has the contents of the array. -/
  before : s.device.contents v = m
  /-- A read that succeeds delivers blocks of the array. -/
  reads : ∀ start n value, op.readRange? = some (start, n) → (op.serve s).1.outcome = .ok value →
    value = .bytes (m.bytes start n)
  /-- The array changes by the writes that are carried out. -/
  next : (op.serve s).2.device.contents v = m.after (op.writes s)
  /-- An operation that succeeds has carried out all the writes it asks for. -/
  done : ∀ value, (op.serve s).1.outcome = .ok value → op.writes s = op.blockWrites
  /-- An operation that fails, other than a multi-block write, has carried out none. -/
  failed : (∀ value, (op.serve s).1.outcome ≠ .ok value) →
    (∀ start data, op ≠ own (.writeBlocks start data)) → op.writes s = []
  /-- Nor has a multi-block write that is refused. -/
  refused : ∀ e, (op.serve s).1.outcome = .error e → (∀ f, e ≠ .flash f) → op.writes s = []
  /-- A multi-block write that fails for the flash has carried out the writes before the one that it
  failed at, which by itself fails in this way. -/
  stopped : ∀ start data f, op = own (.writeBlocks start data) →
    (op.serve s).1.outcome = .error (.flash f) → ∃ k w, op.blockWrites[k]? = some w ∧
      op.writes s = op.blockWrites.take k ∧
      Device.writeBlock w.block w.data (Device.writeAll (op.blockWrites.take k) s.device).2 =
        (.error (.flash f), (op.serve s).2.device)

/-- Apart from multi-block writes, an operation asks for one write at most. -/
theorem blockWrites_of_not_multi (h : ∀ start data, op ≠ own (.writeBlocks start data)) :
    op.blockWrites = [] ∨ ∃ w, op.blockWrites = [w] := by
  have exact_cases : ∀ {n : Nat} (block : Nat) (data : Vector UInt8 n),
      exactWrite r block data = [] ∨ ∃ w, exactWrite r block data = [w] := by
    intro n block data
    unfold exactWrite
    split
    · exact .inr ⟨_, rfl⟩
    · exact .inl rfl
  cases op with
  | own request =>
    cases request with
    | writeBlock block data => exact .inr ⟨_, rfl⟩
    | writeBlocks start data => exact absurd rfl (h start data)
    | _ => exact .inl rfl
  | store request =>
    cases request with
    | writeBlock block data => exact exact_cases block data.toVector
    | _ => exact .inl rfl
  | shared request =>
    cases request with
    | writeBlock block data => exact exact_cases block data.toVector
    | _ => exact .inl rfl

/-- **On a coherent device every operation refines the step of the array.** -/
theorem refines (hv : v.Honest r.pageSize) (hs : s.held = false) (hd : s.device.Coherent v)
    (op : Operation r) : op.Refines v (s.device.contents v) s where
  before := rfl
  reads start n value hop hok := reads_contents hv hs hd hop hok
  next := (op.serve_contents hv hs hd).2
  done value hok := writes_of_ok hs op hok
  failed hfail hmulti := by
    unfold writes
    cases served hs hv.toLocal hd.sound op with
    | quiet asks => rw [journal_of_no_writes op asks]; rfl
    | refused h => rw [h.journal]; rfl
    | performed h =>
      rw [h.journal]
      obtain hnone | ⟨w, hone⟩ := blockWrites_of_not_multi hmulti
      · rw [hnone]
        rfl
      · have houtcome := h.outcome
        rw [hone, Device.writeAll_singleton] at houtcome
        rw [hone, Device.journal_of_fails (fun u hu => ?_)]
        · rfl
        · rw [hu] at houtcome
          exact hfail _ houtcome
  refused e he hother := by
    unfold writes
    rw [journal_of_refused op he hother]
    rfl
  stopped start data f hop he := by
    subst hop
    obtain h | h := served_writeBlocks (s := s) start data
    · obtain ⟨e, he', hother⟩ := h.outcome
      rw [he] at he'
      obtain rfl := Outcome.error.inj he'
      exact absurd rfl (hother f)
    · have hfails := Outcome.map_eq_error_iff.mp (h.outcome.symm.trans he)
      obtain ⟨k, w, hw, hjournal, hlast⟩ :=
        Device.writeAll_fails _ s.device _ (.flash f) (Prod.ext hfails rfl)
      refine ⟨k, w, hw, ?_, ?_⟩
      · unfold writes
        rw [h.journal, hjournal]
      · rw [h.device]
        exact hlast

end Operation

/-- After any run on a coherent device every operation refines the step of the array that took
the writes of the run. -/
theorem run_refines (hv : v.Honest r.pageSize) {s : Shared (Device r σ κ)} (hs : s.held = false)
    (hd : s.device.Coherent v) (ops : List (Operation r)) (op : Operation r) :
    op.Refines v ((s.device.contents v).after (Session.writes ops s)) (Session.after ops s) := by
  obtain ⟨hcoherent, hcontents⟩ := run_contents hv ops hs hd
  rw [← hcontents]
  exact op.refines hv (Session.after_held ops hs) hcoherent

/-- **A device behaves as a plain array of blocks, whatever faults its flash has.** Over an
honest flash, in every state that a new device comes to, every operation refines the step of
the array that started with what the flash held and took the writes carried out so far. -/
theorem behaves_as_array (hv : v.Honest r.pageSize) {flash : σ} (hf : v.Sound flash)
    {blockSize pageSize : Nat} {cacheControl : κ} {d : Device r σ κ}
    (hd : Device.create blockSize pageSize flash cacheControl r = .ok d) (ops : List (Operation r))
    (op : Operation r) :
    op.Refines v ((Contents.ofMemory r (v.byte flash)).after (Session.writes ops { device := d }))
      (Session.after ops { device := d }) := by
  obtain ⟨hshows, hresides⟩ := Device.shows_of_create hf hd
  rw [← hshows.contents_eq]
  exact run_refines (s := { device := d }) hv rfl (hshows.coherent hresides) ops op

/-- The first page is read from the cache after its write-back was cut short and reported
failed. -/
theorem behaves_as_array_on_small_chip :
    let faults : List Fault := [⟨.program, 0, 1, some .failed, 1⟩]
    let s : Shared (Device Chip.smallRegion (Chip 16 DriverCall) NoCache) :=
      { device := Chip.smallDevice faults }
    let ops : List (Operation Chip.smallRegion) :=
      [.own .init, .own (.writeBlock 0 #v[1, 2]), .own (.writeBlock 2 #v[3, 4])]
    (Chip.small faults).Outspoken ∧
      ((Session.after ops s).device.hasPendingWrites = true ∧
        (Operation.serve (.own (.readBlock 0)) (Session.after ops s)).1.outcome =
          .ok (.bytes #[1, 2])) ∧
      Operation.Refines (Chip.view Chip.Outspoken) (.own (.readBlock 0))
        ((Contents.ofMemory _ ((Chip.view Chip.Outspoken).byte (Chip.small faults))).after
          (Session.writes ops s))
        (Session.after ops s) := by
  have hflash : (Chip.small [⟨.program, 0, 1, some .failed, 1⟩]).Outspoken := by decide
  refine ⟨hflash, by decide +kernel, ?_⟩
  exact behaves_as_array (Chip.honest_view (fun _ _ h => h.outspoken) fun _ => id) hflash
    (Chip.create_small _) _ _

end FlashDisk
