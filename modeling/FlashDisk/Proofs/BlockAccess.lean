import FlashDisk.Device
import FlashDisk.Proofs.Contents

/-!
# Single blocks on a device

What the read and the write of one block do to a device.

* `readInto_leaves`, `writeFrom_flash`: a read changes only the flash, by one access at most; a
  write leaves of the flash what the load of its page leaves.
* `Still v d d'`: the cache is as before and the flash holds what it held. A block read never
  does more (`readInto_still`).
* `Shows v m d`: the device shows the memory `m`. A block write lays its data over `m` if it
  succeeds and changes nothing if it fails (`writeFrom_shows`); a block read that succeeds
  delivers the block of `m`, from the cache or from the flash (`readInto_delivers`).
* `Resides r c`: a cached page is a page of the region. It is what ties the two cases of a read
  together: a page that does not hold the block as a whole holds no byte of it.
-/

namespace FlashDisk

/-- A cached page is a page of the region. -/
def Resides (r : Region) (c : PageCache r.pageSize) : Prop :=
  ∀ base, c.resident = some base → r.IsPage base

theorem resides_of_none {r : Region} {c : PageCache r.pageSize} (h : c.resident = none) :
    Resides r c := by
  intro base hbase
  rw [h] at hbase
  cases hbase

namespace Device

open Call

variable {r : Region} {σ κ ε α : Type} {v : FlashView σ} {n : Nat} {d d' d'' : Device r σ κ}

/-- The device shows a memory. -/
def Shows (v : FlashView σ) (m : Nat → UInt8) (d : Device r σ κ) : Prop :=
  PageCache.Shows v m (d.cache, d.flash)

/-- The device has its cache as before, and its flash holds what it held. -/
structure Still (v : FlashView σ) (d d' : Device r σ κ) : Prop where
  cache_eq : d'.cache = d.cache
  same : v.Same d.flash d'.flash
  ready : d.state = .ready → d'.state = .ready

theorem Still.refl (h : v.Sound d.flash) : Still v d d := ⟨rfl, .refl h, id⟩

theorem Still.trans (h : Still v d d') (h' : Still v d' d'') : Still v d d'' :=
  ⟨h'.cache_eq.trans h.cache_eq, h.same.trans h'.same, h'.ready ∘ h.ready⟩

theorem Still.shows {m : Nat → UInt8} (h : Still v d d') (hm : d.Shows v m) : d'.Shows v m := by
  unfold Shows
  rw [h.cache_eq]
  exact PageCache.Shows.same hm h.same

/-- A new device has no page cached. -/
theorem eq_of_create {blockSize pageSize : Nat} {flash : σ} {cacheControl : κ}
    (hd : create blockSize pageSize flash cacheControl r = .ok d) :
    d = { flash, cacheControl } := by
  unfold create at hd
  split at hd
  · exact (Except.ok.inj hd).symm
  · cases hd

/-- A block whose page is not resident lies on the flash. -/
theorem memory_of_not_resident {b : Nat} (hr : Resides r d.cache)
    (hb : d.residentPage ≠ some (r.pageOf b)) {i : Nat} (hi : i < r.blockSize) :
    PageCache.memory v d.cache d.flash (r.blockAddr b + i) =
      v.byte d.flash (r.blockAddr b + i) := by
  cases h : d.cache.resident with
  | none => rw [PageCache.memory_of_none h]
  | some base =>
    refine PageCache.memory_outside h fun hin => hb ?_
    rw [← Region.pageBase_blockAddr_add hi, Region.pageBase_eq (hr base h).dvd hin.1 hin.2]
    exact h

theorem ends_locate {τ : Type} {b : Nat} {s : τ} {Q : Nat → τ → Prop}
    {E : Option DeviceError → τ → Prop} :
    (locate r b).Ends s Q E ↔
      if b < r.blockCount then Q (r.blockAddr b) s
      else E (some (.outOfRange ⟨b, r.blockCount⟩)) s := by
  unfold locate
  rw [Region.translate_eq]
  by_cases h : b < r.blockCount
  · simp only [h, if_true]
    rfl
  · simp only [h, if_false]
    rfl

theorem ends_ensureReady {Q : Unit → Device r σ κ → Prop}
    {E : Option DeviceError → Device r σ κ → Prop} :
    ensureReady.Ends d Q E ↔
      match d.state with
      | .ready => Q () d
      | .uninitialized => E (some .notInitialized) d := by
  rcases d with ⟨_, _, _, _ | _⟩ <;> rfl

theorem ensureReady_bind_of_ready (h : d.state = .ready)
    (f : Unit → Call (Device r σ κ) DeviceError α) : (ensureReady >>= f) d = f () d := by
  unfold ensureReady
  simp only [bind_apply, get_apply, h, pure_apply]

theorem ensureReady_bind_of_uninitialized (h : d.state = .uninitialized)
    (f : Unit → Call (Device r σ κ) DeviceError α) :
    (ensureReady >>= f) d = (.error .notInitialized, d) := by
  unfold ensureReady
  simp only [bind_apply, get_apply, h, fail_apply]

variable [FlashDriver σ]

/-! ## Reading a block -/

/-- A read changes nothing of the device but the flash, and that by one access at most. So what
holds of the device, and after such an access, holds after the read. -/
theorem readInto_leaves {P : Device r σ κ → Prop} {b : Nat} (kept : P d)
    (fetched : ∀ out : Block r, b < r.blockCount →
      P { d with flash := (FlashDriver.read (r.blockAddr b) (d.flash, out)).2.1 })
    (buffer : Block r) : P (readInto b (d, buffer)).2.1 := by
  refine Ends.always (I := fun x : Device r σ κ × Block r => P x.1) ?_
  simp only [readInto, onSnd, ends_bind, ends_locate, ends_get, ends_zoom]
  split
  · next hb =>
    refine (ends_somehow _ _).mono (fun hit out _ => ?_) fun _ _ _ => kept
    split
    · simp only [fetch, ends_zoom, ends_mapError]
      exact ends_of_always (fetched out hb)
    · exact kept
  · exact kept

/-- A read leaves the device still, over any flash whose accesses stay in their range. -/
theorem readInto_still (hv : v.Local) (hd : v.Sound d.flash) (b : Nat) (buffer : Block r) :
    (readInto b).Ends (d, buffer) (fun _ x => Still v d x.1) fun _ x => Still v d x.1 := by
  have hstill : Still v d (readInto b (d, buffer)).2.1 :=
    readInto_leaves (.refl hd) (fun _ _ => ⟨rfl, hv.read _ _ _ hd, id⟩) buffer
  exact ends_of_always hstill

/-- **A read that succeeds delivers the block that the device shows.** -/
theorem readInto_delivers {m : Nat → UInt8} (hv : v.Honest r.pageSize) (hm : d.Shows v m)
    (hr : Resides r d.cache) (b : Nat) (buffer : Block r) :
    (readInto b).Ends (d, buffer) (fun _ x => x.2 = Contents.ofMemory r m b) fun _ _ => True := by
  simp only [readInto, ends_bind, ends_locate, ends_get]
  split
  · simp only [onSnd, ends_zoom]
    refine (PageCache.readSpan_ends hm (r.pageOf b) (r.pageOffset (r.blockAddr b)) buffer).mono ?_
      fun _ _ _ => trivial
    intro hit buffer' h
    split at h
    · obtain ⟨rfl, hbuf⟩ := h
      have heq : buffer' = Contents.ofMemory r m b := by
        apply Vector.ext
        intro i hi
        rw [hbuf i hi, Contents.getElem_ofMemory hi, Region.pageOf, r.pageBase_add_pageOffset]
      exact heq
    · next hmiss =>
      obtain ⟨rfl, rfl⟩ := h
      simp only [Bool.not_false, if_true, fetch, ends_zoom, ends_mapError]
      refine (hv.read_ends hm.sound buffer').mono ?_ fun _ _ _ => trivial
      rintro _ ⟨f, out⟩ ⟨-, hread⟩
      apply Vector.ext
      intro i hi
      rw [hread i hi, Contents.getElem_ofMemory hi, ← memory_of_not_resident hr hmiss hi]
      exact congrFun hm.memory_eq _
  · trivial

/-! ## Writing a block -/

theorem offset_fits (r : Region) (b : Nat) :
    r.pageOf b + r.pageOffset (r.blockAddr b) = r.blockAddr b ∧
      r.pageOffset (r.blockAddr b) + r.blockSize ≤ r.pageSize :=
  ⟨r.pageBase_add_pageOffset _, r.pageOffset_add_le b⟩

/-- A write into the page of its block does not trap. -/
theorem writeSpan_block {c : PageCache r.pageSize} {b : Nat} (hc : c.resident = some (r.pageOf b))
    (data : Block r) :
    (PageCache.writeSpan (r.pageOffset (r.blockAddr b)) data : Call _ ε Unit).Ends c
      (fun _ c' => ∃ buffer, c' = { c with buffer, dirty := true }) fun _ _ => False := by
  simp only [PageCache.writeSpan, ends_bind, ends_get]
  split
  · exact ⟨_, rfl⟩
  · next htrap => exact htrap ⟨by rw [hc]; rfl, (offset_fits r b).2⟩

/-- **A write lays its data over what the device shows, or fails and changes nothing of it.** -/
theorem writeFrom_shows {m : Nat → UInt8} (hv : v.Honest r.pageSize) (hm : d.Shows v m) (b : Nat)
    (data : Block r) :
    (writeFrom b data).Ends d (fun _ => Shows v (Bytes.overlaid m (r.blockAddr b) data))
      fun _ => Shows v m := by
  simp only [writeFrom, onCache, onPage, ends_bind, ends_locate, ends_zoom, ends_mapError]
  split
  · refine ((PageCache.load_ends hv hm (r.pageOf b)).and (PageCache.load_holds _ _)).mono ?_
      fun _ _ h => h.1
    rintro _ ⟨c, f⟩ ⟨hc, hres⟩
    refine ((PageCache.writeSpan_ends hc _ data).and (writeSpan_block hres data)).mono ?_
      fun _ _ h => h.2.elim
    rintro _ c' ⟨⟨base, hbase, -, -, hshows⟩, -⟩
    obtain rfl : r.pageOf b = base := Option.some.inj (hres.symm.trans hbase)
    rwa [(offset_fits r b).1] at hshows
  · exact hm

/-- A write leaves of the flash what the load of its page leaves. -/
theorem writeFrom_flash {P : σ → Prop} {b : Nat} (kept : P d.flash)
    (loaded : P (PageCache.load (r.pageOf b) (d.cache, d.flash)).2.2) (data : Block r) :
    P (writeFrom b data d).2.flash := by
  refine Ends.always (I := fun d' : Device r σ κ => P d'.flash) ?_
  simp only [writeFrom, onCache, onPage, ends_bind, ends_locate, ends_zoom, ends_mapError]
  split
  · refine ends_of_result (fun _ _ => ?_) fun _ _ => loaded
    exact ends_of_always loaded
  · exact kept

/-- What a write leaves in the cache, over any driver: the page of the block with writes in it,
or else the old page, or none. -/
theorem writeFrom_leaves (b : Nat) (data : Block r) (d : Device r σ κ) :
    (writeFrom b data).Ends d
      (fun _ d' => b < r.blockCount ∧ d'.state = d.state ∧ d'.cache.resident = some (r.pageOf b) ∧
        d'.cache.dirty = true ∧ (d.residentPage = some (r.pageOf b) → d'.flash = d.flash))
      fun _ d' => d'.state = d.state ∧
        (d'.cache = d.cache ∨ ∃ buffer, d'.cache = { d.cache.evicted with buffer }) := by
  simp only [writeFrom, onCache, onPage, ends_bind, ends_locate, ends_zoom, ends_mapError]
  split
  · next hb =>
    refine ((PageCache.load_leaves _ _).and (PageCache.load_holds _ _)).mono ?_
      fun _ _ h => ⟨trivial, h.1⟩
    rintro _ ⟨c, f⟩ ⟨hleft, hres⟩
    refine (writeSpan_block hres data).mono ?_ fun _ _ h => h.elim
    rintro _ _ ⟨buffer, rfl⟩
    refine ⟨hb, trivial, hres, rfl, ?_⟩
    intro hsame
    have hstays : (c, f) = (d.cache, d.flash) := by
      split at hleft
      · exact hleft
      · next hother => exact absurd hsame hother
    exact congrArg Prod.snd hstays
  · exact ⟨trivial, .inl trivial⟩

end Device

end FlashDisk
