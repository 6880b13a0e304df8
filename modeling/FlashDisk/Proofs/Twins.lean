import FlashDisk.Session
import FlashDisk.Proofs.BlockAccess
import FlashDisk.Proofs.Lockstep

/-!
# Devices over flashes that answer alike

Two drivers mirror each other over a region if they answer alike every access that a device
over the region may make: an erase or a program of one whole page of the region, a read of such
a page or of one block. Nothing is asked of any other access. Then two devices that differ in
their flash alone stay so, and answer every request alike: a device makes no other access,
whatever is asked of it and however its driver behaves.

* `Mirrors r g R`: states related by `R` answer alike, with errors related by `g`, and stay
  related.
* `Device.Twin R d d'`: the devices differ in their flash alone, and a cached page is a page of
  the region.
* `load_lockstep`, `readInto_lockstep`, `writeFrom_lockstep`, …: one lemma for each call.
-/

namespace FlashDisk

open Call

variable {r : Region} {σ τ κ : Type} {g : DriverError → DriverError} {R : σ → τ → Prop}

/-- The two drivers answer alike what a device over the region asks. -/
structure Mirrors [FlashDriver σ] [FlashDriver τ] (r : Region) (g : DriverError → DriverError)
    (R : σ → τ → Prop) : Prop where
  init : ∀ x y, R x y → Lockstep g FlashDriver.init x FlashDriver.init y (fun _ => R) R
  erase : ∀ x y base, r.IsPage base → R x y →
    Lockstep g (FlashDriver.erase base r.pageSize) x (FlashDriver.erase base r.pageSize) y
      (fun _ => R) R
  write : ∀ x y base (data : Vector UInt8 r.pageSize), r.IsPage base → R x y →
    Lockstep g (FlashDriver.write base data) x (FlashDriver.write base data) y (fun _ => R) R
  readPage : ∀ x y base (buffer : Vector UInt8 r.pageSize), r.IsPage base → R x y →
    Lockstep g (FlashDriver.read base) (x, buffer) (FlashDriver.read base) (y, buffer)
      (fun _ => Beside R) (Beside R)
  readBlock : ∀ x y block (buffer : Block r), block < r.blockCount → R x y →
    Lockstep g (FlashDriver.read (r.blockAddr block)) (x, buffer)
      (FlashDriver.read (r.blockAddr block)) (y, buffer) (fun _ => Beside R) (Beside R)

/-- A flash error with its cause changed. -/
def FlashError.mapCause (g : DriverError → DriverError) (e : FlashError) : FlashError :=
  { e with cause := g e.cause }

/-- A device error with the cause of a flash error changed. -/
def DeviceError.mapCause (g : DriverError → DriverError) : DeviceError → DeviceError
  | .flash e => .flash (e.mapCause g)
  | e => e

/-! ## Caches -/

namespace PageCache

variable {x : PageCache r.pageSize × σ} {y : PageCache r.pageSize × τ}

/-- Equal caches, with a page of the region if any, over related flashes. -/
structure Twin (R : σ → τ → Prop) (x : PageCache r.pageSize × σ) (y : PageCache r.pageSize × τ) :
    Prop where
  cache_eq : y.1 = x.1
  flash : R x.2 y.2
  resides : Resides r x.1

/-- Alike on such caches, with such left. -/
abbrev Alike {α : Type} (g : DriverError → DriverError) (R : σ → τ → Prop)
    (c : Call (PageCache r.pageSize × σ) FlashError α) (x : PageCache r.pageSize × σ)
    (c' : Call (PageCache r.pageSize × τ) FlashError α) (y : PageCache r.pageSize × τ) : Prop :=
  Lockstep (FlashError.mapCause g) c x c' y (fun _ => Twin R) (Twin R)

theorem update_lockstep {f : PageCache r.pageSize → PageCache r.pageSize} (h : Twin R x y)
    (hf : Resides r (f x.1)) : Alike g R (update f) x (update f) y :=
  lockstep_modify ⟨congrArg f h.cache_eq, h.flash, hf⟩

theorem onFlash_lockstep {c : Call σ DriverError Unit} {c' : Call τ DriverError Unit}
    (phase : Phase) (h : Twin R x y) (hc : Lockstep g c x.2 c' y.2 (fun _ => R) R) :
    Alike g R (onFlash phase c) x (onFlash phase c') y := by
  unfold onFlash onSnd
  refine lockstep_zoom (lockstep_mapError (g := g) (fun _ => rfl) (hc.mono ?_ ?_))
  · exact fun _ _ _ hR => ⟨h.cache_eq, hR, h.resides⟩
  · exact fun _ _ hR => ⟨h.cache_eq, hR, h.resides⟩

variable [FlashDriver σ] [FlashDriver τ]

theorem writeBack_lockstep (hR : Mirrors r g R) {base : Nat} (hb : r.IsPage base)
    (h : Twin R x y) : Alike g R (writeBack base) x (writeBack base) y := by
  refine (onFlash_lockstep .erase h (hR.erase _ _ base hb h.flash)).bind ?_
  rintro _ ⟨c, f⟩ ⟨c', f'⟩ h
  obtain rfl : c' = c := h.cache_eq
  exact lockstep_get_bind (onFlash_lockstep .program h (hR.write _ _ base c'.buffer hb h.flash))

theorem flush_lockstep (hR : Mirrors r g R) (h : Twin R x y) : Alike g R flush x flush y := by
  obtain ⟨c, f⟩ := x
  obtain ⟨c', f'⟩ := y
  obtain rfl : c' = c := h.cache_eq
  refine lockstep_get_bind ?_
  dsimp only
  cases hres : c'.resident with
  | none => exact lockstep_pure h
  | some base =>
    have release : ∀ {x y}, Twin R x y → Alike g R (update (p := r.pageSize) released) x
        (update released) y := fun h => update_lockstep h (resides_of_none rfl)
    by_cases hd : c'.dirty = true
    · simp only [hd, if_true]
      exact (writeBack_lockstep hR (h.resides base hres) h).bind fun _ _ _ h => release h
    · simp only [hd]
      exact release h

theorem fetch_lockstep (hR : Mirrors r g R) {base : Nat} (hb : r.IsPage base) (h : Twin R x y) :
    Alike g R (fetch base) x (fetch base) y := by
  obtain ⟨c, f⟩ := x
  obtain ⟨c', f'⟩ := y
  obtain rfl : c' = c := h.cache_eq
  have next : ∀ {u : σ × Vector UInt8 r.pageSize} {w}, Beside R u w →
      Twin R ({ c' with buffer := u.2 }, u.1) ({ c' with buffer := w.2 }, w.1) := by
    intro u w hu
    exact ⟨by rw [hu.1], hu.2, h.resides⟩
  exact lockstep_zoom (lockstep_mapError (g := g) (fun _ => rfl)
    ((hR.readPage _ _ base c'.buffer hb h.flash).mono (fun _ _ _ => next) fun _ _ => next))

theorem load_lockstep (hR : Mirrors r g R) {base : Nat} (hb : r.IsPage base) (h : Twin R x y) :
    Alike g R (load base) x (load base) y := by
  obtain ⟨c, f⟩ := x
  obtain ⟨c', f'⟩ := y
  obtain rfl : c' = c := h.cache_eq
  refine lockstep_get_bind ?_
  dsimp only
  by_cases hres : c'.resident = some base
  · simp only [hres, if_true]
    exact lockstep_pure h
  · simp only [hres, if_false]
    refine (flush_lockstep hR h).bind fun _ x y h => ?_
    refine (fetch_lockstep hR hb h).bind fun _ x y h => ?_
    refine update_lockstep h fun b hbase => ?_
    obtain rfl := Option.some.inj hbase
    exact hb

end PageCache

/-! ## Devices -/

namespace Device

variable {d : Device r σ κ} {d' : Device r τ κ} {n : Nat}

/-- Devices that differ in their flash alone. -/
structure Twin (R : σ → τ → Prop) (d : Device r σ κ) (d' : Device r τ κ) : Prop where
  parts : PageCache.Twin R (d.cache, d.flash) (d'.cache, d'.flash)
  cacheControl_eq : d'.cacheControl = d.cacheControl
  state_eq : d'.state = d.state

theorem Twin.cache_eq (h : Twin R d d') : d'.cache = d.cache := h.parts.cache_eq

theorem Twin.with_flash (h : Twin R d d') {x : σ} {y : τ} (hx : R x y) :
    Twin R { d with flash := x } { d' with flash := y } :=
  ⟨⟨h.cache_eq, hx, h.parts.resides⟩, h.cacheControl_eq, h.state_eq⟩

/-- Alike on twins, with twins left. -/
abbrev Alike {α : Type} (g : DriverError → DriverError) (R : σ → τ → Prop)
    (c : Call (Device r σ κ) DeviceError α) (d : Device r σ κ)
    (c' : Call (Device r τ κ) DeviceError α) (d' : Device r τ κ) : Prop :=
  Lockstep (DeviceError.mapCause g) c d c' d' (fun _ => Twin R) (Twin R)

/-- Alike on twins beside equal buffers, with such left. -/
abbrev AlikeBeside {α : Type} (g : DriverError → DriverError) (R : σ → τ → Prop)
    (c : Call (Device r σ κ × Vector UInt8 n) DeviceError α) (x : Device r σ κ × Vector UInt8 n)
    (c' : Call (Device r τ κ × Vector UInt8 n) DeviceError α) (y : Device r τ κ × Vector UInt8 n) :
    Prop :=
  Lockstep (DeviceError.mapCause g) c x c' y (fun _ => Beside (Twin R)) (Beside (Twin R))

theorem onCache_lockstep {α : Type} {c : Call (PageCache r.pageSize × σ) FlashError α}
    {c' : Call (PageCache r.pageSize × τ) FlashError α} (h : Twin R d d')
    (hc : PageCache.Alike g R c (d.cache, d.flash) c' (d'.cache, d'.flash)) :
    Alike g R (onCache c) d (onCache c') d' := by
  unfold onCache
  refine lockstep_zoom (lockstep_mapError (fun _ => rfl) (hc.mono ?_ ?_))
  · exact fun _ _ _ hparts => ⟨hparts, h.cacheControl_eq, h.state_eq⟩
  · exact fun _ _ hparts => ⟨hparts, h.cacheControl_eq, h.state_eq⟩

/-- A block that is there has its address on both sides; any other fails on both. -/
theorem locate_bind_lockstep {σ' τ' α : Type} {b : Nat} {s : σ'} {t : τ'}
    {f : Nat → Call σ' DeviceError α} {f' : Nat → Call τ' DeviceError α} {Q : α → σ' → τ' → Prop}
    {E : σ' → τ' → Prop}
    (h : b < r.blockCount →
      Lockstep (DeviceError.mapCause g) (f (r.blockAddr b)) s (f' (r.blockAddr b)) t Q E)
    (hE : E s t) :
    Lockstep (DeviceError.mapCause g) (locate r b >>= f) s (locate r b >>= f') t Q E := by
  refine lockstep_bind (lockstep_ofExcept ?_ ?_ hE)
  · rw [Region.translate_eq]
    split <;> rfl
  · intro addr haddr
    rw [Region.translate_eq] at haddr
    split at haddr
    · next hb =>
      obtain rfl := Except.ok.inj haddr
      exact h hb
    · cases haddr

theorem ensureReady_lockstep (h : Twin R d d') : Alike g R ensureReady d ensureReady d' := by
  refine lockstep_get_bind ?_
  rw [h.state_eq]
  cases d.state with
  | ready => exact lockstep_pure h
  | uninitialized => exact lockstep_fail rfl h

theorem invalidate_lockstep [CacheMaintenance κ] (h : Twin R d d') :
    Alike g R invalidate d invalidate d' :=
  lockstep_modify ⟨h.parts, congrArg CacheMaintenance.invalidateAll h.cacheControl_eq, h.state_eq⟩

variable [FlashDriver σ] [FlashDriver τ]

theorem init_lockstep (hR : Mirrors r g R) (h : Twin R d d') : Alike g R init d init d' := by
  refine lockstep_get_bind ?_
  rw [h.state_eq]
  cases d.state with
  | ready => exact lockstep_pure h
  | uninitialized =>
    refine lockstep_bind (lockstep_zoom (lockstep_mapError (g := g) (fun _ => rfl)
      ((hR.init _ _ h.parts.flash).mono (fun _ x y hx => ?_) fun _ _ => h.with_flash)))
    exact lockstep_modify ⟨(h.with_flash hx).parts, h.cacheControl_eq, rfl⟩

/-! ## Blocks -/

theorem readInto_lockstep (hR : Mirrors r g R) (h : Twin R d d') (b : Nat) (buffer : Block r) :
    AlikeBeside g R (readInto b) (d, buffer) (readInto b) (d', buffer) := by
  refine locate_bind_lockstep (fun hb => lockstep_get_bind ?_) ⟨rfl, h⟩
  dsimp only
  rw [h.cache_eq]
  have hspan : Lockstep (DeviceError.mapCause g)
      (d.cache.readSpan (r.pageOf b) (r.pageOffset (r.blockAddr b))) buffer
      (d.cache.readSpan (r.pageOf b) (r.pageOffset (r.blockAddr b))) buffer
      (fun _ x y => y = x) fun x y => y = x := by
    refine lockstep_refl ((PageCache.readSpan_leaves _ _ _ _).mono (fun _ _ _ => rfl) ?_)
    rintro _ _ rfl
    exact ⟨fun _ hi => (nomatch hi), rfl⟩
  refine lockstep_bind (lockstep_zoom (hspan.mono ?_ ?_))
  · rintro hit _ x rfl
    dsimp only
    split
    · refine lockstep_zoom (lockstep_mapError (g := g) (fun _ => rfl)
        ((hR.readBlock _ _ b x hb h.parts.flash).mono ?_ ?_))
      · exact fun _ _ _ hx => ⟨hx.1, h.with_flash hx.2⟩
      · exact fun _ _ hx => ⟨hx.1, h.with_flash hx.2⟩
    · exact lockstep_pure ⟨rfl, h⟩
  · rintro _ x rfl
    exact ⟨rfl, h⟩

theorem writeFrom_lockstep (hR : Mirrors r g R) (h : Twin R d d') (b : Nat) (data : Block r) :
    Alike g R (writeFrom b data) d (writeFrom b data) d' := by
  refine locate_bind_lockstep (fun hb => ?_) h
  have hload := PageCache.load_lockstep hR (Region.isPage_pageOf hb) h.parts
  refine (onCache_lockstep h hload).bind fun _ d d' h => ?_
  unfold onPage
  refine lockstep_zoom ?_
  rw [h.cache_eq]
  refine lockstep_refl ((PageCache.writeSpan_leaves _ _ _).mono ?_ ?_)
  · intro _ c hc
    have hres : Resides r c := by
      intro base hbase
      rw [hc] at hbase
      exact h.parts.resides base hbase
    exact ⟨⟨rfl, h.parts.flash, hres⟩, h.cacheControl_eq, h.state_eq⟩
  · rintro _ _ ⟨rfl, rfl⟩
    have hparts : PageCache.Twin R (d.cache, d.flash) (d.cache, d'.flash) :=
      ⟨rfl, h.parts.flash, h.parts.resides⟩
    exact ⟨fun _ hi => (nomatch hi), hparts, h.cacheControl_eq, h.state_eq⟩

/-! ## Requests -/

theorem readBlock_lockstep (hR : Mirrors r g R) (h : Twin R d d') (b : Nat) :
    Alike g R (readBlock b) d (readBlock b) d' := by
  refine (ensureReady_lockstep h).bind fun _ d d' h => ?_
  refine lockstep_filling ((readInto_lockstep hR h b _).mono ?_ ?_)
  · exact fun _ _ _ hx => hx
  · exact fun _ _ hx => hx.2

theorem writeBlock_lockstep (hR : Mirrors r g R) (h : Twin R d d') (b : Nat) (data : Block r) :
    Alike g R (writeBlock b data) d (writeBlock b data) d' :=
  (ensureReady_lockstep h).bind fun _ _ _ h => writeFrom_lockstep hR h b data

theorem readRun_lockstep (hR : Mirrors r g R) (start count i : Nat)
    {x : Device r σ κ × Vector UInt8 n} {y : Device r τ κ × Vector UInt8 n}
    (h : Beside (Twin R) x y) :
    AlikeBeside g R (readRun start i count) x (readRun start i count) y := by
  induction count generalizing i x y with
  | zero => exact lockstep_pure h
  | succ count ih =>
    obtain ⟨d, buffer⟩ := x
    obtain ⟨d', buffer'⟩ := y
    obtain ⟨hbuffer, h⟩ := h
    obtain rfl : buffer' = buffer := hbuffer
    refine lockstep_bind (lockstep_ofOption (fun block _ => ?_) ⟨rfl, h⟩)
    refine (lockstep_onSlice h (readInto_lockstep hR h block) buffer').bind ?_
    exact fun _ _ _ h => ih (i + 1) h

theorem writeRun_lockstep (hR : Mirrors r g R) (data : Vector UInt8 n) (start count i : Nat)
    (h : Twin R d d') :
    Alike g R (writeRun data start i count) d (writeRun data start i count) d' := by
  induction count generalizing i d d' with
  | zero => exact lockstep_pure h
  | succ count ih =>
    refine lockstep_bind (lockstep_ofOption (fun block _ => ?_) h)
    split
    · exact (writeFrom_lockstep hR h block _).bind fun _ _ _ h => ih (i + 1) h
    · exact lockstep_bind (lockstep_trap h)

omit [FlashDriver σ] [FlashDriver τ] in
theorem answer_lockstep {α β : Type} {c : Call (Device r σ κ) DeviceError α}
    {c' : Call (Device r τ κ) DeviceError α} (hc : Alike g R c d c' d') (b : β) :
    Alike g R (c >>= fun _ => pure b) d (c' >>= fun _ => pure b) d' :=
  hc.bind fun _ _ _ h => lockstep_pure h

omit [FlashDriver σ] [FlashDriver τ] in
/-- The check of a span fails alike, so what follows is in lockstep if it is after a span that
fits. -/
theorem span_bind_lockstep {σ' τ' α : Type} {start : Nat} {s : σ'} {t : τ'}
    {f : Nat → Call σ' DeviceError α} {f' : Nat → Call τ' DeviceError α} {Q : α → σ' → τ' → Prop}
    {E : σ' → τ' → Prop}
    (h : ∀ count, Lockstep (DeviceError.mapCause g) (f count) s (f' count) t Q E) (hE : E s t) :
    Lockstep (DeviceError.mapCause g)
      (do
        let count ← ofExcept (blocksIn r n)
        ofExcept ((r.checkSpan start count).mapError .outOfRange)
        f count) s
      (do
        let count ← ofExcept (blocksIn r n)
        ofExcept ((r.checkSpan start count).mapError .outOfRange)
        f' count) t Q E := by
  refine lockstep_bind (lockstep_ofExcept ?_ (fun count _ => ?_) hE)
  · unfold blocksIn
    split <;> rfl
  · refine lockstep_bind (lockstep_ofExcept ?_ (fun _ _ => h count) hE)
    cases r.checkSpan start count <;> rfl

omit [FlashDriver σ] [FlashDriver τ] in
theorem onFst_lockstep {c : Call (Device r σ κ) DeviceError Unit}
    {c' : Call (Device r τ κ) DeviceError Unit} (hc : Alike g R c d c' d')
    (buffer : Vector UInt8 n) : AlikeBeside g R c.onFst (d, buffer) c'.onFst (d', buffer) := by
  unfold onFst
  exact lockstep_zoom (hc.mono (fun _ _ _ h => ⟨rfl, h⟩) fun _ _ h => ⟨rfl, h⟩)

theorem readBlocks_lockstep (hR : Mirrors r g R) (h : Twin R d d') (start : Nat)
    (buffer : Vector UInt8 n) :
    AlikeBeside g R (readBlocks start) (d, buffer) (readBlocks start) (d', buffer) := by
  refine (onFst_lockstep (ensureReady_lockstep h) buffer).bind fun _ x y h => ?_
  exact span_bind_lockstep (fun count => readRun_lockstep hR start count 0 h) h

theorem writeBlocks_lockstep (hR : Mirrors r g R) (h : Twin R d d') (start : Nat)
    (data : Vector UInt8 n) :
    Alike g R (writeBlocks start data) d (writeBlocks start data) d' := by
  refine (ensureReady_lockstep h).bind fun _ x y h => ?_
  exact span_bind_lockstep (fun count => writeRun_lockstep hR data start count 0 h) h

theorem readExactly_lockstep (hR : Mirrors r g R) (h : Twin R d d') (b : Nat)
    (buffer : Vector UInt8 n) :
    AlikeBeside g R (readExactly b) (d, buffer) (readExactly b) (d', buffer) := by
  unfold readExactly
  split
  · next one =>
    subst one
    refine (onFst_lockstep (ensureReady_lockstep h) buffer).bind ?_
    rintro _ ⟨d, buffer⟩ ⟨d', buffer'⟩ ⟨hbuffer, h⟩
    obtain rfl : buffer' = buffer := hbuffer
    exact readInto_lockstep hR h b buffer'
  · exact lockstep_fail rfl ⟨rfl, h⟩

theorem writeExactly_lockstep (hR : Mirrors r g R) (h : Twin R d d') (b : Nat)
    (data : Vector UInt8 n) :
    Alike g R (writeExactly b data) d (writeExactly b data) d' := by
  unfold writeExactly
  split
  · exact writeBlock_lockstep hR h b _
  · exact lockstep_fail rfl h

variable [CacheMaintenance κ]

theorem sync_lockstep (hR : Mirrors r g R) (h : Twin R d d') : Alike g R sync d sync d' :=
  (onCache_lockstep h (PageCache.flush_lockstep hR h.parts)).bind fun _ _ _ h =>
    invalidate_lockstep h

theorem control_lockstep (hR : Mirrors r g R) (h : Twin R d d') (request : Control) :
    Alike g R (control request) d (control request) d' := by
  cases request with
  | init => exact answer_lockstep (init_lockstep hR h) 0
  | deinit => exact answer_lockstep (sync_lockstep hR h) 0
  | sync => exact answer_lockstep (sync_lockstep hR h) 0
  | blockCount => exact lockstep_pure h
  | blockSize => exact lockstep_pure h
  | blockErase block => exact locate_bind_lockstep (fun _ => lockstep_pure h) h
  | irqHandler => exact answer_lockstep (invalidate_lockstep h) 0

theorem storeControl_lockstep (hR : Mirrors r g R) (h : Twin R d d') (request : Control) :
    Alike g R (BlockStore.control request) d (BlockStore.control request) d' := by
  cases request with
  | init => exact control_lockstep hR h .init
  | deinit => exact control_lockstep hR h .deinit
  | sync => exact control_lockstep hR h .sync
  | blockCount => exact lockstep_get_bind (lockstep_pure h)
  | blockSize => exact lockstep_get_bind (lockstep_pure h)
  | blockErase block => exact lockstep_pure h
  | irqHandler => exact lockstep_pure h

end Device

end FlashDisk
