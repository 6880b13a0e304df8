import FlashDisk.RamFlash
import FlashDisk.Proofs.Steps

/-!
# A page is cached while it has pending writes

The address of the cached page, the dirty flag and the state of a device are separate fields,
and nothing in their types ties them together. Every small step keeps them in agreement, over
any driver, and also if it is cut short: the page is forgotten only with its flag, and the flag
is set only on a page that is there.

* `Device.WellFormed`: the fields agree.
* `Step.wellFormed`: every small step keeps that, however it ends.
* `cached_page_is_pending`: so it is in every state that a new device comes to.
-/

namespace FlashDisk

open Call

variable {r : Region} {σ κ : Type}

namespace Device

variable {d d' : Device r σ κ}

/-- The fields of the device agree. -/
structure WellFormed (d : Device r σ κ) : Prop where
  /-- A page is resident exactly while it has writes that are not on the flash. -/
  dirty_eq : d.cache.dirty = d.cache.resident.isSome
  resides : Resides r d.cache
  /-- Before the driver is up nothing is cached. -/
  down : d.state = .uninitialized → d.cache.resident = none

/-- A device without a page is well formed. -/
theorem wellFormed_of_none (hdirty : d.cache.dirty = false) (hnone : d.cache.resident = none) :
    d.WellFormed :=
  ⟨by rw [hdirty, hnone]; rfl, resides_of_none hnone, fun _ => hnone⟩

theorem wellFormed_of_create {blockSize pageSize : Nat} {flash : σ} {cacheControl : κ}
    (hd : create blockSize pageSize flash cacheControl r = .ok d) : d.WellFormed := by
  rw [eq_of_create hd]
  exact wellFormed_of_none rfl rfl

/-- Nothing but the cache and the state is looked at. -/
theorem WellFormed.of_cache_eq (h : d.WellFormed) (hcache : d'.cache = d.cache)
    (hstate : d'.state = .uninitialized → d.state = .uninitialized) : d'.WellFormed := by
  obtain ⟨hdirty, hresides, hdown⟩ := h
  rw [← hcache] at hdirty hresides hdown
  exact ⟨hdirty, hresides, hdown ∘ hstate⟩

/-- The cache that an eviction leaves is empty and clean, whatever is read into its buffer. -/
theorem WellFormed.of_evicted (h : d.WellFormed) {buffer : Vector UInt8 r.pageSize}
    (hcache : d'.cache = { d.cache.evicted with buffer }) : d'.WellFormed := by
  have hnone : d'.cache.resident = none := by rw [hcache]; exact PageCache.resident_evicted _
  refine wellFormed_of_none ?_ hnone
  rw [hcache]
  unfold PageCache.evicted
  split
  · next hres =>
    show d.cache.dirty = false
    rw [h.dirty_eq, hres]
    rfl
  · rfl

/-- A page is resident if and only if there are pending writes. -/
theorem WellFormed.resident_iff (h : d.WellFormed) :
    d.residentPage.isSome = true ↔ d.hasPendingWrites = true := by
  simp [residentPage, hasPendingWrites, PageCache.isDirty, h.dirty_eq]

variable [FlashDriver σ]

/-! ## Small steps -/

theorem WellFormed.writeFrom (h : d.WellFormed) (ready : d.state = .ready) (b : Nat)
    (data : Block r) : (writeFrom b data d).2.WellFormed := by
  refine Ends.always (I := WellFormed) ((writeFrom_leaves b data d).mono ?_ ?_)
  · rintro _ d' ⟨hb, hstate, hpage, hdirty, -⟩
    refine ⟨by rw [hdirty, hpage]; rfl, ?_, fun hdown => ?_⟩
    · intro base hbase
      obtain rfl := Option.some.inj (hpage.symm.trans hbase)
      exact Region.isPage_pageOf hb
    · rw [hstate, ready] at hdown
      cases hdown
  · rintro _ d' ⟨hstate, hsame | ⟨buffer, hgone⟩⟩
    · exact h.of_cache_eq hsame (hstate ▸ id)
    · exact h.of_evicted hgone

theorem WellFormed.flush (h : d.WellFormed) : (onCache PageCache.flush d).2.WellFormed := by
  refine Ends.always (I := WellFormed) ?_
  simp only [onCache, ends_zoom, ends_mapError]
  refine (PageCache.flush_leaves (d.cache, d.flash)).mono ?_ ?_
  · intro _ x hx
    have hcache : x.1 = { d.cache.evicted with buffer := x.1.buffer } := by rw [hx]
    exact h.of_evicted hcache
  · intro _ x hx
    exact h.of_cache_eq hx id

variable [CacheMaintenance κ] {O : σ → σ → Prop}

/-- **Every small step keeps a device well formed**, however the driver behaves. -/
theorem Step.wellFormed (h : Step O d d') (hd : d.WellFormed) : d'.WellFormed := by
  cases h with
  | init =>
    exact init_leaves (P := WellFormed) hd (hd.of_cache_eq rfl id) (hd.of_cache_eq rfl nofun)
  | read ready b buffer =>
    exact readInto_leaves (P := WellFormed) hd (fun _ _ => hd.of_cache_eq rfl id) buffer
  | write ready b data => exact hd.writeFrom ready b data
  | flush => exact hd.flush
  | invalidate => exact hd.of_cache_eq rfl id
  | renew => exact wellFormed_of_none rfl rfl
  | outside => exact hd.of_cache_eq rfl id

theorem Steps.wellFormed (h : Steps O d d') (hd : d.WellFormed) : d'.WellFormed := by
  induction h with
  | refl => exact hd
  | tail _ step ih => exact step.wellFormed ih

end Device

/-! ## Runs -/

variable [FlashDriver σ] [CacheMaintenance κ] {blockSize pageSize : Nat} {flash : σ}
  {cacheControl : κ} {d : Device r σ κ}

/-- A new device comes to well formed states only. -/
theorem Session.wellFormed_of_create
    (hd : Device.create blockSize pageSize flash cacheControl r = .ok d)
    (events : List (Event r σ)) : (play events { device := d }).2.device.WellFormed := by
  have hwalk : Shared.Walk (fun _ _ => True) { device := d } (play events { device := d }).2 :=
    play_walk (fun _ _ _ => trivial) _
  exact hwalk.steps.wellFormed (Device.wellFormed_of_create hd)

/-- **A page is cached if and only if it has pending writes.** In every state that a new device
comes to, over any driver, which may fail, lie and trap in the middle of a call, and amid any
changes of the flash:

* a page is resident exactly while writes are pending, and the dirty flag is never set without
  one;
* the resident page is a page of the flash that lies in the region as a whole;
* no page is resident before the driver is up. -/
theorem cached_page_is_pending (hd : Device.create blockSize pageSize flash cacheControl r = .ok d)
    (events : List (Event r σ)) :
    let d' := (Session.play events { device := d }).2.device
    (d'.residentPage.isSome = true ↔ d'.hasPendingWrites = true) ∧
      d'.cache.dirty = d'.residentPage.isSome ∧
      (∀ page, d'.residentPage = some page →
        r.pageSize ∣ page ∧ r.base ≤ page ∧ page + r.pageSize ≤ r.base + r.length) ∧
      (d'.state = .uninitialized → d'.residentPage = none) := by
  have h := Session.wellFormed_of_create hd events
  refine ⟨h.resident_iff, h.dirty_eq, fun page hpage => ?_, h.down⟩
  obtain ⟨hdvd, hbase, hstop⟩ := h.resides page hpage
  exact ⟨hdvd, hbase, hstop⟩

/-- The write to the second page traps in the erase of the first, whose write then stays pending. -/
theorem cached_page_is_pending_in_ram :
    let d : Device Chip.smallRegion RamFlash NoCache := { flash := {}, cacheControl := .none }
    let full : RamFlash → RamFlash := fun f =>
      { f with log := Array.replicate RamFlash.logSize .init }
    let events : List (Event Chip.smallRegion RamFlash) :=
      [.request (.own .init), .request (.own (.writeBlock 0 #v[1, 2])), .outside full,
        .request (.own (.writeBlock 2 #v[3, 4]))]
    let run := Session.play events { device := d }
    (run.1.map Answer.outcome = [.ok .done, .ok .done, .trap] ∧
        run.2.device.residentPage = some 4) ∧
      run.2.device.hasPendingWrites = true ∧ run.2.device.cache.dirty = true ∧
        4 + Chip.smallRegion.pageSize ≤ Chip.smallRegion.stop := by
  have hrun : (Session.play
      [.request (.own .init), .request (.own (.writeBlock 0 #v[1, 2])),
        .outside fun f : RamFlash => { f with log := Array.replicate RamFlash.logSize .init },
        .request (.own (.writeBlock 2 #v[3, 4]))]
      ({ device := { flash := {}, cacheControl := .none } } :
        Shared (Device Chip.smallRegion RamFlash NoCache))).2.device.residentPage = some 4 := by
    decide +kernel
  have hd : Device.create 2 4 ({} : RamFlash) NoCache.none Chip.smallRegion =
    .ok { flash := {}, cacheControl := .none } := rfl
  obtain ⟨hpending, hdirty, hpage, -⟩ := cached_page_is_pending hd
    [.request (.own .init), .request (.own (.writeBlock 0 #v[1, 2])),
      .outside fun f : RamFlash => { f with log := Array.replicate RamFlash.logSize .init },
      .request (.own (.writeBlock 2 #v[3, 4]))]
  rw [hrun] at hpending hdirty
  exact ⟨⟨by decide +kernel, hrun⟩, hpending.mp rfl, hdirty, (hpage 4 hrun).2.2⟩

end FlashDisk
