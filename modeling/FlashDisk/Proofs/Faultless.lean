import FlashDisk.Proofs.BlockArray

/-!
# Calls over a flash without faults

Over a faultless flash the caches and devices of a region never fail for the flash: a flush and
a load end well, a block of the region is written and read, and a device is brought up. What
they leave is known from the honest flash; here it is only shown that they end with a value.

* `load_total`, `flush_total`: for pages of the region.
* `writeFrom_total`, `readInto_total`: for blocks of the region.
* `init_ready`: an initialisation leaves the device ready.
-/

namespace FlashDisk

open Call

variable {r : Region} {σ κ : Type} {v : FlashView σ} [FlashDriver σ]

namespace PageCache

variable {c : PageCache r.pageSize} {f : σ}

theorem writeBack_total (hv : v.Faultless r) (hf : v.Sound f) {base : Nat} (hb : r.IsPage base) :
    (writeBack base).Ends (c, f) (fun _ y => v.Sound y.2) fun _ _ => False := by
  simp only [writeBack, onFlash, onSnd, ends_bind, ends_mapError, ends_zoom, ends_get]
  refine ends_of_result (fun _ _ => ?_) fun h _ => h () (hv.erase_ok f base hf hb)
  have herased := (hv.erase f base r.pageSize hf).sound
  refine ends_of_result (fun _ _ => ?_) fun h _ => h () (hv.write_ok _ base c.buffer herased hb)
  exact (hv.write _ base c.buffer herased).sound

theorem flush_total (hv : v.Faultless r) (hf : v.Sound f) (hr : Resides r c) :
    flush.Ends (c, f) (fun _ y => v.Sound y.2) fun _ _ => False := by
  unfold flush
  simp only [ends_bind, ends_get]
  split
  · exact hf
  · next base h =>
    split
    · simp only [ends_bind, update, ends_modify]
      exact writeBack_total hv hf (hr base h)
    · exact hf

theorem load_total (hv : v.Faultless r) (hf : v.Sound f) (hr : Resides r c) {base : Nat}
    (hb : r.IsPage base) : (load base).Ends (c, f) (fun _ _ => True) fun _ _ => False := by
  unfold load
  simp only [ends_bind, ends_get]
  split
  · trivial
  · simp only [fetch, ends_bind, ends_zoom, ends_mapError, update, ends_modify]
    refine (flush_total hv hf hr).mono (fun _ y hy => ?_) fun _ _ h => h
    refine ends_of_result (fun _ _ => trivial) fun h _ => ?_
    exact h () (hv.read_ok y.2 base y.1.buffer hy hb.base_le hb.le_stop)

end PageCache

namespace Device

variable {d : Device r σ κ} {b : Nat}

theorem writeFrom_total (hv : v.Faultless r) (hd : d.Coherent v) (hb : b < r.blockCount)
    (data : Block r) : (writeFrom b data).Ends d (fun _ _ => True) fun _ _ => False := by
  simp only [writeFrom, onCache, onPage, ends_bind, ends_locate, ends_zoom, ends_mapError, hb,
    if_true]
  refine ((PageCache.load_total hv hd.sound hd.resides (Region.isPage_pageOf hb)).and
    (PageCache.load_holds _ _)).mono ?_ fun _ _ h => h.1
  rintro _ ⟨c, f⟩ ⟨-, hres⟩
  exact (writeSpan_block hres data).mono (fun _ _ _ => trivial) fun _ _ h => h

theorem readInto_total (hv : v.Faultless r) (hd : d.Coherent v) (hb : b < r.blockCount)
    (buffer : Block r) : (readInto b).Ends (d, buffer) (fun _ _ => True) fun _ _ => False := by
  simp only [readInto, onSnd, ends_bind, ends_locate, ends_zoom, ends_get, hb, if_true]
  refine (PageCache.readSpan_ends hd.shows (r.pageOf b) (r.pageOffset (r.blockAddr b))
    buffer).mono ?_ ?_
  · intro hit buffer' _
    split
    · simp only [fetch, ends_zoom, ends_mapError]
      refine ends_of_result (fun _ _ => trivial) fun h _ => ?_
      exact h () (hv.read_ok d.flash _ buffer' hd.sound (Nat.le_add_right _ _)
        (Region.lt_blockCount_iff.mp hb))
    · trivial
  · rintro _ _ ⟨-, -, -, houtside⟩
    exact houtside (offset_fits r b).2

/-- **An initialisation brings the device up and leaves it still.** -/
theorem init_ready (hv : v.Faultless r) (hd : v.Sound d.flash) :
    init.Ends d (fun _ d' => d'.state = .ready ∧ Still v d d') fun _ _ => False := by
  refine ((init_still hv.toLocal hd).and ?_).mono (fun _ _ h => h.symm) fun _ _ h => h.2
  simp only [init, ends_bind, ends_get]
  split
  · next h => exact h
  · simp only [ends_bind, ends_zoom, ends_mapError, ends_modify]
    exact ends_of_result (fun _ _ => trivial) fun h _ => h () (hv.init_ok d.flash hd)

end Device

end FlashDisk
