import FlashDisk.Proofs.Faultless

/-!
# What is lost when a device is dropped

A device that is released without a sync drops its cached page. On a flash without faults the
flash then holds the contents as they were when that page was loaded: loading it flushed every
page before it, and nothing was erased or programmed since.

* `SinceLoad page since`: `since` begins with the write that loaded `page`, and every write in
  it went to that page without loading it again.
* `Staged`: the history splits into the writes that are on the flash and the writes since the
  load. Every move keeps such a split (`Move.staged`).
* `release_loses_writes_since_load`: a new device over the flash reads all but the writes since
  the load.
-/

namespace FlashDisk

variable {r : Region}

/-- The writes since a page was loaded, or none if no page is resident. -/
inductive SinceLoad : Option Nat → List (JournalEntry r) → Prop where
  | empty : SinceLoad none []
  | page {base : Nat} {e : JournalEntry r} {rest : List (JournalEntry r)} (loads : e.loads = true)
      (stays : ∀ x ∈ rest, x.loads = false) (inPage : ∀ x ∈ e :: rest, r.pageOf x.block = base) :
      SinceLoad (some base) (e :: rest)

theorem SinceLoad.snoc {base : Nat} {since : List (JournalEntry r)} {e : JournalEntry r}
    (h : SinceLoad (some base) since) (hstays : e.loads = false) (hpage : r.pageOf e.block = base) :
    SinceLoad (some base) (since ++ [e]) := by
  cases h with
  | page loads stays inPage =>
    refine .page loads ?_ ?_
    · intro x hx
      rcases List.mem_append.mp hx with hx | hx
      · exact stays x hx
      · rw [List.mem_singleton.mp hx, hstays]
    · intro x hx
      have hx : x ∈ (_ :: _) ++ [e] := hx
      rcases List.mem_append.mp hx with hx | hx
      · exact inPage x hx
      · rw [List.mem_singleton.mp hx, hpage]

theorem SinceLoad.single {e : JournalEntry r} (hloads : e.loads = true) :
    SinceLoad (some (r.pageOf e.block)) [e] := by
  refine .page hloads ?_ ?_
  · intro x hx
    cases hx
  · intro x hx
    rw [List.mem_singleton.mp hx]

/-- Blocks of other pages hold what they held when the page was loaded. -/
theorem SinceLoad.after_eq {page : Option Nat} {since : List (JournalEntry r)}
    (h : SinceLoad page since) (m : Contents r) {b : Nat} (hb : page ≠ some (r.pageOf b)) :
    m.after (writesOf since) b = m b := by
  cases h with
  | empty => rfl
  | page loads stays inPage =>
    refine Contents.after_of_forall_ne _ m ?_
    intro w hw hwb
    apply hb
    obtain ⟨x, hx, rfl⟩ := List.mem_map.mp hw
    rw [← hwb, inPage x hx]

namespace Device

open Call

variable {σ κ : Type} {v : FlashView σ} {m₀ : Contents r} {d d' : Device r σ κ}
variable {before since js : List (JournalEntry r)}

/-- The flash holds the contents after the writes `before`, and `since` are the writes to the
resident page since it was loaded. -/
structure Staged (v : FlashView σ) (m₀ : Contents r) (before since : List (JournalEntry r))
    (d : Device r σ κ) : Prop where
  coherent : d.Coherent v
  contents : d.contents v = m₀.after (writesOf (before ++ since))
  flash : Contents.ofMemory r (v.byte d.flash) = m₀.after (writesOf before)
  loaded : SinceLoad d.residentPage since

variable [FlashDriver σ]

/-! ## Writes and loads -/

/-- A write that has to load its page first leaves all that was shown before on the flash. -/
theorem writeFrom_loads {m : Nat → UInt8} (hv : v.Honest r.pageSize) (hm : d.Shows v m) {b : Nat}
    (hb : d.residentPage ≠ some (r.pageOf b)) (data : Block r) :
    (writeFrom b data).Ends d (fun _ d' => v.byte d'.flash = m) fun _ _ => True := by
  simp only [writeFrom, onCache, onPage, ends_bind, ends_locate, ends_zoom, ends_mapError]
  split
  · refine ((PageCache.load_ends hv hm (r.pageOf b)).and (PageCache.load_leaves _ _)).mono ?_
      fun _ _ _ => trivial
    rintro _ ⟨c, f⟩ ⟨hc, hleft⟩
    refine (ends_somehow _ _).mono (fun _ _ _ => ?_) fun _ _ _ => trivial
    split at hleft
    · next hsame => exact absurd hsame hb
    · obtain ⟨buffer, hcache⟩ := hleft
      refine hc.clean ?_
      rw [hcache]
      rfl
  · trivial

/-- Over a faultless flash a write that fails was never begun. -/
theorem writeBlock_failed (hv : v.Faultless r) (hd : d.Coherent v) {w : BlockWrite r}
    (h : ∀ u, (writeBlock w.block w.data d).1 ≠ .ok u) : (writeBlock w.block w.data d).2 = d := by
  cases hs : d.state with
  | uninitialized => rw [writeBlock_of_uninitialized hs]
  | ready =>
    rw [writeBlock_of_ready hs] at h ⊢
    by_cases hb : w.block < r.blockCount
    · obtain ⟨u, hu, -⟩ := (writeFrom_total hv hd hb w.data).total
      exact absurd hu (h u)
    · have hends : (writeFrom w.block w.data).Ends d (fun _ d' => d' = d) fun _ d' => d' = d := by
        simp only [writeFrom, ends_bind, ends_locate, hb, if_false]
      exact hends.always

/-! ## Moves -/

/-- **Every move splits the history anew**: a flush puts all of it on the flash, a write that
loads its page puts all before it on the flash, and any other write is one more since the load.
-/
theorem Move.staged (hv : v.Faultless r) (h : Move v d js d') (hd : Staged v m₀ before since d) :
    ∃ before' since', before' ++ since' = before ++ since ++ js ∧
      Staged v m₀ before' since' d' := by
  obtain ⟨hcoherent, hcontents⟩ := h.coherent hv.toHonest hd.coherent
  rw [hd.contents, ← Contents.after_append, ← writesOf_append] at hcontents
  cases h with
  | still h =>
    rw [List.append_nil] at hcontents ⊢
    refine ⟨before, since, rfl, hcoherent, hcontents, ?_, ?_⟩
    · rw [h.same.byte_eq]
      exact hd.flash
    · rw [residentPage, h.cache_eq]
      exact hd.loaded
  | flush =>
    obtain ⟨_, hok, -⟩ := (PageCache.flush_total hv hd.coherent.sound hd.coherent.resides).total
    have hcache : (onCache PageCache.flush d).2.cache = d.cache.evicted :=
      (PageCache.flush_leaves (d.cache, d.flash)).of_fst hok
    have hclean : (onCache PageCache.flush d).2.hasPendingWrites = false := by
      simp [hasPendingWrites, hcache, PageCache.isDirty]
    refine ⟨before ++ since, [], by simp, hcoherent, ?_, ?_, ?_⟩
    · rw [hcontents]
    · rw [hcoherent.clean hclean]
      rw [List.append_nil] at hcontents
      exact hcontents
    · rw [residentPage, hcache, PageCache.resident_evicted]
      exact .empty
  | write w h =>
    have hready : d.state = .ready := by
      cases hs : d.state with
      | ready => rfl
      | uninitialized =>
        rw [writeBlock_of_uninitialized hs] at h
        cases h
    rw [writeBlock_of_ready hready] at h hcoherent hcontents ⊢
    obtain ⟨-, -, hpage, -, hflash⟩ := (writeFrom_leaves w.block w.data d).of_fst h
    by_cases hres : d.residentPage = some (r.pageOf w.block)
    · refine ⟨before, since ++ [d.entry w], (List.append_assoc _ _ _).symm, hcoherent, ?_, ?_, ?_⟩
      · rw [hcontents, List.append_assoc]
      · rw [hflash hres]
        exact hd.flash
      · have hloaded := hd.loaded
        rw [hres] at hloaded
        rw [residentPage, hpage]
        exact hloaded.snoc (by simp [entry, hres]) rfl
    · refine ⟨before ++ since, [d.entry w], rfl, hcoherent, hcontents, ?_, ?_⟩
      · rw [(writeFrom_loads hv.toHonest hd.coherent.shows hres w.data).of_fst h]
        exact hd.contents
      · rw [residentPage, hpage]
        exact SinceLoad.single (e := d.entry w) (by simp [entry, hres])
  | failed w h =>
    rw [writeBlock_failed hv hd.coherent h, List.append_nil]
    exact ⟨before, since, rfl, hd⟩

theorem Moves.staged (hv : v.Faultless r) (h : Moves v d js d') (hd : Staged v m₀ [] [] d) :
    ∃ before since, before ++ since = js ∧ Staged v m₀ before since d' := by
  refine h.preserve (I := fun hist d' => ∃ before since, before ++ since = hist ∧
    Staged v m₀ before since d') ?_ ⟨[], [], rfl, hd⟩
  rintro hist d₁ js d₂ m ⟨before, since, rfl, hd₁⟩
  exact m.staged hv hd₁

/-! ## A new device -/

/-- Over a faultless flash a new device is brought up, and then every block is read as it lies
there. -/
theorem readBlock_of_create (hv : v.Faultless r) {flash : σ} (hf : v.Sound flash)
    {blockSize pageSize : Nat} {cacheControl : κ}
    (hd : create blockSize pageSize flash cacheControl r = .ok d) :
    (init d).1 = .ok () ∧ ∀ b, b < r.blockCount →
      (readBlock b (init d).2).1 = .ok (Contents.ofMemory r (v.byte flash) b) := by
  obtain ⟨hshows, hresides⟩ := shows_of_create hf hd
  obtain ⟨_, hok, hready, hstill⟩ := (init_ready hv hshows.sound).total
  refine ⟨hok, ?_⟩
  intro b hb
  have hm := hstill.shows hshows
  have hr : Resides r (init d).2.cache := by rw [hstill.cache_eq]; exact hresides
  have htotal : (readBlock b).Ends (init d).2 (fun _ _ => True) fun _ _ => False := by
    simp only [readBlock, ends_bind, ends_ensureReady, hready, ends_filling]
    exact readInto_total hv (hm.coherent hr) hb _
  obtain ⟨data, hdata, -⟩ := htotal.total
  rw [hdata, (readBlock_delivers hv.toHonest hm hr b).of_fst hdata]

end Device

/-- What is left of the contents when a page is dropped: its blocks are as they were after the
writes `before`, the others as after all of the writes. -/
def keptWithout (m : Contents r) (page : Option Nat) (before all : List (JournalEntry r)) :
    Contents r := fun b =>
  if page = some (r.pageOf b) then m.after (writesOf before) b else m.after (writesOf all) b

/-- If the writes that were not kept all went to the page that is dropped, the rest is kept. -/
theorem keptWithout_eq {m : Contents r} {page : Option Nat} {before since : List (JournalEntry r)}
    (h : SinceLoad page since) :
    keptWithout m page before (before ++ since) = m.after (writesOf before) := by
  funext b
  unfold keptWithout
  split
  · rfl
  · next hpage => rw [writesOf_append, Contents.after_append, h.after_eq _ hpage]

variable {σ κ : Type} {v : FlashView σ} [FlashDriver σ] [CacheMaintenance κ]

/-- **A device that is dropped without a sync loses the writes since its page was loaded, and
no others.** After any run on a faultless flash the writes that were carried out split into
those `before` and those `since` the resident page was loaded. A new device over the released
flash is brought up, reads every block as if the writes `since` had not been made, and goes on
from there. -/
theorem release_loses_writes_since_load (hv : v.Faultless r) {flash : σ} (hf : v.Sound flash)
    {blockSize pageSize : Nat} {cacheControl : κ} {d : Device r σ κ}
    (hd : Device.create blockSize pageSize flash cacheControl r = .ok d)
    (ops : List (Operation r)) :
    let s := Session.after ops { device := d }
    let journal := Session.journal ops { device := d }
    ∃ before since, journal = before ++ since ∧ SinceLoad s.device.residentPage since ∧
      ∀ (blockSize' pageSize' : Nat) (d' : Device r σ κ),
        Device.create blockSize' pageSize' s.device.release.1 s.device.release.2 r = .ok d' →
          let kept := keptWithout (.ofMemory r (v.byte flash)) s.device.residentPage before journal
          (Device.init d').1 = .ok () ∧
            (∀ b, b < r.blockCount → (Device.readBlock b (Device.init d').2).1 = .ok (kept b)) ∧
              ∀ (later : List (Operation r)) (op : Operation r),
                op.Refines v (kept.after (Session.writes later { device := d' }))
                  (Session.after later { device := d' }) := by
  obtain ⟨hshows, hresides⟩ := Device.shows_of_create hf hd
  have hmoves := Session.run_moves (s := { device := d }) hv.toLocal ops rfl hshows.sound
  have hstart : d.Staged v (Contents.ofMemory r (v.byte flash)) [] [] := by
    refine ⟨hshows.coherent hresides, hshows.contents_eq, ?_, ?_⟩
    · rw [Device.eq_of_create hd]
      rfl
    · rw [Device.eq_of_create hd]
      exact .empty
  obtain ⟨before, since, hsplit, hstaged⟩ := hmoves.staged hv hstart
  refine ⟨before, since, hsplit.symm, hstaged.loaded, ?_⟩
  intro _ _ d' hd'
  obtain ⟨hinit, hread⟩ := Device.readBlock_of_create hv hstaged.coherent.sound hd'
  obtain ⟨hshows', hresides'⟩ := Device.shows_of_create hstaged.coherent.sound hd'
  have hrefines := run_refines (s := { device := d' }) hv.toHonest rfl (hshows'.coherent hresides')
  dsimp only
  rw [← hsplit, keptWithout_eq hstaged.loaded, ← hstaged.flash]
  rw [hshows'.contents_eq] at hrefines
  exact ⟨hinit, hread, hrefines⟩

/-- The first page is written back when the second is loaded; the two writes to the second are
lost. -/
theorem release_loses_writes_since_load_on_small_chip :
    let s : Shared (Device Chip.smallRegion (Chip 16 DriverCall) NoCache) :=
      { device := Chip.smallDevice [] }
    let ops : List (Operation Chip.smallRegion) :=
      [.own .init, .own (.writeBlock 0 #v[1, 2]), .own (.writeBlock 2 #v[3, 4]),
        .own (.writeBlock 3 #v[5, 6])]
    let dropped := (Session.after ops s).device
    let d' : Device Chip.smallRegion (Chip 16 DriverCall) NoCache :=
      { flash := dropped.release.1, cacheControl := dropped.release.2 }
    (dropped.residentPage = some 8 ∧
        (Session.journal ops s).map JournalEntry.loads = [true, true, false]) ∧
      ∃ before since, Session.journal ops s = before ++ since ∧
        SinceLoad dropped.residentPage since ∧ ∀ b, b < Chip.smallRegion.blockCount →
          (Device.readBlock b (Device.init d').2).1 = .ok
            (keptWithout
              (.ofMemory _ ((Chip.view (Chip.Serves Chip.smallRegion)).byte (Chip.small [])))
              dropped.residentPage before (Session.journal ops s) b) := by
  refine ⟨by decide +kernel, ?_⟩
  obtain ⟨before, since, hsplit, hloaded, hrebuilt⟩ :=
    release_loses_writes_since_load (Chip.faultless_view Chip.smallRegion) Chip.serves_small
      (Chip.create_small [])
      [.own .init, .own (.writeBlock 0 #v[1, 2]), .own (.writeBlock 2 #v[3, 4]),
        .own (.writeBlock 3 #v[5, 6])]
  exact ⟨before, since, hsplit, hloaded, (hrebuilt 2 4 _ rfl).2.1⟩

end FlashDisk
