import FlashDisk.Proofs.Faultless
import FlashDisk.Proofs.Interleaving

/-!
# The self-test cut short

The self-test restores the last block in its last two calls, and a call that fails ends the test at
once. So whether the block is restored depends on the call that fails: one that comes behind the
write of the pattern and before the end of the restoring write leaves the pattern for good. The
cache does not help, since it keeps the pattern as faithfully as any other write.

* `Session.Fails`: a list of operations is cut short at one that fails.
* `Fails.contents_eq`: the writes before the one that fails are carried out, and no others.
* `SelfTest.run_fails`: a test that fails is its calls, cut short.
* `failed_self_test_leaves_pattern`: what the last block then holds, for each call that can fail.
* `failed_self_test_loses_block`: a read that fails once is enough to lose the block.
-/

namespace FlashDisk

open Call

variable {r : Region} {σ κ α β : Type} {v : FlashView σ} [FlashDriver σ] [CacheMaintenance κ]
variable {s s' : Shared (Device r σ κ)}

/-! ## Operations that are cut short -/

namespace Session

/-- The operation with index `k` fails, those before it succeed, and those behind it are not
made. -/
inductive Fails : List (Operation r) → Nat → DeviceError → Shared (Device r σ κ) →
    Shared (Device r σ κ) → Prop where
  | here {op : Operation r} {ops : List (Operation r)} {e : DeviceError}
      {s : Shared (Device r σ κ)} (h : (op.serve s).1.outcome = .error e) :
      Fails (op :: ops) 0 e s (op.serve s).2
  | later {op : Operation r} {ops : List (Operation r)} {k : Nat} {e : DeviceError} {value : Reply}
      {s s' : Shared (Device r σ κ)} (h : (op.serve s).1.outcome = .ok value)
      (t : Fails ops k e (op.serve s).2 s') : Fails (op :: ops) (k + 1) e s s'

namespace Fails

variable {ops : List (Operation r)} {k : Nat} {e : DeviceError}

theorem lt_length (h : Fails ops k e s s') : k < ops.length := by
  induction h with
  | here h => exact Nat.succ_pos _
  | later h t ih => exact Nat.succ_lt_succ ih

/-- Operations that are cut short leave a ready device ready, and its lock free. -/
theorem serving (h : Fails ops k e s s') (hs : Shared.Serving s) : Shared.Serving s' := by
  induction h with
  | @here op _ _ _ h => exact ⟨op.serve_held hs.free, op.serve_ready hs.free hs.ready⟩
  | @later op _ _ _ _ _ _ h t ih =>
    exact ih ⟨op.serve_held hs.free, op.serve_ready hs.free hs.ready⟩

/-- **The writes before the operation that fails are carried out, and no others.** A multi-block
write that fails is left out here: it may have carried out some of its own. -/
theorem contents_eq (hv : v.Honest r.pageSize) (h : Fails ops k e s s') (hs : s.held = false)
    (hd : s.device.Coherent v)
    (hops : ∀ op ∈ ops, ∀ start data, op ≠ .own (.writeBlocks start data)) :
    s'.device.Coherent v ∧ s'.device.contents v =
      (s.device.contents v).after ((ops.take k).flatMap Operation.blockWrites) := by
  induction h with
  | @here op ops e s h =>
    obtain ⟨hd', hcontents⟩ := op.serve_contents hv hs hd
    have hfails : ∀ value, (op.serve s).1.outcome ≠ .ok value := by
      rw [h]
      exact fun _ => nofun
    have hnone : op.writes s = [] :=
      (op.refines hv hs hd).failed hfails (hops op List.mem_cons_self)
    rw [hnone] at hcontents
    exact ⟨hd', hcontents⟩
  | @later op ops k e value s s' h t ih =>
    obtain ⟨hd', hcontents⟩ := op.serve_contents hv hs hd
    have hdone : op.writes s = op.blockWrites := op.writes_of_ok hs h
    obtain ⟨hend, hrest⟩ := ih (op.serve_held hs) hd' fun op' hop' =>
      hops op' (List.mem_cons_of_mem _ hop')
    refine ⟨hend, ?_⟩
    rw [hrest, hcontents, hdone, List.take_succ_cons, List.flatMap_cons, Contents.after_append]

end Fails

/-- If what ended is an error, the operations are cut short there. -/
def FailsAt (ops : List (Operation r)) (s : Shared (Device r σ κ)) (e : Option DeviceError)
    (s' : Shared (Device r σ κ)) : Prop :=
  ∀ cause, e = some cause → ∃ k, Fails ops k cause s s'

end Session

/-- A call that is an operation, and what follows it, fail as the operations do one after the
other. -/
theorem Call.Serves.ends_failsAt {c : Call (Shared (Device r σ κ)) DeviceError α}
    {f : α → Call (Shared (Device r σ κ)) DeviceError β} {op : Operation r}
    {ops : List (Operation r)} {value : α → Reply} (h : c.Serves op value) (hs : s.held = false)
    (hf : ∀ a, (c s).1 = .ok a → (op.serve s).2.held = false →
      (f a).Ends (op.serve s).2 (fun _ _ => True) (Session.FailsAt ops (op.serve s).2)) :
    (c >>= f).Ends s (fun _ _ => True) (Session.FailsAt (op :: ops) s) := by
  have hstate := h.state_eq hs
  have houtcome := h.outcome_eq hs
  rw [ends_bind]
  unfold Ends
  split
  · next a s₁ heq =>
    rw [heq] at hstate houtcome
    have hrest := hf a (by rw [heq]) (op.serve_held hs)
    rw [hstate] at hrest
    refine hrest.mono (fun _ _ _ => trivial) ?_
    rintro e s₂ he cause rfl
    obtain ⟨k, hk⟩ := he cause rfl
    exact ⟨k + 1, .later houtcome (by rwa [hstate])⟩
  · next e s₁ heq =>
    rw [heq] at hstate houtcome
    rintro cause hcause
    obtain rfl := Option.some.inj hcause
    have hhere : Session.Fails (op :: ops) 0 e s (op.serve s).2 := .here houtcome
    rw [hstate] at hhere
    exact ⟨0, hhere⟩
  · rintro cause hcause
    cases hcause

/-! ## The calls of the test -/

namespace SelfTest

/-- The calls of a test of a block that holds `saved`, with nobody else about. -/
def operations (block : Nat) (saved : Block r) : List (Operation r) :=
  (turns (fun _ => []) block saved).map Turn.own

/-- What the block holds after the calls before the `k`-th: the pattern, if its write is among them
and the restoring one is not. -/
def leftAfter (k : Nat) (saved : Block r) : Block r :=
  if 3 ≤ k ∧ k ≤ 5 then pattern r.blockSize else saved

omit [FlashDriver σ] [CacheMaintenance κ] in
theorem after_take_operations (m : Contents r) (block : Nat) {k : Nat} (hk : k < 7) :
    m.after (((operations block (m block)).take k).flatMap Operation.blockWrites) =
      m.write ⟨block, leftAfter k (m block)⟩ := by
  have hself : m.write ⟨block, m block⟩ = m := by
    funext b
    by_cases hb : b = block <;> simp [Contents.write, hb]
  have htwice : ∀ x y, (m.write ⟨block, x⟩).write ⟨block, y⟩ = m.write ⟨block, y⟩ := by
    intro x y
    funext b
    by_cases hb : b = block <;> simp [Contents.write, hb]
  obtain hbefore | hbetween | rfl : (k = 0 ∨ k = 1 ∨ k = 2) ∨ (k = 3 ∨ k = 4 ∨ k = 5) ∨ k = 6 := by
    omega
  · rcases hbefore with rfl | rfl | rfl <;> exact hself.symm
  · rcases hbetween with rfl | rfl | rfl <;> rfl
  · exact htwice _ _

/-- **A test that fails is its calls, cut short.** -/
theorem run_fails (hv : v.Honest r.pageSize) {x : Block r} (h : s.Stores v (r.blockCount - 1) x) :
    (run r.blockSize).Ends s (fun _ _ => True)
      (Session.FailsAt (operations (r.blockCount - 1) x) s) := by
  have hidle : ∀ {α : Type} (f : Unit → Call (Shared (Device r σ κ)) DeviceError α),
      (Call.modify (fun s => s) >>= f) = f () := fun _ => rfl
  unfold run runAmid
  simp only [hidle]
  refine Shared.serves_blockCount.ends_failsAt h.free fun count hcount free₁ => ?_
  obtain ⟨-, hnumber, -⟩ := (h.ends_quiet hv Shared.serves_blockCount rfl).of_fst hcount
  obtain rfl : r.blockCount = count := Reply.number.inj (Outcome.ok.inj hnumber)
  split
  · exact fun _ => nofun
  refine (serves_readOut _).ends_failsAt free₁ fun saved hsaved free₂ => ?_
  obtain ⟨rfl, -⟩ := (h.ends_readOut hv).of_fst hsaved
  refine (Shared.serves_writeBlock _ _).ends_failsAt free₂ fun _ _ free₃ => ?_
  refine Shared.serves_sync.ends_failsAt free₃ fun _ _ free₄ => ?_
  refine (serves_readOut _).ends_failsAt free₄ fun _ _ free₅ => ?_
  refine (Shared.serves_writeBlock _ _).ends_failsAt free₅ fun _ _ free₆ => ?_
  exact Shared.serves_sync.ends_failsAt free₆ fun _ _ _ => trivial

end SelfTest

/-! ## What the block holds afterwards -/

omit [FlashDriver σ] [CacheMaintenance κ] in
/-- The contents lie in the cache and in the bytes of the flash, so a flash with the same bytes can
stand in for it. -/
theorem Device.Coherent.withFlash {d : Device r σ κ} (h : d.Coherent v) {w : FlashView σ}
    {flash : σ} (hflash : w.Sound flash) (hbytes : w.byte flash = v.byte d.flash) :
    ({ d with flash } : Device r σ κ).Coherent w ∧
      ({ d with flash } : Device r σ κ).contents w = d.contents v := by
  have hmemory : PageCache.memory w d.cache flash = PageCache.memory v d.cache d.flash := by
    funext a
    unfold PageCache.memory
    rw [hbytes]
  exact ⟨⟨hflash, fun hclean => hbytes.trans ((h.clean hclean).trans hmemory.symm), h.resides⟩,
    congrArg (Contents.ofMemory r) hmemory⟩

/-- Over a flash without faults a block of a ready device is read, and is what the contents say. -/
theorem Shared.Serving.readBlock_ok (hv : v.Faultless r) (hs : Serving s)
    (hd : s.device.Coherent v) {b : Nat} (hb : b < r.blockCount) :
    ((Operation.own (.readBlock b) : Operation r).serve s).1.outcome =
      .ok (.bytes (s.device.contents v b).toArray) := by
  have hdone : (Device.readBlock b).Ends s.device (fun _ _ => True) fun _ _ => False := by
    simp only [Device.readBlock, ends_bind, Device.ends_ensureReady, hs.ready, ends_filling]
    exact Device.readInto_total hv hd hb _
  obtain ⟨data, hok, -⟩ := hdone.total
  obtain rfl : data = s.device.contents v b :=
    (Device.readBlock_delivers hv.toHonest hd.shows hd.resides b).of_fst hok
  show (Device.readBlock b s.device).1.map _ = _
  rw [hok, Outcome.map]

/-- **A self-test that fails behind its first write leaves the pattern.** Over an honest flash, in
every state that a new device comes to, let the device be ready and let the test end with an error.
Then its calls were cut short at some `k`. If that is the first sync, the read-back or the restoring
write, the last block holds the pattern afterwards, otherwise what it held before; every other block
is as it was. And that is what a read of the last block delivers once the flash serves without
faults. -/
theorem failed_self_test_leaves_pattern (hv : v.Honest r.pageSize) {blockSize pageSize : Nat}
    {flash : σ} {cacheControl : κ} {d : Device r σ κ}
    (hd : Device.create blockSize pageSize flash cacheControl r = .ok d)
    (events : List (Event r σ)) :
    let s := (Session.play events { device := d }).2
    let last := r.blockCount - 1
    let saved := s.device.contents v last
    let ended := SelfTest.run r.blockSize s
    0 < r.blockCount → s.device.state = .ready → v.Sound s.device.flash →
      ∀ e, ended.1 = .error e → ∃ k, Session.Fails (SelfTest.operations last saved) k e s ended.2 ∧
        let left := SelfTest.leftAfter k saved
        ended.2.device.contents v = (s.device.contents v).write ⟨last, left⟩ ∧
          ∀ (w : FlashView σ) (repaired : σ), w.Faultless r → w.Sound repaired →
            w.byte repaired = v.byte ended.2.device.flash →
            ((Operation.own (.readBlock last)).serve (ended.2.withFlash repaired)).1.outcome =
              .ok (.bytes left.toArray) := by
  intro s last saved ended hblocks ready hsound e he
  have hserving : Shared.Serving s := ⟨Session.play_free events rfl, ready⟩
  have hcoherent : s.device.Coherent v := (Session.wellFormed_of_create hd events).coherent hsound
  obtain ⟨k, hfails⟩ :=
    (SelfTest.run_fails hv ⟨hserving, hcoherent, rfl⟩).of_error he e rfl
  have hops : ∀ op ∈ SelfTest.operations last saved,
      ∀ start data, op ≠ .own (.writeBlocks start data) := by
    simp [SelfTest.operations, SelfTest.turns]
  obtain ⟨hend, hcontents⟩ := hfails.contents_eq hv hserving.free hcoherent hops
  rw [SelfTest.after_take_operations _ _ hfails.lt_length] at hcontents
  refine ⟨k, hfails, hcontents, fun w repaired hw hrepaired hbytes => ?_⟩
  obtain ⟨hend', hcontents'⟩ := hend.withFlash hrepaired hbytes
  have hserving' : (ended.2.withFlash repaired).Serving :=
    ⟨(hfails.serving hserving).free, (hfails.serving hserving).ready⟩
  have hread := hserving'.readBlock_ok hw hend' (b := last) (by omega)
  have hheld : (ended.2.withFlash repaired).device.contents w last =
      SelfTest.leftAfter k saved := by
    show Device.contents w { ended.2.device with flash := repaired } last = _
    rw [hcontents', hcontents]
    exact if_pos rfl
  rwa [hheld] at hread

/-- The last block is written and synced; then the third read from there on is to fail once, which
is the read-back of the test. -/
def eventsBeforeReadBack : List (Event Chip.smallRegion (Chip 16 DriverCall)) :=
  [.request (.own .init), .request (.own (.writeBlock 3 #v[1, 2])), .request (.own .sync),
    .outside (Chip.schedule ⟨.read, 2, 1, some .failed, 0⟩)]

theorem failed_self_test_leaves_pattern_on_small_chip :
    let s := (Session.play eventsBeforeReadBack { device := Chip.smallDevice [] }).2
    let v := Chip.view Chip.Outspoken
    let last := Chip.smallRegion.blockCount - 1
    let saved := s.device.contents v last
    let ended := SelfTest.run Chip.smallRegion.blockSize s
    let e : DeviceError := .flash ⟨.read, .failed⟩
    (0 < Chip.smallRegion.blockCount ∧ s.device.state = .ready ∧ v.Sound s.device.flash ∧
        ended.1 = .error e) ∧
      ∃ k, Session.Fails (SelfTest.operations last saved) k e s ended.2 ∧
        ended.2.device.contents v =
          (s.device.contents v).write ⟨last, SelfTest.leftAfter k saved⟩ := by
  intro s v last saved ended e
  have hblocks : 0 < Chip.smallRegion.blockCount := by decide
  have hready : s.device.state = .ready := by decide +kernel
  have hsound : v.Sound s.device.flash := by
    show Chip.Outspoken _
    decide +kernel
  have hfails : ended.1 = .error e := by decide +kernel
  have hv : v.Honest Chip.smallRegion.pageSize :=
    Chip.honest_view (fun _ _ h => h.outspoken) fun _ => id
  obtain ⟨k, hk, hcontents, -⟩ := failed_self_test_leaves_pattern hv (Chip.create_small [])
    eventsBeforeReadBack hblocks hready hsound e hfails
  exact ⟨⟨hblocks, hready, hsound, hfails⟩, k, hk, by rw [hcontents]⟩

/-- **One failed read is enough to lose the last block.** Before the test the block is read as it
was written. The test fails, and with all faults gone the block is read as the pattern. -/
theorem failed_self_test_loses_block :
    let s := (Session.play eventsBeforeReadBack { device := Chip.smallDevice [] }).2
    let ended := SelfTest.run 2 s
    let repaired := ended.2.withFlash ended.2.device.flash.clearFaults
    let read : Operation Chip.smallRegion := .own (.readBlock 3)
    (s.device.state = .ready ∧ s.device.flash.Outspoken ∧
        (read.serve s).1.outcome = .ok (.bytes #[1, 2])) ∧
      ended.1 = .error (.flash ⟨.read, .failed⟩) ∧
        (read.serve repaired).1.outcome = .ok (.bytes #[0xA5, 0xA4]) := by
  intro s ended repaired read
  refine ⟨⟨?_, ?_, ?_⟩, ?_, ?_⟩ <;> decide +kernel

end FlashDisk
