import FlashDisk.Driver
import FlashDisk.Proofs.Ends
import FlashDisk.Proofs.Tiling

/-!
# What a flash holds, and what it may do

A driver may be any state machine. A `FlashView` says which states the flash can be in and
which byte it holds at an address there; what the driver may do to these bytes comes in three
strengths:

* `Local`: an access changes no byte outside its own range, whatever it reports. A failure, a
  trap and a false report of success may each leave any bytes inside the range.
* `Honest`: besides, what is reported done is done. An erase leaves `0xFF`, a program clears
  the bits that its data has clear, a read delivers the bytes. Failures and their effects
  inside the range stay arbitrary.
* `Faultless`: besides, every access that a device over the region makes is done.

`erase_ends`, `write_ends` and `read_ends` say how each access of an honest flash ends.
-/

namespace FlashDisk

/-- A way to look at the states of a flash. -/
structure FlashView (σ : Type) where
  /-- The states that the flash can be in. -/
  Sound : σ → Prop
  /-- The byte at an address. -/
  byte : σ → Nat → UInt8

namespace FlashView

variable {σ : Type} (v : FlashView σ)

/-- No byte outside the `len` bytes from `addr` on has changed. -/
structure Keeps (addr len : Nat) (f f' : σ) : Prop where
  sound : v.Sound f'
  byte_eq : ∀ a, ¬(addr ≤ a ∧ a < addr + len) → v.byte f' a = v.byte f a

/-- No byte has changed. -/
structure Same (f f' : σ) : Prop where
  sound : v.Sound f'
  byte_eq : v.byte f' = v.byte f

section Changes

variable {v} {f f' f'' : σ} {addr n : Nat}

theorem Same.refl (h : v.Sound f) : v.Same f f := ⟨h, rfl⟩

theorem Same.trans (h : v.Same f f') (h' : v.Same f' f'') : v.Same f f'' :=
  ⟨h'.sound, h'.byte_eq.trans h.byte_eq⟩

theorem Same.keeps (h : v.Same f f') : v.Keeps addr n f f' :=
  ⟨h.sound, fun a _ => congrFun h.byte_eq a⟩

theorem Keeps.trans (h : v.Keeps addr n f f') (h' : v.Keeps addr n f' f'') :
    v.Keeps addr n f f'' :=
  ⟨h'.sound, fun a ha => (h'.byte_eq a ha).trans (h.byte_eq a ha)⟩

end Changes

variable [FlashDriver σ]

/-- Every access stays in its range. -/
structure Local : Prop where
  init : ∀ f, v.Sound f → v.Same f (FlashDriver.init f).2
  erase : ∀ f addr len, v.Sound f → v.Keeps addr len f (FlashDriver.erase addr len f).2
  read : ∀ {n : Nat} f addr (buffer : Vector UInt8 n), v.Sound f →
    v.Same f (FlashDriver.read addr (f, buffer)).2.1
  write : ∀ {n : Nat} f addr (data : Vector UInt8 n), v.Sound f →
    v.Keeps addr n f (FlashDriver.write addr data f).2

/-- Every access stays in its range, and one that is reported done is done. Pages are erased and
programmed as a whole. -/
structure Honest (pageSize : Nat) : Prop extends Local v where
  erased : ∀ f addr, v.Sound f → (FlashDriver.erase addr pageSize f).1 = .ok () →
    ∀ a, addr ≤ a → a < addr + pageSize → v.byte (FlashDriver.erase addr pageSize f).2 a = 0xFF
  programmed : ∀ f addr (data : Vector UInt8 pageSize), v.Sound f →
    (FlashDriver.write addr data f).1 = .ok () → ∀ i (h : i < pageSize),
      v.byte (FlashDriver.write addr data f).2 (addr + i) = v.byte f (addr + i) &&& data[i]
  delivered : ∀ {n : Nat} f addr (buffer : Vector UInt8 n), v.Sound f →
    (FlashDriver.read addr (f, buffer)).1 = .ok () → ∀ i (h : i < n),
      (FlashDriver.read addr (f, buffer)).2.2[i] = v.byte f (addr + i)

/-- An honest flash without faults, that erases pages of the region's size and holds the
region. -/
structure Faultless (r : Region) : Prop extends Honest v r.pageSize where
  init_ok : ∀ f, v.Sound f → (FlashDriver.init f).1 = .ok ()
  erase_ok : ∀ f base, v.Sound f → r.IsPage base →
    (FlashDriver.erase base r.pageSize f).1 = .ok ()
  write_ok : ∀ f base (data : Vector UInt8 r.pageSize), v.Sound f → r.IsPage base →
    (FlashDriver.write base data f).1 = .ok ()
  read_ok : ∀ {n : Nat} f addr (buffer : Vector UInt8 n), v.Sound f → r.base ≤ addr →
    addr + n ≤ r.stop → (FlashDriver.read addr (f, buffer)).1 = .ok ()

/-- The view that tells nothing apart; every access keeps to it. -/
def blind (σ : Type) : FlashView σ where
  Sound _ := True
  byte _ _ := 0

theorem blind_local (σ : Type) [FlashDriver σ] : (blind σ).Local where
  init _ _ := ⟨trivial, rfl⟩
  erase _ _ _ _ := ⟨trivial, fun _ _ => rfl⟩
  read _ _ _ _ := ⟨trivial, rfl⟩
  write _ _ _ _ := ⟨trivial, fun _ _ => rfl⟩

/-! ## Accesses of an honest flash -/

variable {v} {p n addr : Nat} {f : σ}

theorem Honest.erase_ends (hv : v.Honest p) (hf : v.Sound f) :
    (FlashDriver.erase addr p).Ends f
      (fun _ f' => v.Keeps addr p f f' ∧ ∀ a, addr ≤ a → a < addr + p → v.byte f' a = 0xFF)
      fun _ f' => v.Keeps addr p f f' :=
  Call.ends_of_result (fun _ h => ⟨hv.erase f addr p hf, hv.erased f addr hf h⟩)
    fun _ _ => hv.erase f addr p hf

theorem Honest.write_ends (hv : v.Honest p) (hf : v.Sound f) (data : Vector UInt8 p) :
    (FlashDriver.write addr data).Ends f
      (fun _ f' => v.Keeps addr p f f' ∧
        ∀ i (h : i < p), v.byte f' (addr + i) = v.byte f (addr + i) &&& data[i])
      fun _ f' => v.Keeps addr p f f' :=
  Call.ends_of_result (fun _ h => ⟨hv.write f addr data hf, hv.programmed f addr data hf h⟩)
    fun _ _ => hv.write f addr data hf

theorem Honest.read_ends (hv : v.Honest p) (hf : v.Sound f) (buffer : Vector UInt8 n) :
    (FlashDriver.read addr).Ends (f, buffer)
      (fun _ x => v.Same f x.1 ∧ ∀ i (h : i < n), x.2[i] = v.byte f (addr + i))
      fun _ x => v.Same f x.1 :=
  Call.ends_of_result
    (fun _ h => ⟨hv.read f addr buffer hf, hv.delivered f addr buffer hf h⟩)
    fun _ _ => hv.read f addr buffer hf

end FlashView

end FlashDisk
