import Puppy.Memory.Cells
import Mathlib.Tactic.Ring

/-!
# Big-endian integers in packet memory

The functions of `tf_bytes.c`.  Packets are kept in memory in big-endian order
and only byte swapped for transmission, so every field has a `get` and a `put`
for its memory form, and the two fields needed before swapping have a raw `get`
as well.
-/

namespace Puppy.Wire

/-- `get_u16` -/
def getU16 (memory : Memory UInt8) (addr : Nat) : UInt16 :=
  (memory addr).toUInt16 <<< 8 ||| (memory (addr + 1)).toUInt16

/-- `get_u16_raw`: a 16-bit integer from the buffer prior to byte swapping. -/
def getU16Raw (memory : Memory UInt8) (addr : Nat) : UInt16 :=
  (memory (addr + 1)).toUInt16 <<< 8 ||| (memory addr).toUInt16

/-- `put_u16` -/
def putU16 (memory : Memory UInt8) (addr : Nat) (val : UInt16) : Memory UInt8 :=
  Memory.store memory addr [(val >>> 8 &&& 0xFF).toUInt8, (val &&& 0xFF).toUInt8]

/-- `get_u32` -/
def getU32 (memory : Memory UInt8) (addr : Nat) : UInt32 :=
  (memory addr).toUInt32 <<< 24 ||| (memory (addr + 1)).toUInt32 <<< 16 |||
    (memory (addr + 2)).toUInt32 <<< 8 ||| (memory (addr + 3)).toUInt32

/-- `get_u32_raw`: a 32-bit integer from the buffer prior to byte swapping. -/
def getU32Raw (memory : Memory UInt8) (addr : Nat) : UInt32 :=
  (memory (addr + 1)).toUInt32 <<< 24 ||| (memory addr).toUInt32 <<< 16 |||
    (memory (addr + 3)).toUInt32 <<< 8 ||| (memory (addr + 2)).toUInt32

/-- `put_u32` -/
def putU32 (memory : Memory UInt8) (addr : Nat) (val : UInt32) : Memory UInt8 :=
  Memory.store memory addr
    [(val >>> 24 &&& 0xFF).toUInt8, (val >>> 16 &&& 0xFF).toUInt8,
      (val >>> 8 &&& 0xFF).toUInt8, (val &&& 0xFF).toUInt8]

/-- `get_u64`: shift the bytes in one after the other. -/
def getU64 (memory : Memory UInt8) (addr : Nat) : UInt64 :=
  let r := (memory addr).toUInt64
  let r := r <<< 8 ||| (memory (addr + 1)).toUInt64
  let r := r <<< 8 ||| (memory (addr + 2)).toUInt64
  let r := r <<< 8 ||| (memory (addr + 3)).toUInt64
  let r := r <<< 8 ||| (memory (addr + 4)).toUInt64
  let r := r <<< 8 ||| (memory (addr + 5)).toUInt64
  let r := r <<< 8 ||| (memory (addr + 6)).toUInt64
  r <<< 8 ||| (memory (addr + 7)).toUInt64

/-- `put_u64` -/
def putU64 (memory : Memory UInt8) (addr : Nat) (val : UInt64) : Memory UInt8 :=
  Memory.store memory addr
    [(val >>> 56 &&& 0xFF).toUInt8, (val >>> 48 &&& 0xFF).toUInt8,
      (val >>> 40 &&& 0xFF).toUInt8, (val >>> 32 &&& 0xFF).toUInt8,
      (val >>> 24 &&& 0xFF).toUInt8, (val >>> 16 &&& 0xFF).toUInt8,
      (val >>> 8 &&& 0xFF).toUInt8, (val &&& 0xFF).toUInt8]

/-! ## Numeric values -/

/-- Conversion to `__u16` keeps a value that fits. -/
theorem toNat_ofInt_u16 {n : Nat} (bound : n < 2 ^ 16) : (UInt16.ofInt n).toNat = n := by
  rw [UInt16.ofInt, UInt16.toNat_ofNat']
  omega

/-- Conversion to `__u64` keeps a value that fits. -/
theorem toNat_ofInt_u64 {n : Nat} (bound : n < 2 ^ 64) : (UInt64.ofInt n).toNat = n := by
  rw [UInt64.ofInt, UInt64.toNat_ofNat']
  omega

private theorem lor_eq_add (bits high : Nat) {low : Nat} (bound : low < 2 ^ bits) :
    high * 2 ^ bits ||| low = high * 2 ^ bits + low := by
  rw [← Nat.shiftLeft_eq, Nat.shiftLeft_add_eq_or_of_lt bound]

theorem getU16_toNat (memory : Memory UInt8) (addr : Nat) :
    (getU16 memory addr).toNat =
      (memory addr).toNat * 2 ^ 8 + (memory (addr + 1)).toNat := by
  have high := (memory addr).toNat_lt
  have low := (memory (addr + 1)).toNat_lt
  simp only [getU16, UInt16.toNat_or, UInt16.toNat_shiftLeft, UInt8.toNat_toUInt16]
  rw [show (8 : UInt16).toNat % 16 = 8 by rfl, Nat.shiftLeft_eq,
    Nat.mod_eq_of_lt (by omega), lor_eq_add 8 _ low]

theorem getU16Raw_toNat (memory : Memory UInt8) (addr : Nat) :
    (getU16Raw memory addr).toNat =
      (memory (addr + 1)).toNat * 2 ^ 8 + (memory addr).toNat := by
  have high := (memory (addr + 1)).toNat_lt
  have low := (memory addr).toNat_lt
  simp only [getU16Raw, UInt16.toNat_or, UInt16.toNat_shiftLeft, UInt8.toNat_toUInt16]
  rw [show (8 : UInt16).toNat % 16 = 8 by rfl, Nat.shiftLeft_eq,
    Nat.mod_eq_of_lt (by omega), lor_eq_add 8 _ low]

/-- Four bytes assembled most significant first. -/
private theorem toNat_of_bytes32 (a b c d : UInt8) :
    (a.toUInt32 <<< 24 ||| b.toUInt32 <<< 16 ||| c.toUInt32 <<< 8 ||| d.toUInt32).toNat =
      a.toNat * 2 ^ 24 + b.toNat * 2 ^ 16 + c.toNat * 2 ^ 8 + d.toNat := by
  have aBound := a.toNat_lt
  have bBound := b.toNat_lt
  have cBound := c.toNat_lt
  have dBound := d.toNat_lt
  simp only [UInt32.toNat_or, UInt32.toNat_shiftLeft, UInt8.toNat_toUInt32]
  rw [show (24 : UInt32).toNat % 32 = 24 by rfl, show (16 : UInt32).toNat % 32 = 16 by rfl,
    show (8 : UInt32).toNat % 32 = 8 by rfl, Nat.shiftLeft_eq, Nat.shiftLeft_eq,
    Nat.shiftLeft_eq, Nat.mod_eq_of_lt (by omega), Nat.mod_eq_of_lt (by omega),
    Nat.mod_eq_of_lt (by omega), lor_eq_add 24 _ (by omega)]
  rw [show a.toNat * 2 ^ 24 + b.toNat * 2 ^ 16 = (a.toNat * 2 ^ 8 + b.toNat) * 2 ^ 16 by ring,
    lor_eq_add 16 _ (by omega)]
  rw [show (a.toNat * 2 ^ 8 + b.toNat) * 2 ^ 16 + c.toNat * 2 ^ 8 =
      (a.toNat * 2 ^ 16 + b.toNat * 2 ^ 8 + c.toNat) * 2 ^ 8 by ring,
    lor_eq_add 8 _ dBound]

theorem getU32_toNat (memory : Memory UInt8) (addr : Nat) :
    (getU32 memory addr).toNat =
      (memory addr).toNat * 2 ^ 24 + (memory (addr + 1)).toNat * 2 ^ 16 +
        (memory (addr + 2)).toNat * 2 ^ 8 + (memory (addr + 3)).toNat :=
  toNat_of_bytes32 _ _ _ _

/-- One step of the `get_u64` accumulation. -/
private theorem toNat_shift_in {r : UInt64} {n : Nat} (value : r.toNat = n) (b : UInt8)
    (bound : n < 2 ^ 56) : (r <<< 8 ||| b.toUInt64).toNat = n * 2 ^ 8 + b.toNat := by
  have low := b.toNat_lt
  simp only [UInt64.toNat_or, UInt64.toNat_shiftLeft, UInt8.toNat_toUInt64, value]
  rw [show (8 : UInt64).toNat % 64 = 8 by rfl, Nat.shiftLeft_eq,
    Nat.mod_eq_of_lt (by omega), lor_eq_add 8 _ low]

theorem getU64_toNat (memory : Memory UInt8) (addr : Nat) :
    (getU64 memory addr).toNat =
      (memory addr).toNat * 2 ^ 56 + (memory (addr + 1)).toNat * 2 ^ 48 +
        (memory (addr + 2)).toNat * 2 ^ 40 + (memory (addr + 3)).toNat * 2 ^ 32 +
        (memory (addr + 4)).toNat * 2 ^ 24 + (memory (addr + 5)).toNat * 2 ^ 16 +
        (memory (addr + 6)).toNat * 2 ^ 8 + (memory (addr + 7)).toNat := by
  have b0 := (memory addr).toNat_lt
  have b1 := (memory (addr + 1)).toNat_lt
  have b2 := (memory (addr + 2)).toNat_lt
  have b3 := (memory (addr + 3)).toNat_lt
  have b4 := (memory (addr + 4)).toNat_lt
  have b5 := (memory (addr + 5)).toNat_lt
  have b6 := (memory (addr + 6)).toNat_lt
  have r1 := toNat_shift_in (UInt8.toNat_toUInt64 (memory addr)) (memory (addr + 1)) (by omega)
  have r2 := toNat_shift_in r1 (memory (addr + 2)) (by omega)
  have r3 := toNat_shift_in r2 (memory (addr + 3)) (by omega)
  have r4 := toNat_shift_in r3 (memory (addr + 4)) (by omega)
  have r5 := toNat_shift_in r4 (memory (addr + 5)) (by omega)
  have r6 := toNat_shift_in r5 (memory (addr + 6)) (by omega)
  have r7 := toNat_shift_in r6 (memory (addr + 7)) (by omega)
  simp only [getU64]
  rw [r7]
  ring

/-! ## Reading back what was written -/

private theorem and_byte_mod (n : Nat) : (n &&& 255) % 2 ^ 8 = n % 2 ^ 8 := by
  rw [Nat.and_two_pow_sub_one_eq_mod n 8, Nat.mod_mod]

private theorem low_byte16 (val : UInt16) :
    (val &&& 0xFF).toUInt8.toNat = val.toNat % 2 ^ 8 := by
  rw [UInt16.toNat_toUInt8, UInt16.toNat_and]
  exact and_byte_mod val.toNat

private theorem low_byte32 (val : UInt32) :
    (val &&& 0xFF).toUInt8.toNat = val.toNat % 2 ^ 8 := by
  rw [UInt32.toNat_toUInt8, UInt32.toNat_and]
  exact and_byte_mod val.toNat

private theorem low_byte64 (val : UInt64) :
    (val &&& 0xFF).toUInt8.toNat = val.toNat % 2 ^ 8 := by
  rw [UInt64.toNat_toUInt8, UInt64.toNat_and]
  exact and_byte_mod val.toNat

/-- A byte of a number and what is above it. -/
private theorem split_byte (n bits : Nat) :
    n / 2 ^ bits = n / 2 ^ (bits + 8) * 2 ^ 8 + n / 2 ^ bits % 2 ^ 8 := by
  rw [Nat.pow_add, ← Nat.div_div_eq_div_mul]
  exact (Nat.div_add_mod' _ _).symm

@[simp]
theorem getU16_putU16 (memory : Memory UInt8) (addr : Nat) (val : UInt16) :
    getU16 (putU16 memory addr val) addr = val := by
  have bound := val.toNat_lt
  apply UInt16.toNat_inj.mp
  rw [getU16_toNat]
  simp only [putU16, Memory.store, Nat.le_refl, Nat.le_add_right, if_true,
    Nat.sub_self, Nat.add_sub_cancel_left, List.getD_cons_zero, List.getD_cons_succ,
    low_byte16, UInt16.toNat_shiftRight, Nat.shiftRight_eq_div_pow]
  rw [show (8 : UInt16).toNat % 16 = 8 by rfl]
  omega

@[simp]
theorem getU32_putU32 (memory : Memory UInt8) (addr : Nat) (val : UInt32) :
    getU32 (putU32 memory addr val) addr = val := by
  have bound := val.toNat_lt
  apply UInt32.toNat_inj.mp
  rw [getU32_toNat]
  simp only [putU32, Memory.store, Nat.le_refl, Nat.le_add_right, if_true,
    Nat.sub_self, Nat.add_sub_cancel_left, List.getD_cons_zero, List.getD_cons_succ,
    low_byte32, UInt32.toNat_shiftRight, Nat.shiftRight_eq_div_pow]
  rw [show (8 : UInt32).toNat % 32 = 8 by rfl, show (16 : UInt32).toNat % 32 = 16 by rfl,
    show (24 : UInt32).toNat % 32 = 24 by rfl]
  omega

@[simp]
theorem getU64_putU64 (memory : Memory UInt8) (addr : Nat) (val : UInt64) :
    getU64 (putU64 memory addr val) addr = val := by
  have bound := val.toNat_lt
  apply UInt64.toNat_inj.mp
  rw [getU64_toNat]
  simp only [putU64, Memory.store, Nat.le_refl, Nat.le_add_right, if_true,
    Nat.sub_self, Nat.add_sub_cancel_left, List.getD_cons_zero, List.getD_cons_succ,
    low_byte64, UInt64.toNat_shiftRight, Nat.shiftRight_eq_div_pow]
  rw [show (8 : UInt64).toNat % 64 = 8 by rfl, show (16 : UInt64).toNat % 64 = 16 by rfl,
    show (24 : UInt64).toNat % 64 = 24 by rfl, show (32 : UInt64).toNat % 64 = 32 by rfl,
    show (40 : UInt64).toNat % 64 = 40 by rfl, show (48 : UInt64).toNat % 64 = 48 by rfl,
    show (56 : UInt64).toNat % 64 = 56 by rfl]
  generalize val.toNat = n at bound
  have s0 := split_byte n 0
  have s1 := split_byte n 8
  have s2 := split_byte n 16
  have s3 := split_byte n 24
  have s4 := split_byte n 32
  have s5 := split_byte n 40
  have s6 := split_byte n 48
  have top := Nat.mod_eq_of_lt (Nat.div_lt_of_lt_mul (show n < 2 ^ 56 * 2 ^ 8 from bound))
  simp only [Nat.pow_zero, Nat.div_one, Nat.reduceAdd] at s0 s1 s2 s3 s4 s5 s6
  rw [top]
  generalize n / 2 ^ 8 = q1, n / 2 ^ 16 = q2, n / 2 ^ 24 = q3, n / 2 ^ 32 = q4,
    n / 2 ^ 40 = q5, n / 2 ^ 48 = q6, n / 2 ^ 56 = q7 at *
  omega

/-! ## What a field depends on -/

theorem getU16_congr {first second : Memory UInt8} {addr : Nat}
    (agree : ∀ i < 2, first (addr + i) = second (addr + i)) :
    getU16 first addr = getU16 second addr := by
  have at0 := agree 0 (by omega)
  have at1 := agree 1 (by omega)
  rw [Nat.add_zero] at at0
  simp only [getU16, at0, at1]

theorem getU32_congr {first second : Memory UInt8} {addr : Nat}
    (agree : ∀ i < 4, first (addr + i) = second (addr + i)) :
    getU32 first addr = getU32 second addr := by
  have at0 := agree 0 (by omega)
  have at1 := agree 1 (by omega)
  have at2 := agree 2 (by omega)
  have at3 := agree 3 (by omega)
  rw [Nat.add_zero] at at0
  simp only [getU32, at0, at1, at2, at3]

theorem getU64_congr {first second : Memory UInt8} {addr : Nat}
    (agree : ∀ i < 8, first (addr + i) = second (addr + i)) :
    getU64 first addr = getU64 second addr := by
  have at0 := agree 0 (by omega)
  have at1 := agree 1 (by omega)
  have at2 := agree 2 (by omega)
  have at3 := agree 3 (by omega)
  have at4 := agree 4 (by omega)
  have at5 := agree 5 (by omega)
  have at6 := agree 6 (by omega)
  have at7 := agree 7 (by omega)
  rw [Nat.add_zero] at at0
  simp only [getU64, at0, at1, at2, at3, at4, at5, at6, at7]

/-- A store elsewhere leaves a 16-bit field alone. -/
theorem getU16_store (memory : Memory UInt8) {addr target : Nat} {bytes : List UInt8}
    (disjoint : addr + 2 ≤ target ∨ target + bytes.length ≤ addr) :
    getU16 (Memory.store memory target bytes) addr = getU16 memory addr :=
  getU16_congr fun _ _ => Memory.store_outside memory (by omega)

/-- A store elsewhere leaves a 32-bit field alone. -/
theorem getU32_store (memory : Memory UInt8) {addr target : Nat} {bytes : List UInt8}
    (disjoint : addr + 4 ≤ target ∨ target + bytes.length ≤ addr) :
    getU32 (Memory.store memory target bytes) addr = getU32 memory addr :=
  getU32_congr fun _ _ => Memory.store_outside memory (by omega)

end Puppy.Wire
