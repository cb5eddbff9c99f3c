import Puppy.Wire.Crc16
import Puppy.Coding.ShiftRegister
import Mathlib.Logic.Function.Iterate

/-!
# The packet check, a bit at a time

The definition of CRC-16/ANSI with a register that is shifted once for every
bit.  The table of `crc16.c` holds the effect of eight shifts, so the loop that
looks bytes up in it computes the same check; and the check is what a shift
register takes in of the bits of the message, the lowest bit of each byte first.
-/

namespace Puppy.Wire

open Coding

/-- Shift right by one and xor `0xA001` if the bit shifted out was 1. -/
def crc16Shift (crc : UInt16) : UInt16 :=
  if crc &&& 1 = 1 then crc >>> 1 ^^^ 0xA001 else crc >>> 1

/-- Take a byte in: xor it into the low byte, then shift eight times. -/
def crc16Byte (crc : UInt16) (byte : UInt8) : UInt16 :=
  crc16Shift^[8] (crc ^^^ byte.toUInt16)

/-- CRC-16/ANSI, with the register initialised to 0. -/
def crc16Bitwise (bytes : List UInt8) : UInt16 := bytes.foldl crc16Byte 0

/-! ## Shifts of the register -/

/-- The pattern of CRC-16/ANSI. -/
def crc16Pattern : BitVec 16 := 0xA001#16

private theorem lowBit_iff (crc : UInt16) : crc &&& 1 = 1 ↔ crc.toBitVec.getLsbD 0 = true := by
  rw [← UInt16.toNat_inj, UInt16.toNat_and, ← BitVec.testBit_toNat, Nat.testBit_zero,
    decide_eq_true_iff]
  exact Eq.congr (Nat.and_one_is_mod crc.toNat) rfl

private theorem toBitVec_crc16Shift (crc : UInt16) :
    (crc16Shift crc).toBitVec = shift crc16Pattern crc.toBitVec := by
  have moved : (crc >>> 1).toBitVec = crc.toBitVec >>> 1 := rfl
  rw [crc16Shift, shift]
  by_cases low : crc &&& 1 = 1
  · rw [if_pos low, if_pos ((lowBit_iff crc).mp low), UInt16.toBitVec_xor, moved]
    rfl
  · rw [if_neg low, if_neg (fun set => low ((lowBit_iff crc).mpr set)), moved]

private theorem toBitVec_iterate_crc16Shift (count : Nat) :
    ∀ crc : UInt16, (crc16Shift^[count] crc).toBitVec = shifts crc16Pattern count crc.toBitVec := by
  induction count with
  | zero =>
      intro crc
      rfl
  | succ count ih =>
      intro crc
      rw [Function.iterate_succ_apply, ih, toBitVec_crc16Shift, shifts]

/-! ## The table -/

/-- Every entry of the table is eight shifts of its index. -/
theorem crc16Table_getD : ∀ index : Fin 256,
    crc16Table.getD index 0 = crc16Shift^[8] (UInt16.ofNat index) := by
  decide +kernel

private theorem toBitVec_and_low (crc : UInt16) :
    (crc &&& 0xFF).toBitVec = (crc.toBitVec.setWidth 8).setWidth 16 := by
  apply BitVec.eq_of_toNat_eq
  have masked : crc.toNat &&& 255 = crc.toNat % 2 ^ 8 := Nat.and_two_pow_sub_one_eq_mod _ 8
  rw [UInt16.toNat_toBitVec, UInt16.toNat_and, BitVec.toNat_setWidth, BitVec.toNat_setWidth,
    UInt16.toNat_toBitVec]
  have mask : (0xFF : UInt16).toNat = 255 := rfl
  rw [mask, masked]
  omega

/-- Eight shifts look the low byte up and move the high byte down. -/
theorem iterate_crc16Shift_eight (crc : UInt16) :
    crc16Shift^[8] crc = crc16Table.getD (crc &&& 0xFF).toNat 0 ^^^ crc >>> 8 := by
  have below : (crc &&& 0xFF).toNat < 256 := by
    rw [UInt16.toNat_and]
    exact Nat.lt_of_le_of_lt Nat.and_le_right (by decide)
  have entry := crc16Table_getD ⟨(crc &&& 0xFF).toNat, below⟩
  rw [entry, UInt16.ofNat_toNat]
  apply UInt16.toBitVec_inj.mp
  rw [UInt16.toBitVec_xor, toBitVec_iterate_crc16Shift, toBitVec_iterate_crc16Shift,
    shifts_low_xor_high, toBitVec_and_low]
  rfl

/-- A pass of the `crc16_ansi` loop takes one byte in. -/
theorem crc16Byte_eq_table (crc : UInt16) (byte : UInt8) :
    crc16Byte crc byte =
      crc16Table.getD ((crc ^^^ byte.toUInt16) &&& 0xFF).toNat 0 ^^^ crc >>> 8 := by
  have gone : byte.toUInt16 >>> 8 = 0 := by
    have bound := byte.toNat_lt
    apply UInt16.toNat_inj.mp
    rw [UInt16.toNat_shiftRight, UInt8.toNat_toUInt16, Nat.shiftRight_eq_div_pow]
    exact Nat.div_eq_of_lt bound
  rw [crc16Byte, iterate_crc16Shift_eight, UInt16.shiftRight_xor, gone, UInt16.xor_zero]

/-- From any register on, the loop takes in the bytes it is given one by one. -/
theorem crc16AnsiFrom_eq_foldl (memory : Memory UInt8) (size : Nat) :
    ∀ (crc : UInt16) (d : Nat),
      crc16AnsiFrom memory crc d size = (Memory.load memory d size).foldl crc16Byte crc := by
  induction size with
  | zero =>
      intro crc d
      rfl
  | succ size ih =>
      intro crc d
      have first : Memory.load memory d 1 = [memory d] := rfl
      rw [crc16AnsiFrom, ih, ← crc16Byte_eq_table, Nat.add_comm size 1, Memory.load_append, first]
      rfl

/-- The table-driven check is CRC-16/ANSI, for every byte string. -/
theorem crc16Ansi_eq_crc16Bitwise (memory : Memory UInt8) (data size : Nat) :
    crc16Ansi memory data size = crc16Bitwise (Memory.load memory data size) :=
  crc16AnsiFrom_eq_foldl memory size 0 data

/-! ## The bits of a message -/

/-- The bits of a byte, the lowest first. -/
def byteBits (byte : UInt8) : List Bool := (List.range 8).map byte.toNat.testBit

/-- The bits of a message: bit `i` of byte `j` stands at `8 * j + i`. -/
def messageBits (bytes : List UInt8) : List Bool := bytes.flatMap byteBits

@[simp]
theorem byteBits_length (byte : UInt8) : (byteBits byte).length = 8 := by
  simp [byteBits]

theorem messageBits_cons (byte : UInt8) (bytes : List UInt8) :
    messageBits (byte :: bytes) = byteBits byte ++ messageBits bytes :=
  List.flatMap_cons

@[simp]
theorem messageBits_length (bytes : List UInt8) :
    (messageBits bytes).length = 8 * bytes.length := by
  induction bytes with
  | nil => rfl
  | cons byte bytes ih =>
      rw [messageBits_cons, List.length_append, byteBits_length, ih, List.length_cons]
      omega

private theorem word_byteBits (byte : UInt8) :
    (word (byteBits byte) : BitVec 16) = byte.toUInt16.toBitVec := by
  apply BitVec.eq_of_getLsbD_eq
  intro i inside
  rw [getLsbD_word, decide_eq_true inside, Bool.true_and, UInt8.toBitVec_toUInt16,
    BitVec.getLsbD_setWidth, decide_eq_true inside, Bool.true_and, ← BitVec.testBit_toNat,
    List.getD_eq_getElem?_getD]
  rcases Nat.lt_or_ge i 8 with low | high
  · simp [byteBits, low]
  · rw [List.getElem?_eq_none (by simpa using high), Option.getD_none]
    exact (Nat.testBit_lt_two_pow (Nat.lt_of_lt_of_le byte.toNat_lt
      (Nat.pow_le_pow_right (by decide) high))).symm

private theorem toBitVec_foldl_crc16Byte (bytes : List UInt8) :
    ∀ crc : UInt16, (bytes.foldl crc16Byte crc).toBitVec =
      take crc16Pattern crc.toBitVec (messageBits bytes) := by
  induction bytes with
  | nil =>
      intro crc
      rfl
  | cons byte bytes ih =>
      intro crc
      rw [List.foldl_cons, ih, messageBits_cons, take_append,
        take_eq_shifts _ (byteBits byte) _ (by simp), byteBits_length, word_byteBits, crc16Byte,
        toBitVec_iterate_crc16Shift, UInt16.toBitVec_xor]

/-- The check is what the register takes in of the bits of the message. -/
theorem toBitVec_crc16Ansi (memory : Memory UInt8) (data size : Nat) :
    (crc16Ansi memory data size).toBitVec =
      take crc16Pattern 0#16 (messageBits (Memory.load memory data size)) := by
  rw [crc16Ansi, crc16AnsiFrom_eq_foldl, toBitVec_foldl_crc16Byte]
  rfl

end Puppy.Wire
