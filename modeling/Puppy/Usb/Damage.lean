import Puppy.Usb.Link
import Puppy.Wire.CrcBits

/-!
# Damage the packet check detects

Two messages of one length are compared bit by bit, in the order in which the
check takes the bits in.  If they differ in an odd number of bits, or only
inside a burst no longer than the check, their checks differ; so a packet that
was damaged like this behind its `crc` field is reported by `get_tf_packet`.
-/

namespace Puppy.Usb

open Coding
open Puppy.Wire

universe u

variable {σ : Type u}

/-! ## Damaged messages -/

/-- Bit `i` of byte `j` of a message has the position `8 * j + i`. -/
def bitAt (bytes : List UInt8) (position : Nat) : Bool :=
  (bytes.getD (position / 8) 0).toNat.testBit (position % 8)

/-- Whether two messages differ at a position. -/
def differsAt (first second : List UInt8) (position : Nat) : Bool :=
  bitAt first position ^^ bitAt second position

/-- The positions at which two messages of one length differ. -/
def damagedBits (first second : List UInt8) : List Nat :=
  (List.range (8 * first.length)).filter (differsAt first second)

/-- Two messages of one length that differ, either within 16 consecutive
positions or at an odd number of positions. -/
structure Damaged (first second : List UInt8) : Prop where
  sameLength : first.length = second.length
  differ : first ≠ second
  kind : (∃ start, ∀ position ∈ damagedBits first second,
      start ≤ position ∧ position < start + 16) ∨
    (damagedBits first second).length % 2 = 1

private theorem getD_messageBits (bytes : List UInt8) :
    ∀ position, (messageBits bytes).getD position false = bitAt bytes position := by
  induction bytes with
  | nil =>
      intro position
      simp [messageBits, bitAt]
  | cons byte bytes ih =>
      intro position
      rw [messageBits_cons, List.getD_eq_getElem?_getD]
      rcases Nat.lt_or_ge position 8 with here | later
      · rw [List.getElem?_append_left (by simpa using here), bitAt, Nat.div_eq_of_lt here,
          Nat.mod_eq_of_lt here]
        simp [byteBits, here]
      · obtain ⟨rest, rfl⟩ := Nat.exists_eq_add_of_le later
        rw [List.getElem?_append_right (by simp), byteBits_length, Nat.add_sub_cancel_left,
          ← List.getD_eq_getElem?_getD, ih, bitAt, bitAt, Nat.add_mod_left,
          Nat.add_div_left rest (by decide), List.getD_cons_succ]

/-- The difference of the bits of two messages. -/
private theorem zipWith_messageBits {first second : List UInt8}
    (sameLength : first.length = second.length) :
    List.zipWith xor (messageBits first) (messageBits second) =
      (List.range (8 * first.length)).map (differsAt first second) := by
  apply List.ext_getElem
  · simp [sameLength]
  · intro position inZip inRange
    have below : position < 8 * first.length := by simpa using inRange
    have left := getD_messageBits first position
    have right := getD_messageBits second position
    rw [List.getD_eq_getElem?_getD, List.getElem?_eq_getElem (by simpa using below),
      Option.getD_some] at left
    rw [List.getD_eq_getElem?_getD,
      List.getElem?_eq_getElem (by simpa [sameLength] using below), Option.getD_some] at right
    rw [List.getElem_zipWith, left, right]
    simp [differsAt]

/-- Messages that agree at all positions are equal. -/
private theorem eq_of_differsAt {first second : List UInt8}
    (sameLength : first.length = second.length)
    (agree : ∀ position < 8 * first.length, differsAt first second position = false) :
    first = second := by
  apply List.ext_getElem sameLength
  intro j inFirst inSecond
  apply UInt8.toNat_inj.mp
  apply Nat.eq_of_testBit_eq
  intro i
  rcases Nat.lt_or_ge i 8 with inside | past
  · have same : bitAt first (8 * j + i) = bitAt second (8 * j + i) := by
      simpa [differsAt] using agree (8 * j + i) (by omega)
    have byte : (8 * j + i) / 8 = j := by omega
    have bit : (8 * j + i) % 8 = i := by omega
    simpa only [bitAt, byte, bit, List.getD_eq_getElem?_getD, List.getElem?_eq_getElem inFirst,
      List.getElem?_eq_getElem inSecond, Option.getD_some] using same
  · have clear (byte : UInt8) : byte.toNat.testBit i = false :=
      Nat.testBit_lt_two_pow (Nat.lt_of_lt_of_le byte.toNat_lt
        (Nat.pow_le_pow_right (by decide) past))
    rw [clear, clear]

/-- The register does not come back to zero over the difference of the messages. -/
private theorem take_difference_ne_zero {first second : List UInt8}
    (damaged : Damaged first second) :
    take crc16Pattern 0#16 (List.zipWith xor (messageBits first) (messageBits second)) ≠ 0#16 := by
  rw [zipWith_messageBits damaged.sameLength]
  rcases damaged.kind with ⟨start, burst⟩ | odd
  · apply take_window_ne_zero (by decide)
    · by_contra quiet
      apply damaged.differ
      apply eq_of_differsAt damaged.sameLength
      intro position below
      by_contra hit
      rw [Bool.not_eq_false] at hit
      exact quiet (List.mem_map.mpr ⟨position, List.mem_range.mpr below, hit⟩)
    · intro position hit
      apply burst
      rw [List.getElem?_map, Option.map_eq_some_iff] at hit
      obtain ⟨_, found, differs⟩ := hit
      obtain ⟨inside, rfl⟩ := List.getElem?_eq_some_iff.mp found
      rw [List.getElem_range] at differs
      rw [List.length_range] at inside
      exact List.mem_filter.mpr ⟨List.mem_range.mpr inside, differs⟩
  · apply take_odd_ne_zero (by decide) (by decide)
    rw [List.count_eq_countP, List.countP_map, List.countP_eq_length_filter]
    have counted : ((fun bit => bit == true) ∘ differsAt first second) =
        differsAt first second := by
      funext position
      simp
    rw [counted]
    exact odd

/-- The checks of damaged messages differ. -/
theorem crc16Ansi_ne_of_damaged {first second : Memory UInt8} {firstData secondData size : Nat}
    (damaged : Damaged (Memory.load first firstData size) (Memory.load second secondData size)) :
    crc16Ansi first firstData size ≠ crc16Ansi second secondData size := by
  intro same
  have bits := congrArg UInt16.toBitVec same
  rw [toBitVec_crc16Ansi, toBitVec_crc16Ansi] at bits
  apply take_difference_ne_zero damaged
  have difference := take_zipWith_xor crc16Pattern
    (messageBits (Memory.load first firstData size)) 0#16 0#16
    (by simp : _ = (messageBits (Memory.load second secondData size)).length)
  rw [BitVec.xor_self, bits, BitVec.xor_self] at difference
  exact difference

/-! ## Damaged packets -/

/-- A packet that arrived with its `length` and `crc` fields as they were sent
and the bytes from 4 to `length - 1` damaged. -/
structure DamagedPacket (sent arrived : Memory UInt8) : Prop where
  length : packetLength arrived = packetLength sent
  crc : packetCrc arrived = packetCrc sent
  covered : Damaged (Memory.load sent 4 ((packetLength sent).toNat - 4))
    (Memory.load arrived 4 ((packetLength sent).toNat - 4))

/-- The check of the packet that arrived is not the one it carries. -/
theorem packetCrc_ne_getCrc_of_damagedPacket {sent arrived : Memory UInt8}
    (header : PACKET_HEAD_SIZE ≤ (packetLength sent).toNat)
    (valid : packetCrc sent = getCrc sent) (damaged : DamagedPacket sent arrived) :
    packetCrc arrived ≠ getCrc arrived := by
  rw [damaged.crc, valid, getCrc_of_header header,
    getCrc_of_header (by rw [damaged.length]; exact header), damaged.length]
  exact crc16Ansi_ne_of_damaged damaged.covered

/-- With checks on, a wrong check is all that is reported of an accepted packet. -/
theorem stderr_acceptPacket {env : Env σ} {input : BulkIn σ} (checks : env.ignoreCrc = false)
    (arrived : PACKET_HEAD_SIZE ≤ input.retrieved)
    (declared : PACKET_HEAD_SIZE ≤ (packetLength (swapInPacket input.buffer)).toNat)
    (wrong : packetCrc (swapInPacket input.buffer) ≠ getCrc (swapInPacket input.buffer)) :
    (acceptPacket env input).stderr =
      [.packetCrc (packetCrc (swapInPacket input.buffer))
        (getCrc (swapInPacket input.buffer))] := by
  have arrivedNat : 8 ≤ input.retrieved := arrived
  unfold acceptPacket
  simp only
  rw [if_neg (by omega), if_neg (by omega), if_neg (Nat.not_lt.mpr declared)]
  exact if_pos ⟨checks, wrong⟩

/-- Damaged messages have different checks, and `get_tf_packet` reports every
packet that was damaged like this. -/
theorem packetCheck_detects :
    (∀ (first second : Memory UInt8) (firstData secondData size : Nat),
      Damaged (Memory.load first firstData size) (Memory.load second secondData size) →
      crc16Ansi first firstData size ≠ crc16Ansi second secondData size) ∧
    ∀ (env : Env σ) (buffer : Memory UInt8) (state : σ) (sent : Memory UInt8),
      env.ignoreCrc = false →
      PACKET_HEAD_SIZE ≤ (usbBulkRead env buffer MAXIMUM_PACKET_SIZE state).retrieved →
      PACKET_HEAD_SIZE ≤ (packetLength sent).toNat → packetCrc sent = getCrc sent →
      DamagedPacket sent
        (swapInPacket (usbBulkRead env buffer MAXIMUM_PACKET_SIZE state).buffer) →
      (getTfPacket env buffer state).stderr =
        [.packetCrc (packetCrc sent) (getCrc (getTfPacket env buffer state).packet)] ∧
      packetCrc sent ≠ getCrc (getTfPacket env buffer state).packet := by
  constructor
  · intro first second firstData secondData size damaged
    exact crc16Ansi_ne_of_damaged damaged
  · intro env buffer state sent checks arrived header valid damaged
    have declared : PACKET_HEAD_SIZE ≤ (packetLength (swapInPacket
        (usbBulkRead env buffer MAXIMUM_PACKET_SIZE state).buffer)).toNat := by
      rw [damaged.length]
      exact header
    have accepted : 0 < (getTfPacket env buffer state).ret :=
      acceptPacket_pos_iff.mpr ⟨arrived, declared⟩
    have packet := (acceptPacket_of_pos accepted).2.2.2.1
    have wrong := packetCrc_ne_getCrc_of_damagedPacket header valid damaged
    rw [getTfPacket, packet, stderr_acceptPacket checks arrived declared wrong, damaged.crc]
    rw [damaged.crc] at wrong
    exact ⟨rfl, wrong⟩

/-- The `SUCCESS` packet, in memory order. -/
def successInMemory : Memory UInt8 :=
  Memory.store (fun _ => 0) 0 [0x00, 0x08, 0xc1, 0x81, 0x00, 0x00, 0x00, 0x02]

/-- The `SUCCESS` packet on the wire, with one bit of its command flipped. -/
def flippedSuccess : List UInt8 := [0x08, 0x00, 0x81, 0xc1, 0x00, 0x00, 0x03, 0x00]

theorem packetCheck_detects_flippedSuccess :
    crc16Ansi successInMemory 4 4 ≠
        crc16Ansi (swapInPacket (Memory.store (fun _ => 0) 0 flippedSuccess)) 4 4 ∧
      let received := getTfPacket Link.muteEnv (fun _ => 0)
        { pending := [], queue := [flippedSuccess], device := () }
      received.stderr = [.packetCrc (packetCrc successInMemory) (getCrc received.packet)] ∧
        packetCrc successInMemory ≠ getCrc received.packet := by
  have damaged : Damaged (Memory.load successInMemory 4 4)
      (Memory.load (swapInPacket (Memory.store (fun _ => 0) 0 flippedSuccess)) 4 4) :=
    ⟨rfl, by decide +kernel, Or.inl ⟨24, by decide +kernel⟩⟩
  have delivered : Delivers Link.muteEnv
      { pending := [], queue := [flippedSuccess], device := () } flippedSuccess
      { pending := [], queue := [], device := () } :=
    delivers_link (by decide) rfl (by decide) (Or.inr rfl)
  constructor
  · exact (packetCheck_detects (σ := Unit)).1 _ _ 4 4 4 damaged
  · apply packetCheck_detects.2 _ _ _ successInMemory rfl
    · rw [delivered]
      decide
    · decide +kernel
    · decide +kernel
    · rw [delivered]
      exact ⟨by decide +kernel, by decide +kernel, damaged⟩

end Puppy.Usb
