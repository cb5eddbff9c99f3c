import Puppy.Wire.TfBytes
import Puppy.Wire.Crc16

/-!
# Topfield packets

The layout of `struct tf_packet` and `struct typefile`, the command codes of
`usb_io.h`, and the byte swapping that turns the memory form of a packet into
its wire form.  A packet is the memory from its first byte on; what lies beyond
the declared length is whatever the buffer held before.
-/

namespace Puppy.Wire

/-! ## Constants -/

/-- The command codes a packet may carry. -/
def FAIL : UInt32 := 0x0001
def SUCCESS : UInt32 := 0x0002
def CANCEL : UInt32 := 0x0003
def CMD_READY : UInt32 := 0x0100
def CMD_RESET : UInt32 := 0x0101
def CMD_TURBO : UInt32 := 0x0102
def CMD_HDD_SIZE : UInt32 := 0x1000
def DATA_HDD_SIZE : UInt32 := 0x1001
def DATA_HDD_DIR : UInt32 := 0x1003
def DATA_HDD_DIR_END : UInt32 := 0x1004
def CMD_HDD_DIR : UInt32 := 0x1002
def CMD_HDD_DEL : UInt32 := 0x1005
def CMD_HDD_RENAME : UInt32 := 0x1006
def CMD_HDD_CREATE_DIR : UInt32 := 0x1007
def CMD_HDD_FILE_SEND : UInt32 := 0x1008
def DATA_HDD_FILE_START : UInt32 := 0x1009
def DATA_HDD_FILE_DATA : UInt32 := 0x100a
def DATA_HDD_FILE_END : UInt32 := 0x100b

def MAXIMUM_PACKET_SIZE : Nat := 0xFFFF
def PACKET_HEAD_SIZE : Nat := 8

/-- `sizeof(struct typefile)` -/
def TYPEFILE_SIZE : Nat := 114

/-! ## Packet fields -/

/-- The `length` field. -/
def packetLength (packet : Memory UInt8) : UInt16 := getU16 packet 0

/-- The `crc` field. -/
def packetCrc (packet : Memory UInt8) : UInt16 := getU16 packet 2

/-- The `cmd` field. -/
def packetCmd (packet : Memory UInt8) : UInt32 := getU32 packet 4

/-- Where the `data` area starts. -/
def dataOffset : Nat := 8

/-- How many bytes a packet declares behind the offset field of its data. -/
def payloadSize (packet : Memory UInt8) : Nat :=
  (packetLength packet).toNat - (PACKET_HEAD_SIZE + 8)

/-- The file data of a packet. -/
def payload (packet : Memory UInt8) : List UInt8 :=
  Memory.load packet (dataOffset + 8) (payloadSize packet)

@[simp]
theorem payload_length (packet : Memory UInt8) : (payload packet).length = payloadSize packet := by
  simp [payload]

/-- A store into the data area leaves the header alone. -/
theorem packetLength_store (packet : Memory UInt8) {target : Nat} (bytes : List UInt8)
    (behind : dataOffset ≤ target) :
    packetLength (Memory.store packet target bytes) = packetLength packet :=
  getU16_store packet (Or.inl (Nat.le_trans (by decide) behind))

theorem packetCmd_store (packet : Memory UInt8) {target : Nat} (bytes : List UInt8)
    (behind : dataOffset ≤ target) :
    packetCmd (Memory.store packet target bytes) = packetCmd packet :=
  getU32_store packet (Or.inl behind)

/-- The header written before the data area. -/
theorem header_putU32_putU16 (packet : Memory UInt8) (length : UInt16) (cmd : UInt32) :
    packetLength (putU32 (putU16 packet 0 length) 4 cmd) = length ∧
      packetCmd (putU32 (putU16 packet 0 length) 4 cmd) = cmd := by
  refine ⟨?_, getU32_putU32 _ _ _⟩
  rw [packetLength, putU32, getU16_store _ (by simp), getU16_putU16]

/-- `(n + 1) & ~1` -/
def roundUpEven (n : Nat) : Nat := (n + 1) / 2 * 2

theorem le_roundUpEven (n : Nat) : n ≤ roundUpEven n := by
  unfold roundUpEven
  omega

/-- `get_crc`: the check over everything behind the `crc` field.  The length is
reduced in `size_t`. -/
def getCrc (packet : Memory UInt8) : UInt16 :=
  crc16Ansi packet 4 ((packetLength packet).toUInt64 - 4).toNat

/-- The check of a packet that declares its header. -/
theorem getCrc_of_header {packet : Memory UInt8}
    (header : PACKET_HEAD_SIZE ≤ (packetLength packet).toNat) :
    getCrc packet = crc16Ansi packet 4 ((packetLength packet).toNat - 4) := by
  have headerNat : 8 ≤ (packetLength packet).toNat := header
  rw [getCrc, UInt64.toNat_sub_of_le]
  · rfl
  · rw [UInt64.le_iff_toNat_le]
    simpa using by omega

/-! ## Byte swapping -/

/-- One pass of the `byte_swap` loop: exchange `d[i]` and `d[i + 1]`. -/
def swapAt (d : Memory UInt8) (i : Nat) : Memory UInt8 :=
  Function.update (Function.update d i (d (i + 1))) (i + 1) (d i)

/-- The `byte_swap` loop from `i` on, with the number of passes left. -/
def byteSwapFrom (d : Memory UInt8) (i : Nat) : Nat → Memory UInt8
  | 0 => d
  | passes + 1 => byteSwapFrom (swapAt d i) (i + 2) passes

/-- `byte_swap`: `i` runs over the even numbers below `count & ~1`. -/
def byteSwap (d : Memory UInt8) (count : Nat) : Memory UInt8 :=
  byteSwapFrom d 0 (count / 2)

/-- `swap_in_packet` -/
def swapInPacket (packet : Memory UInt8) : Memory UInt8 :=
  let size := roundUpEven (getU16Raw packet 0).toNat
  byteSwap packet (if size > MAXIMUM_PACKET_SIZE then MAXIMUM_PACKET_SIZE else size)

/-- `swap_out_packet` -/
def swapOutPacket (packet : Memory UInt8) : Memory UInt8 :=
  byteSwap packet (roundUpEven (packetLength packet).toNat)

private theorem swapAt_apply (d : Memory UInt8) (pair address : Nat) :
    swapAt d (2 * pair) address =
      if address / 2 = pair then d (Memory.neighbour address) else d address := by
  unfold swapAt Memory.neighbour
  by_cases second : address = 2 * pair + 1
  · subst second
    rw [Function.update_self, if_pos (by omega), if_neg (by omega)]
    rfl
  · rw [Function.update_of_ne second]
    by_cases first : address = 2 * pair
    · subst first
      rw [Function.update_self, if_pos (by omega), if_pos (by omega)]
    · rw [Function.update_of_ne first, if_neg (by omega)]

private theorem byteSwapFrom_apply (passes : Nat) :
    ∀ (d : Memory UInt8) (start address : Nat),
      byteSwapFrom d (2 * start) passes address =
        if 2 * start ≤ address ∧ address < 2 * (start + passes) then
          d (Memory.neighbour address)
        else d address := by
  induction passes with
  | zero =>
      intro d start address
      simp only [byteSwapFrom]
      rw [if_neg (by omega)]
  | succ passes ih =>
      intro d start address
      simp only [byteSwapFrom]
      rw [show 2 * start + 2 = 2 * (start + 1) by omega, ih, swapAt_apply, swapAt_apply]
      have samePair : Memory.neighbour address / 2 = address / 2 := by
        unfold Memory.neighbour
        split <;> omega
      rw [samePair]
      by_cases here : address / 2 = start
      · rw [if_neg (by omega), if_pos here, if_pos (by omega)]
      · rw [if_neg here, if_neg here]
        by_cases later : 2 * (start + 1) ≤ address ∧ address < 2 * (start + 1 + passes)
        · rw [if_pos later, if_pos (by omega)]
        · rw [if_neg later, if_neg (by omega)]

/-- The loop exchanges the neighbours below `count & ~1` and nothing else. -/
theorem byteSwap_eq_exchange (d : Memory UInt8) (count : Nat) :
    byteSwap d count = Memory.exchange d (count / 2) := by
  funext address
  have loop := byteSwapFrom_apply (count / 2) d 0 address
  simp only [Nat.mul_zero, Nat.zero_add, Nat.zero_le, true_and] at loop
  exact loop

/-! ## Incoming packets -/

/-- How many bytes from the front `swap_in_packet` looks at. -/
def swapInSize (packet : Memory UInt8) : Nat :=
  min (roundUpEven (getU16Raw packet 0).toNat) MAXIMUM_PACKET_SIZE

theorem swapInPacket_eq_exchange (packet : Memory UInt8) :
    swapInPacket packet = Memory.exchange packet (swapInSize packet / 2) := by
  rw [swapInPacket, byteSwap_eq_exchange]
  congr 2
  unfold swapInSize
  split <;> omega

/-- The declared length is the one the still-swapped header carries. -/
theorem packetLength_swapInPacket (packet : Memory UInt8) :
    packetLength (swapInPacket packet) = getU16Raw packet 0 := by
  rw [swapInPacket_eq_exchange]
  apply UInt16.toNat_inj.mp
  rw [packetLength, getU16_toNat]
  have raw := getU16Raw_toNat packet 0
  rcases Nat.eq_zero_or_pos (getU16Raw packet 0).toNat with zero | positive
  · have size : swapInSize packet / 2 = 0 := by
      simp [swapInSize, zero, roundUpEven]
    rw [size, Memory.exchange_outside _ (by omega), Memory.exchange_outside _ (by omega)]
    omega
  · have size : 0 < swapInSize packet / 2 := by
      simp only [swapInSize, roundUpEven, MAXIMUM_PACKET_SIZE]
      omega
    rw [Memory.exchange_inside _ (by omega), Memory.exchange_inside _ (by omega), raw]
    rfl

/-- With a whole header declared, the raw command is the command of the swapped
packet. -/
theorem packetCmd_swapInPacket {packet : Memory UInt8}
    (header : PACKET_HEAD_SIZE ≤ (packetLength (swapInPacket packet)).toNat) :
    packetCmd (swapInPacket packet) = getU32Raw packet 4 := by
  rw [packetLength_swapInPacket] at header
  have size : 8 ≤ 2 * (swapInSize packet / 2) := by
    simp only [swapInSize, roundUpEven, MAXIMUM_PACKET_SIZE, PACKET_HEAD_SIZE] at header ⊢
    omega
  rw [swapInPacket_eq_exchange, packetCmd, getU32, getU32Raw,
    Memory.exchange_inside _ (by omega), Memory.exchange_inside _ (by omega),
    Memory.exchange_inside _ (by omega), Memory.exchange_inside _ (by omega)]
  rfl

/-! ## Outgoing packets -/

/-- What `send_tf_packet` turns a packet into before it is written: the `crc`
field is filled in and the packet is swapped. -/
def sealPacket (packet : Memory UInt8) : Memory UInt8 :=
  swapOutPacket (putU16 packet 2 (getCrc packet))

/-- `byte_count` in `send_tf_packet`. -/
def byteCount (packet : Memory UInt8) : Nat :=
  roundUpEven (packetLength packet).toNat

/-- The bytes `send_tf_packet` hands to the bulk pipe. -/
def wireImage (packet : Memory UInt8) : List UInt8 :=
  Memory.load (sealPacket packet) 0 (byteCount packet)

@[simp]
theorem wireImage_length (packet : Memory UInt8) :
    (wireImage packet).length = byteCount packet := by
  simp [wireImage]

theorem byteCount_le (packet : Memory UInt8) : byteCount packet ≤ 2 ^ 16 := by
  have declared := (packetLength packet).toNat_lt
  simp only [byteCount, roundUpEven]
  omega

theorem byteCount_even (packet : Memory UInt8) : byteCount packet % 2 = 0 := by
  simp only [byteCount, roundUpEven]
  omega

/-- Filling in the `crc` field changes no other byte. -/
theorem putU16_crc_apply (packet : Memory UInt8) (crc : UInt16) {address : Nat}
    (other : address < 2 ∨ 4 ≤ address) :
    putU16 packet 2 crc address = packet address :=
  Memory.store_outside packet (by simpa using other)

theorem packetLength_putU16_crc (packet : Memory UInt8) (crc : UInt16) :
    packetLength (putU16 packet 2 crc) = packetLength packet :=
  getU16_store packet (by simp)

theorem packetCmd_putU16_crc (packet : Memory UInt8) (crc : UInt16) :
    packetCmd (putU16 packet 2 crc) = packetCmd packet :=
  getU32_store packet (by simp)

/-- The check does not cover its own field. -/
theorem getCrc_putU16_crc {packet : Memory UInt8} (crc : UInt16) :
    getCrc (putU16 packet 2 crc) = getCrc packet := by
  rw [getCrc, getCrc, packetLength_putU16_crc]
  apply crc16Ansi_congr
  intro address lower _
  exact putU16_crc_apply packet crc (Or.inr lower)

/-- A byte on the wire is its neighbour in memory, with the `crc` field filled in. -/
theorem sealPacket_apply {packet : Memory UInt8} {address : Nat}
    (inside : address < byteCount packet) :
    sealPacket packet address = putU16 packet 2 (getCrc packet) (Memory.neighbour address) := by
  have even := byteCount_even packet
  simp only [sealPacket, swapOutPacket, byteSwap_eq_exchange, packetLength_putU16_crc]
  exact Memory.exchange_inside _ (by simp only [byteCount] at inside even; omega)

theorem neighbour_lt_byteCount {packet : Memory UInt8} {address : Nat}
    (inside : address < byteCount packet) : Memory.neighbour address < byteCount packet := by
  have even := byteCount_even packet
  have pairs : 2 * (byteCount packet / 2) = byteCount packet := by omega
  rw [← pairs] at inside ⊢
  exact Memory.neighbour_lt_iff.mpr inside

/-- What lies in the buffer behind a received packet image. -/
private theorem store_wireImage_apply (packet old : Memory UInt8) {address : Nat}
    (inside : address < byteCount packet) :
    Memory.store old 0 (wireImage packet) address =
      putU16 packet 2 (getCrc packet) (Memory.neighbour address) := by
  have bound : address < (wireImage packet).length := by simpa using inside
  have stored : Memory.store old 0 (wireImage packet) (0 + address) = (wireImage packet)[address] :=
    Memory.store_inside old bound
  rw [Nat.zero_add] at stored
  rw [stored, ← sealPacket_apply inside]
  simp only [wireImage, Memory.getElem_load, Nat.zero_add]

theorem getU16Raw_store_wireImage {packet : Memory UInt8}
    (nonempty : 0 < (packetLength packet).toNat) (old : Memory UInt8) :
    getU16Raw (Memory.store old 0 (wireImage packet)) 0 = packetLength packet := by
  have size : 1 < byteCount packet := by
    simp only [byteCount, roundUpEven]
    omega
  rw [getU16Raw, store_wireImage_apply packet old (by omega),
    store_wireImage_apply packet old (by omega)]
  exact packetLength_putU16_crc packet _

/-- Up to the padded length, a packet received on top of any old buffer
contents is the packet that was sent, with its `crc` field filled in. -/
theorem swapInPacket_wireImage {packet : Memory UInt8}
    (bound : (packetLength packet).toNat < MAXIMUM_PACKET_SIZE)
    (old : Memory UInt8) {address : Nat} (inside : address < byteCount packet) :
    swapInPacket (Memory.store old 0 (wireImage packet)) address =
      putU16 packet 2 (getCrc packet) address := by
  have even := byteCount_even packet
  have nonempty : 0 < (packetLength packet).toNat := by
    simp only [byteCount, roundUpEven] at inside
    omega
  have size : swapInSize (Memory.store old 0 (wireImage packet)) = byteCount packet := by
    rw [swapInSize, getU16Raw_store_wireImage nonempty]
    simp only [byteCount, roundUpEven, MAXIMUM_PACKET_SIZE] at bound ⊢
    omega
  rw [swapInPacket_eq_exchange, size, Memory.exchange_inside _ (by omega),
    store_wireImage_apply packet old (neighbour_lt_byteCount inside), Memory.neighbour_neighbour]

/-- The declared length of a received packet image. -/
theorem packetLength_swapInPacket_wireImage {packet : Memory UInt8}
    (nonempty : 0 < (packetLength packet).toNat) (old : Memory UInt8) :
    packetLength (swapInPacket (Memory.store old 0 (wireImage packet))) =
      packetLength packet := by
  rw [packetLength_swapInPacket, getU16Raw_store_wireImage nonempty]

/-- The command of a received packet image. -/
theorem packetCmd_swapInPacket_wireImage {packet : Memory UInt8}
    (header : PACKET_HEAD_SIZE ≤ (packetLength packet).toNat)
    (bound : (packetLength packet).toNat < MAXIMUM_PACKET_SIZE) (old : Memory UInt8) :
    packetCmd (swapInPacket (Memory.store old 0 (wireImage packet))) =
      packetCmd packet := by
  rw [← packetCmd_putU16_crc packet (getCrc packet)]
  apply getU32_congr
  intro i below
  apply swapInPacket_wireImage bound
  simp only [byteCount, roundUpEven, PACKET_HEAD_SIZE] at header ⊢
  omega

/-- The `crc` field of a received packet image is the sender's check. -/
theorem packetCrc_swapInPacket_wireImage {packet : Memory UInt8}
    (header : PACKET_HEAD_SIZE ≤ (packetLength packet).toNat)
    (bound : (packetLength packet).toNat < MAXIMUM_PACKET_SIZE) (old : Memory UInt8) :
    packetCrc (swapInPacket (Memory.store old 0 (wireImage packet))) = getCrc packet := by
  rw [← getU16_putU16 packet 2 (getCrc packet)]
  apply getU16_congr
  intro i below
  apply swapInPacket_wireImage bound
  simp only [byteCount, roundUpEven, PACKET_HEAD_SIZE] at header ⊢
  omega

/-- The receiver computes the check the sender computed. -/
theorem getCrc_swapInPacket_wireImage {packet : Memory UInt8}
    (header : PACKET_HEAD_SIZE ≤ (packetLength packet).toNat)
    (bound : (packetLength packet).toNat < MAXIMUM_PACKET_SIZE) (old : Memory UInt8) :
    getCrc (swapInPacket (Memory.store old 0 (wireImage packet))) = getCrc packet := by
  have headerNat : 8 ≤ (packetLength packet).toNat := header
  have nonempty : 0 < (packetLength packet).toNat := by omega
  have arrived := packetLength_swapInPacket_wireImage nonempty old
  rw [getCrc_of_header (by rw [arrived]; exact header), arrived,
    ← getCrc_putU16_crc (getCrc packet),
    getCrc_of_header (by rw [packetLength_putU16_crc]; exact header), packetLength_putU16_crc]
  apply crc16Ansi_congr
  intro address _ upper
  apply swapInPacket_wireImage bound
  simp only [byteCount, roundUpEven]
  omega

/-! ## What goes on the wire -/

/-- The bytes on the wire depend on those of the packet outside its `crc` field
and up to the padded length only. -/
theorem wireImage_congr {first second : Memory UInt8}
    (header : PACKET_HEAD_SIZE ≤ (packetLength first).toNat)
    (agree : ∀ address, address < 2 ∨ 4 ≤ address → address < byteCount first →
      first address = second address) :
    wireImage first = wireImage second := by
  have headerNat : 8 ≤ (packetLength first).toNat := header
  have padded : (packetLength first).toNat ≤ byteCount first := le_roundUpEven _
  have length : packetLength first = packetLength second := by
    apply getU16_congr
    intro i below
    exact agree _ (Or.inl (by omega)) (by omega)
  have count : byteCount first = byteCount second := by
    rw [byteCount, byteCount, length]
  have crc : getCrc first = getCrc second := by
    rw [getCrc_of_header header, getCrc_of_header (length ▸ header), ← length]
    apply crc16Ansi_congr
    intro address above below
    exact agree address (Or.inr above) (by omega)
  rw [wireImage, wireImage, ← count]
  apply Memory.load_congr
  intro address _ below
  rw [Nat.zero_add] at below
  rw [sealPacket_apply below, sealPacket_apply (count ▸ below), crc]
  have inside := neighbour_lt_byteCount below
  generalize Memory.neighbour address = other at inside
  by_cases field : 2 ≤ other ∧ other < 4
  · exact Memory.store_agree _ _ field.1 field.2
  · apply Memory.store_agree_of_agree
    exact agree other (by omega) inside

/-- Every byte of a packet outside its `crc` field is one on the wire. -/
theorem agree_of_wireImage_eq {first second : Memory UInt8}
    (same : wireImage first = wireImage second) {address : Nat}
    (inside : address < byteCount first) (other : address < 2 ∨ 4 ≤ address) :
    first address = second address := by
  have count : byteCount first = byteCount second := by
    rw [← wireImage_length, same, wireImage_length]
  rw [wireImage, wireImage, ← count, Memory.load_eq_load_iff] at same
  have swapped := neighbour_lt_byteCount inside
  have bytes := same (Memory.neighbour address) swapped
  rw [Nat.zero_add, sealPacket_apply swapped, sealPacket_apply (count ▸ swapped),
    Memory.neighbour_neighbour, putU16_crc_apply _ _ other, putU16_crc_apply _ _ other] at bytes
  exact bytes

end Puppy.Wire
