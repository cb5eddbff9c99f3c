import Puppy.Listing.Decoding
import Puppy.Time.RoundTrip
import Puppy.Usb.Request

/-!
# Records as a device writes them

The far side of a listing: a record with a name that fits its field becomes a
`DATA_HDD_DIR` packet, and the packet is read as that record.
-/

namespace Puppy.Peer

open Puppy.Wire Puppy.Usb Puppy.Listing Puppy.Time

/-- A record that a `typefile` can hold. -/
structure Fileable extends Record where
  short : name.length < NAME_SIZE
  small : size < 2 ^ 63

/-- A packet with a single record. -/
def recordPacket (record : Record) : Memory UInt8 :=
  let packet := putFixedHeader (fun _ => 0) 122 DATA_HDD_DIR
  let packet := putTfDatetime packet dataOffset record.stamp
  let packet := Memory.store packet (dataOffset + 5) [record.filetype]
  let packet := putU64 packet (dataOffset + 6) (UInt64.ofNat record.size)
  CString.copyTo packet (dataOffset + 14) record.name

/-! ## The packet -/

theorem getTfDatetime_congr {first second : Memory UInt8} {addr : Nat}
    (agree : ∀ i < 5, first (addr + i) = second (addr + i)) :
    getTfDatetime first addr = getTfDatetime second addr := by
  have day : getU16 first addr = getU16 second addr :=
    getU16_congr fun i below => agree i (Nat.lt_of_lt_of_le below (by decide))
  rw [getTfDatetime, getTfDatetime, day, agree 2 (by decide), agree 3 (by decide),
    agree 4 (by decide)]

theorem header_recordPacket (record : Record) :
    packetLength (recordPacket record) = 122 ∧ packetCmd (recordPacket record) = DATA_HDD_DIR := by
  have header := header_putU32_putU16 (fun _ => 0) 122 DATA_HDD_DIR
  simp only [recordPacket, CString.copyTo, putU64, putTfDatetime, putFixedHeader]
  constructor
  · rw [packetLength_store _ _ (by decide), packetLength_store _ _ (by decide),
      packetLength_store _ _ (by decide), packetLength_store _ _ (by decide), putU16,
      packetLength_store _ _ (by decide), header.1]
  · rw [packetCmd_store _ _ (by decide), packetCmd_store _ _ (by decide),
      packetCmd_store _ _ (by decide), packetCmd_store _ _ (by decide), putU16,
      packetCmd_store _ _ (by decide), header.2]

theorem byteCount_recordPacket (record : Record) : byteCount (recordPacket record) = 122 := by
  rw [byteCount, (header_recordPacket record).1]
  rfl

/-! ## The record -/

/-- The record of a packet is read as it was written. -/
theorem recordAt_recordPacket (record : Fileable) :
    recordAt (recordPacket record.toRecord) 0 = record.toRecord := by
  obtain ⟨⟨stamp, filetype, size, name⟩, short, small⟩ := record
  simp only [recordPacket, recordAt, typefileOffset, Nat.zero_mul, Nat.add_zero]
  generalize putFixedHeader (fun _ => 0) 122 DATA_HDD_DIR = headed
  have stamped : getTfDatetime (CString.copyTo (putU64 (Memory.store
      (putTfDatetime headed dataOffset stamp) (dataOffset + 5) [filetype]) (dataOffset + 6)
        (UInt64.ofNat size)) (dataOffset + 14) name) dataOffset = stamp := by
    refine Eq.trans ?_ (getTfDatetime_putTfDatetime headed dataOffset stamp)
    apply getTfDatetime_congr
    intro i below
    rw [CString.copyTo, putU64, Memory.store_below _ _ (by omega),
      Memory.store_below _ _ (by omega), Memory.store_below _ _ (by omega)]
  generalize putTfDatetime headed dataOffset stamp = dated at *
  have typed : CString.copyTo (putU64 (Memory.store dated (dataOffset + 5) [filetype])
      (dataOffset + 6) (UInt64.ofNat size)) (dataOffset + 14) name (dataOffset + 5) = filetype := by
    rw [CString.copyTo, putU64, Memory.store_below _ _ (by omega),
      Memory.store_below _ _ (by omega)]
    simp [Memory.store]
  generalize Memory.store dated (dataOffset + 5) [filetype] = filed at *
  have sized : bigEndian (Memory.load (CString.copyTo (putU64 filed (dataOffset + 6)
      (UInt64.ofNat size)) (dataOffset + 14) name) (dataOffset + 6) 8) = size := by
    rw [CString.copyTo, Memory.load_store_disjoint _ _ (Or.inl (by omega)), ← toNat_getU64,
      getU64_putU64]
    exact UInt64.toNat_ofNat_of_lt' (Nat.lt_trans small (by decide))
  rw [stamped, typed, sized, CString.ofMemory_copyTo _ _ _ short]

/-! ## The message -/

/-- A packet in the memory order of its message, but for the check. -/
theorem memoryOrder_wireImage {packet : Memory UInt8} {address : Nat}
    (inside : address < byteCount packet) :
    memoryOrder (wireImage packet) address = putU16 packet 2 (getCrc packet) address := by
  have swapped := neighbour_lt_byteCount inside
  have bound : Memory.neighbour address < (wireImage packet).length := by rwa [wireImage_length]
  rw [memoryOrder, List.getD_eq_getElem?_getD, List.getElem?_eq_getElem bound, Option.getD_some]
  simp only [wireImage, Memory.getElem_load, Nat.zero_add]
  rw [sealPacket_apply swapped, Memory.neighbour_neighbour]

theorem memoryOrder_recordPacket (record : Record) {address : Nat} (behind : 4 ≤ address)
    (inside : address < 122) :
    memoryOrder (wireImage (recordPacket record)) address = recordPacket record address := by
  rw [memoryOrder_wireImage (by rwa [byteCount_recordPacket]),
    putU16_crc_apply _ _ (Or.inr behind)]

/-- The name of a packet with a record ends in its field. -/
theorem name_recordPacket (record : Record) :
    recordPacket record (typefileOffset 0 + 14 + record.name.length) = 0 := by
  have inside : record.name.length < (record.name.bytes ++ [0]).length := by
    rw [List.length_append]
    exact Nat.lt_succ_self _
  refine (Memory.store_inside _ inside).trans ?_
  simp [CString.length]

/-- A record is read from the message as from the packet. -/
theorem recordAt_message (record : Fileable) :
    recordAt (memoryOrder (wireImage (recordPacket record.toRecord))) 0 = record.toRecord := by
  have agree : ∀ k < TYPEFILE_SIZE,
      memoryOrder (wireImage (recordPacket record.toRecord)) (dataOffset + k) =
        recordPacket record.toRecord (dataOffset + k) := by
    intro k below
    unfold TYPEFILE_SIZE at below
    apply memoryOrder_recordPacket
    · unfold dataOffset
      omega
    · unfold dataOffset
      omega
  have offset : typefileOffset 0 = dataOffset := rfl
  have ends := name_recordPacket record.toRecord
  have short := record.short
  refine Eq.trans ?_ (recordAt_recordPacket record)
  generalize memoryOrder _ = received at agree ⊢
  generalize recordPacket record.toRecord = packet at agree ends ⊢
  rw [offset] at ends
  have stamp : getTfDatetime received dataOffset = getTfDatetime packet dataOffset :=
    getTfDatetime_congr fun i below => agree i (Nat.lt_of_lt_of_le below (by decide))
  have size : Memory.load received (dataOffset + 6) 8 = Memory.load packet (dataOffset + 6) 8 := by
    rw [Memory.load_eq_load_iff]
    intro i below
    rw [Nat.add_assoc]
    exact agree _ (by unfold TYPEFILE_SIZE; omega)
  have name : CString.ofMemory received (dataOffset + 14) NAME_SIZE =
      CString.ofMemory packet (dataOffset + 14) NAME_SIZE := by
    apply CString.eq_iff_bytes.mpr
    apply CString.scan_congr short short ends
    intro k upTo
    rw [Nat.add_assoc]
    apply agree
    unfold NAME_SIZE at short
    unfold TYPEFILE_SIZE
    omega
  simp only [recordAt, offset, stamp, agree 5 (by decide), size, name]

theorem header_message (record : Record) :
    packetLength (memoryOrder (wireImage (recordPacket record))) = 122 ∧
      packetCmd (memoryOrder (wireImage (recordPacket record))) = DATA_HDD_DIR := by
  have header := header_recordPacket record
  have inside := byteCount_recordPacket record
  constructor
  · refine (getU16_congr fun i below => ?_).trans header.1
    rw [memoryOrder_wireImage (by omega)]
    exact putU16_crc_apply _ _ (Or.inl (by omega))
  · refine (getU32_congr fun i below => ?_).trans header.2
    exact memoryOrder_recordPacket record (by omega) (by omega)

theorem nameEnds_message (record : Fileable) :
    NameEnds (memoryOrder (wireImage (recordPacket record.toRecord))) 0 := by
  have short := record.short
  refine ⟨record.name.length, short, ?_⟩
  unfold NAME_SIZE at short
  rw [memoryOrder_recordPacket _ (by unfold typefileOffset dataOffset; omega)
    (by unfold typefileOffset dataOffset; omega)]
  exact name_recordPacket record.toRecord

theorem declaredLength_message (record : Record) :
    declaredLength (wireImage (recordPacket record)) = 122 := by
  rw [← packetLength_memoryOrder, (header_message record).1]
  rfl

theorem arrived_message (record : Record) :
    neededBytes (declaredLength (wireImage (recordPacket record))) ≤
      (wireImage (recordPacket record)).length := by
  rw [wireImage_length, byteCount_recordPacket, declaredLength_message]
  decide

theorem size_message (record : Fileable) :
    (recordAt (memoryOrder (wireImage (recordPacket record.toRecord))) 0).size < 2 ^ 63 := by
  rw [recordAt_message]
  exact record.small

/-- A record as a message. -/
def Fileable.message (record : Fileable) : DirMessage where
  data := wireImage (recordPacket record.toRecord)
  records := 1
  excess := 0
  declared := declaredLength_message record.toRecord
  incomplete := Nat.zero_lt_succ 113
  arrived := arrived_message record.toRecord
  dir := (header_message record.toRecord).2
  named _ below := Nat.lt_one_iff.mp below ▸ nameEnds_message record
  sized _ below := Nat.lt_one_iff.mp below ▸ size_message record

/-- What is sent for records is a listing of them. -/
theorem listing_messages (records : List Fileable) :
    listing (records.map Fileable.message) = records.map Fileable.toRecord := by
  induction records with
  | nil => rfl
  | cons record records ih =>
      have first : (List.range record.message.records).map
          (recordAt (memoryOrder record.message.data)) = [record.toRecord] :=
        congrArg (fun first => [first]) (recordAt_message record)
      rw [listing, List.map_cons, List.flatMap_cons, first, List.map_cons]
      exact congrArg (record.toRecord :: ·) ih

end Puppy.Peer
