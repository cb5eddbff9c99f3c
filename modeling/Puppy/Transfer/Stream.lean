import Puppy.Transfer.Put
import Mathlib.Data.List.Induction

/-!
# The packets of an upload

What the packets built by `puppy_hdd_file_put` say, and how a list of
`DATA_HDD_FILE_DATA` packets cut from a file one behind the other adds up to
the file.
-/

namespace Puppy.Transfer

open Puppy.Wire Puppy.Usb Puppy.Time

universe u

variable {σ : Type u}

/-- A `DATA_HDD_FILE_DATA` packet that carries at least one byte of the file,
the bytes from `offset` on, and that the device can take. -/
structure DataPacket (contents : List UInt8) (offset : Nat) (packet : Memory UInt8) :
    Prop where
  cmd : packetCmd packet = DATA_HDD_FILE_DATA
  field : (getU64 packet dataOffset).toNat = offset
  nonempty : 1 ≤ payloadSize packet
  length : (packetLength packet).toNat = 16 + payloadSize packet
  bound : (packetLength packet).toNat ≤ 65534
  wire : byteCount packet % 512 ≠ 0
  inside : offset + payloadSize packet ≤ contents.length
  bytes : payload packet = (contents.drop offset).take (payloadSize packet)

/-- The bytes of file data in a list of packets. -/
def streamSize (datas : List Sent) : Nat :=
  (datas.map fun data => payloadSize data.packet).sum

/-- The file data in a list of packets. -/
def streamBytes (datas : List Sent) : List UInt8 :=
  (datas.map fun data => payload data.packet).flatten

/-- Every packet goes on where the packets before it ended. -/
def DataStream (contents : List UInt8) (datas : List Sent) : Prop :=
  ∀ before data after, datas = before ++ data :: after →
    DataPacket contents (streamSize before) data.packet

/-! ## The stream as a whole -/

@[simp]
theorem streamSize_nil : streamSize [] = 0 :=
  rfl

@[simp]
theorem streamSize_concat (datas : List Sent) (data : Sent) :
    streamSize (datas ++ [data]) = streamSize datas + payloadSize data.packet := by
  simp [streamSize]

@[simp]
theorem streamBytes_concat (datas : List Sent) (data : Sent) :
    streamBytes (datas ++ [data]) = streamBytes datas ++ payload data.packet := by
  simp [streamBytes]

theorem streamBytes_length (datas : List Sent) : (streamBytes datas).length = streamSize datas := by
  simp [streamBytes, streamSize, List.length_flatten, Function.comp_def]

theorem dataStream_nil (contents : List UInt8) : DataStream contents [] := by
  intro before data after split
  simp at split

/-- A stream is extended by a packet that goes on where it ends. -/
theorem dataStream_concat_iff {contents : List UInt8} {datas : List Sent} {data : Sent} :
    DataStream contents (datas ++ [data]) ↔
      DataStream contents datas ∧ DataPacket contents (streamSize datas) data.packet := by
  constructor
  · intro stream
    constructor
    · intro before middle after split
      apply stream before middle (after ++ [data])
      rw [split]
      simp
    · exact stream datas data [] rfl
  · rintro ⟨stream, next⟩ before middle after split
    rcases List.eq_nil_or_concat after with rfl | ⟨initial, last, rfl⟩
    · have parts := List.append_inj' split rfl
      have same : data = middle := by simpa using parts.2
      rw [← parts.1, ← same]
      exact next
    · apply stream before middle initial
      rw [List.concat_eq_append, ← List.cons_append, ← List.append_assoc] at split
      exact (List.append_inj' split rfl).1

theorem DataStream.concat {contents : List UInt8} {datas : List Sent} {data : Sent}
    (stream : DataStream contents datas)
    (next : DataPacket contents (streamSize datas) data.packet) :
    DataStream contents (datas ++ [data]) :=
  dataStream_concat_iff.mpr ⟨stream, next⟩

/-- The packets of a stream carry the front of the file. -/
theorem DataStream.bytes {contents : List UInt8} {datas : List Sent}
    (stream : DataStream contents datas) :
    streamSize datas ≤ contents.length ∧
      streamBytes datas = contents.take (streamSize datas) := by
  induction datas using List.reverseRecOn with
  | nil => simp [streamBytes]
  | append_singleton datas data ih =>
      obtain ⟨before, next⟩ := dataStream_concat_iff.mp stream
      obtain ⟨_, front⟩ := ih before
      rw [streamSize_concat, streamBytes_concat, front, next.bytes]
      exact ⟨next.inside, (List.take_add ..).symm⟩

/-- A stream carries the whole file exactly when its sizes add up to the file
size. -/
theorem DataStream.bytes_eq_iff {contents : List UInt8} {datas : List Sent}
    (stream : DataStream contents datas) :
    streamBytes datas = contents ↔ streamSize datas = contents.length := by
  constructor
  · intro whole
    rw [← streamBytes_length, whole]
  · intro size
    rw [stream.bytes.2, size, List.take_length]

theorem DataStream.mem {contents : List UInt8} {datas : List Sent} {data : Sent}
    (stream : DataStream contents datas) (member : data ∈ datas) :
    ∃ offset, DataPacket contents offset data.packet := by
  obtain ⟨before, after, rfl⟩ := List.append_of_mem member
  exact ⟨_, stream before data after rfl⟩

/-! ## The packets of each state -/

/-- The header of a `DATA_HDD_FILE_START` packet. -/
theorem startPacket_header (env : Env σ) (src : SourceFile) (dstPath : CString)
    (packet : Memory UInt8) :
    (packetLength (startPacket env src dstPath packet)).toNat = 122 ∧
      packetCmd (startPacket env src dstPath packet) = DATA_HDD_FILE_START := by
  have header := header_putU32_putU16 packet (UInt16.ofNat (PACKET_HEAD_SIZE + 114))
    DATA_HDD_FILE_START
  simp only [startPacket, putTfDatetime, putU64]
  generalize putU32 (putU16 packet 0 _) 4 _ = headed at header ⊢
  rw [putU16]
  constructor
  · repeat rw [packetLength_store _ _ (by decide)]
    rw [header.1]
    rfl
  · repeat rw [packetCmd_store _ _ (by decide)]
    exact header.2

/-- The header of a `DATA_HDD_FILE_END` packet. -/
theorem endPacket_header (packet : Memory UInt8) :
    (packetLength (endPacket packet)).toNat = 8 ∧
      packetCmd (endPacket packet) = DATA_HDD_FILE_END := by
  have header := header_putU32_putU16 packet (UInt16.ofNat PACKET_HEAD_SIZE) DATA_HDD_FILE_END
  rw [endPacket, header.1]
  exact ⟨rfl, header.2⟩

/-- The header of a packet built around `w` bytes, and the bytes themselves. -/
private theorem dataPacket_fields {w : Nat} (packet : Memory UInt8) (byteCount : UInt64)
    (room : 16 + w ≤ 65534) :
    packetCmd (dataPacket packet w byteCount) = DATA_HDD_FILE_DATA ∧
      getU64 (dataPacket packet w byteCount) dataOffset = byteCount ∧
      (packetLength (dataPacket packet w byteCount)).toNat = 16 + w ∧
      ∀ count, Memory.load (dataPacket packet w byteCount) (dataOffset + 8) count =
        Memory.load packet (dataOffset + 8) count := by
  have size : (UInt16.ofInt (PACKET_HEAD_SIZE + 8 + (w : Int))).toNat = 16 + w := by
    have converted := toNat_ofInt_u16 (n := 16 + w) (by omega)
    rwa [Nat.cast_add] at converted
  have header := header_putU32_putU16 packet
    (UInt16.ofInt (PACKET_HEAD_SIZE + 8 + (w : Int))) DATA_HDD_FILE_DATA
  refine ⟨?_, getU64_putU64 _ _ _, ?_, fun count => ?_⟩
  · rw [dataPacket, putU64, packetCmd_store _ _ (Nat.le_refl _), header.2]
  · rw [dataPacket, putU64, packetLength_store _ _ (Nat.le_refl _), header.1, size]
  · rw [dataPacket, putU64, Memory.load_store_disjoint _ _ (by simp [dataOffset]), putU32,
      Memory.load_store_disjoint _ _ (by simp [dataOffset]), putU16,
      Memory.load_store_disjoint _ _ (by simp [dataOffset])]

/-- The packet built around `w` bytes of the file at `packet.data[8]`. -/
theorem dataPacket_spec {contents : List UInt8} {offset w : Nat} {packet : Memory UInt8}
    {count : UInt64} (field : count.toNat = offset) (positive : 1 ≤ w)
    (room : 16 + w ≤ 65534) (wire : roundUpEven (16 + w) % 512 ≠ 0)
    (inside : offset + w ≤ contents.length)
    (stored : Memory.load packet (dataOffset + 8) w = (contents.drop offset).take w) :
    payloadSize (dataPacket packet w count) = w ∧
      DataPacket contents offset (dataPacket packet w count) := by
  obtain ⟨cmd, atOffset, length, frame⟩ := dataPacket_fields packet count room
  have size : payloadSize (dataPacket packet w count) = w := by
    rw [payloadSize, length, PACKET_HEAD_SIZE]
    omega
  refine ⟨size, ?_⟩
  exact
    { cmd
      field := by rw [atOffset, field]
      nonempty := by rw [size]; exact positive
      length := by rw [size, length]
      bound := by rw [length]; exact room
      wire := by rw [byteCount, length]; exact wire
      inside := by rw [size]; exact inside
      bytes := by rw [payload, size, frame, stored] }

end Puppy.Transfer
