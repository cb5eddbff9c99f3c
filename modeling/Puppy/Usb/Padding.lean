import Puppy.Usb.PathRequest

/-!
# The padding of the requests

Each request is built in an uninitialised local `struct tf_packet`.  Its length
is rounded up to even, but nothing is stored behind the arguments: where the
rounding adds a byte, what the stack held before goes into the check and onto
the wire.  Two runs from different buffers therefore hand over the same bytes
exactly when there is no padding.
-/

namespace Puppy.Usb

open Puppy.Wire

universe u

variable {σ : Type u}

/-- The bytes of every packet that was handed to `usb_bulk_write`. -/
def Requested.handed (requested : Requested σ) : List (List UInt8) :=
  requested.sends.map fun sent => wireImage sent.packet

/-- The requests of `usb_io.c`, with the arguments of their functions. -/
inductive Request where
  | ready
  | reset
  | turbo (turboOn : Int32)
  | hddSize
  | withPath (request : PathRequest)

namespace Request

/-- Call the function of a request. -/
def send (env : Env σ) (req : Memory UInt8) (state : σ) : Request → Requested σ
  | ready => sendCmdReady env req state
  | reset => sendCmdReset env req state
  | turbo turboOn => sendCmdTurbo env req turboOn state
  | hddSize => sendCmdHddSize env req state
  | withPath request => request.send env req state

/-- The header and the arguments. -/
def size : Request → Nat
  | ready | reset | hddSize => PACKET_HEAD_SIZE
  | turbo _ => PACKET_HEAD_SIZE + 4
  | withPath request => request.size

/-- The request is not refused, and no length of it wraps. -/
def Accepted : Request → Prop
  | ready | reset | turbo _ | hddSize => True
  | withPath request => request.Short ∧ request.size < MAXIMUM_PACKET_SIZE

/-! ## What is stored -/

/-- A packet of a request: the header fields but for the `crc`, and the data. -/
def built (req : Memory UInt8) (length : UInt16) (cmd : UInt32) (data : List UInt8) :
    Memory UInt8 :=
  Memory.store (putU32 (putU16 req 0 length) 4 cmd) dataOffset data

theorem built_inside (first second : Memory UInt8) (length : UInt16) (cmd : UInt32)
    {data : List UInt8} {address : Nat} (inside : address < dataOffset + data.length)
    (other : address < 2 ∨ 4 ≤ address) :
    built first length cmd data address = built second length cmd data address := by
  rcases Nat.lt_or_ge address dataOffset with header | area
  · apply Memory.store_agree_of_agree
    rcases other with length | cmd
    · apply Memory.store_agree_of_agree
      exact Memory.store_agree _ _ (Nat.zero_le _) length
    · exact Memory.store_agree _ _ cmd header
  · exact Memory.store_agree _ _ area inside

theorem built_behind (req : Memory UInt8) (length : UInt16) (cmd : UInt32) {data : List UInt8}
    {address : Nat} (behind : dataOffset + data.length ≤ address) :
    built req length cmd data address = req address := by
  have area : dataOffset ≤ address := Nat.le_trans (Nat.le_add_right _ _) behind
  rw [built, Memory.store_above _ behind, putU32, Memory.store_above _ area, putU16,
    Memory.store_above _ (Nat.le_trans (show 2 ≤ dataOffset by decide) area)]

theorem packetLength_built (req : Memory UInt8) (length : UInt16) (cmd : UInt32)
    (data : List UInt8) : packetLength (built req length cmd data) = length := by
  rw [built, packetLength_store _ _ (Nat.le_refl _)]
  exact (header_putU32_putU16 req length cmd).1

theorem handed_sendPacket (env : Env σ) (packet : Memory UInt8) (state : σ) :
    (sendPacket env packet state).handed = [wireImage packet] :=
  rfl

/-- The packet of a request of constant size without data. -/
theorem putFixedHeader_eq_built (req : Memory UInt8) (size : UInt16) (cmd : UInt32) :
    putFixedHeader req size cmd = built req size cmd [] :=
  (Memory.store_nil _ _).symm

/-- The bytes of a 32-bit integer in memory. -/
def u32Bytes (val : UInt32) : List UInt8 :=
  [(val >>> 24 &&& 0xFF).toUInt8, (val >>> 16 &&& 0xFF).toUInt8, (val >>> 8 &&& 0xFF).toUInt8,
    (val &&& 0xFF).toUInt8]

theorem turboPacket_eq_built (req : Memory UInt8) (turboOn : Int32) :
    turboPacket req turboOn = built req 12 CMD_TURBO (u32Bytes turboOn.toUInt32) :=
  rfl

/-- A request that is accepted hands over one packet, which is built from its
arguments and declares their size, rounded up. -/
theorem handed_of_accepted {request : Request} (accepted : request.Accepted) :
    ∃ length cmd data, dataOffset + data.length = request.size ∧
      length.toNat = roundUpEven request.size ∧
      ∀ (env : Env σ) (req : Memory UInt8) (state : σ),
        (request.send env req state).handed = [wireImage (built req length cmd data)] := by
  cases request with
  | ready =>
      refine ⟨8, CMD_READY, [], rfl, rfl, fun env req state => ?_⟩
      rw [send, sendCmdReady, handed_sendPacket, readyPacket, putFixedHeader_eq_built]
  | reset =>
      refine ⟨8, CMD_RESET, [], rfl, rfl, fun env req state => ?_⟩
      rw [send, sendCmdReset, handed_sendPacket, resetPacket, putFixedHeader_eq_built]
  | hddSize =>
      refine ⟨8, CMD_HDD_SIZE, [], rfl, rfl, fun env req state => ?_⟩
      rw [send, sendCmdHddSize, handed_sendPacket, hddSizePacket, putFixedHeader_eq_built]
  | turbo turboOn =>
      have declared : (12 : UInt16).toNat = roundUpEven (PACKET_HEAD_SIZE + 4) := by decide
      refine ⟨12, CMD_TURBO, u32Bytes turboOn.toUInt32, rfl, declared, fun env req state => ?_⟩
      rw [send, sendCmdTurbo, handed_sendPacket, turboPacket_eq_built]
  | withPath request =>
      obtain ⟨short, fits⟩ := accepted
      have computed := PathRequest.computedSize_of_short short
      refine ⟨UInt16.ofNat (roundUpEven (UInt16.ofInt request.computedSize).toNat), request.cmd,
        request.data, request.size_eq.symm, ?_, fun env req state => ?_⟩
      · have declared := packetLength_putRequestHeader fits (fun _ => 0) request.cmd
        rwa [← computed, putRequestHeader, (header_putU32_putU16 _ _ _).1] at declared
      · rw [send, PathRequest.send_of_fits (by rw [computed]; omega), handed_sendPacket,
          PathRequest.packet_of_short short, putRequestHeader, built]

theorem header_le_size (request : Request) : PACKET_HEAD_SIZE ≤ request.size := by
  cases request with
  | ready | reset | hddSize => exact Nat.le_refl _
  | turbo _ => exact Nat.le_add_right _ _
  | withPath request =>
      rw [size, request.size_eq]
      exact Nat.le_add_right _ _

/-- An accepted request hands over the same bytes whatever the packet buffer
held before, exactly when its size needs no padding. -/
theorem handed_independent_iff (env : Env σ) (state : σ) {request : Request}
    (accepted : request.Accepted) :
    (∀ first second : Memory UInt8,
      (request.send env first state).handed = (request.send env second state).handed) ↔
    request.size % 2 = 0 := by
  obtain ⟨length, cmd, data, total, declared, sent⟩ := handed_of_accepted (σ := σ) accepted
  have count (req : Memory UInt8) : byteCount (built req length cmd data) =
      roundUpEven (roundUpEven request.size) := by
    rw [byteCount, packetLength_built, declared]
  have header := request.header_le_size
  have headerNat : 8 ≤ request.size := header
  constructor
  · intro same
    by_contra odd
    have images : wireImage (built (fun _ => 0) length cmd data) =
        wireImage (built (fun _ => 1) length cmd data) := by
      have handed := same (fun _ => 0) (fun _ => 1)
      rw [sent, sent] at handed
      exact List.singleton_inj.mp handed
    have inside : request.size < byteCount (built (fun _ => 0) length cmd data) := by
      rw [count]
      unfold roundUpEven
      omega
    have padding := agree_of_wireImage_eq images inside (Or.inr (by omega))
    rw [built_behind _ _ _ (by omega), built_behind _ _ _ (by omega)] at padding
    exact absurd padding (by decide)
  · intro even first second
    rw [sent, sent]
    congr 1
    apply wireImage_congr
    · rw [packetLength_built, declared]
      exact Nat.le_trans header (le_roundUpEven _)
    · intro address other inside
      rw [count] at inside
      apply built_inside _ _ _ _ _ other
      unfold roundUpEven at inside
      omega

theorem handed_independent_iff_oneByteDir :
    let request := withPath (.hddDir (.single 0x62 (by decide)))
    let link : Link Unit := { pending := [], queue := [], device := () }
    (∀ first second : Memory UInt8,
      (request.send Link.muteEnv first link).handed =
        (request.send Link.muteEnv second link).handed) ↔
    request.size % 2 = 0 :=
  handed_independent_iff Link.muteEnv { pending := [], queue := [], device := () }
    ⟨by decide, by decide⟩

/-- The listing of the root directory carries a byte of the stack. -/
theorem handed_root_ne :
    let request := withPath (.hddDir .empty)
    let link : Link Unit := { pending := [], queue := [], device := () }
    (request.send Link.muteEnv (fun _ => 0) link).handed ≠
      (request.send Link.muteEnv (fun _ => 1) link).handed := by
  decide +kernel

end Request

end Puppy.Usb
