import Puppy.Usb.Bulk

/-!
# Sending and receiving packets

`send_tf_packet`, `get_tf_packet` and the two fixed replies of `usb_io.c`.  A
received packet is the buffer `get_tf_packet` leaves behind together with what
it sent and printed on the way.  Tracing output is not modelled, nor are the
messages of `usb_bulk_write` and `usb_bulk_read`; the others that `usb_io.c` and
`libpuppy.c` print in every configuration are.
-/

namespace Puppy.Usb

open Puppy.Wire

universe u

variable {σ : Type u}

/-- The two packets the receiving side answers with. -/
inductive Reply where
  | success
  | cancel
  deriving DecidableEq, Repr

/-- The messages printed to `stderr`, with the values they show. -/
inductive Diagnostic where
  /-- "USB read error: %s" -/
  | usbReadError
  /-- "Short read. %d bytes" -/
  | shortRead (r : Int)
  /-- "Invalid packet length %04x" -/
  | invalidPacketLength (len : UInt16)
  /-- "WARNING: Packet CRC %04x, expected %04x" -/
  | packetCrc (crc expected : UInt16)
  /-- "ERROR: Path is too long." -/
  | pathTooLong
  /-- "ERROR: Combination of source and destination paths is too long." -/
  | pathsTooLong
  /-- "ERROR: Device reports %s" -/
  | deviceReports (error : String)
  /-- "ERROR: Unhandled packet", with the command where it is shown -/
  | unhandledPacket (cmd : Option UInt32)
  /-- "ERROR: Can not open source file: %s" -/
  | canNotOpenSource (errno : Int)
  /-- "ERROR: Can not examine source file: %s" -/
  | canNotExamineSource (errno : Int)
  /-- "ERROR: Source file is empty - not transfering." -/
  | sourceEmpty
  /-- "ERROR: Incomplete send." -/
  | incompleteSend
  /-- "ERROR: Can not open destination file: %s" -/
  | canNotOpenDestination (errno : Int)
  /-- "ERROR: Unexpected %s packet in state %d" -/
  | unexpectedPacket (cmd : UInt32) (state : Nat)
  /-- "ERROR: Short packet %d instead of %d" -/
  | shortPacket (r : Int) (len : UInt16)
  /-- "ERROR: Can not write data: %s" -/
  | canNotWriteData
  deriving DecidableEq, Repr

/-- `decode_error` -/
def decodeError (packet : Memory UInt8) : String :=
  match (getU32 packet dataOffset).toNat with
  | 1 => "CRC error"
  | 2 | 4 => "Unknown command"
  | 3 => "Invalid command"
  | 5 => "Invalid block size"
  | 6 => "Unknown error while running"
  | 7 => "Memory is full"
  | _ => "Unknown error or all your base are belong to us"

/-! ## Sending -/

/-- `cancel_packet` -/
def cancelPacket : List UInt8 := [0x08, 0x00, 0x40, 0x01, 0x00, 0x00, 0x03, 0x00]

/-- `success_packet` -/
def successPacket : List UInt8 := [0x08, 0x00, 0x81, 0xc1, 0x00, 0x00, 0x02, 0x00]

/-- `send_cancel` -/
def sendCancel (env : Env σ) (state : σ) : BulkOut σ := usbBulkWrite env cancelPacket state

/-- `send_success` -/
def sendSuccess (env : Env σ) (state : σ) : BulkOut σ := usbBulkWrite env successPacket state

/-- What `send_tf_packet` returns, the packet buffer it leaves swapped, and the
surroundings. -/
structure SendResult (σ : Type u) where
  ret : Int
  packet : Memory UInt8
  state : σ

/-- `send_tf_packet` -/
def sendTfPacket (env : Env σ) (packet : Memory UInt8) (state : σ) : SendResult σ :=
  let out := usbBulkWrite env (wireImage packet) state
  { ret := out.sent, packet := sealPacket packet, state := out.state }

/-- One call of `send_tf_packet`: the packet handed over in memory order, and
how many of the bytes on the wire the bulk pipe took. -/
structure Sent where
  packet : Memory UInt8
  ret : Int

/-- The bulk pipe took the whole packet. -/
def Sent.inFull (sent : Sent) : Prop := sent.ret = byteCount sent.packet

theorem sendTfPacket_ret_nonneg (env : Env σ) (packet : Memory UInt8) (state : σ) :
    0 ≤ (sendTfPacket env packet state).ret :=
  Int.natCast_nonneg _

/-! ## Receiving -/

/-- What a call of `get_tf_packet` returns and leaves behind: the packet
buffer, the `SUCCESS` it may have sent, what it printed, and the surroundings. -/
structure Received (σ : Type u) where
  ret : Int
  packet : Memory UInt8
  replies : List Reply
  stderr : List Diagnostic
  state : σ

/-- `get_tf_packet` behind its `usb_bulk_read`. -/
def acceptPacket (env : Env σ) (input : BulkIn σ) : Received σ :=
  let r : Int := input.retrieved
  if r < 0 then
    { ret := -1, packet := input.buffer, replies := [], stderr := [.usbReadError]
      state := input.state }
  else if r < PACKET_HEAD_SIZE then
    { ret := -1, packet := input.buffer, replies := [], stderr := [.shortRead r]
      state := input.state }
  else
    -- SUCCESS goes out as soon as a data transfer packet is seen
    let early := getU32Raw input.buffer 4 = DATA_HDD_FILE_DATA
    let replies := if early then [Reply.success] else []
    let state := if early then (sendSuccess env input.state).state else input.state
    let packet := swapInPacket input.buffer
    let len := packetLength packet
    if len.toNat < PACKET_HEAD_SIZE then
      { ret := -1, packet, replies, stderr := [.invalidPacketLength len], state }
    else
      let stderr :=
        if env.ignoreCrc = false ∧ packetCrc packet ≠ getCrc packet then
          [Diagnostic.packetCrc (packetCrc packet) (getCrc packet)]
        else []
      { ret := r, packet, replies, stderr, state }

/-- `get_tf_packet` -/
def getTfPacket (env : Env σ) (buffer : Memory UInt8) (state : σ) : Received σ :=
  acceptPacket env (usbBulkRead env buffer MAXIMUM_PACKET_SIZE state)

theorem getTfPacket_of_delivers {env : Env σ} {state after : σ} {data : List UInt8}
    (delivered : Delivers env state data after) (buffer : Memory UInt8) :
    getTfPacket env buffer state =
      acceptPacket env
        { retrieved := data.length, buffer := Memory.store buffer 0 data, state := after } := by
  rw [getTfPacket, delivered buffer]

/-- What a packet is when `get_tf_packet` reports one. -/
theorem acceptPacket_of_pos {env : Env σ} {input : BulkIn σ}
    (accepted : 0 < (acceptPacket env input).ret) :
    PACKET_HEAD_SIZE ≤ input.retrieved ∧
      PACKET_HEAD_SIZE ≤ (packetLength (swapInPacket input.buffer)).toNat ∧
      (acceptPacket env input).ret = input.retrieved ∧
      (acceptPacket env input).packet = swapInPacket input.buffer ∧
      (acceptPacket env input).replies =
        (if packetCmd (swapInPacket input.buffer) = DATA_HDD_FILE_DATA then [.success]
          else []) := by
  unfold acceptPacket at accepted ⊢
  simp only at accepted ⊢
  split at accepted
  · simp at accepted
  · rename_i nonneg
    rw [if_neg nonneg]
    split at accepted
    · simp at accepted
    · rename_i header
      rw [if_neg header]
      split at accepted
      · simp at accepted
      · rename_i length
        rw [if_neg length]
        have declared := Nat.not_lt.mp length
        refine ⟨by omega, declared, rfl, rfl, ?_⟩
        rw [packetCmd_swapInPacket declared]

/-- `get_tf_packet` reports a packet exactly when a whole header arrived and
the header declares at least a header. -/
theorem acceptPacket_pos_iff {env : Env σ} {input : BulkIn σ} :
    0 < (acceptPacket env input).ret ↔
      PACKET_HEAD_SIZE ≤ input.retrieved ∧
        PACKET_HEAD_SIZE ≤ (packetLength (swapInPacket input.buffer)).toNat := by
  constructor
  · intro accepted
    have parts := acceptPacket_of_pos accepted
    exact ⟨parts.1, parts.2.1⟩
  · rintro ⟨arrived, declared⟩
    have arrivedNat : 8 ≤ input.retrieved := arrived
    unfold acceptPacket
    simp only
    rw [if_neg (by omega), if_neg (by omega), if_neg (Nat.not_lt.mpr declared)]
    simp only
    omega

/-- An accepted packet that carries no file data is left for its caller to
answer. -/
theorem acceptPacket_state_of_pos {env : Env σ} {input : BulkIn σ}
    (accepted : 0 < (acceptPacket env input).ret)
    (quiet : packetCmd (swapInPacket input.buffer) ≠ DATA_HDD_FILE_DATA) :
    (acceptPacket env input).state = input.state := by
  obtain ⟨arrived, declared⟩ := acceptPacket_pos_iff.mp accepted
  have arrivedNat : 8 ≤ input.retrieved := arrived
  rw [packetCmd_swapInPacket declared] at quiet
  unfold acceptPacket
  simp only
  rw [if_neg (by omega), if_neg (by omega), if_neg (Nat.not_lt.mpr declared), if_neg quiet,
    if_neg quiet]

/-- Whatever arrived, `get_tf_packet` sends at most one `SUCCESS`. -/
theorem getTfPacket_replies (env : Env σ) (buffer : Memory UInt8) (state : σ) :
    (getTfPacket env buffer state).replies = [] ∨
      (getTfPacket env buffer state).replies = [.success] := by
  unfold getTfPacket acceptPacket
  simp only
  split
  · exact Or.inl rfl
  · split
    · exact Or.inl rfl
    · by_cases early :
        getU32Raw (usbBulkRead env buffer MAXIMUM_PACKET_SIZE state).buffer 4 = DATA_HDD_FILE_DATA
      · rw [if_pos early]
        split <;> exact Or.inr rfl
      · rw [if_neg early]
        split <;> exact Or.inl rfl

/-- An accepted packet declares at least its header, and is answered early
exactly when it carries file data. -/
theorem getTfPacket_of_pos {env : Env σ} {buffer : Memory UInt8} {state : σ}
    (accepted : 0 < (getTfPacket env buffer state).ret) :
    PACKET_HEAD_SIZE ≤ (packetLength (getTfPacket env buffer state).packet).toNat ∧
      (getTfPacket env buffer state).replies =
        (if packetCmd (getTfPacket env buffer state).packet = DATA_HDD_FILE_DATA then
          [.success] else []) := by
  have parts := acceptPacket_of_pos accepted
  rw [getTfPacket, parts.2.2.2.1]
  exact ⟨parts.2.1, parts.2.2.2.2⟩

end Puppy.Usb
