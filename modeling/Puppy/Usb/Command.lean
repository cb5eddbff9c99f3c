import Puppy.Usb.Link
import Puppy.Memory.CString

/-!
# Requests that carry a path

`send_cmd_hdd_dir` and `send_cmd_hdd_file_send` of `usb_io.c`.  Both build a
packet in an uninitialised local `struct tf_packet`, whose old contents are an
argument here, and refuse a path that does not fit.
-/

namespace Puppy.Usb

open Puppy.Wire

universe u

variable {σ : Type u}

/-- Conversion of a `size_t` to `int`. -/
def toInt (n : Nat) : Int := Int.bmod n (2 ^ 32)

/-- What a request returns, the packets it handed to `send_tf_packet` and what
it printed. -/
structure Requested (σ : Type u) where
  ret : Int
  sends : List Sent
  stderr : List Diagnostic
  state : σ

/-- The common end of the requests: refuse a packet of `size` bytes or more
than fit, or send the packet. -/
def sendRequest (env : Env σ) (size : Int) (packet : Memory UInt8) (state : σ) :
    Requested σ :=
  if size ≥ MAXIMUM_PACKET_SIZE then
    { ret := -1, sends := [], stderr := [.pathTooLong], state }
  else
    let out := sendTfPacket env packet state
    { ret := out.ret, sends := [{ packet, ret := out.ret }], stderr := []
      state := out.state }

/-- Header fields of a request of `size` bytes: the length is rounded up to even. -/
def putRequestHeader (req : Memory UInt8) (size : Int) (cmd : UInt32) : Memory UInt8 :=
  let packetSize := UInt16.ofInt size
  let packetSize := UInt16.ofNat (roundUpEven packetSize.toNat)
  putU32 (putU16 req 0 packetSize) 4 cmd

/-- `PACKET_HEAD_SIZE + pathLen` in `send_cmd_hdd_dir`. -/
def hddDirSize (path : CString) : Int :=
  PACKET_HEAD_SIZE + toInt (path.length + 1)

/-- The packet `send_cmd_hdd_dir` builds. -/
def hddDirPacket (req : Memory UInt8) (path : CString) : Memory UInt8 :=
  CString.copyTo (putRequestHeader req (hddDirSize path) CMD_HDD_DIR) dataOffset path

/-- `send_cmd_hdd_dir` -/
def sendCmdHddDir (env : Env σ) (req : Memory UInt8) (path : CString) (state : σ) :
    Requested σ :=
  sendRequest env (hddDirSize path) (hddDirPacket req path) state

/-- `PACKET_HEAD_SIZE + 1 + 2 + pathLen` in `send_cmd_hdd_file_send`. -/
def hddFileSendSize (path : CString) : Int :=
  PACKET_HEAD_SIZE + 1 + 2 + toInt (path.length + 1)

/-- The packet `send_cmd_hdd_file_send` builds: direction, path length, path. -/
def hddFileSendPacket (req : Memory UInt8) (dir : UInt8) (path : CString) : Memory UInt8 :=
  let pathLen := toInt (path.length + 1)
  let req := putRequestHeader req (hddFileSendSize path) CMD_HDD_FILE_SEND
  let req := Memory.store req dataOffset [dir]
  let req := putU16 req (dataOffset + 1) (UInt16.ofInt pathLen)
  CString.copyTo req (dataOffset + 3) path

/-- `send_cmd_hdd_file_send` -/
def sendCmdHddFileSend (env : Env σ) (req : Memory UInt8) (dir : UInt8) (path : CString)
    (state : σ) : Requested σ :=
  sendRequest env (hddFileSendSize path) (hddFileSendPacket req dir path) state

/-- The path fits: the unwrapped size passes the check. -/
def FileSendAccepts (path : CString) : Prop :=
  PACKET_HEAD_SIZE + 1 + 2 + (path.length + 1) < MAXIMUM_PACKET_SIZE

instance (path : CString) : Decidable (FileSendAccepts path) :=
  inferInstanceAs (Decidable (_ < _))

/-! ## Header fields of the built packets -/

/-- A length below `2 ^ 31` is an `int`. -/
theorem toInt_of_lt {n : Nat} (short : n < 2 ^ 31) : toInt n = n :=
  Int.bmod_eq_of_le (by omega) (by omega)

/-- The header of a request that fits declares its size, rounded up. -/
theorem packetLength_putRequestHeader {size : Nat} (fits : size < MAXIMUM_PACKET_SIZE)
    (req : Memory UInt8) (cmd : UInt32) :
    (packetLength (putRequestHeader req size cmd)).toNat = roundUpEven size := by
  unfold MAXIMUM_PACKET_SIZE at fits
  have converted : (UInt16.ofInt size).toNat = size := toNat_ofInt_u16 (by omega)
  rw [putRequestHeader, (header_putU32_putU16 _ _ _).1, converted, UInt16.toNat_ofNat']
  unfold roundUpEven
  omega

/-- The size of a request that fits is still one when it is rounded up. -/
theorem bounds_roundUpEven {size : Nat} (header : PACKET_HEAD_SIZE ≤ size)
    (fits : size < MAXIMUM_PACKET_SIZE) :
    PACKET_HEAD_SIZE ≤ roundUpEven size ∧ roundUpEven size < MAXIMUM_PACKET_SIZE := by
  unfold PACKET_HEAD_SIZE MAXIMUM_PACKET_SIZE at *
  unfold roundUpEven
  omega

theorem fields_hddFileSendPacket (req : Memory UInt8) (dir : UInt8) (path : CString) :
    packetLength (hddFileSendPacket req dir path) =
        packetLength (putRequestHeader req (hddFileSendSize path) CMD_HDD_FILE_SEND) ∧
      packetCmd (hddFileSendPacket req dir path) = CMD_HDD_FILE_SEND := by
  have header := header_putU32_putU16 req
    (UInt16.ofNat (roundUpEven (UInt16.ofInt (hddFileSendSize path)).toNat)) CMD_HDD_FILE_SEND
  constructor
  · simp only [hddFileSendPacket, CString.copyTo]
    rw [packetLength_store _ _ (by decide), putU16, packetLength_store _ _ (by decide),
      packetLength_store _ _ (by decide)]
  · rw [← header.2]
    simp only [hddFileSendPacket, putRequestHeader, CString.copyTo]
    rw [packetCmd_store _ _ (by decide), putU16, packetCmd_store _ _ (by decide),
      packetCmd_store _ _ (by decide)]

/-- For a path that fits no conversion wraps. -/
theorem hddFileSendSize_of_accepts {path : CString} (accepts : FileSendAccepts path) :
    hddFileSendSize path = (path.length + 12 : Nat) := by
  unfold FileSendAccepts PACKET_HEAD_SIZE MAXIMUM_PACKET_SIZE at accepts
  rw [hddFileSendSize, toInt_of_lt (by omega), PACKET_HEAD_SIZE]
  omega

theorem packetLength_hddFileSendPacket_of_accepts {path : CString}
    (accepts : FileSendAccepts path) (req : Memory UInt8) (dir : UInt8) :
    (packetLength (hddFileSendPacket req dir path)).toNat = roundUpEven (path.length + 12) := by
  rw [(fields_hddFileSendPacket _ _ _).1, hddFileSendSize_of_accepts accepts]
  unfold FileSendAccepts PACKET_HEAD_SIZE at accepts
  exact packetLength_putRequestHeader (by omega) _ _

/-- The request for a path that fits is a packet of its own: it declares at
least a header and less than the maximum. -/
theorem bounds_hddFileSendPacket_of_accepts {path : CString} (accepts : FileSendAccepts path)
    (req : Memory UInt8) (dir : UInt8) :
    PACKET_HEAD_SIZE ≤ (packetLength (hddFileSendPacket req dir path)).toNat ∧
      (packetLength (hddFileSendPacket req dir path)).toNat < MAXIMUM_PACKET_SIZE := by
  rw [packetLength_hddFileSendPacket_of_accepts accepts]
  unfold FileSendAccepts PACKET_HEAD_SIZE at accepts
  exact bounds_roundUpEven (by unfold PACKET_HEAD_SIZE; omega) (by omega)

/-- A path that fits is sent. -/
theorem sendCmdHddFileSend_of_accepts {path : CString} (accepts : FileSendAccepts path)
    (env : Env σ) (req : Memory UInt8) (dir : UInt8) (state : σ) :
    sendCmdHddFileSend env req dir path state =
      { ret := (sendTfPacket env (hddFileSendPacket req dir path) state).ret
        sends := [{ packet := hddFileSendPacket req dir path
                    ret := (sendTfPacket env (hddFileSendPacket req dir path) state).ret }]
        stderr := []
        state := (sendTfPacket env (hddFileSendPacket req dir path) state).state } := by
  have size := hddFileSendSize_of_accepts accepts
  unfold FileSendAccepts PACKET_HEAD_SIZE at accepts
  rw [sendCmdHddFileSend, sendRequest, if_neg (by rw [size]; omega)]

/-- A request is refused before anything is sent, or hands over its packet. -/
theorem sendRequest_cases (env : Env σ) (size : Int) (packet : Memory UInt8) (state : σ) :
    ((sendRequest env size packet state).ret < 0 ∧
      (sendRequest env size packet state).sends = []) ∨
    (0 ≤ (sendRequest env size packet state).ret ∧
      (sendRequest env size packet state).sends =
        [{ packet, ret := (sendRequest env size packet state).ret }]) := by
  unfold sendRequest
  split
  · exact Or.inl ⟨Int.negSucc_lt_zero 0, rfl⟩
  · exact Or.inr ⟨sendTfPacket_ret_nonneg env packet state, rfl⟩

theorem sendCmdHddFileSend_cases (env : Env σ) (req : Memory UInt8) (dir : UInt8)
    (path : CString) (state : σ) :
    ((sendCmdHddFileSend env req dir path state).ret < 0 ∧
      (sendCmdHddFileSend env req dir path state).sends = []) ∨
    (0 ≤ (sendCmdHddFileSend env req dir path state).ret ∧
      (sendCmdHddFileSend env req dir path state).sends =
        [{ packet := hddFileSendPacket req dir path
           ret := (sendCmdHddFileSend env req dir path state).ret }]) := by
  rw [sendCmdHddFileSend]
  exact sendRequest_cases env _ _ state

end Puppy.Usb
