import Puppy.Usb.Command

/-!
# The requests of the single-reply commands

The remaining `send_cmd_` functions of `usb_io.c`, and when the bulk pipe takes
all bytes of a request.  As in the requests for listings and files, the packet
is built in an uninitialised local `struct tf_packet`.
-/

namespace Puppy.Usb

open Transition
open Puppy.Wire

universe u

variable {σ : Type u}

/-- `return send_tf_packet(fd, &req)` -/
def sendPacket (env : Env σ) (packet : Memory UInt8) (state : σ) : Requested σ :=
  let out := sendTfPacket env packet state
  { ret := out.ret, sends := [{ packet, ret := out.ret }], stderr := []
    state := out.state }

theorem sendRequest_of_fits {env : Env σ} {size : Int} {packet : Memory UInt8} {state : σ}
    (fits : ¬ size ≥ MAXIMUM_PACKET_SIZE) :
    sendRequest env size packet state = sendPacket env packet state :=
  if_neg fits

theorem sendRequest_of_tooLong {env : Env σ} {size : Int} {packet : Memory UInt8} {state : σ}
    (tooLong : size ≥ MAXIMUM_PACKET_SIZE) :
    sendRequest env size packet state =
      { ret := -1, sends := [], stderr := [.pathTooLong], state } :=
  if_pos tooLong

/-- Header fields of a request of constant size. -/
def putFixedHeader (req : Memory UInt8) (size : UInt16) (cmd : UInt32) : Memory UInt8 :=
  putU32 (putU16 req 0 size) 4 cmd

/-- The packet `send_cmd_ready` builds. -/
def readyPacket (req : Memory UInt8) : Memory UInt8 := putFixedHeader req 8 CMD_READY

/-- `send_cmd_ready` -/
def sendCmdReady (env : Env σ) (req : Memory UInt8) (state : σ) : Requested σ :=
  sendPacket env (readyPacket req) state

/-- The packet `send_cmd_reset` builds. -/
def resetPacket (req : Memory UInt8) : Memory UInt8 := putFixedHeader req 8 CMD_RESET

/-- `send_cmd_reset` -/
def sendCmdReset (env : Env σ) (req : Memory UInt8) (state : σ) : Requested σ :=
  sendPacket env (resetPacket req) state

/-- The packet `send_cmd_turbo` builds. -/
def turboPacket (req : Memory UInt8) (turboOn : Int32) : Memory UInt8 :=
  putU32 (putFixedHeader req 12 CMD_TURBO) dataOffset turboOn.toUInt32

/-- `send_cmd_turbo` -/
def sendCmdTurbo (env : Env σ) (req : Memory UInt8) (turboOn : Int32) (state : σ) :
    Requested σ :=
  sendPacket env (turboPacket req turboOn) state

/-- The packet `send_cmd_hdd_size` builds. -/
def hddSizePacket (req : Memory UInt8) : Memory UInt8 := putFixedHeader req 8 CMD_HDD_SIZE

/-- `send_cmd_hdd_size` -/
def sendCmdHddSize (env : Env σ) (req : Memory UInt8) (state : σ) : Requested σ :=
  sendPacket env (hddSizePacket req) state

/-- `PACKET_HEAD_SIZE + pathLen` in `send_cmd_hdd_del`. -/
def hddDelSize (path : CString) : Int := PACKET_HEAD_SIZE + toInt (path.length + 1)

/-- The packet `send_cmd_hdd_del` builds. -/
def hddDelPacket (req : Memory UInt8) (path : CString) : Memory UInt8 :=
  CString.copyTo (putRequestHeader req (hddDelSize path) CMD_HDD_DEL) dataOffset path

/-- `send_cmd_hdd_del` -/
def sendCmdHddDel (env : Env σ) (req : Memory UInt8) (path : CString) (state : σ) :
    Requested σ :=
  sendRequest env (hddDelSize path) (hddDelPacket req path) state

/-- `strlen(path) + 1` in a `__u16` -/
def shortLength (path : CString) : UInt16 := UInt16.ofNat (path.length + 1)

/-- `PACKET_HEAD_SIZE + 2 + srcLen + 2 + dstLen` in `send_cmd_hdd_rename`. -/
def hddRenameSize (src dst : CString) : Int :=
  PACKET_HEAD_SIZE + 2 + (shortLength src).toNat + 2 + (shortLength dst).toNat

/-- The packet `send_cmd_hdd_rename` builds: both lengths, each before its path. -/
def hddRenamePacket (req : Memory UInt8) (src dst : CString) : Memory UInt8 :=
  let srcLen := (shortLength src).toNat
  let req := putRequestHeader req (hddRenameSize src dst) CMD_HDD_RENAME
  let req := putU16 req dataOffset (shortLength src)
  let req := CString.copyTo req (dataOffset + 2) src
  let req := putU16 req (dataOffset + 2 + srcLen) (shortLength dst)
  CString.copyTo req (dataOffset + 2 + srcLen + 2) dst

/-- `send_cmd_hdd_rename` -/
def sendCmdHddRename (env : Env σ) (req : Memory UInt8) (src dst : CString) (state : σ) :
    Requested σ :=
  if hddRenameSize src dst ≥ MAXIMUM_PACKET_SIZE then
    { ret := -1, sends := [], stderr := [.pathsTooLong], state }
  else sendPacket env (hddRenamePacket req src dst) state

/-- `PACKET_HEAD_SIZE + 2 + pathLen` in `send_cmd_hdd_create_dir`. -/
def hddCreateDirSize (path : CString) : Int :=
  PACKET_HEAD_SIZE + 2 + (shortLength path).toNat

/-- The packet `send_cmd_hdd_create_dir` builds: path length, path. -/
def hddCreateDirPacket (req : Memory UInt8) (path : CString) : Memory UInt8 :=
  let req := putRequestHeader req (hddCreateDirSize path) CMD_HDD_CREATE_DIR
  let req := putU16 req dataOffset (shortLength path)
  CString.copyTo req (dataOffset + 2) path

/-- `send_cmd_hdd_create_dir` -/
def sendCmdHddCreateDir (env : Env σ) (req : Memory UInt8) (path : CString) (state : σ) :
    Requested σ :=
  sendRequest env (hddCreateDirSize path) (hddCreateDirPacket req path) state

/-! ## Requests that are taken in full -/

/-- The bulk pipe takes all the bytes, in chunks of at most 4096, each as far as
an `ioctl` likes. -/
inductive Takes (env : Env σ) : List UInt8 → σ → Prop
  | nil {state : σ} : Takes env [] state
  | chunk {bytes : List UInt8} {state after : σ}
      {ret : Fin ((bytes.take MAX_WRITE).length + 1)}
      (answered : env.bulkOut (bytes.take MAX_WRITE) state = (some ret, after))
      (some : 0 < ret.val) (rest : Takes env (bytes.drop ret.val) after) :
      Takes env bytes state

theorem takes_iff {env : Env σ} {bytes : List UInt8} {state : σ} :
    Takes env bytes state ↔
      bytes = [] ∨ ∃ ret after, env.bulkOut (bytes.take MAX_WRITE) state = (some ret, after) ∧
        0 < ret.val ∧ Takes env (bytes.drop ret.val) after := by
  constructor
  · intro takes
    cases takes with
    | nil => exact Or.inl rfl
    | chunk answered some rest => exact Or.inr ⟨_, _, answered, some, rest⟩
  · rintro (rfl | ⟨ret, after, answered, some, rest⟩)
    · exact .nil
    · exact .chunk answered some rest

/-- Bytes are left: the pipe takes them if it takes some of the next chunk and
then the rest. -/
theorem takes_iff_of_answered {env : Env σ} {bytes chunk : List UInt8} {state after : σ}
    (left : bytes ≠ []) (cut : chunk = bytes.take MAX_WRITE) {ret : Fin (chunk.length + 1)}
    (answered : env.bulkOut chunk state = (some ret, after)) :
    Takes env bytes state ↔ 0 < ret.val ∧ Takes env (bytes.drop ret.val) after := by
  subst cut
  rw [takes_iff, or_iff_right left]
  constructor
  · rintro ⟨other, next, same, some, rest⟩
    rw [answered] at same
    cases same
    exact ⟨some, rest⟩
  · rintro ⟨some, rest⟩
    exact ⟨ret, after, answered, some, rest⟩

theorem not_takes_of_failed {env : Env σ} {bytes chunk : List UInt8} {state after : σ}
    (left : bytes ≠ []) (cut : chunk = bytes.take MAX_WRITE)
    (failed : env.bulkOut chunk state = (none, after)) : ¬ Takes env bytes state := by
  subst cut
  rw [takes_iff, or_iff_right left]
  rintro ⟨ret, next, same, _⟩
  rw [failed] at same
  cases same

/-- From any point inside a request, the rest is sent exactly when the pipe
takes it. -/
private theorem run_bulkWriteBody_takes (env : Env σ) {bytes : List UInt8}
    (short : bytes.length < 2 ^ 32) (fuel : Nat) :
    ∀ (sent : Nat) (state : σ), sent < bytes.length → bytes.length < sent + fuel →
      ((loopValue (run (bulkWriteBody env bytes) fuel { sent, state })).sent = bytes.length ↔
        Takes env (bytes.drop sent) state) := by
  induction fuel with
  | zero =>
      intro sent state below enough
      omega
  | succ fuel ih =>
      intro sent state below enough
      have left : bytes.drop sent ≠ [] := by
        rw [Ne, List.drop_eq_nil_iff]
        omega
      have cut := take_writeLen short sent
      cases answered : env.bulkOut
          ((bytes.drop sent).take (writeLen (bytes.length - sent))) state with
      | mk result after =>
          cases result with
          | none =>
              have pass : bulkWriteBody env bytes { sent, state } =
                  .leave { sent, state := after } := by
                simp only [bulkWriteBody, answered]
              rw [run_succ_of_leave pass]
              exact iff_of_false (Nat.ne_of_lt below) (not_takes_of_failed left cut answered)
          | some ret =>
              have bound := ret.isLt
              simp only [List.length_take, List.length_drop] at bound
              have pass : bulkWriteBody env bytes { sent, state } =
                  if 0 < ret.val ∧ sent + ret.val < bytes.length then
                    .again { sent := sent + ret.val, state := after }
                  else .leave { sent := sent + ret.val, state := after } := by
                simp only [bulkWriteBody, answered]
              rw [takes_iff_of_answered left cut answered, List.drop_drop]
              split at pass
              · rename_i more
                rw [run_succ_of_again pass, ih _ _ more.2 (by omega), and_iff_right more.1]
              · rename_i last
                rw [run_succ_of_leave pass]
                simp only [loopValue]
                constructor
                · intro whole
                  refine ⟨by omega, ?_⟩
                  rw [whole, List.drop_length]
                  exact .nil
                · rintro ⟨some, rest⟩
                  omega

/-- `usb_bulk_write` sends all bytes exactly when the pipe takes them. -/
theorem usbBulkWrite_sent_iff (env : Env σ) {bytes : List UInt8}
    (short : bytes.length < 2 ^ 32) (state : σ) :
    (usbBulkWrite env bytes state).sent = bytes.length ↔ Takes env bytes state := by
  by_cases empty : bytes = []
  · subst empty
    have bound := usbBulkWrite_sent_le env [] state
    exact iff_of_true (Nat.le_zero.mp bound) .nil
  · exact run_bulkWriteBody_takes env short _ 0 state (List.length_pos_iff.mpr empty) (by omega)

end Puppy.Usb
