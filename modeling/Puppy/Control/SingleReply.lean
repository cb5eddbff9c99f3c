import Puppy.Usb.Request
import Puppy.Usb.Codec

/-!
# Commands with a single reply

The functions of `libpuppy.c` that send one request and read one reply.  They
differ in the request, in the reply that means success, and in what they print;
each is the common course of them with its own values.
-/

namespace Puppy.Control

open Puppy.Wire Puppy.Usb

universe u

variable {σ : Type u}

/-- What the commands print to `stdout`. -/
inductive Report where
  /-- "TF5000PVRt should now reboot\n" -/
  | reboots
  /-- "Device reports ready.\n" -/
  | ready
  /-- "In progress operation cancelled\n" -/
  | cancelled
  /-- "Total %10u kiB %7u MiB %4u GiB\n" -/
  | total (kiB MiB GiB : UInt32)
  /-- "Free  %10u kiB %7u MiB %4u GiB\n" -/
  | free (kiB MiB GiB : UInt32)
  deriving DecidableEq, Repr

/-- What a command returns, prints and leaves behind.  `reply` is the static
packet all functions of the library share. -/
structure Completed (σ : Type u) where
  ret : Int
  stdout : List Report
  stderr : List Diagnostic
  reply : Memory UInt8
  state : σ

/-- The common course behind a request that returned `sent`: read a packet and
look whether it is the success reply. -/
def conclude (env : Env σ) (sent : Int) (stderr : List Diagnostic) (reply : Memory UInt8)
    (state : σ) (success : UInt32) (report : Memory UInt8 → List Report) (unhandled : Int) :
    Completed σ :=
  if sent < 0 then { ret := negEPROTO, stdout := [], stderr, reply, state }
  else
    let got := getTfPacket env reply state
    let stderr := stderr ++ got.stderr
    let reply := got.packet
    let state := got.state
    if got.ret < 0 then { ret := negEPROTO, stdout := [], stderr, reply, state }
    else if packetCmd reply = success then
      { ret := 0, stdout := report reply, stderr, reply, state }
    else if packetCmd reply = FAIL then
      { ret := negEPROTO, stdout := []
        stderr := stderr ++ [.deviceReports (decodeError reply)], reply, state }
    else
      { ret := unhandled, stdout := []
        stderr := stderr ++ [.unhandledPacket none], reply, state }

/-- The course behind one of the `send_cmd_` functions. -/
def concludeRequest (env : Env σ) (request : Requested σ) (reply : Memory UInt8)
    (success : UInt32) (report : Memory UInt8 → List Report) (unhandled : Int) : Completed σ :=
  conclude env request.ret request.stderr reply request.state success report unhandled

theorem concludeRequest_sendPacket (env : Env σ) (packet : Memory UInt8) (state : σ)
    (reply : Memory UInt8) (success : UInt32) (report : Memory UInt8 → List Report)
    (unhandled : Int) :
    concludeRequest env (sendPacket env packet state) reply success report unhandled =
      conclude env (usbBulkWrite env (wireImage packet) state).sent [] reply
        (usbBulkWrite env (wireImage packet) state).state success report unhandled :=
  rfl

/-- `puppy_turbo` -/
def puppyTurbo (env : Env σ) (turboOn : Int32) (req reply : Memory UInt8) (state : σ) :
    Completed σ :=
  concludeRequest env (sendCmdTurbo env req turboOn state) reply SUCCESS (fun _ => []) negEPROTO

/-- `puppy_reset` -/
def puppyReset (env : Env σ) (req reply : Memory UInt8) (state : σ) : Completed σ :=
  concludeRequest env (sendCmdReset env req state) reply SUCCESS (fun _ => [.reboots]) negEPROTO

/-- `puppy_ready`, which returns another value for an unknown packet. -/
def puppyReady (env : Env σ) (req reply : Memory UInt8) (state : σ) : Completed σ :=
  concludeRequest env (sendCmdReady env req state) reply SUCCESS (fun _ => [.ready]) (-1)

/-- `puppy_cancel`, which sends the constant packet. -/
def puppyCancel (env : Env σ) (reply : Memory UInt8) (state : σ) : Completed σ :=
  let out := sendCancel env state
  conclude env out.sent [] reply out.state SUCCESS (fun _ => [.cancelled]) negEPROTO

/-- The two lines `puppy_hdd_size` prints. -/
def sizeReport (reply : Memory UInt8) : List Report :=
  let totalk := getU32 reply dataOffset
  let freek := getU32 reply (dataOffset + 4)
  [.total totalk (totalk / 1024) (totalk / (1024 * 1024)),
    .free freek (freek / 1024) (freek / (1024 * 1024))]

/-- `puppy_hdd_size` -/
def puppyHddSize (env : Env σ) (req reply : Memory UInt8) (state : σ) : Completed σ :=
  concludeRequest env (sendCmdHddSize env req state) reply DATA_HDD_SIZE sizeReport negEPROTO

/-- `puppy_hdd_del` -/
def puppyHddDel (env : Env σ) (path : CString) (req reply : Memory UInt8) (state : σ) :
    Completed σ :=
  concludeRequest env (sendCmdHddDel env req path state) reply SUCCESS (fun _ => []) negEPROTO

/-- `puppy_hdd_rename` -/
def puppyHddRename (env : Env σ) (srcPath dstPath : CString) (req reply : Memory UInt8)
    (state : σ) : Completed σ :=
  concludeRequest env (sendCmdHddRename env req srcPath dstPath state) reply SUCCESS
    (fun _ => []) negEPROTO

/-- `puppy_hdd_mkdir` -/
def puppyHddMkdir (env : Env σ) (path : CString) (req reply : Memory UInt8) (state : σ) :
    Completed σ :=
  concludeRequest env (sendCmdHddCreateDir env req path state) reply SUCCESS (fun _ => [])
    negEPROTO

theorem conclude_ret_eq_zero_iff {env : Env σ} {sent : Int} {stderr : List Diagnostic}
    {reply : Memory UInt8} {state : σ} {success : UInt32} {report : Memory UInt8 → List Report}
    {unhandled : Int} (nonzero : unhandled ≠ 0) :
    (conclude env sent stderr reply state success report unhandled).ret = 0 ↔
      0 ≤ sent ∧ 0 ≤ (getTfPacket env reply state).ret ∧
        packetCmd (getTfPacket env reply state).packet = success := by
  unfold conclude
  by_cases failed : sent < 0
  · rw [if_pos failed]
    exact iff_of_false negEPROTO_ne_zero fun sent => absurd sent.1 (Int.not_le.mpr failed)
  · rw [if_neg failed, and_iff_right (Int.not_lt.mp failed)]
    simp only
    by_cases lost : (getTfPacket env reply state).ret < 0
    · rw [if_pos lost]
      exact iff_of_false negEPROTO_ne_zero fun got => absurd got.1 (Int.not_le.mpr lost)
    · rw [if_neg lost, and_iff_right (Int.not_lt.mp lost)]
      by_cases succeeded : packetCmd (getTfPacket env reply state).packet = success
      · rw [if_pos succeeded]
        exact iff_of_true rfl succeeded
      · rw [if_neg succeeded]
        split
        · exact iff_of_false negEPROTO_ne_zero succeeded
        · exact iff_of_false nonzero succeeded

/-! ## All of them -/

/-- The single-reply commands with their arguments. -/
inductive Command where
  | turbo (turboOn : Int32)
  | reset
  | ready
  | cancel
  | hddSize
  | hddDel (path : CString)
  | hddRename (srcPath dstPath : CString)
  | hddMkdir (path : CString)

namespace Command

/-- Call a command. -/
def call (env : Env σ) (req reply : Memory UInt8) (state : σ) : Command → Completed σ
  | turbo turboOn => puppyTurbo env turboOn req reply state
  | reset => puppyReset env req reply state
  | ready => puppyReady env req reply state
  | cancel => puppyCancel env reply state
  | hddSize => puppyHddSize env req reply state
  | hddDel path => puppyHddDel env path req reply state
  | hddRename srcPath dstPath => puppyHddRename env srcPath dstPath req reply state
  | hddMkdir path => puppyHddMkdir env path req reply state

/-- The bytes of the request, or `none` when its paths do not fit. -/
def message (req : Memory UInt8) : Command → Option (List UInt8)
  | turbo turboOn => some (wireImage (turboPacket req turboOn))
  | reset => some (wireImage (resetPacket req))
  | ready => some (wireImage (readyPacket req))
  | cancel => some cancelPacket
  | hddSize => some (wireImage (hddSizePacket req))
  | hddDel path =>
      if hddDelSize path ≥ MAXIMUM_PACKET_SIZE then none
      else some (wireImage (hddDelPacket req path))
  | hddRename srcPath dstPath =>
      if hddRenameSize srcPath dstPath ≥ MAXIMUM_PACKET_SIZE then none
      else some (wireImage (hddRenamePacket req srcPath dstPath))
  | hddMkdir path =>
      if hddCreateDirSize path ≥ MAXIMUM_PACKET_SIZE then none
      else some (wireImage (hddCreateDirPacket req path))

/-- The reply that means success. -/
def success : Command → UInt32
  | hddSize => DATA_HDD_SIZE
  | turbo _ | reset | ready | cancel | hddDel _ | hddRename _ _ | hddMkdir _ => SUCCESS

/-- The bulk pipe accepts all bytes of the request. -/
def Transmitted (env : Env σ) (req : Memory UInt8) (state : σ) (command : Command) : Prop :=
  ∃ bytes, command.message req = some bytes ∧ Takes env bytes state

theorem length_of_message {req : Memory UInt8} {command : Command} {bytes : List UInt8}
    (message : command.message req = some bytes) : bytes.length ≤ 2 ^ 16 := by
  have sealed (packet : Memory UInt8) : (wireImage packet).length ≤ 2 ^ 16 := by
    rw [wireImage_length]
    exact byteCount_le packet
  cases command with
  | turbo | reset | ready | hddSize =>
      cases message
      exact sealed _
  | cancel =>
      cases message
      decide
  | hddDel | hddRename | hddMkdir =>
      simp only [Command.message] at message
      split at message
      · cases message
      · cases message
        exact sealed _

/-- Then `usb_bulk_write` reports that it has sent them all. -/
theorem transmitted_iff (env : Env σ) (req : Memory UInt8) (state : σ) (command : Command) :
    command.Transmitted env req state ↔
      ∃ bytes, command.message req = some bytes ∧
        (usbBulkWrite env bytes state).sent = bytes.length := by
  have counted {bytes : List UInt8} (message : command.message req = some bytes) :=
    usbBulkWrite_sent_iff env
      (Nat.lt_of_le_of_lt (length_of_message message) (show 2 ^ 16 < 2 ^ 32 by decide)) state
  constructor
  · rintro ⟨bytes, message, takes⟩
    exact ⟨bytes, message, (counted message).mpr takes⟩
  · rintro ⟨bytes, message, sent⟩
    exact ⟨bytes, message, (counted message).mp sent⟩

/-- The packet read behind the request is the success reply. -/
def Succeeded (env : Env σ) (req reply : Memory UInt8) (state : σ) (command : Command) : Prop :=
  ∃ bytes, command.message req = some bytes ∧
    let got := getTfPacket env reply (usbBulkWrite env bytes state).state
    0 ≤ got.ret ∧ packetCmd got.packet = command.success

/-- What is printed on success. -/
def report : Command → (Memory UInt8 → List Report)
  | reset => fun _ => [.reboots]
  | ready => fun _ => [.ready]
  | cancel => fun _ => [.cancelled]
  | hddSize => sizeReport
  | turbo _ | hddDel _ | hddRename _ _ | hddMkdir _ => fun _ => []

/-- The value returned for an unknown packet. -/
def unhandled : Command → Int
  | ready => -1
  | turbo _ | reset | cancel | hddSize | hddDel _ | hddRename _ _ | hddMkdir _ => negEPROTO

theorem unhandled_ne_zero (command : Command) : command.unhandled ≠ 0 := by
  cases command <;> first | exact negEPROTO_ne_zero | decide

/-- A command is refused, or hands its request to the bulk pipe and takes the
common course. -/
theorem call_cases (env : Env σ) (req reply : Memory UInt8) (state : σ) (command : Command) :
    (command.message req = none ∧ (command.call env req reply state).ret = negEPROTO) ∨
      ∃ bytes, command.message req = some bytes ∧
        command.call env req reply state =
          conclude env (usbBulkWrite env bytes state).sent [] reply
            (usbBulkWrite env bytes state).state command.success command.report
            command.unhandled := by
  cases command with
  | turbo turboOn =>
      simp only [call, puppyTurbo, sendCmdTurbo, concludeRequest_sendPacket]
      exact Or.inr ⟨_, rfl, rfl⟩
  | reset =>
      simp only [call, puppyReset, sendCmdReset, concludeRequest_sendPacket]
      exact Or.inr ⟨_, rfl, rfl⟩
  | ready =>
      simp only [call, puppyReady, sendCmdReady, concludeRequest_sendPacket]
      exact Or.inr ⟨_, rfl, rfl⟩
  | cancel => exact Or.inr ⟨_, rfl, rfl⟩
  | hddSize =>
      simp only [call, puppyHddSize, sendCmdHddSize, concludeRequest_sendPacket]
      exact Or.inr ⟨_, rfl, rfl⟩
  | hddDel path =>
      simp only [message, call, puppyHddDel, sendCmdHddDel]
      by_cases tooLong : hddDelSize path ≥ MAXIMUM_PACKET_SIZE
      · rw [if_pos tooLong, sendRequest_of_tooLong tooLong]
        exact Or.inl ⟨rfl, rfl⟩
      · rw [if_neg tooLong, sendRequest_of_fits tooLong, concludeRequest_sendPacket]
        exact Or.inr ⟨_, rfl, rfl⟩
  | hddRename srcPath dstPath =>
      simp only [message, call, puppyHddRename, sendCmdHddRename]
      by_cases tooLong : hddRenameSize srcPath dstPath ≥ MAXIMUM_PACKET_SIZE
      · rw [if_pos tooLong, if_pos tooLong]
        exact Or.inl ⟨rfl, rfl⟩
      · rw [if_neg tooLong, if_neg tooLong, concludeRequest_sendPacket]
        exact Or.inr ⟨_, rfl, rfl⟩
  | hddMkdir path =>
      simp only [message, call, puppyHddMkdir, sendCmdHddCreateDir]
      by_cases tooLong : hddCreateDirSize path ≥ MAXIMUM_PACKET_SIZE
      · rw [if_pos tooLong, sendRequest_of_tooLong tooLong]
        exact Or.inl ⟨rfl, rfl⟩
      · rw [if_neg tooLong, sendRequest_of_fits tooLong, concludeRequest_sendPacket]
        exact Or.inr ⟨_, rfl, rfl⟩

/-- A command reports success exactly when the success reply was read: how much
of the request was sent makes no difference. -/
theorem call_ret_eq_zero_iff (env : Env σ) (req reply : Memory UInt8) (state : σ)
    (command : Command) :
    (command.call env req reply state).ret = 0 ↔ command.Succeeded env req reply state := by
  rcases call_cases env req reply state command with
    ⟨refused, ret⟩ | ⟨bytes, sent, course⟩
  · rw [ret]
    constructor
    · intro zero
      exact absurd zero negEPROTO_ne_zero
    · rintro ⟨bytes, sent, _⟩
      rw [refused] at sent
      cases sent
  · rw [course, conclude_ret_eq_zero_iff command.unhandled_ne_zero,
      and_iff_right (Int.natCast_nonneg _)]
    constructor
    · intro got
      exact ⟨bytes, sent, got⟩
    · rintro ⟨other, same, got⟩
      cases sent.symm.trans same
      exact got

/-- A command reports success only for a request that was sent and answered,
exactly when no success reply is read behind a request of which the bulk pipe
has not taken all bytes. -/
theorem call_success_iff (env : Env σ) (req reply : Memory UInt8) (state : σ)
    (command : Command) :
    ((command.call env req reply state).ret = 0 →
      command.Transmitted env req state ∧ command.Succeeded env req reply state) ↔
    (command.Transmitted env req state ∨ ¬ command.Succeeded env req reply state) := by
  rw [call_ret_eq_zero_iff]
  constructor
  · intro sent
    by_cases succeeded : command.Succeeded env req reply state
    · exact Or.inl (sent succeeded).1
    · exact Or.inr succeeded
  · rintro (transmitted | notSucceeded) succeeded
    · exact ⟨transmitted, succeeded⟩
    · exact absurd succeeded notSucceeded

end Command

/-! ## A stale reply -/

/-- A link whose far side fails every bulk write. -/
def deafEnv : Env (Link Unit) :=
  { Link.muteEnv with bulkOut := fun _ link => (none, link) }

/-- A link on which a `SUCCESS` was left behind. -/
def staleLink : Link Unit where
  pending := []
  queue := [successPacket]
  device := ()

/-- A delete whose request is not sent at all succeeds on a stale reply. -/
theorem hddDel_success_unsent :
    ((Command.hddDel CString.empty).call deafEnv (fun _ => 0) (fun _ => 0) staleLink).ret = 0 ∧
      ¬ (Command.hddDel CString.empty).Transmitted deafEnv (fun _ => 0) staleLink := by
  constructor
  · decide +kernel
  · rw [Command.transmitted_iff]
    rintro ⟨bytes, message, sent⟩
    have empty : bytes.length = 0 := sent.symm
    have lengths := congrArg (Option.map List.length) message
    rw [Option.map_some, empty] at lengths
    exact absurd lengths (by decide)

end Puppy.Control
