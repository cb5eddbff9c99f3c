import Puppy.Peer.Answer
import Puppy.Usb.PathRequest
import Puppy.Transfer.Put

/-!
# What a device is asked

The far side of the `send_cmd_` functions: a device that puts a message into
memory order, compares its check, and reads the command and the arguments off
it, comparing the lengths that are stored with the strings.  Every request of
the library that fits is understood as what its caller asked for.
-/

namespace Puppy.Peer

open Puppy.Wire Puppy.Usb Puppy.Control Puppy.Listing Puppy.Transfer

/-- What can be asked of a device. -/
inductive Demand where
  | command (command : Command)
  | list (path : CString)
  | put (path : CString)
  | get (path : CString)

/-- A message in memory order. -/
def arrived (message : List UInt8) : Memory UInt8 :=
  swapInPacket (Memory.store (fun _ => 0) 0 message)

/-- What a request with paths asks for. -/
def Demand.ofPath : PathRequest → Option Demand
  | .hddDir path => some (.list path)
  | .hddFileSend dir path =>
      if dir = PUT then some (.put path)
      else if dir = GET then some (.get path)
      else none
  | .hddDel path => some (.command (.hddDel path))
  | .hddRename src dst => some (.command (.hddRename src dst))
  | .hddCreateDir path => some (.command (.hddMkdir path))

/-- Read a packet that has arrived. -/
def demand (packet : Memory UInt8) : Option Demand :=
  let cmd := packetCmd packet
  if cmd = CANCEL then some (.command .cancel)
  else if cmd = CMD_READY then some (.command .ready)
  else if cmd = CMD_RESET then some (.command .reset)
  else if cmd = CMD_TURBO then some (.command (.turbo (getU32 packet dataOffset).toInt32))
  else if cmd = CMD_HDD_SIZE then some (.command .hddSize)
  else
    let area := Memory.load packet dataOffset ((packetLength packet).toNat - dataOffset)
    match PathRequest.parse cmd area with
    | none => none
    | some (request, lengths) =>
        if lengths = request.lengths then Demand.ofPath request else none

/-- The commands of the packets that go on with a transfer. -/
def InTransfer (cmd : UInt32) : Prop :=
  cmd = SUCCESS ∨ cmd = DATA_HDD_FILE_START ∨ cmd = DATA_HDD_FILE_DATA ∨
    cmd = DATA_HDD_FILE_END

instance (cmd : UInt32) : Decidable (InTransfer cmd) :=
  inferInstanceAs (Decidable (_ ∨ _))

/-- A message that reaches a device whole and makes it do something. -/
structure Understood (message : List UInt8) (asked : Demand) : Prop where
  nonempty : message ≠ []
  sized : messageSize message = message.length
  checked : packetCrc (arrived message) = getCrc (arrived message)
  opens : ¬ InTransfer (packetCmd (arrived message))
  asks : demand (arrived message) = some asked

/-! ## Packets on arrival -/

/-- A packet that a device can send is one message. -/
theorem whole_wireImage {packet : Memory UInt8} (sendable : Sendable packet) :
    wireImage packet ≠ [] ∧ messageSize (wireImage packet) = (wireImage packet).length := by
  have positive : 0 < (packetLength packet).toNat :=
    Nat.lt_of_lt_of_le (by decide) sendable.header
  constructor
  · rw [← List.length_pos_iff, wireImage_length]
    exact Nat.lt_of_lt_of_le positive (le_roundUpEven _)
  · exact messageSize_wireImage positive

/-- A packet on arrival: the header, the check and the data area. -/
theorem arrived_wireImage {packet : Memory UInt8} (sendable : Sendable packet) :
    packetLength (arrived (wireImage packet)) = packetLength packet ∧
      packetCmd (arrived (wireImage packet)) = packetCmd packet ∧
      packetCrc (arrived (wireImage packet)) = getCrc (arrived (wireImage packet)) ∧
      ∀ address, 4 ≤ address → address < byteCount packet →
        arrived (wireImage packet) address = packet address := by
  have header := sendable.header
  have bound := sendable.bound
  refine ⟨?_, ?_, ?_, fun address behind inside => ?_⟩
  · exact packetLength_swapInPacket_wireImage (Nat.lt_of_lt_of_le (by decide) header) _
  · exact packetCmd_swapInPacket_wireImage header bound _
  · rw [arrived, packetCrc_swapInPacket_wireImage header bound,
      getCrc_swapInPacket_wireImage header bound]
  · rw [arrived, swapInPacket_wireImage bound _ inside, putU16_crc_apply _ _ (Or.inr behind)]

/-! ## Requests with paths -/

/-- No command with paths is the command of a fixed request or goes on with a
transfer. -/
theorem cmd_of_path (request : PathRequest) :
    ¬ InTransfer request.cmd ∧ request.cmd ≠ CANCEL ∧ request.cmd ≠ CMD_READY ∧
      request.cmd ≠ CMD_RESET ∧ request.cmd ≠ CMD_TURBO ∧ request.cmd ≠ CMD_HDD_SIZE := by
  cases request <;> rw [PathRequest.cmd] <;> decide

/-- A request with paths is understood. -/
theorem understood_path {request : PathRequest} (short : request.Short)
    (fits : request.size < MAXIMUM_PACKET_SIZE) (req : Memory UInt8) {asked : Demand}
    (means : Demand.ofPath request = some asked) :
    Understood (wireImage (request.packet req)) asked := by
  have carries := PathRequest.carries_packet short fits req
  obtain ⟨_, cmd, check, parsed⟩ := carries.received fun _ => 0
  have least := carries.least
  have most := carries.most
  have sendable : Sendable (request.packet req) := by
    constructor
    · exact Nat.le_trans (by decide) least
    · exact Nat.lt_of_le_of_lt most (by decide)
  obtain ⟨nonempty, sized⟩ := whole_wireImage sendable
  obtain ⟨opens, notCancel, notReady, notReset, notTurbo, notSize⟩ := cmd_of_path request
  refine ⟨nonempty, sized, check, ?_, ?_⟩
  · rw [arrived, cmd]
    exact opens
  · rw [cmd] at parsed
    unfold demand arrived
    simp only
    rw [cmd, if_neg notCancel, if_neg notReady, if_neg notReset, if_neg notTurbo, if_neg notSize,
      parsed]
    exact (if_pos rfl).trans means

/-! ## Requests of constant size -/

/-- A request of constant size on arrival. -/
theorem understood_fixed {packet : Memory UInt8} (sendable : Sendable packet) {cmd : UInt32}
    (carried : packetCmd packet = cmd) (opens : ¬ InTransfer cmd) {asked : Demand}
    (asks : ∀ received : Memory UInt8, packetCmd received = cmd →
      (∀ address, 4 ≤ address → address < byteCount packet →
        received address = packet address) → demand received = some asked) :
    Understood (wireImage packet) asked := by
  obtain ⟨nonempty, sized⟩ := whole_wireImage sendable
  obtain ⟨_, command, check, bytes⟩ := arrived_wireImage sendable
  rw [carried] at command
  refine ⟨nonempty, sized, check, ?_, asks _ command bytes⟩
  rw [command]
  exact opens

/-- A request that is only a header. -/
theorem understood_header (req : Memory UInt8) {cmd : UInt32} (opens : ¬ InTransfer cmd)
    {asked : Demand}
    (asks : ∀ received : Memory UInt8, packetCmd received = cmd → demand received = some asked) :
    Understood (wireImage (putFixedHeader req 8 cmd)) asked := by
  obtain ⟨length, carried⟩ := Answer.header_putFixedHeader req 8 cmd
  have sendable : Sendable (putFixedHeader req 8 cmd) := by
    constructor
    · rw [length]
      decide
    · rw [length]
      decide
  exact understood_fixed sendable carried opens fun received command _ => asks received command

theorem understood_turbo (req : Memory UInt8) (turboOn : Int32) :
    Understood (wireImage (turboPacket req turboOn)) (.command (.turbo turboOn)) := by
  obtain ⟨length, carried⟩ := Answer.header_putFixedHeader req 12 CMD_TURBO
  have stored : packetLength (turboPacket req turboOn) = 12 ∧
      packetCmd (turboPacket req turboOn) = CMD_TURBO := by
    rw [turboPacket, putU32, packetLength_store _ _ (Nat.le_refl _),
      packetCmd_store _ _ (Nat.le_refl _)]
    exact ⟨length, carried⟩
  have sendable : Sendable (turboPacket req turboOn) := by
    constructor
    · rw [stored.1]
      decide
    · rw [stored.1]
      decide
  refine understood_fixed sendable stored.2 (by decide) fun received command bytes => ?_
  have count : byteCount (turboPacket req turboOn) = 12 := by
    rw [byteCount, stored.1]
    rfl
  have argument : getU32 received dataOffset = turboOn.toUInt32 := by
    rw [← getU32_putU32 (putFixedHeader req 12 CMD_TURBO) dataOffset turboOn.toUInt32]
    apply getU32_congr
    intro i below
    apply bytes
    · unfold dataOffset
      omega
    · rw [count]
      unfold dataOffset
      omega
  unfold demand
  simp only
  rw [command, if_neg (by decide), if_neg (by decide), if_neg (by decide), if_pos rfl, argument,
    Int32.toInt32_toUInt32]

/-- `cancel_packet` is understood. -/
theorem understood_cancel : Understood cancelPacket (.command .cancel) := by
  refine ⟨by decide, by decide, by decide +kernel, by decide +kernel, ?_⟩
  have command : packetCmd (arrived cancelPacket) = CANCEL := by decide +kernel
  unfold demand
  simp only
  rw [command, if_pos rfl]

/-! ## The commands of the library -/

/-- The request with paths that a single-reply command sends, if it sends one. -/
def pathRequest : Command → Option PathRequest
  | .hddDel path => some (.hddDel path)
  | .hddRename srcPath dstPath => some (.hddRename srcPath dstPath)
  | .hddMkdir path => some (.hddCreateDir path)
  | .turbo _ | .reset | .ready | .cancel | .hddSize => none

/-- No length in the request of a command wraps. -/
def ShortPaths (command : Command) : Prop :=
  ∀ request, pathRequest command = some request → request.Short

/-- The commands with paths are one family. -/
theorem message_of_path {command : Command} {request : PathRequest}
    (sends : pathRequest command = some request) (req : Memory UInt8) :
    Demand.ofPath request = some (.command command) ∧
      command.message req =
        if request.computedSize ≥ MAXIMUM_PACKET_SIZE then none
        else some (wireImage (request.packet req)) := by
  cases command with
  | hddDel | hddRename | hddMkdir =>
      cases sends
      exact ⟨rfl, rfl⟩
  | turbo | reset | ready | cancel | hddSize => cases sends

/-- A request with paths that passes its check is understood as its command. -/
theorem understood_message_path {command : Command} {request : PathRequest}
    (sends : pathRequest command = some request) (short : request.Short) {req : Memory UInt8}
    {message : List UInt8} (sent : command.message req = some message) :
    Understood message (.command command) := by
  obtain ⟨means, built⟩ := message_of_path sends req
  rw [sent] at built
  by_cases tooLong : request.computedSize ≥ MAXIMUM_PACKET_SIZE
  · rw [if_pos tooLong] at built
    cases built
  · rw [if_neg tooLong] at built
    rw [PathRequest.computedSize_of_short short] at tooLong
    rw [Option.some.inj built]
    exact understood_path short (by omega) req means

/-- The request of a command is understood as the command. -/
theorem understood_message {command : Command}
    (short : ShortPaths command) {req : Memory UInt8}
    {message : List UInt8} (sent : command.message req = some message) :
    Understood message (.command command) := by
  cases command with
  | turbo turboOn =>
      cases sent
      exact understood_turbo req turboOn
  | reset =>
      cases sent
      refine understood_header req (by decide) fun received command => ?_
      unfold demand
      simp only
      rw [command, if_neg (by decide), if_neg (by decide), if_pos rfl]
  | ready =>
      cases sent
      refine understood_header req (by decide) fun received command => ?_
      unfold demand
      simp only
      rw [command, if_neg (by decide), if_pos rfl]
  | cancel =>
      cases sent
      exact understood_cancel
  | hddSize =>
      cases sent
      refine understood_header req (by decide) fun received command => ?_
      unfold demand
      simp only
      rw [command, if_neg (by decide), if_neg (by decide), if_neg (by decide),
        if_neg (by decide), if_pos rfl]
  | hddDel path => exact understood_message_path rfl (short _ rfl) sent
  | hddRename srcPath dstPath => exact understood_message_path rfl (short _ rfl) sent
  | hddMkdir path => exact understood_message_path rfl (short _ rfl) sent

end Puppy.Peer
