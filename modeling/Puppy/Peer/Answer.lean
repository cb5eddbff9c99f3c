import Puppy.Control.SingleReply
import Puppy.Listing.Replies

/-!
# What a device answers

The replies of a device to the single-reply commands, and what a command
reports when it reads one of them.  A command takes whatever reply comes first:
nothing in a reply says which request it belongs to.
-/

namespace Puppy.Peer

open Puppy.Wire Puppy.Usb Puppy.Control Puppy.Listing

universe u

/-- A reply to a single-reply command. -/
inductive Answer where
  | success
  | size (totalk freek : UInt32)
  | failure (code : UInt32)
  deriving DecidableEq, Repr

/-- What a command returns and prints. -/
structure Outcome where
  ret : Int
  stdout : List Report
  stderr : List Diagnostic
  deriving DecidableEq, Repr

/-- The visible part of a completed command. -/
def Outcome.ofCompleted {σ : Type u} (completed : Completed σ) : Outcome where
  ret := completed.ret
  stdout := completed.stdout
  stderr := completed.stderr

namespace Answer

def cmd : Answer → UInt32
  | success => SUCCESS
  | size _ _ => DATA_HDD_SIZE
  | failure _ => FAIL

/-- The packet of a reply. -/
def packet : Answer → Memory UInt8
  | success => putFixedHeader (fun _ => 0) 8 SUCCESS
  | size totalk freek =>
      let reply := putFixedHeader (fun _ => 0) 16 DATA_HDD_SIZE
      putU32 (putU32 reply dataOffset totalk) (dataOffset + 4) freek
  | failure code => putU32 (putFixedHeader (fun _ => 0) 12 FAIL) dataOffset code

/-- The bytes of a reply on the wire. -/
def message (answer : Answer) : List UInt8 := wireImage answer.packet

/-- What a command makes of a reply. -/
def outcome (answer : Answer) (command : Command) : Outcome :=
  if answer.cmd = command.success then
    { ret := 0, stdout := command.report answer.packet, stderr := [] }
  else
    match answer with
    | failure _ =>
        { ret := negEPROTO, stdout := []
          stderr := [.deviceReports (decodeError answer.packet)] }
    | success | size _ _ =>
        { ret := command.unhandled, stdout := [], stderr := [.unhandledPacket none] }

/-! ## The packets -/

theorem header_putFixedHeader (req : Memory UInt8) (size : UInt16) (cmd : UInt32) :
    packetLength (putFixedHeader req size cmd) = size ∧
      packetCmd (putFixedHeader req size cmd) = cmd :=
  header_putU32_putU16 req size cmd

/-- No reply is taken for file data. -/
theorem cmd_ne_fileData (answer : Answer) : answer.cmd ≠ DATA_HDD_FILE_DATA := by
  cases answer with
  | success => exact (by decide : SUCCESS ≠ DATA_HDD_FILE_DATA)
  | size totalk freek => exact (by decide : DATA_HDD_SIZE ≠ DATA_HDD_FILE_DATA)
  | failure code => exact (by decide : FAIL ≠ DATA_HDD_FILE_DATA)

/-- A reply is a header and at most two numbers. -/
theorem header_packet (answer : Answer) :
    (8 ≤ (packetLength answer.packet).toNat ∧ (packetLength answer.packet).toNat ≤ 16) ∧
      packetCmd answer.packet = answer.cmd := by
  cases answer with
  | success =>
      have header := header_putFixedHeader (fun _ => 0) 8 SUCCESS
      rw [packet, header.1, header.2]
      exact ⟨by decide, rfl⟩
  | size totalk freek =>
      have header := header_putFixedHeader (fun _ => 0) 16 DATA_HDD_SIZE
      simp only [packet, putU32]
      rw [packetLength_store _ _ (by decide), packetLength_store _ _ (by decide),
        packetCmd_store _ _ (by decide), packetCmd_store _ _ (by decide), header.1, header.2]
      exact ⟨by decide, rfl⟩
  | failure code =>
      have header := header_putFixedHeader (fun _ => 0) 12 FAIL
      simp only [packet, putU32]
      rw [packetLength_store _ _ (by decide), packetCmd_store _ _ (by decide), header.1, header.2]
      exact ⟨by decide, rfl⟩

theorem sendable_packet (answer : Answer) : Sendable answer.packet := by
  obtain ⟨⟨least, most⟩, _⟩ := answer.header_packet
  constructor
  · exact least
  · exact Nat.lt_of_le_of_lt most (by decide)

/-- A reply is never as long as a chunk. -/
theorem byteCount_packet (answer : Answer) : byteCount answer.packet % MAX_READ ≠ 0 := by
  obtain ⟨⟨least, most⟩, _⟩ := answer.header_packet
  rw [byteCount, roundUpEven, MAX_READ]
  omega

end Answer

/-! ## Reading a reply -/

/-- A packet was received as it was sent, and the surroundings are `after`. -/
structure Reads {σ : Type u} (packet : Memory UInt8) (after : σ) (got : Received σ) : Prop where
  whole : got.ret = byteCount packet
  accepted : 0 < got.ret
  length : packetLength got.packet = packetLength packet
  cmd : packetCmd got.packet = packetCmd packet
  quiet : got.stderr = []
  bytes : ∀ address, 4 ≤ address → address < byteCount packet →
    got.packet address = packet address
  state : got.state = after

section Queue

variable {τ : Type u} (device : Device τ) (host : Host)

/-- The first message of the queue is read.  File data is answered with
`SUCCESS`. -/
theorem getTfPacket_queued {packet : Memory UInt8} (sendable : Sendable packet) {link : Link τ}
    {rest : List (List UInt8)} (queued : link.queue = wireImage packet :: rest)
    (framed : byteCount packet % MAX_READ ≠ 0 ∨ rest = []) (buffer : Memory UInt8) :
    Reads packet
      (if packetCmd packet = DATA_HDD_FILE_DATA then
        (sendSuccess (Link.env device host) { link with queue := rest }).state
      else { link with queue := rest })
      (getTfPacket (Link.env device host) buffer link) := by
  have header : 8 ≤ (packetLength packet).toNat := sendable.header
  have bound := sendable.bound
  have least := le_roundUpEven (packetLength packet).toNat
  have delivered : Delivers (Link.env device host) link (wireImage packet)
      { link with queue := rest } := by
    apply delivers_link _ queued
    · rw [wireImage_length]
      unfold byteCount roundUpEven
      unfold MAXIMUM_PACKET_SIZE at bound ⊢
      omega
    · rw [wireImage_length]
      exact framed
    · rw [← List.length_pos_iff, wireImage_length, byteCount]
      omega
  obtain ⟨ret, length, cmd, _, _, quiet, bytes, state⟩ :=
    getTfPacket_of_delivers_wireImage packet sendable.header bound delivered buffer
  refine ⟨ret, ?_, length, cmd, quiet, ?_, state⟩
  · rw [ret, byteCount]
    omega
  · intro address behind inside
    rw [bytes address inside, putU16_crc_apply _ _ (Or.inr behind)]

variable {device host}

/-- A number in the data area is read as it was sent. -/
theorem Reads.getU32 {σ : Type u} {packet : Memory UInt8} {after : σ} {got : Received σ}
    (reads : Reads packet after got) {addr : Nat} (behind : dataOffset ≤ addr)
    (inside : addr + 4 ≤ byteCount packet) :
    Wire.getU32 got.packet addr = Wire.getU32 packet addr := by
  apply getU32_congr
  intro i below
  exact reads.bytes _ (by unfold dataOffset at behind; omega) (by omega)

/-- What a command prints on success depends on the numbers of the reply only. -/
theorem report_of_reads {σ : Type u} {answer : Answer} {after : σ} {got : Received σ}
    (reads : Reads answer.packet after got) {command : Command}
    (fits : answer.cmd = command.success) :
    command.report got.packet = command.report answer.packet := by
  cases command with
  | hddSize =>
      cases answer with
      | success => exact absurd fits (by decide)
      | failure code => exact absurd fits (by decide : FAIL ≠ DATA_HDD_SIZE)
      | size totalk freek =>
          have length : byteCount (Answer.size totalk freek).packet = 16 := by
            simp only [byteCount, Answer.packet, putU32]
            rw [packetLength_store _ _ (by decide), packetLength_store _ _ (by decide),
              (Answer.header_putFixedHeader _ _ _).1]
            rfl
          simp only [Command.report, sizeReport]
          rw [reads.getU32 (Nat.le_refl _) (by rw [length]; decide),
            reads.getU32 (by decide) (by rw [length]; decide)]
  | turbo | reset | ready | cancel | hddDel | hddRename | hddMkdir => rfl

/-- The error a refusal reports. -/
theorem decodeError_of_reads {σ : Type u} {code : UInt32} {after : σ} {got : Received σ}
    (reads : Reads (Answer.failure code).packet after got) :
    decodeError got.packet = decodeError (Answer.failure code).packet := by
  have length : byteCount (Answer.failure code).packet = 12 := by
    simp only [byteCount, Answer.packet, putU32]
    rw [packetLength_store _ _ (by decide), (Answer.header_putFixedHeader _ _ _).1]
    rfl
  unfold decodeError
  rw [reads.getU32 (Nat.le_refl _) (by rw [length]; decide)]

variable (device host) in
/-- A command behind whose request a reply is the first one to come. -/
theorem conclude_queued (answer : Answer) (command : Command) {sent : Int} (nonneg : 0 ≤ sent)
    (reply : Memory UInt8) {link : Link τ} {rest : List (List UInt8)}
    (queued : link.queue = answer.message :: rest) :
    let completed := conclude (Link.env device host) sent [] reply link command.success
      command.report command.unhandled
    Outcome.ofCompleted completed = answer.outcome command ∧
      completed.state = { link with queue := rest } := by
  have reads := getTfPacket_queued device host answer.sendable_packet queued
    (Or.inl answer.byteCount_packet) reply
  have carried := answer.header_packet.2
  rw [carried, if_neg answer.cmd_ne_fileData] at reads
  have cmd := reads.cmd.trans carried
  unfold conclude
  rw [if_neg (Int.not_lt.mpr nonneg)]
  simp only
  generalize getTfPacket (Link.env device host) reply link = got at *
  rw [if_neg (Int.not_lt.mpr (Int.le_of_lt reads.accepted)), cmd, reads.quiet, List.append_nil]
  by_cases succeeded : answer.cmd = command.success
  · rw [if_pos succeeded, report_of_reads reads succeeded]
    exact ⟨(if_pos succeeded).symm, reads.state⟩
  · have unsuccessful : answer.outcome command = _ := if_neg succeeded
    rw [if_neg succeeded, unsuccessful]
    cases answer with
    | success =>
        rw [if_neg (show Answer.success.cmd ≠ FAIL by decide)]
        exact ⟨rfl, reads.state⟩
    | size totalk freek =>
        rw [if_neg (show (Answer.size totalk freek).cmd ≠ FAIL from
          (by decide : DATA_HDD_SIZE ≠ FAIL))]
        exact ⟨rfl, reads.state⟩
    | failure code =>
        rw [if_pos (show (Answer.failure code).cmd = FAIL from rfl), decodeError_of_reads reads]
        exact ⟨rfl, reads.state⟩

end Queue

end Puppy.Peer
