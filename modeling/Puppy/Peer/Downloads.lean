import Puppy.Peer.Uploads
import Puppy.Transfer.GetTime

/-!
# Downloads from a file server

The packets of a file are received one behind each `SUCCESS` and written to the
destination in the order of their arrival; the time of the file is that of its
`typefile`.  A refusal is cancelled.
-/

namespace Puppy.Peer

open Transition
open Puppy.Wire Puppy.Usb Puppy.Control Puppy.Listing Puppy.Transfer Puppy.Time

universe u

variable {δ : Type u}

section Loop

variable (disk : Disk δ) (amount : Nat → Nat) (host : Host) (state : δ) (calls : Nat)

/-! ## Packets -/

/-- The packet on the line is read.  File data brings the next message. -/
theorem getTfPacket_playing {packet : Memory UInt8} (sendable : Sendable packet)
    {rest : List (List UInt8)} {outside : Link (Server δ)}
    (waiting : outside = playing (wireImage packet :: rest) state calls) (buffer : Memory UInt8) :
    Reads packet
      (if packetCmd packet = DATA_HDD_FILE_DATA then playing rest state calls
        else line [] { disk := state, phase := .sending rest, calls })
      (getTfPacket (Link.env (fileServer disk amount) host) buffer outside) := by
  subst waiting
  have reads := getTfPacket_queued (fileServer disk amount) host sendable
    (show (playing (wireImage packet :: rest) state calls).queue = wireImage packet :: [] from rfl)
    (Or.inr rfl) buffer
  have after : { playing (wireImage packet :: rest) state calls with queue := [] } =
      line [] { disk := state, phase := .sending rest, calls } := rfl
  rw [after, sendSuccess_playing] at reads
  exact reads

/-- A turn has taken one packet: `bytes` were written, and `rest` is to come. -/
structure Took (rest : List (List UInt8)) (bytes : List UInt8)
    (loop next : GetLoop (Link (Server δ))) : Prop where
  outside : next.outside = playing rest state calls
  dst : next.dst = loop.dst ++ bytes
  quiet : next.stderr = loop.stderr

variable {rest : List (List UInt8)} {loop : GetLoop (Link (Server δ))}

/-- The `typefile` enters the data phase with the time of the file. -/
theorem getBody_typefile {packet : Memory UInt8} (stage : loop.state = .start)
    (cmd : packetCmd packet = DATA_HDD_FILE_START)
    (length : (packetLength packet).toNat = PACKET_HEAD_SIZE + TYPEFILE_SIZE)
    (waiting : loop.outside = playing (wireImage packet :: rest) state calls) :
    ∃ next, getBody (Link.env (fileServer disk amount) host) loop = .again next ∧
      next.state = .data ∧
      next.stamp = tfdtToTime host.mktime (getTfDatetime packet dataOffset) ∧
      Took state calls rest [] loop next := by
  have sendable : Sendable packet := by
    constructor
    · rw [length]
      decide
    · rw [length]
      decide
  have reads := getTfPacket_playing disk amount host state calls sendable waiting loop.reply
  rw [if_neg (by rw [cmd]; decide)] at reads
  have stamp : getTfDatetime (getTfPacket (Link.env (fileServer disk amount) host) loop.reply
      loop.outside).packet dataOffset = getTfDatetime packet dataOffset := by
    apply getTfDatetime_congr
    intro i below
    apply reads.bytes
    · unfold dataOffset
      omega
    · rw [byteCount, length]
      unfold dataOffset
      exact Nat.lt_of_lt_of_le (Nat.add_lt_add_left below 8) (by decide)
  unfold getBody
  simp only
  generalize getTfPacket (Link.env (fileServer disk amount) host) loop.reply loop.outside = got at *
  rw [if_pos reads.accepted, if_pos (by rw [reads.cmd, cmd])]
  simp only [getStart, stage]
  refine ⟨_, rfl, rfl, ?_, ?_, (List.append_nil _).symm, ?_⟩
  · exact congrArg (tfdtToTime host.mktime) stamp
  · simp only [Turn.close, Turn.enter, Turn.answer, reads.state]
    exact sendSuccess_playing disk amount host rest state calls
  · simp only [Turn.close, Turn.enter, Turn.answer, reads.quiet, List.append_nil]

/-- A data packet goes to the destination. -/
theorem getBody_payload {packet : Memory UInt8} (stage : loop.state = .data)
    (cmd : packetCmd packet = DATA_HDD_FILE_DATA) (declared : 16 ≤ (packetLength packet).toNat)
    (bound : (packetLength packet).toNat < MAXIMUM_PACKET_SIZE)
    (waiting : loop.outside = playing (wireImage packet :: rest) state calls) :
    ∃ next, getBody (Link.env (fileServer disk amount) host) loop = .again next ∧
      next.state = .data ∧ next.stamp = loop.stamp ∧
      Took state calls rest (payload packet) loop next := by
  have sendable : Sendable packet := ⟨Nat.le_trans (by decide) declared, bound⟩
  have reads := getTfPacket_playing disk amount host state calls sendable waiting loop.reply
  rw [if_pos cmd] at reads
  have padded := le_roundUpEven (packetLength packet).toNat
  have bytes : Memory.load (getTfPacket (Link.env (fileServer disk amount) host) loop.reply
      loop.outside).packet (dataOffset + 8) (payloadSize packet) = payload packet := by
    rw [payload]
    apply Memory.load_congr
    intro address above below
    unfold payloadSize PACKET_HEAD_SIZE at below
    unfold dataOffset at above below
    apply reads.bytes
    · omega
    · rw [byteCount]
      omega
  have size : (dataLen (getTfPacket (Link.env (fileServer disk amount) host) loop.reply
      loop.outside).packet).toNat = payloadSize packet := by
    rw [dataLen_toNat (by rw [reads.length]; exact declared), payloadSize, reads.length,
      payloadSize]
  have whole : ¬ (getTfPacket (Link.env (fileServer disk amount) host) loop.reply
      loop.outside).ret < (packetLength (getTfPacket (Link.env (fileServer disk amount) host)
        loop.reply loop.outside).packet).toNat := by
    rw [reads.whole, reads.length, byteCount]
    omega
  unfold getBody
  simp only
  generalize getTfPacket (Link.env (fileServer disk amount) host) loop.reply loop.outside = got at *
  rw [if_pos reads.accepted, if_neg (by rw [reads.cmd, cmd]; decide),
    if_pos (by rw [reads.cmd, cmd])]
  simp only [getData, stage, if_neg whole, writePayload, size, bytes, Link.env, payload_length,
    Int.lt_irrefl, if_false]
  refine ⟨_, rfl, rfl, rfl, reads.state, ?_, ?_⟩
  · simp only [Turn.close, ← payload_length, List.take_length]
  · simp only [Turn.close, reads.quiet, List.append_nil]

/-- The end marker ends the download. -/
theorem getBody_finish (waiting : loop.outside = playing [wireImage fileEnd] state calls) :
    ∃ last, getBody (Link.env (fileServer disk amount) host) loop = .leave (0, last) ∧
      last.utime = some loop.stamp ∧ ¬ BrokenOff last.log ∧ Took state calls [] [] loop last := by
  obtain ⟨length, cmd⟩ := Answer.header_putFixedHeader (fun _ => 0) 8 DATA_HDD_FILE_END
  have sendable : Sendable fileEnd := by
    constructor
    · rw [fileEnd, length]
      decide
    · rw [fileEnd, length]
      decide
  have reads := getTfPacket_playing disk amount host state calls sendable waiting loop.reply
  rw [fileEnd, cmd, if_neg (by decide), ← fileEnd] at reads
  have arrivedCmd := reads.cmd.trans cmd
  unfold getBody
  simp only
  generalize getTfPacket (Link.env (fileServer disk amount) host) loop.reply loop.outside = got at *
  rw [if_pos reads.accepted, if_neg (by rw [arrivedCmd]; decide),
    if_neg (by rw [arrivedCmd]; decide), if_pos arrivedCmd]
  refine ⟨_, rfl, rfl, ?_, ?_, (List.append_nil _).symm, ?_⟩
  · exact (brokenOff_append_iff _ _).not.mpr (not_not.mpr reads.accepted)
  · simp only [Turn.close, Turn.answer, reads.state]
    exact sendSuccess_playing disk amount host [] state calls
  · simp only [Turn.close, Turn.answer, reads.quiet, List.append_nil]

/-! ## The whole file -/

/-- What is left of a file is received. -/
theorem leaves_of_playing {datas : List (Memory UInt8)}
    (dataCmd : ∀ data ∈ datas, packetCmd data = DATA_HDD_FILE_DATA)
    (dataLength : ∀ data ∈ datas, 16 ≤ (packetLength data).toNat ∧
      (packetLength data).toNat < MAXIMUM_PACKET_SIZE) :
    ∀ loop : GetLoop (Link (Server δ)), loop.state = .data →
      loop.outside = playing (datas.map wireImage ++ [wireImage fileEnd]) state calls →
      ∃ last, Leaves (getBody (Link.env (fileServer disk amount) host)) loop (0, last) ∧
        last.utime = some loop.stamp ∧ ¬ BrokenOff last.log ∧
        Took state calls [] (datas.flatMap payload) loop last := by
  induction datas with
  | nil =>
      intro loop _ waiting
      obtain ⟨last, left, utime, heard, took⟩ :=
        getBody_finish disk amount host state calls waiting
      exact ⟨last, leaves_of_leave left, utime, heard, took⟩
  | cons data datas ih =>
      intro loop stage waiting
      have length := dataLength data List.mem_cons_self
      obtain ⟨next, pass, nextStage, stamp, took⟩ := getBody_payload disk amount host state calls
        stage (dataCmd data List.mem_cons_self) length.1 length.2 waiting
      obtain ⟨last, leaves, utime, heard, rest⟩ :=
        ih (fun other member => dataCmd other (List.mem_cons_of_mem _ member))
          (fun other member => dataLength other (List.mem_cons_of_mem _ member)) next nextStage
          took.outside
      refine ⟨last, leaves_of_again pass leaves, ?_, heard, rest.outside, ?_,
        rest.quiet.trans took.quiet⟩
      · rw [utime, stamp]
      · rw [rest.dst, took.dst, List.append_assoc]
        rfl

/-- A file is received whole, with its time. -/
theorem leaves_of_download (download : Download) (stage : loop.state = .start)
    (waiting : loop.outside = playing download.script state calls) :
    ∃ last, Leaves (getBody (Link.env (fileServer disk amount) host)) loop (0, last) ∧
      last.utime = some (tfdtToTime host.mktime download.file.stamp) ∧ ¬ BrokenOff last.log ∧
      Took state calls [] download.file.contents loop last := by
  obtain ⟨next, pass, nextStage, stamp, took⟩ := getBody_typefile disk amount host state calls
    stage download.startCmd download.startLength waiting
  obtain ⟨last, leaves, utime, heard, rest⟩ := leaves_of_playing disk amount host state calls
    download.dataCmd download.dataLength next nextStage took.outside
  refine ⟨last, leaves_of_again pass leaves, ?_, heard, rest.outside, ?_,
    rest.quiet.trans took.quiet⟩
  · rw [utime, stamp]
    rfl
  · rw [rest.dst, took.dst, List.append_nil]
    rfl

/-! ## A refusal -/

/-- `CANCEL` on an idle line is answered with `SUCCESS`. -/
theorem sendCancel_line :
    (sendCancel (Link.env (fileServer disk amount) host) (line [] (resting state calls))).state =
      line [Answer.success.message] (resting state calls) := by
  have attended : (resting state calls).attend disk (.command .cancel) =
      ([Answer.success.message], resting state calls) := by
    simp only [Server.attend, resting, disk.cancel]
    rfl
  rw [sendCancel, usbBulkWrite_line disk amount host understood_cancel, attended]
  rfl

/-- A refusal is reported and cancelled, and the answer to the cancellation ends
the download. -/
theorem leaves_of_refusal {code : UInt32}
    (waiting : loop.outside = line [(Answer.failure code).message] (resting state calls)) :
    ∃ last, Leaves (getBody (Link.env (fileServer disk amount) host)) loop (negEPROTO, last) ∧
      last.utime = some loop.stamp ∧ ¬ BrokenOff last.log ∧ last.dst = loop.dst ∧
      last.stderr = loop.stderr ++ [reported code] ∧
      last.outside = line [] (resting state calls) := by
  have reads := getTfPacket_answer disk amount host (.failure code) waiting loop.reply
  have cmd : packetCmd (getTfPacket (Link.env (fileServer disk amount) host) loop.reply
      loop.outside).packet = FAIL := reads.cmd.trans (Answer.failure code).header_packet.2
  have text := decodeError_of_reads reads
  have aborted : ∃ next, getBody (Link.env (fileServer disk amount) host) loop = .again next ∧
      next.stamp = loop.stamp ∧ next.dst = loop.dst ∧
      next.stderr = loop.stderr ++ [reported code] ∧
      next.outside = line [Answer.success.message] (resting state calls) := by
    unfold getBody
    simp only
    generalize getTfPacket (Link.env (fileServer disk amount) host) loop.reply loop.outside = got
      at *
    rw [if_pos reads.accepted, if_neg (by rw [cmd]; decide), if_neg (by rw [cmd]; decide),
      if_neg (by rw [cmd]; decide), if_pos cmd]
    refine ⟨_, rfl, rfl, rfl, ?_, ?_⟩
    · simp only [Turn.close, Turn.abort, Turn.enter, Turn.answer, Turn.print, reads.quiet,
        List.append_nil, text, reported]
    · simp only [Turn.close, Turn.abort, Turn.enter, Turn.answer, Turn.print, reads.state]
      exact sendCancel_line disk amount host state calls
  obtain ⟨next, pass, stamp, dst, printed, outside⟩ := aborted
  have answered := getTfPacket_answer disk amount host .success outside next.reply
  have success : packetCmd (getTfPacket (Link.env (fileServer disk amount) host) next.reply
      next.outside).packet = SUCCESS := answered.cmd.trans Answer.success.header_packet.2
  have ended : ∃ last, getBody (Link.env (fileServer disk amount) host) next =
      .leave (negEPROTO, last) ∧ last.utime = some next.stamp ∧ ¬ BrokenOff last.log ∧
      last.dst = next.dst ∧ last.stderr = next.stderr ∧
      last.outside = line [] (resting state calls) := by
    unfold getBody
    simp only
    generalize getTfPacket (Link.env (fileServer disk amount) host) next.reply next.outside = got
      at *
    rw [if_pos answered.accepted, if_neg (by rw [success]; decide),
      if_neg (by rw [success]; decide),
      if_neg (by rw [success]; decide), if_neg (by rw [success]; decide), if_pos success]
    refine ⟨_, rfl, rfl, ?_, rfl, ?_, ?_⟩
    · exact (brokenOff_append_iff _ _).not.mpr (not_not.mpr answered.accepted)
    · simp only [Turn.close, answered.quiet, List.append_nil]
    · exact answered.state
  obtain ⟨last, left, utime, heard, lastDst, lastPrinted, idle⟩ := ended
  refine ⟨last, leaves_of_again pass (leaves_of_leave left), ?_, heard, ?_, ?_, idle⟩
  · rw [utime, stamp]
  · rw [lastDst, dst]
  · rw [lastPrinted, printed]

end Loop

/-! ## The call -/

section Call

variable (disk : Disk δ) (amount : Nat → Nat) (host : Host) (path : CString) (state : δ)

theorem getPrologue_line (buffers : Buffers) (link : Link (Server δ)) :
    getPrologue (Link.env (fileServer disk amount) host) path buffers link =
      (getInitial buffers link).requested
        (sendCmdHddFileSend (Link.env (fileServer disk amount) host) buffers.req GET path link) :=
  rfl

/-- Behind a request that was sent the loop is entered. -/
theorem getRequested_of_sent (buffers : Buffers) (link : Link (Server δ))
    {request : Requested (Link (Server δ))} (sent : 0 ≤ request.ret)
    (quiet : request.stderr = []) :
    ∃ loop, (getInitial buffers link).requested request = .again loop ∧ loop.state = .start ∧
      loop.dst = [] ∧ loop.stamp = 0 ∧ loop.stderr = [] ∧ loop.outside = request.state := by
  refine ⟨_, by rw [GetLoop.requested]; exact if_neg (Int.not_lt.mpr sent), rfl, rfl, rfl, ?_, rfl⟩
  simp only [getInitial, quiet, List.append_nil]

theorem puppyHddFileGet_of_entered {σ : Type u} {env : Env σ} {buffers : Buffers} {outside : σ}
    {loop : GetLoop σ} (entered : getPrologue env path buffers outside = .again loop)
    (fuel : Nat) :
    puppyHddFileGet env fuel path buffers outside = run (getBody env) fuel loop := by
  rw [puppyHddFileGet, entered]

theorem puppyHddFileGet_of_left {σ : Type u} {env : Env σ} {buffers : Buffers} {outside : σ}
    {result : Int × GetLoop σ} (left : getPrologue env path buffers outside = .leave result) :
    puppyHddFileGet env 0 path buffers outside = .leave result := by
  rw [puppyHddFileGet, left]

/-- A download returns with what it means, and does not break off. -/
theorem puppyHddFileGet_line (short : path.length ≤ 65534) (buffers : Buffers) (calls : Nat) :
    ∃ fuel result last, puppyHddFileGet (Link.env (fileServer disk amount) host) fuel path buffers
        (line [] (resting state calls)) = .leave (result, last) ∧
      disk.serve host (.get path) state =
        (.get result last.dst last.utime last.stderr, state) ∧
      ¬ BrokenOff last.log ∧ last.outside = line [] (resting state calls) := by
  have prologue := getPrologue_line disk amount host path buffers (line [] (resting state calls))
  by_cases accepts : FileSendAccepts path
  · obtain ⟨sent, quiet, asked⟩ := sendCmdHddFileSend_line disk amount host
      (show Demand.ofPath (.hddFileSend GET path) = some (.get path) from rfl) accepts
      buffers.req (resting state calls)
    obtain ⟨loop, again, stage, dst, stamp, silent, outside⟩ :=
      getRequested_of_sent buffers (line [] (resting state calls)) sent quiet
    rw [asked] at outside
    have entered := puppyHddFileGet_of_entered path (prologue.trans again)
    cases fetched : disk.fetch path state with
    | error code =>
        have waiting : loop.outside =
            line [(Answer.failure code).message] (resting state calls) := by
          rw [outside]
          simp only [Server.attend, resting, fetched]
          rfl
        obtain ⟨last, ⟨fuel, left⟩, utime, heard, written, printed, idle⟩ :=
          leaves_of_refusal disk amount host state calls waiting
        rw [stamp] at utime
        rw [dst] at written
        rw [silent, List.nil_append] at printed
        refine ⟨fuel, _, last, (entered fuel).trans left, ?_, heard, idle⟩
        simp only [Disk.serve, if_neg (not_not.mpr accepts), fetched, utime, written, printed]
    | ok download =>
        have waiting : loop.outside = playing download.script state calls := by
          rw [outside]
          simp only [Server.attend, resting, fetched]
          rfl
        obtain ⟨last, ⟨fuel, left⟩, utime, heard, took⟩ :=
          leaves_of_download disk amount host state calls download stage waiting
        have written := took.dst
        have printed := took.quiet
        rw [dst, List.nil_append] at written
        rw [silent] at printed
        refine ⟨fuel, _, last, (entered fuel).trans left, ?_, heard, took.outside⟩
        simp only [Disk.serve, if_neg (not_not.mpr accepts), fetched, utime, written, printed]
  · rw [sendCmdHddFileSend_of_tooLong short accepts] at prologue
    refine ⟨0, _, _, puppyHddFileGet_of_left path prologue, ?_, ?_, rfl⟩
    · simp only [Disk.serve, if_pos accepts]
      rfl
    · rintro ⟨before, last, split, _⟩
      cases before <;> cases split

/-- A download does what it means. -/
theorem performs_get (short : path.length ≤ 65534) (scratch : Scratch)
    {globals : Globals (Link (Server δ))} (rest : AtRest state globals) :
    ∃ seen next, Performs (Link.env (fileServer disk amount) host) globals
        ⟨.get path, scratch⟩ seen next ∧
      Agrees (Link.env (fileServer disk amount) host)
        (disk.serve host (.get path) state).1 seen ∧
      AtRest (disk.serve host (.get path) state).2 next := by
  obtain ⟨packet, reply, _, _⟩ := globals
  obtain ⟨rfl, calls, rfl⟩ := rest
  obtain ⟨fuel, result, last, left, means, _, idle⟩ := puppyHddFileGet_line disk amount host path
    state short ⟨packet, reply, scratch.req⟩ calls
  rw [means]
  exact ⟨_, _, .get left, .get, rfl, calls, idle⟩

end Call

end Puppy.Peer
