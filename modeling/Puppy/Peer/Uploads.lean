import Puppy.Peer.Job
import Puppy.Peer.Records
import Puppy.Transfer.PutStream

/-!
# Uploads to a file server

The upload loop and the server keep step: behind every packet the server has
the part of the file that the loop has counted, and answers with the `SUCCESS`
the loop waits for.  At the end of the file the disk has it, whole and with its
time.
-/

namespace Puppy.Peer

open Transition
open Puppy.Wire Puppy.Usb Puppy.Control Puppy.Listing Puppy.Transfer Puppy.Time

universe u

variable {σ : Type u} {δ : Type u}

/-! ## The packets on arrival -/

/-- The stamp of a `typefile` is the time of the file. -/
theorem stamp_startPacket (env : Env σ) (src : SourceFile) (dstPath : CString)
    (packet : Memory UInt8) :
    getTfDatetime (startPacket env src dstPath packet) dataOffset =
      timeToTfdt env.localtime src.mtime := by
  simp only [startPacket, putU64]
  generalize putU32 (putU16 packet 0 _) 4 _ = headed
  refine Eq.trans ?_ (getTfDatetime_putTfDatetime headed dataOffset _)
  apply getTfDatetime_congr
  intro i below
  rw [Memory.store_below _ _ (by omega), Memory.store_below _ _ (by omega),
    Memory.store_below _ _ (by omega), Memory.store_below _ _ (by omega),
    Memory.store_below _ _ (by omega)]

/-- The file data of a packet arrives. -/
theorem payload_arrived {packet : Memory UInt8} (sendable : Sendable packet) :
    payload (arrived (wireImage packet)) = payload packet := by
  obtain ⟨length, _, _, bytes⟩ := arrived_wireImage sendable
  have padded := le_roundUpEven (packetLength packet).toNat
  rw [payload, payload, payloadSize, payloadSize, length]
  apply Memory.load_congr
  intro address above below
  unfold PACKET_HEAD_SIZE at below
  unfold dataOffset at above below
  apply bytes
  · omega
  · rw [byteCount]
    omega

/-- The stamp of a packet arrives. -/
theorem stamp_arrived {packet : Memory UInt8} (sendable : Sendable packet)
    (long : 13 ≤ (packetLength packet).toNat) :
    getTfDatetime (arrived (wireImage packet)) dataOffset = getTfDatetime packet dataOffset := by
  obtain ⟨_, _, _, bytes⟩ := arrived_wireImage sendable
  have padded := le_roundUpEven (packetLength packet).toNat
  apply getTfDatetime_congr
  intro i below
  apply bytes
  · unfold dataOffset
    omega
  · rw [byteCount]
    unfold dataOffset
    omega

/-! ## What the server makes of them -/

section Server

variable (disk : Disk δ) {path : CString} {file : File} {server : Server δ}

theorem receive_start (receiving : server.phase = .receiving path file) {packet : Memory UInt8}
    (cmd : packetCmd packet = DATA_HDD_FILE_START) :
    server.receive disk packet =
      ([Answer.success.message],
        { server with
          phase := .receiving path { file with stamp := getTfDatetime packet dataOffset } }) := by
  simp only [Server.receive, receiving, if_pos cmd]

theorem receive_data (receiving : server.phase = .receiving path file) {packet : Memory UInt8}
    (cmd : packetCmd packet = DATA_HDD_FILE_DATA) :
    server.receive disk packet =
      ([Answer.success.message],
        { server with
          phase :=
            .receiving path { file with contents := file.contents ++ payload packet } }) := by
  have notStart : packetCmd packet ≠ DATA_HDD_FILE_START := by
    rw [cmd]
    decide
  simp only [Server.receive, receiving, if_neg notStart, if_pos cmd]

theorem receive_end (receiving : server.phase = .receiving path file) {packet : Memory UInt8}
    (cmd : packetCmd packet = DATA_HDD_FILE_END) :
    server.receive disk packet =
      ([Answer.success.message], resting (disk.store path file server.disk) server.calls) := by
  have notStart : packetCmd packet ≠ DATA_HDD_FILE_START := by
    rw [cmd]
    decide
  have notData : packetCmd packet ≠ DATA_HDD_FILE_DATA := by
    rw [cmd]
    decide
  simp only [Server.receive, receiving, if_neg notStart, if_neg notData]
  rfl

end Server

/-! ## The loop -/

section Loop

variable (disk : Disk δ) (amount : Nat → Nat) (host : Host) (src : SourceFile) (path : CString)
  (state : δ)

/-- The file an upload stores. -/
def uploaded (host : Host) (src : SourceFile) : File where
  stamp := timeToTfdt host.localtime src.mtime
  contents := src.contents

/-- A server that has received the first bytes of the file. -/
def taking (count calls : Nat) : Server δ where
  disk := state
  phase := .receiving path { uploaded host src with contents := src.contents.take count }
  calls

/-- Loop and server keep step, with these messages on the way. -/
inductive InStep (queue : List (List UInt8)) (loop : PutLoop (Link (Server δ))) : Prop
  | start (calls : Nat) (stage : loop.state = .start) (count : loop.byteCount = 0)
      (position : loop.position = 0)
      (outside : loop.outside =
        line queue { disk := state, phase := .receiving path File.blank, calls })
  | data (calls size : Nat) (stage : loop.state = .data) (count : loop.byteCount.toNat = size)
      (position : loop.position = size) (unfinished : size < src.contents.length)
      (outside : loop.outside = line queue (taking host src path state size calls))
  | fileEnd (calls : Nat) (stage : loop.state = .fileEnd)
      (outside : loop.outside =
        line queue (taking host src path state src.contents.length calls))
  | finished (calls : Nat) (stage : loop.state = .finished)
      (outside : loop.outside =
        line queue (resting (disk.store path (uploaded host src) state) calls))

/-- How many packets and bytes are still to be sent. -/
def stillToSend (loop : PutLoop (Link (Server δ))) : Nat :=
  match loop.state with
  | .start => src.contents.length + 3
  | .data => src.contents.length - loop.byteCount.toNat + 2
  | .fileEnd => 1
  | .finished => 0

/-- A packet of the file is taken in full. -/
theorem send_line {packet : Memory UInt8} (sendable : Sendable packet)
    (file : InTransfer (packetCmd packet)) (notSuccess : packetCmd packet ≠ SUCCESS)
    {server : Server δ} {loop : PutLoop (Link (Server δ))}
    (outside : loop.outside = line [] server) :
    (loop.send (Link.env (fileServer disk amount) host) packet).1.outside =
        line (server.receive disk (arrived (wireImage packet))).1
          (server.receive disk (arrived (wireImage packet))).2 ∧
      (loop.send (Link.env (fileServer disk amount) host) packet).2 = byteCount packet := by
  have sent := sendTfPacket_line disk amount host sendable file notSuccess [] server
  rw [PutLoop.send, outside, sent]
  exact ⟨rfl, rfl⟩

/-- The `typefile` is sent. -/
theorem inStep_start (nonempty : src.contents ≠ []) {loop : PutLoop (Link (Server δ))}
    {calls : Nat} (count : loop.byteCount = 0) (position : loop.position = 0)
    (outside : loop.outside =
      line [] { disk := state, phase := .receiving path File.blank, calls })
    (stage : loop.state = .start) :
    ∃ next, putStart (Link.env (fileServer disk amount) host) src path loop = .again next ∧
      InStep disk host src path state [Answer.success.message] next ∧
      next.stderr = loop.stderr ∧ stillToSend src next < stillToSend src loop := by
  let packet := startPacket (Link.env (fileServer disk amount) host) src path loop.packet
  obtain ⟨length, cmd⟩ :=
    startPacket_header (Link.env (fileServer disk amount) host) src path loop.packet
  have sendable : Sendable packet := by
    constructor
    · rw [length]
      decide
    · rw [length]
      decide
  obtain ⟨sent, _⟩ := send_line disk amount host sendable (by rw [cmd]; decide)
    (by rw [cmd]; decide) outside
  have arrivedCmd := (arrived_wireImage sendable).2.1.trans cmd
  have stamp := (stamp_arrived sendable (by rw [length]; decide)).trans
    (stamp_startPacket (Link.env (fileServer disk amount) host) src path loop.packet)
  rw [receive_start disk rfl arrivedCmd, stamp] at sent
  refine ⟨_, putStart_eq _ src path loop, ?_, rfl, ?_⟩
  · refine .data calls 0 rfl ?_ position (List.length_pos_iff.mpr nonempty) sent
    rw [PutLoop.send_byteCount, count]
    rfl
  · simp only [stillToSend, stage]
    omega

/-- The next part of the file is sent. -/
theorem inStep_data (positive : ∀ i, 0 < amount i) {loop : PutLoop (Link (Server δ))}
    {calls size : Nat} (stage : loop.state = .data) (count : loop.byteCount.toNat = size)
    (position : loop.position = size) (unfinished : size < src.contents.length)
    (outside : loop.outside = line [] (taking host src path state size calls)) :
    ∃ next, putData (Link.env (fileServer disk amount) host) src loop = .again next ∧
      InStep disk host src path state [Answer.success.message] next ∧
      next.stderr = loop.stderr ∧ stillToSend src next < stillToSend src loop := by
  let n := min (amount calls) (min 65518 (src.contents.length - loop.position))
  have some : 0 < n := by
    have := positive calls
    simp only [n]
    omega
  have le := trimmed_le n
  have more := trimmed_pos some
  have inside : size + n ≤ src.contents.length := by
    simp only [n]
    omega
  have arrival : (Link.env (fileServer disk amount) host).read
      (min 65518 (src.contents.length - loop.position)) loop.outside =
      (Option.some ⟨n, Nat.lt_succ_of_le (Nat.min_le_right _ _)⟩,
        line [] (taking host src path state size (calls + 1))) := by
    rw [outside]
    rfl
  let filled := loop.filled src n (line [] (taking host src path state size (calls + 1)))
  obtain ⟨nextCount, nextStage⟩ := filled_count
    (line [] (taking host src path state size (calls + 1))) count
    (by omega : size + trimmed n ≤ src.contents.length) stage
  obtain ⟨carried, packet⟩ := filled_packet
    (line [] (taking host src path state size (calls + 1))) count position
    (by simp only [n]; omega) inside more
  have sendable : Sendable filled.packet := by
    constructor
    · rw [packet.length, PACKET_HEAD_SIZE]
      omega
    · exact Nat.lt_of_le_of_lt packet.bound (by decide)
  have idle : filled.outside = line [] (taking host src path state size (calls + 1)) := rfl
  obtain ⟨sent, ret⟩ := send_line disk amount host sendable (by rw [packet.cmd]; decide)
    (by rw [packet.cmd]; decide) idle
  have arrivedCmd := (arrived_wireImage sendable).2.1.trans packet.cmd
  have bytes : src.contents.take size ++ payload filled.packet =
      src.contents.take (size + trimmed n) := by
    rw [packet.bytes, carried, List.take_add]
  rw [receive_data disk rfl arrivedCmd, payload_arrived sendable] at sent
  simp only [taking, uploaded] at sent
  rw [bytes] at sent
  refine ⟨(filled.send (Link.env (fileServer disk amount) host) filled.packet).1, ?_, ?_, rfl, ?_⟩
  · rw [putData_of_read arrival]
    simp only
    rw [if_neg (Nat.ne_of_gt more), if_neg]
    rw [ret, byteCount, packet.length, carried]
    have := le_roundUpEven (16 + trimmed n)
    omega
  · by_cases last : size + trimmed n = src.contents.length
    · rw [if_pos last] at nextStage
      rw [last] at sent
      exact .fileEnd (calls + 1) nextStage sent
    · rw [if_neg last] at nextStage
      exact .data (calls + 1) (size + trimmed n) nextStage nextCount
        (by rw [← position]; rfl) (by omega) sent
  · have kept : (filled.send (Link.env (fileServer disk amount) host) filled.packet).1.state =
        filled.state := rfl
    simp only [stillToSend, stage, kept, PutLoop.send_byteCount, nextCount, count, nextStage,
      filled]
    by_cases last : size + trimmed n = src.contents.length
    · rw [if_pos last]
      simp only
      omega
    · rw [if_neg last]
      simp only
      omega

/-- The end marker is sent, and the file is stored. -/
theorem inStep_end {loop : PutLoop (Link (Server δ))} {calls : Nat}
    (stage : loop.state = .fileEnd)
    (outside : loop.outside =
      line [] (taking host src path state src.contents.length calls)) :
    ∃ next, putEnd (Link.env (fileServer disk amount) host) loop = .again next ∧
      InStep disk host src path state [Answer.success.message] next ∧
      next.stderr = loop.stderr ∧ stillToSend src next < stillToSend src loop := by
  obtain ⟨length, cmd⟩ := endPacket_header loop.packet
  have sendable : Sendable (endPacket loop.packet) := by
    constructor
    · rw [length]
      decide
    · rw [length]
      decide
  obtain ⟨sent, _⟩ := send_line disk amount host sendable (by rw [cmd]; decide)
    (by rw [cmd]; decide) outside
  have arrivedCmd := (arrived_wireImage sendable).2.1.trans cmd
  rw [receive_end disk rfl arrivedCmd, List.take_length] at sent
  refine ⟨_, putEnd_eq _ loop, .finished calls rfl sent, rfl, ?_⟩
  simp only [stillToSend, stage]
  omega

/-- The loop variables once a `SUCCESS` has been taken off the line. -/
structure Entered (server : Server δ) (loop entered : PutLoop (Link (Server δ))) : Prop where
  pass : putBody (Link.env (fileServer disk amount) host) src path loop =
    putSuccess (Link.env (fileServer disk amount) host) src path entered
  stage : entered.state = loop.state
  count : entered.byteCount = loop.byteCount
  position : entered.position = loop.position
  outside : entered.outside = line [] server
  quiet : entered.stderr = loop.stderr

theorem putBody_success {server : Server δ} {loop : PutLoop (Link (Server δ))}
    (waiting : loop.outside = line [Answer.success.message] server) :
    ∃ entered, Entered disk amount host src path server loop entered := by
  have reads := getTfPacket_answer disk amount host .success waiting loop.reply
  refine ⟨loop.accept (getTfPacket (Link.env (fileServer disk amount) host) loop.reply
    loop.outside), ?_, rfl, rfl, rfl, reads.state, ?_⟩
  · unfold putBody
    simp only
    rw [if_pos reads.accepted]
    exact if_pos (reads.cmd.trans Answer.success.header_packet.2)
  · simp only [PutLoop.accept, PutLoop.print, reads.quiet, List.append_nil]

/-- One pass: the upload is over, or it is in step again and nearer to its
end. -/
theorem putBody_inStep (positive : ∀ i, 0 < amount i) (nonempty : src.contents ≠ [])
    {loop : PutLoop (Link (Server δ))}
    (inStep : InStep disk host src path state [Answer.success.message] loop) :
    (∃ last calls, putBody (Link.env (fileServer disk amount) host) src path loop =
        .leave (0, last) ∧ last.stderr = loop.stderr ∧
      last.outside = line [] (resting (disk.store path (uploaded host src) state) calls)) ∨
    ∃ next, putBody (Link.env (fileServer disk amount) host) src path loop = .again next ∧
      InStep disk host src path state [Answer.success.message] next ∧
      next.stderr = loop.stderr ∧ stillToSend src next < stillToSend src loop := by
  cases inStep with
  | start calls stage count position outside =>
      obtain ⟨entered, enter⟩ := putBody_success disk amount host src path outside
      have here := enter.stage.trans stage
      obtain ⟨next, went, kept, quiet, nearer⟩ :=
        inStep_start disk amount host src path state nonempty (enter.count.trans count)
          (enter.position.trans position) enter.outside here
      refine Or.inr ⟨next, ?_, kept, quiet.trans enter.quiet, ?_⟩
      · rw [enter.pass, putSuccess, here]
        exact went
      · simpa only [stillToSend, here, stage] using nearer
  | data calls size stage count position unfinished outside =>
      obtain ⟨entered, enter⟩ := putBody_success disk amount host src path outside
      have here := enter.stage.trans stage
      obtain ⟨next, went, kept, quiet, nearer⟩ :=
        inStep_data disk amount host src path state positive here
          ((congrArg UInt64.toNat enter.count).trans count) (enter.position.trans position)
          unfinished enter.outside
      refine Or.inr ⟨next, ?_, kept, quiet.trans enter.quiet, ?_⟩
      · rw [enter.pass, putSuccess, here]
        exact went
      · simpa only [stillToSend, here, stage, enter.count] using nearer
  | fileEnd calls stage outside =>
      obtain ⟨entered, enter⟩ := putBody_success disk amount host src path outside
      have here := enter.stage.trans stage
      obtain ⟨next, went, kept, quiet, nearer⟩ :=
        inStep_end disk amount host src path state here enter.outside
      refine Or.inr ⟨next, ?_, kept, quiet.trans enter.quiet, ?_⟩
      · rw [enter.pass, putSuccess, here]
        exact went
      · simpa only [stillToSend, here, stage] using nearer
  | finished calls stage outside =>
      obtain ⟨entered, enter⟩ := putBody_success disk amount host src path outside
      refine Or.inl ⟨entered, calls, ?_, enter.quiet, enter.outside⟩
      rw [enter.pass, putSuccess, enter.stage.trans stage]

/-- From anywhere in an upload it gets to its end. -/
theorem leaves_of_inStep (positive : ∀ i, 0 < amount i) (nonempty : src.contents ≠ [])
    {loop : PutLoop (Link (Server δ))}
    (inStep : InStep disk host src path state [Answer.success.message] loop) :
    ∃ fuel last calls, run (putBody (Link.env (fileServer disk amount) host) src path) fuel loop =
        .leave (0, last) ∧ last.stderr = loop.stderr ∧
      last.outside = line [] (resting (disk.store path (uploaded host src) state) calls) := by
  have progress : ∀ next : PutLoop (Link (Server δ)),
      InStep disk host src path state [Answer.success.message] next ∧
        next.stderr = loop.stderr →
      (∃ result, putBody (Link.env (fileServer disk amount) host) src path next =
          .leave result ∧ result.1 = 0 ∧ result.2.stderr = loop.stderr ∧
        ∃ calls, result.2.outside =
          line [] (resting (disk.store path (uploaded host src) state) calls)) ∨
      ∃ after, putBody (Link.env (fileServer disk amount) host) src path next = .again after ∧
        (InStep disk host src path state [Answer.success.message] after ∧
          after.stderr = loop.stderr) ∧
        stillToSend src after < stillToSend src next := by
    rintro next ⟨kept, quiet⟩
    rcases putBody_inStep disk amount host src path state positive nonempty kept with
      ⟨last, calls, left, same, outside⟩ | ⟨after, pass, again, same, nearer⟩
    · exact Or.inl ⟨(0, last), left, rfl, same.trans quiet, calls, outside⟩
    · exact Or.inr ⟨after, pass, ⟨again, same.trans quiet⟩, nearer⟩
  obtain ⟨fuel, ⟨value, last⟩, _, left, success, quiet, calls, outside⟩ :=
    run_leaves_of_measure _ _ _ (stillToSend src) progress ⟨inStep, rfl⟩
  simp only at success
  subst success
  exact ⟨fuel, last, calls, left, quiet, outside⟩

end Loop

/-! ## The call -/

section Call

variable (disk : Disk δ) (amount : Nat → Nat) (host : Host) (src : SourceFile) (path : CString)
  (state : δ)

/-- The part before the loop, for a file that is not empty. -/
theorem putPrologue_line (nonempty : src.contents ≠ []) (buffers : Buffers)
    (link : Link (Server δ)) :
    putPrologue (Link.env (fileServer disk amount) host) src path buffers link =
      (putInitial buffers link).requested
        (sendCmdHddFileSend (Link.env (fileServer disk amount) host) buffers.req PUT path
          link) := by
  have bytes : UInt64.ofNat src.contents.length ≠ 0 := by
    intro none
    have size := congrArg UInt64.toNat none
    have bound := src.size_lt
    rw [UInt64.toNat_ofNat', Nat.mod_eq_of_lt (by omega)] at size
    exact nonempty (List.eq_nil_of_length_eq_zero size)
  have opened : (Link.env (fileServer disk amount) host).open64 link = (none, link) := rfl
  have examined : (Link.env (fileServer disk amount) host).fstat64 link = (none, link) := rfl
  unfold putPrologue
  rw [opened]
  simp only
  rw [examined]
  simp only
  rw [if_neg bytes]

/-- An empty file is not sent. -/
theorem putPrologue_empty (empty : src.contents = []) (buffers : Buffers)
    (link : Link (Server δ)) :
    putPrologue (Link.env (fileServer disk amount) host) src path buffers link =
      .leave (negENODATA, (putInitial buffers link).print [.sourceEmpty]) := by
  have none : UInt64.ofNat src.contents.length = 0 := by
    rw [empty]
    rfl
  have opened : (Link.env (fileServer disk amount) host).open64 link = (Option.none, link) := rfl
  have examined : (Link.env (fileServer disk amount) host).fstat64 link = (Option.none, link) :=
    rfl
  unfold putPrologue
  rw [opened]
  simp only
  rw [examined]
  simp only
  rw [if_pos none]

/-- A refusal ends an upload. -/
theorem putBody_refused {code : UInt32} {server : Server δ} {loop : PutLoop (Link (Server δ))}
    (waiting : loop.outside = line [(Answer.failure code).message] server) :
    ∃ last, putBody (Link.env (fileServer disk amount) host) src path loop =
        .leave (negEPROTO, last) ∧
      last.stderr = loop.stderr ++ [reported code] ∧ last.outside = line [] server := by
  have reads := getTfPacket_answer disk amount host (.failure code) waiting loop.reply
  have cmd := reads.cmd.trans (Answer.failure code).header_packet.2
  have text := decodeError_of_reads reads
  have pass : putBody (Link.env (fileServer disk amount) host) src path loop =
      let entered := loop.accept (getTfPacket (Link.env (fileServer disk amount) host) loop.reply
        loop.outside)
      .leave (negEPROTO, entered.print [.deviceReports (decodeError entered.reply)]) := by
    have notSuccess : packetCmd (getTfPacket (Link.env (fileServer disk amount) host) loop.reply
        loop.outside).packet ≠ SUCCESS := by
      rw [cmd]
      exact (by decide : FAIL ≠ SUCCESS)
    unfold putBody
    simp only
    rw [if_pos reads.accepted]
    exact (if_neg notSuccess).trans (if_pos cmd)
  refine ⟨_, pass, ?_, ?_⟩
  · simp only [PutLoop.accept, PutLoop.print, reads.quiet, List.append_nil, text, reported]
  · exact reads.state

/-- Behind a request that was sent the loop is entered. -/
theorem putRequested_of_sent (buffers : Buffers) (link : Link (Server δ))
    {request : Requested (Link (Server δ))} (sent : 0 ≤ request.ret)
    (quiet : request.stderr = []) :
    ∃ loop, (putInitial buffers link).requested request = .again loop ∧ loop.state = .start ∧
      loop.byteCount = 0 ∧ loop.position = 0 ∧ loop.stderr = [] ∧
      loop.outside = request.state := by
  refine ⟨_, by rw [PutLoop.requested]; exact if_neg (Int.not_lt.mpr sent), rfl, rfl, rfl, ?_, rfl⟩
  simp only [PutLoop.print, putInitial, quiet, List.append_nil]

theorem puppyHddFilePut_of_entered {env : Env σ} {buffers : Buffers} {outside : σ}
    {loop : PutLoop σ} (entered : putPrologue env src path buffers outside = .again loop)
    (fuel : Nat) :
    puppyHddFilePut env fuel src path buffers outside = run (putBody env src path) fuel loop := by
  rw [puppyHddFilePut, entered]

theorem puppyHddFilePut_of_left {env : Env σ} {buffers : Buffers} {outside : σ}
    {result : Int × PutLoop σ} (left : putPrologue env src path buffers outside = .leave result) :
    puppyHddFilePut env 0 src path buffers outside = .leave result := by
  rw [puppyHddFilePut, left]

/-- An upload does what it means. -/
theorem performs_put (positive : ∀ i, 0 < amount i) (short : path.length ≤ 65534)
    (scratch : Scratch) {globals : Globals (Link (Server δ))} (rest : AtRest state globals) :
    ∃ seen next, Performs (Link.env (fileServer disk amount) host) globals
        ⟨.put src path, scratch⟩ seen next ∧
      Agrees (Link.env (fileServer disk amount) host)
        (disk.serve host (.put src path) state).1 seen ∧
      AtRest (disk.serve host (.put src path) state).2 next := by
  obtain ⟨packet, reply, _, _⟩ := globals
  obtain ⟨rfl, calls, rfl⟩ := rest
  let buffers : Buffers := ⟨packet, reply, scratch.req⟩
  simp only [Disk.serve]
  by_cases empty : src.contents = []
  · rw [if_pos empty]
    have left := puppyHddFilePut_of_left src path
      (putPrologue_empty disk amount host src path empty buffers (line [] (resting state calls)))
    exact ⟨_, _, .put left, .put, rfl, calls, rfl⟩
  have prologue :=
    putPrologue_line disk amount host src path empty buffers (line [] (resting state calls))
  rw [if_neg empty]
  by_cases accepts : FileSendAccepts path
  · rw [if_neg (not_not.mpr accepts)]
    obtain ⟨sent, quiet, asked⟩ := sendCmdHddFileSend_line disk amount host
      (show Demand.ofPath (.hddFileSend PUT path) = some (.put path) from rfl) accepts
      scratch.req (resting state calls)
    obtain ⟨loop, again, stage, count, position, silent, outside⟩ :=
      putRequested_of_sent buffers (line [] (resting state calls)) sent quiet
    have entered := puppyHddFilePut_of_entered src path (prologue.trans again)
    rw [asked] at outside
    cases refused : disk.refuses path state with
    | some code =>
        have waiting : loop.outside =
            line [(Answer.failure code).message] (resting state calls) := by
          rw [outside]
          simp only [Server.attend, resting, refused]
          rfl
        obtain ⟨last, left, printed, idle⟩ := putBody_refused disk amount host src path waiting
        rw [silent, List.nil_append] at printed
        have returned := (entered 1).trans (run_succ_of_leave left 0)
        simp only
        rw [← printed]
        exact ⟨_, _, .put returned, .put, rfl, calls, idle⟩
    | none =>
        have waiting : loop.outside = line [Answer.success.message]
            { disk := state, phase := .receiving path File.blank, calls } := by
          rw [outside]
          simp only [Server.attend, resting, refused]
        obtain ⟨fuel, last, after, left, printed, idle⟩ :=
          leaves_of_inStep disk amount host src path state positive empty
            (.start calls stage count position waiting)
        rw [silent] at printed
        simp only
        rw [← printed]
        exact ⟨_, _, .put ((entered fuel).trans left), .put, rfl, after, idle⟩
  · rw [if_pos accepts]
    rw [sendCmdHddFileSend_of_tooLong short accepts] at prologue
    exact ⟨_, _, .put (puppyHddFilePut_of_left src path prologue), .put, rfl, calls, rfl⟩

end Call

end Puppy.Peer
