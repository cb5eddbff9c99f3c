import Puppy.Transfer.PutLink
import Puppy.Transfer.PutComplete
import Puppy.Transfer.GetContent

/-!
# Upload, then download

A device that plays messages back, one for the request and one for every
`SUCCESS`.  Played back what an upload left with a recording device, a download
ends with success and writes the file that was uploaded.
-/

namespace Puppy.Transfer

open Transition
open Puppy.Wire Puppy.Usb Puppy.Time

/-- The command of a message. -/
def messageCmd (message : List UInt8) : UInt32 :=
  packetCmd (swapInPacket (Memory.store (fun _ => 0) 0 message))

/-- A device that plays back a list of messages: the next one after a download
request and after every `SUCCESS`. -/
def player : Device (List (List UInt8)) where
  respond message script :=
    if messageCmd message = SUCCESS ∨ messageCmd message = CMD_HDD_FILE_SEND then
      (script.take 1, script.drop 1)
    else ([], script)
  read _ script := (none, script)

/-- A link to `player` over which `messages` are still to come, the first of
them queued. -/
structure Playing (messages : List (List UInt8)) (link : Link (List (List UInt8))) : Prop where
  pending : link.pending = []
  queue : link.queue = messages.take 1
  device : link.device = messages.drop 1

theorem messageCmd_successPacket : messageCmd successPacket = SUCCESS := by
  decide +kernel

theorem messageCmd_wireImage {packet : Memory UInt8}
    (header : PACKET_HEAD_SIZE ≤ (packetLength packet).toNat)
    (bound : (packetLength packet).toNat < MAXIMUM_PACKET_SIZE) :
    messageCmd (wireImage packet) = packetCmd packet :=
  packetCmd_swapInPacket_wireImage header bound _

/-- A message the player reacts to brings the next message of the script. -/
theorem playing_taken {message : List UInt8}
    (asks : messageCmd message = SUCCESS ∨ messageCmd message = CMD_HDD_FILE_SEND)
    {link : Link (List (List UInt8))} (queue : link.queue = []) :
    Playing link.device (link.taken player message) := by
  have respond : player.respond message link.device =
      (link.device.take 1, link.device.drop 1) := if_pos asks
  rw [Link.taken, respond, queue]
  exact ⟨rfl, rfl, rfl⟩

/-- After a `SUCCESS` the next message is queued. -/
theorem playing_sendSuccess (host : Host) {messages : List (List UInt8)}
    {link : Link (List (List UInt8))} (pending : link.pending = []) (queue : link.queue = [])
    (device : link.device = messages) :
    Playing messages (sendSuccess (Link.env player host) link).state := by
  rw [sendSuccess_link player host pending, ← device]
  exact playing_taken (Or.inl messageCmd_successPacket) queue

/-- The next message was received as the packet it was built from.  When it
carries file data it was acknowledged, and the message behind it is queued. -/
structure Played (packet : Memory UInt8) (messages : List (List UInt8))
    (got : Received (Link (List (List UInt8)))) : Prop where
  accepted : 0 < got.ret
  length : packetLength got.packet = packetLength packet
  cmd : packetCmd got.packet = packetCmd packet
  checked : packetCrc got.packet = getCrc got.packet
  payload : payload got.packet = payload packet
  acknowledged : packetCmd packet = DATA_HDD_FILE_DATA → Playing messages got.state
  silent : packetCmd packet ≠ DATA_HDD_FILE_DATA →
    got.state.pending = [] ∧ got.state.queue = [] ∧ got.state.device = messages

theorem getTfPacket_playing (host : Host) (packet : Memory UInt8)
    {messages : List (List UInt8)} {link : Link (List (List UInt8))}
    (playing : Playing (wireImage packet :: messages) link)
    (header : PACKET_HEAD_SIZE ≤ (packetLength packet).toNat)
    (bound : (packetLength packet).toNat < MAXIMUM_PACKET_SIZE) (buffer : Memory UInt8) :
    Played packet messages (getTfPacket (Link.env player host) buffer link) := by
  obtain ⟨ret, length, cmd, crc, check, _, bytes, state⟩ :=
    getTfPacket_of_delivers_wireImage packet header bound
      (delivers_link_single player host header bound playing.queue) buffer
  generalize getTfPacket (Link.env player host) buffer link = got at *
  have whole := le_roundUpEven (packetLength packet).toNat
  rw [PACKET_HEAD_SIZE] at header
  refine ⟨?_, length, cmd, crc.trans check.symm, ?_, fun data => ?_, fun other => ?_⟩
  · rw [ret, byteCount]
    omega
  · rw [payload, payload, payloadSize, length]
    apply Memory.load_congr
    intro address inside below
    rw [dataOffset] at inside below
    rw [bytes address, putU16_crc_apply _ _ (Or.inr (by omega))]
    rw [byteCount]
    rw [PACKET_HEAD_SIZE] at below
    omega
  · rw [state, if_pos data]
    exact playing_sendSuccess host playing.pending rfl playing.device
  · rw [state, if_neg other]
    exact ⟨playing.pending, rfl, playing.device⟩

/-! ## One message -/

/-- Every packet received so far has passed the check. -/
def Checked (log : List Exchange) : Prop :=
  ∀ exchange ∈ log, packetCrc exchange.packet = getCrc exchange.packet

/-- A turn has taken one message, added `bytes` to the destination and left
`messages` to come. -/
structure Takes (messages : List (List UInt8)) (bytes : List UInt8)
    (loop next : GetLoop (Link (List (List UInt8)))) : Prop where
  playing : Playing messages next.outside
  dst : next.dst = loop.dst ++ bytes
  checked : Checked loop.log → Checked next.log
  taken : next.log.length = loop.log.length + 1

theorem checked_concat {log : List Exchange} {exchange : Exchange}
    (here : packetCrc exchange.packet = getCrc exchange.packet) (before : Checked log) :
    Checked (log ++ [exchange]) := by
  intro visited member
  rcases List.mem_append.mp member with earlier | last
  · exact before visited earlier
  · rw [List.mem_singleton.mp last]
    exact here

section Turns

variable {packet : Memory UInt8} {messages : List (List UInt8)}
  {loop : GetLoop (Link (List (List UInt8)))}

/-- A start is answered with `SUCCESS`. -/
private theorem getBody_start (host : Host) (state : loop.state = .start)
    (playing : Playing (wireImage packet :: messages) loop.outside)
    (length : (packetLength packet).toNat = 122) (cmd : packetCmd packet = DATA_HDD_FILE_START) :
    ∃ next, getBody (Link.env player host) loop = .again next ∧ next.state = .data ∧
      Takes messages [] loop next := by
  have played := getTfPacket_playing host packet playing (by rw [length]; decide)
    (by rw [length]; decide) loop.reply
  unfold getBody
  simp only
  generalize getTfPacket (Link.env player host) loop.reply loop.outside = got at *
  obtain ⟨pending, queue, device⟩ := played.silent (by rw [cmd]; decide)
  rw [if_pos played.accepted, if_pos (by rw [played.cmd, cmd])]
  simp only [getStart, state]
  refine ⟨_, rfl, rfl, playing_sendSuccess host pending queue device, ?_, ?_, ?_⟩
  · exact (List.append_nil _).symm
  · exact checked_concat played.checked
  · exact List.length_append

/-- The payload of the packet has gone to the destination. -/
private structure Writes (turn next : Turn (Link (List (List UInt8)))) : Prop where
  state : next.loop.state = turn.loop.state
  outside : next.loop.outside = turn.loop.outside
  reply : next.loop.reply = turn.loop.reply
  dst : next.loop.dst = turn.loop.dst ++ payload turn.loop.reply
  log : next.loop.log = turn.loop.log
  packet : next.exchange.packet = turn.exchange.packet

/-- `write` takes the payload of the packet in full. -/
private theorem writePayload_whole (host : Host) (turn : Turn (Link (List (List UInt8))))
    (declared : 16 ≤ (packetLength turn.loop.reply).toNat) :
    (writePayload (Link.env player host) turn).1 = (dataLen turn.loop.reply).toNat ∧
      Writes turn (writePayload (Link.env player host) turn).2 := by
  have bytes : Memory.load turn.loop.reply (dataOffset + 8) (dataLen turn.loop.reply).toNat =
      payload turn.loop.reply := by
    rw [dataLen_toNat declared]
    rfl
  unfold writePayload
  rw [bytes]
  refine ⟨?_, rfl, rfl, rfl, ?_, rfl, rfl⟩
  · simp only [Link.env, payload_length, dataLen_toNat declared]
  · simp only [Link.env]
    rw [List.take_length]

/-- In the data phase a payload goes to the destination. -/
private theorem getData_whole (host : Host) (r : Int) {turn : Turn (Link (List (List UInt8)))}
    (state : turn.loop.state = .data) (declared : 16 ≤ (packetLength turn.loop.reply).toNat) :
    Writes turn (getData (Link.env player host) r turn) := by
  unfold getData
  simp only [state]
  by_cases short : r < (packetLength turn.loop.reply).toNat
  · obtain ⟨w, writes⟩ := writePayload_whole host
      (turn.print [.shortPacket r (packetLength turn.loop.reply)]) declared
    rw [if_pos short, if_neg (by rw [w, writes.reply]; exact Int.lt_irrefl _)]
    exact ⟨writes.state, writes.outside, writes.reply, writes.dst, writes.log, writes.packet⟩
  · obtain ⟨w, writes⟩ := writePayload_whole host turn declared
    rw [if_neg short, if_neg (by rw [w, writes.reply]; exact Int.lt_irrefl _)]
    exact writes

/-- A data packet is written in full. -/
private theorem getBody_data (host : Host) (state : loop.state = .data)
    (playing : Playing (wireImage packet :: messages) loop.outside)
    (declared : 16 ≤ (packetLength packet).toNat)
    (bound : (packetLength packet).toNat < MAXIMUM_PACKET_SIZE)
    (cmd : packetCmd packet = DATA_HDD_FILE_DATA) :
    ∃ next, getBody (Link.env player host) loop = .again next ∧ next.state = .data ∧
      Takes messages (payload packet) loop next := by
  have header : PACKET_HEAD_SIZE ≤ (packetLength packet).toNat :=
    Nat.le_trans (by decide) declared
  have played := getTfPacket_playing host packet playing header bound loop.reply
  unfold getBody
  simp only
  generalize getTfPacket (Link.env player host) loop.reply loop.outside = got at *
  rw [if_pos played.accepted, if_neg (by rw [played.cmd, cmd]; decide),
    if_pos (by rw [played.cmd, cmd])]
  rw [← played.length] at declared
  let turn : Turn (Link (List (List UInt8))) :=
    { loop :=
        { loop with
          reply := got.packet
          outside := got.state
          stderr := loop.stderr ++ got.stderr }
      exchange :=
        { ret := got.ret, packet := got.packet, early := got.replies, answers := []
          write := none } }
  have writes : Writes turn (getData (Link.env player host) got.ret turn) :=
    getData_whole host got.ret state declared
  refine ⟨_, rfl, writes.state.trans state, ?_, ?_, ?_, ?_⟩
  · exact writes.outside ▸ played.acknowledged cmd
  · rw [← played.payload]
    exact writes.dst
  · rw [Turn.close, writes.log]
    exact checked_concat (by rw [writes.packet]; exact played.checked)
  · rw [Turn.close, writes.log]
    exact List.length_append

/-- The end marker is answered with `SUCCESS` and ends the download. -/
private theorem getBody_end (host : Host)
    (playing : Playing [wireImage packet] loop.outside)
    (length : (packetLength packet).toNat = 8) (cmd : packetCmd packet = DATA_HDD_FILE_END) :
    ∃ last, getBody (Link.env player host) loop = .leave (0, last) ∧ Takes [] [] loop last := by
  have played := getTfPacket_playing host packet playing (by rw [length]; decide)
    (by rw [length]; decide) loop.reply
  unfold getBody
  simp only
  generalize getTfPacket (Link.env player host) loop.reply loop.outside = got at *
  obtain ⟨pending, queue, device⟩ := played.silent (by rw [cmd]; decide)
  rw [if_pos played.accepted, if_neg (by rw [played.cmd, cmd]; decide),
    if_neg (by rw [played.cmd, cmd]; decide), if_pos (by rw [played.cmd, cmd])]
  refine ⟨_, rfl, playing_sendSuccess host pending queue device, ?_, ?_, ?_⟩
  · exact (List.append_nil _).symm
  · exact checked_concat played.checked
  · exact List.length_append

end Turns

/-! ## All messages -/

/-- The data phase of a download that is played data packets and an end. -/
theorem run_getBody_playing (host : Host) {contents : List UInt8} {finish : Sent}
    (finishLength : (packetLength finish.packet).toNat = 8)
    (finishCmd : packetCmd finish.packet = DATA_HDD_FILE_END) (datas : List Sent) :
    ∀ loop : GetLoop (Link (List (List UInt8))), loop.state = .data →
      (∀ data ∈ datas, ∃ offset, DataPacket contents offset data.packet) →
      Playing (images (datas ++ [finish])) loop.outside →
      ∃ last, run (getBody (Link.env player host)) (datas.length + 1) loop = .leave (0, last) ∧
        last.dst = loop.dst ++ streamBytes datas ∧ (Checked loop.log → Checked last.log) ∧
        last.log.length = loop.log.length + datas.length + 1 := by
  induction datas with
  | nil =>
      intro loop _ _ playing
      obtain ⟨last, left, takes⟩ := getBody_end host playing finishLength finishCmd
      exact ⟨last, run_succ_of_leave left 0, takes.dst, takes.checked, takes.taken⟩
  | cons data datas ih =>
      intro loop state packets playing
      obtain ⟨offset, packet⟩ := packets data List.mem_cons_self
      have length := packet.length
      have bound := packet.bound
      obtain ⟨next, pass, state, takes⟩ := getBody_data host state playing (by omega)
        (by rw [MAXIMUM_PACKET_SIZE]; omega) packet.cmd
      obtain ⟨last, left, dst, checked, taken⟩ := ih next state
        (fun other member => packets other (List.mem_cons_of_mem _ member)) takes.playing
      refine ⟨last, ?_, ?_, fun before => checked (takes.checked before), ?_⟩
      · rw [List.length_cons, run_succ_of_again pass]
        exact left
      · rw [dst, takes.dst, List.append_assoc]
        rfl
      · rw [taken, takes.taken, List.length_cons]
        omega

/-- A link on which nothing has happened yet. -/
def freshLink (script : List (List UInt8)) : Link (List (List UInt8)) :=
  { pending := [], queue := [], device := script }

private theorem getPrologue_of_opened {σ : Type} {env : Env σ} {outside after : σ}
    (opened : env.open64 outside = (none, after)) (srcPath : CString) (buffers : Buffers) :
    getPrologue env srcPath buffers outside =
      (getInitial buffers after).requested
        (sendCmdHddFileSend env buffers.req GET srcPath after) := by
  unfold getPrologue
  rw [opened]

/-- Behind a request that was sent. -/
private theorem requested_playing (buffers : Buffers) {script : List (List UInt8)}
    {asked : Requested (Link (List (List UInt8)))} (sent : 0 ≤ asked.ret)
    (playing : Playing script asked.state) :
    ∃ loop, (getInitial buffers (freshLink script)).requested asked = .again loop ∧
      loop.state = .start ∧ loop.dst = [] ∧ loop.log = [] ∧ Playing script loop.outside := by
  refine ⟨_, by rw [GetLoop.requested]; exact if_neg (Int.not_lt.mpr sent), ?_⟩
  exact ⟨rfl, rfl, rfl, playing⟩

/-- The request of a download brings the first message. -/
private theorem getPrologue_playing (host : Host) {srcPath : CString}
    (accepts : FileSendAccepts srcPath) (buffers : Buffers) (script : List (List UInt8)) :
    ∃ loop, getPrologue (Link.env player host) srcPath buffers (freshLink script) =
        .again loop ∧
      loop.state = .start ∧ loop.dst = [] ∧ loop.log = [] ∧ Playing script loop.outside := by
  let packet := hddFileSendPacket buffers.req GET srcPath
  obtain ⟨header, bound⟩ := bounds_hddFileSendPacket_of_accepts accepts buffers.req GET
  have asks : messageCmd (wireImage packet) = CMD_HDD_FILE_SEND := by
    rw [messageCmd_wireImage header bound]
    exact (fields_hddFileSendPacket _ _ _).2
  have result := sendCmdHddFileSend_of_accepts accepts (Link.env player host) buffers.req GET
    (freshLink script)
  rw [sendTfPacket_link player host header rfl] at result
  have opened : (Link.env player host).open64 (freshLink script) = (none, freshLink script) :=
    rfl
  rw [getPrologue_of_opened opened]
  generalize sendCmdHddFileSend (Link.env player host) buffers.req GET srcPath
    (freshLink script) = asked at result
  have sent : 0 ≤ asked.ret := by
    rw [result]
    exact Int.natCast_nonneg _
  have playing : Playing script asked.state := by
    have queue : (freshLink script).queue = [] := rfl
    rw [result]
    exact playing_taken (Or.inr asks) queue
  exact requested_playing buffers sent playing

/-- A download that is played a start, data packets and an end. -/
theorem puppyHddFileGet_playing (host : Host) {contents : List UInt8} {first finish : Sent}
    {datas : List Sent} (handed : Handed contents first datas)
    (finishLength : (packetLength finish.packet).toNat = 8)
    (finishCmd : packetCmd finish.packet = DATA_HDD_FILE_END) {srcPath : CString}
    (accepts : FileSendAccepts srcPath) (buffers : Buffers) :
    ∃ fuel last,
      puppyHddFileGet (Link.env player host) fuel srcPath buffers
          (freshLink (images (first :: datas ++ [finish]))) = .leave (0, last) ∧
        last.dst = streamBytes datas ∧ Checked last.log ∧
        last.log.length = (images (first :: datas ++ [finish])).length := by
  obtain ⟨loop, entered, state, dst, log, playing⟩ :=
    getPrologue_playing host accepts buffers (images (first :: datas ++ [finish]))
  obtain ⟨next, pass, nextState, takes⟩ :=
    getBody_start host state playing handed.startLength handed.startCmd
  obtain ⟨last, left, lastDst, checked, taken⟩ := run_getBody_playing host finishLength finishCmd
    datas next nextState (fun data member => handed.stream.mem member) takes.playing
  refine ⟨datas.length + 1 + 1, last, ?_, ?_, ?_, ?_⟩
  · rw [puppyHddFileGet, entered]
    simp only
    rw [run_succ_of_again pass]
    exact left
  · rw [lastDst, takes.dst, dst]
    rfl
  · apply checked
    apply takes.checked
    rw [log]
    intro exchange member
    cases member
  · rw [taken, takes.taken, log]
    simp only [images, List.length_map, List.length_append, List.length_cons, List.length_nil]
    omega

/-- Upload, then download: for every file that is not empty, every way `read`
cuts it, every path that fits, and every old buffer content, the upload to a
device that takes everything returns `0`; played back the messages behind the
request, the download returns `0`, writes the file, and every message passes
the receiver's check. -/
theorem puppyHddFileGet_puppyHddFilePut {amount : Nat → Nat} (positive : ∀ i, 0 < amount i)
    (host other : Host) {src : SourceFile} (nonempty : src.contents ≠ [])
    {dstPath srcPath : CString}
    (acceptsDst : FileSendAccepts dstPath) (acceptsSrc : FileSendAccepts srcPath)
    (buffers others : Buffers) :
    ∃ fuel sent,
      puppyHddFilePut (Link.env (recorder amount) host) fuel src dstPath buffers blankLink =
          .leave (0, sent) ∧
      ∃ fuel received,
        puppyHddFileGet (Link.env player other) fuel srcPath others
            (freshLink sent.outside.device.received.tail) = .leave (0, received) ∧
          received.dst = src.contents ∧
          Checked received.log ∧
          received.log.length = sent.outside.device.received.tail.length := by
  obtain ⟨fuel, sent, request, first, datas, finish, left, recorded, handed, whole, finishLength,
    finishCmd⟩ := puppyHddFilePut_recorder positive host nonempty acceptsDst buffers
  refine ⟨fuel, sent, left, ?_⟩
  rw [recorded, List.tail_cons, ← whole]
  exact puppyHddFileGet_playing other handed finishLength finishCmd acceptsSrc others

/-- Packets of one byte and of two and two are put together again. -/
theorem puppyHddFileGet_puppyHddFilePut_fiveBytes :
    ∃ fuel sent,
      puppyHddFilePut (Link.env (recorder fun i => i + 1) Host.epoch) fuel fiveBytes pathA
          zeroBuffers blankLink = .leave (0, sent) ∧
      ∃ fuel received,
        puppyHddFileGet (Link.env player Host.epoch) fuel pathA zeroBuffers
            (freshLink sent.outside.device.received.tail) = .leave (0, received) ∧
          received.dst = fiveBytes.contents ∧
          Checked received.log ∧
          received.log.length = sent.outside.device.received.tail.length :=
  puppyHddFileGet_puppyHddFilePut (fun i => Nat.succ_pos i) Host.epoch Host.epoch (by decide)
    (by decide) (by decide) zeroBuffers zeroBuffers

end Puppy.Transfer
