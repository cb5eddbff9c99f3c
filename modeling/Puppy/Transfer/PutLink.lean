import Puppy.Usb.Codec
import Puppy.Transfer.PutStream

/-!
# Uploading to a device that takes everything

Against a device that records every message and answers it with `SUCCESS`, an
upload of a file that is not empty ends, reports success, and the messages
recorded are the wire images of the packets handed over.
-/

namespace Puppy.Transfer

open Transition
open Puppy.Wire Puppy.Usb Puppy.Time

/-- What a recording device has seen. -/
structure Recorder where
  received : List (List UInt8)
  /-- How often the host has called `read`. -/
  calls : Nat

/-- A device that records every message and answers it with `SUCCESS`, on a host
whose `i`th `read` delivers at most `amount i` bytes. -/
def recorder (amount : Nat → Nat) : Device Recorder where
  respond message device :=
    ([successPacket], { device with received := device.received ++ [message] })
  read count device :=
    (some ⟨min (amount device.calls) count, Nat.lt_succ_of_le (Nat.min_le_right _ _)⟩,
      { device with calls := device.calls + 1 })

theorem taken_recorder (amount : Nat → Nat) (message : List UInt8) (link : Link Recorder) :
    link.taken (recorder amount) message =
      { pending := []
        queue := link.queue ++ [successPacket]
        device := { link.device with received := link.device.received ++ [message] } } :=
  rfl

/-- `success_packet` is the wire image of an empty `SUCCESS`. -/
theorem wireImage_success :
    wireImage (putU32 (putU16 (fun _ => 0) 0 8) 4 SUCCESS) = successPacket := by
  decide +kernel

variable {amount : Nat → Nat} {host : Host}

/-- The messages a list of packets becomes. -/
def images (sends : List Sent) : List (List UInt8) :=
  sends.map fun sent => wireImage sent.packet

/-- Everything handed over is recorded, and the queue is as given. -/
structure Recorded (queue : List (List UInt8)) (loop : PutLoop (Link Recorder)) : Prop where
  pending : loop.outside.pending = []
  queue : loop.outside.queue = queue
  received : loop.outside.device.received = images loop.sends
  noError : -1 ∉ loop.reads

/-- A packet handed over is recorded, taken in full and answered. -/
theorem Recorded.send {loop : PutLoop (Link Recorder)} (recorded : Recorded [] loop)
    (amount : Nat → Nat) (host : Host) (packet : Memory UInt8)
    (header : PACKET_HEAD_SIZE ≤ (packetLength packet).toNat) :
    Recorded [successPacket] (loop.send (Link.env (recorder amount) host) packet).1 ∧
      (loop.send (Link.env (recorder amount) host) packet).2 = byteCount packet := by
  have sent := sendTfPacket_link (recorder amount) host header recorded.pending
  simp only [PutLoop.send, sent, taken_recorder, and_true]
  refine ⟨rfl, ?_, ?_, recorded.noError⟩
  · rw [recorded.queue]
    rfl
  · simp only [images, List.map_append, List.map_cons, List.map_nil]
    rw [recorded.received]
    rfl

/-- A queued `SUCCESS` is received as one. -/
theorem getTfPacket_success (amount : Nat → Nat) (host : Host) {link : Link Recorder}
    (queued : link.queue = [successPacket])
    (buffer : Memory UInt8) :
    let got := getTfPacket (Link.env (recorder amount) host) buffer link
    0 < got.ret ∧ packetCmd got.packet = SUCCESS ∧ got.state = { link with queue := [] } := by
  let packet := putU32 (putU16 (fun _ => 0) 0 8) 4 SUCCESS
  have fields := header_putU32_putU16 (fun _ => 0) 8 SUCCESS
  have header : PACKET_HEAD_SIZE ≤ (packetLength packet).toNat := by
    rw [fields.1]
    decide
  have bound : (packetLength packet).toNat < MAXIMUM_PACKET_SIZE := by
    rw [fields.1]
    decide
  rw [← wireImage_success] at queued
  obtain ⟨ret, _, cmd, _, _, _, _, state⟩ := getTfPacket_of_delivers_wireImage packet header bound
    (delivers_link_single (recorder amount) host header bound queued) buffer
  rw [fields.2] at cmd state
  rw [if_neg (by decide)] at state
  refine ⟨?_, cmd, state⟩
  rw [ret, byteCount, fields.1]
  decide

/-- How far an upload is from its end. -/
def toGo (contents : List UInt8) (loop : PutLoop (Link Recorder)) : Nat :=
  match loop.state with
  | .start => contents.length + 3
  | .data => contents.length - loop.byteCount.toNat + 2
  | .fileEnd => 1
  | .finished => 0

/-- The queued `SUCCESS` is taken off the queue. -/
theorem Recorded.accept {loop : PutLoop (Link Recorder)}
    (recorded : Recorded [successPacket] loop) (amount : Nat → Nat) (host : Host) :
    let got := getTfPacket (Link.env (recorder amount) host) loop.reply loop.outside
    0 < got.ret ∧ packetCmd (loop.accept got).reply = SUCCESS ∧ Recorded [] (loop.accept got) := by
  obtain ⟨accepted, cmd, state⟩ := getTfPacket_success amount host recorded.queue loop.reply
  refine ⟨accepted, cmd, ?_⟩
  constructor <;> simp only [PutLoop.accept, PutLoop.print, state]
  · exact recorded.pending
  · exact recorded.received
  · exact recorded.noError

/-- `case DATA` against a recording device. -/
private theorem putData_recorder (positive : ∀ i, 0 < amount i) {src : SourceFile} {size : Nat}
    {loop : PutLoop (Link Recorder)} (recorded : Recorded [] loop) (state : loop.state = .data)
    (count : loop.byteCount.toNat = size) (position : loop.position = size)
    (unfinished : size < src.contents.length) :
    ∃ next, putData (Link.env (recorder amount) host) src loop = .again next ∧
      Recorded [successPacket] next ∧ toGo src.contents next < toGo src.contents loop := by
  let n := min (amount loop.outside.device.calls) (min 65518 (src.contents.length - loop.position))
  have some : 0 < n := by
    have := positive loop.outside.device.calls
    simp only [n]
    omega
  have le := trimmed_le n
  have nonzero : trimmed n ≠ 0 := Nat.ne_of_gt (trimmed_pos some)
  have inside : size + n ≤ src.contents.length := by
    simp only [n]
    omega
  let outside : Link Recorder :=
    { loop.outside with
      device := { loop.outside.device with calls := loop.outside.device.calls + 1 } }
  have arrived : (Link.env (recorder amount) host).read
      (min 65518 (src.contents.length - loop.position)) loop.outside =
      (Option.some ⟨n, Nat.lt_succ_of_le (Nat.min_le_right _ _)⟩, outside) := rfl
  have total : size + trimmed n ≤ src.contents.length := by omega
  obtain ⟨nextCount, nextState⟩ := filled_count outside count total state
  obtain ⟨payload, packet⟩ := filled_packet outside count position (by simp only [n]; omega)
    inside (trimmed_pos some)
  have filled : Recorded [] (loop.filled src n outside) := by
    refine ⟨recorded.pending, recorded.queue, recorded.received, ?_⟩
    show -1 ∉ loop.reads ++ [(n : Int)]
    simp only [List.mem_append, List.mem_singleton, not_or]
    exact ⟨recorded.noError, by omega⟩
  have header : PACKET_HEAD_SIZE ≤ (packetLength (loop.filled src n outside).packet).toNat := by
    rw [packet.length, PACKET_HEAD_SIZE]
    omega
  obtain ⟨sent, ret⟩ := filled.send amount host _ header
  rw [putData_of_read arrived]
  simp only
  rw [if_neg nonzero, if_neg]
  · refine ⟨_, rfl, sent, ?_⟩
    have sentState : ((loop.filled src n outside).send (Link.env (recorder amount) host)
        (loop.filled src n outside).packet).1.state = (loop.filled src n outside).state := rfl
    simp only [toGo, state, sentState, PutLoop.send_byteCount, nextCount, count]
    rw [nextState]
    by_cases last : size + trimmed n = src.contents.length
    · rw [if_pos last]
      simp only
      omega
    · rw [if_neg last]
      simp only
      omega
  · rw [ret, byteCount, packet.length, payload]
    have := le_roundUpEven (16 + trimmed n)
    omega

/-- One pass against a recording device: the upload is over, or it is attended
again and has come nearer to its end. -/
private theorem putBody_recorder (positive : ∀ i, 0 < amount i) (src : SourceFile)
    (dstPath : CString) {request : Sent} {loop : PutLoop (Link Recorder)}
    (invariant : PutInvariant src.contents request loop)
    (recorded : Recorded [successPacket] loop) :
    (∃ last, putBody (Link.env (recorder amount) host) src dstPath loop = .leave (0, last) ∧
      last.outside.device.received = images last.sends ∧ -1 ∉ last.reads) ∨
    ∃ next, putBody (Link.env (recorder amount) host) src dstPath loop = .again next ∧
      Recorded [successPacket] next ∧ toGo src.contents next < toGo src.contents loop := by
  obtain ⟨accepted, cmd, idle⟩ := recorded.accept amount host
  have pass : putBody (Link.env (recorder amount) host) src dstPath loop =
      putSuccess (Link.env (recorder amount) host) src dstPath
        (loop.accept (getTfPacket (Link.env (recorder amount) host) loop.reply loop.outside)) := by
    unfold putBody
    simp only
    rw [if_pos accepted, if_pos cmd]
  rw [pass]
  generalize getTfPacket (Link.env (recorder amount) host) loop.reply loop.outside = got at idle
  cases invariant with
  | start state sends count position noError =>
      have accState : (loop.accept got).state = .start := state
      have header := (startPacket_header (Link.env (recorder amount) host) src dstPath
        (loop.accept got).packet).1
      obtain ⟨sent, _⟩ := idle.send amount host
        (startPacket (Link.env (recorder amount) host) src dstPath (loop.accept got).packet)
        (by rw [header]; decide)
      rw [putSuccess, accState]
      simp only [putStart_eq]
      refine Or.inr ⟨_, rfl, ⟨sent.pending, sent.queue, sent.received, sent.noError⟩, ?_⟩
      simp only [toGo, state]
      omega
  | data first datas state sends handed count position unfinished noError =>
      have accState : (loop.accept got).state = .data := state
      rw [putSuccess, accState]
      exact Or.inr (putData_recorder positive idle accState count position unfinished)
  | fileEnd first datas state sends handed whole =>
      have accState : (loop.accept got).state = .fileEnd := state
      have header := (endPacket_header (loop.accept got).packet).1
      obtain ⟨sent, _⟩ := idle.send amount host (endPacket (loop.accept got).packet)
        (by rw [header]; decide)
      rw [putSuccess, accState]
      simp only [putEnd_eq]
      refine Or.inr ⟨_, rfl, ⟨sent.pending, sent.queue, sent.received, sent.noError⟩, ?_⟩
      simp only [toGo, state]
      omega
  | finished first datas finish state sends handed finishLength finishCmd whole =>
      have accState : (loop.accept got).state = .finished := state
      rw [putSuccess, accState]
      exact Or.inl ⟨_, rfl, idle.received, idle.noError⟩

/-- A link to a device that has recorded nothing. -/
def blankLink : Link Recorder := { pending := [], queue := [], device := ⟨[], 0⟩ }

/-- Behind a request that was recorded and answered. -/
private theorem requested_recorder (contents : List UInt8) (buffers : Buffers)
    {asked : Requested (Link Recorder)} {request : Sent} (sent : 0 ≤ asked.ret)
    (sends : asked.sends = [request]) (pending : asked.state.pending = [])
    (queue : asked.state.queue = [successPacket])
    (received : asked.state.device.received = [wireImage request.packet]) :
    ∃ loop, (putInitial buffers blankLink).requested asked = .again loop ∧
      PutInvariant contents request loop ∧ Recorded [successPacket] loop := by
  refine ⟨_, by rw [PutLoop.requested]; exact if_neg (Int.not_lt.mpr sent), ?_, ?_⟩
  · exact .start rfl sends rfl rfl List.not_mem_nil
  · refine ⟨pending, queue, ?_, List.not_mem_nil⟩
    simp only [putInitial, List.nil_append, sends]
    exact received

/-- The request of an upload is recorded and answered. -/
private theorem putPrologue_recorder (amount : Nat → Nat) (host : Host) {src : SourceFile}
    {dstPath : CString} (nonempty : src.contents ≠ []) (accepts : FileSendAccepts dstPath)
    (buffers : Buffers) :
    ∃ request loop, putPrologue (Link.env (recorder amount) host) src dstPath buffers blankLink =
        .again loop ∧
      packetCmd request.packet = CMD_HDD_FILE_SEND ∧
      PutInvariant src.contents request loop ∧ Recorded [successPacket] loop := by
  let packet := hddFileSendPacket buffers.req PUT dstPath
  have header : PACKET_HEAD_SIZE ≤ (packetLength packet).toNat :=
    (bounds_hddFileSendPacket_of_accepts accepts buffers.req PUT).1
  have bytes : UInt64.ofNat src.contents.length ≠ 0 := by
    intro none
    have size := congrArg UInt64.toNat none
    have bound := src.size_lt
    rw [UInt64.toNat_ofNat', Nat.mod_eq_of_lt (by omega)] at size
    exact nonempty (List.eq_nil_of_length_eq_zero size)
  have result := sendCmdHddFileSend_of_accepts accepts (Link.env (recorder amount) host)
    buffers.req PUT blankLink
  rw [sendTfPacket_link (recorder amount) host header rfl, taken_recorder] at result
  have entered : putPrologue (Link.env (recorder amount) host) src dstPath buffers blankLink =
      (putInitial buffers blankLink).requested
        (sendCmdHddFileSend (Link.env (recorder amount) host) buffers.req PUT dstPath
          blankLink) := by
    have opened : (Link.env (recorder amount) host).open64 blankLink = (none, blankLink) := rfl
    have examined : (Link.env (recorder amount) host).fstat64 blankLink = (none, blankLink) := rfl
    unfold putPrologue
    rw [opened]
    simp only
    rw [examined]
    simp only
    rw [if_neg bytes]
  rw [entered]
  generalize sendCmdHddFileSend (Link.env (recorder amount) host) buffers.req PUT dstPath
    blankLink = asked at result
  let request : Sent := { packet, ret := byteCount packet }
  obtain ⟨loop, again, initial, recorded⟩ := requested_recorder src.contents buffers
    (show 0 ≤ asked.ret by rw [result]; exact Int.natCast_nonneg _)
    (show asked.sends = [request] by rw [result])
    (show asked.state.pending = [] by rw [result])
    (show asked.state.queue = [successPacket] by rw [result]; rfl)
    (show asked.state.device.received = [wireImage packet] by rw [result]; rfl)
  exact ⟨request, loop, again, (fields_hddFileSendPacket _ _ _).2, initial, recorded⟩

/-- An upload to a recording device ends with success, and the device has
recorded a request, a `typefile`, data packets with the whole file and an end
marker. -/
theorem puppyHddFilePut_recorder {amount : Nat → Nat} (positive : ∀ i, 0 < amount i)
    (host : Host) {src : SourceFile} {dstPath : CString} (nonempty : src.contents ≠ [])
    (accepts : FileSendAccepts dstPath) (buffers : Buffers) :
    ∃ fuel last request first datas finish,
      puppyHddFilePut (Link.env (recorder amount) host) fuel src dstPath buffers blankLink =
          .leave (0, last) ∧
        last.outside.device.received =
          wireImage request :: images (first :: datas ++ [finish]) ∧
        Handed src.contents first datas ∧
        streamBytes datas = src.contents ∧
        (packetLength finish.packet).toNat = 8 ∧
        packetCmd finish.packet = DATA_HDD_FILE_END := by
  obtain ⟨request, loop, entered, requestCmd, initial, recorded⟩ :=
    putPrologue_recorder amount host nonempty accepts buffers
  have progress : ∀ loop : PutLoop (Link Recorder),
      PutInvariant src.contents request loop ∧ Recorded [successPacket] loop →
      (∃ result, putBody (Link.env (recorder amount) host) src dstPath loop = .leave result ∧
        result.1 = 0 ∧ PutExit src.contents request result ∧
        result.2.outside.device.received = images result.2.sends ∧ -1 ∉ result.2.reads) ∨
      ∃ next, putBody (Link.env (recorder amount) host) src dstPath loop = .again next ∧
        (PutInvariant src.contents request next ∧ Recorded [successPacket] next) ∧
        toGo src.contents next < toGo src.contents loop := by
    rintro loop ⟨invariant, recorded⟩
    have outcome := putBody_outcome (Link.env (recorder amount) host) src dstPath nonempty
      requestCmd invariant
    rcases putBody_recorder positive src dstPath invariant recorded with
      ⟨last, left, received, noError⟩ | ⟨next, pass, recorded, smaller⟩
    · rw [left] at outcome
      exact Or.inl ⟨_, left, rfl, outcome, received, noError⟩
    · rw [pass] at outcome
      exact Or.inr ⟨next, pass, ⟨outcome, recorded⟩, smaller⟩
  obtain ⟨fuel, ⟨value, last⟩, _, left, success, exit, received, noError⟩ :=
    run_leaves_of_measure _ _ _ (toGo src.contents) progress ⟨initial, recorded⟩
  simp only at success received noError
  subst success
  obtain ⟨invariant, finished⟩ := exit.2 rfl
  simp only at invariant finished
  cases invariant with
  | start state => rw [finished] at state; contradiction
  | data _ _ state => rw [finished] at state; contradiction
  | fileEnd _ _ state => rw [finished] at state; contradiction
  | finished first datas finish _ sends handed finishLength finishCmd whole =>
      refine ⟨fuel, last, request.packet, first, datas, finish, ?_, ?_, handed, ?_, finishLength,
        finishCmd⟩
      · rw [puppyHddFilePut, entered]
        exact left
      · rw [received, sends]
        rfl
      · exact handed.stream.bytes_eq_iff.mpr (whole.mpr noError)

end Puppy.Transfer
