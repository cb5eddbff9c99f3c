import Puppy.Transfer.GetContent
import Puppy.Transfer.GetTool

/-!
# What is handed to `write`

The size of a payload is a difference kept in a `__u16`.  Both download loops
are run in surroundings that keep a record of the buffers handed to `write`:
a data packet hands over as many bytes as it declares behind its offset exactly
when it declares the offset at all.
-/

namespace Puppy.Transfer

open Transition
open Puppy.Wire Puppy.Usb

universe u

variable {σ : Type u}

/-- Surroundings that also keep the buffers handed to `write`. -/
def recordWrites (env : Env σ) : Env (σ × List (List UInt8)) where
  bulkOut chunk state := ((env.bulkOut chunk state.1).1, (env.bulkOut chunk state.1).2, state.2)
  bulkIn len state := ((env.bulkIn len state.1).1, (env.bulkIn len state.1).2, state.2)
  open64 state := ((env.open64 state.1).1, (env.open64 state.1).2, state.2)
  fstat64 state := ((env.fstat64 state.1).1, (env.fstat64 state.1).2, state.2)
  read count state := ((env.read count state.1).1, (env.read count state.1).2, state.2)
  write bytes state :=
    ((env.write bytes state.1).1, (env.write bytes state.1).2, state.2 ++ [bytes])
  localtime := env.localtime
  mktime := env.mktime
  ignoreCrc := env.ignoreCrc

/-! ## Calls that do not write -/

section Kept

variable (env : Env σ) {record : List (List UInt8)}

private theorem bulkWriteBody_kept (bytes : List UInt8) (loop : BulkOut (σ × List (List UInt8)))
    (kept : loop.state.2 = record) :
    (bulkWriteBody (recordWrites env) bytes loop).Holds (fun next => next.state.2 = record)
      (fun last => last.state.2 = record) := by
  simp only [bulkWriteBody]
  split
  · rename_i answered
    have same := congrArg (fun out => out.2.2) answered
    exact same.symm.trans kept
  · rename_i answered
    have same := congrArg (fun out => out.2.2) answered
    split <;> exact same.symm.trans kept

private theorem bulkReadBody_kept (size : Nat) (loop : BulkIn (σ × List (List UInt8)))
    (kept : loop.state.2 = record) :
    (bulkReadBody (recordWrites env) size loop).Holds (fun next => next.state.2 = record)
      (fun last => last.state.2 = record) := by
  simp only [bulkReadBody]
  split
  · rename_i answered
    have same := congrArg (fun out => out.2.2) answered
    exact same.symm.trans kept
  · rename_i answered
    have same := congrArg (fun out => out.2.2) answered
    split <;> exact same.symm.trans kept

theorem usbBulkWrite_kept (bytes : List UInt8) {state : σ × List (List UInt8)}
    (kept : state.2 = record) :
    (usbBulkWrite (recordWrites env) bytes state).state.2 = record := by
  have outcome : (run (bulkWriteBody (recordWrites env) bytes) (bytes.length + 1)
      { sent := 0, state }).Holds (fun next => next.state.2 = record)
        (fun last => last.state.2 = record) :=
    run_holds (bulkWriteBody_kept env bytes) _ kept
  rw [usbBulkWrite]
  cases final : run (bulkWriteBody (recordWrites env) bytes) (bytes.length + 1)
      { sent := 0, state } with
  | again loop | leave loop =>
      rw [final] at outcome
      exact outcome

theorem usbBulkRead_kept (buffer : Memory UInt8) (size : Nat) {state : σ × List (List UInt8)}
    (kept : state.2 = record) :
    (usbBulkRead (recordWrites env) buffer size state).state.2 = record := by
  have outcome : (run (bulkReadBody (recordWrites env) size) (size + 1)
      { retrieved := 0, buffer, state }).Holds (fun next => next.state.2 = record)
        (fun last => last.state.2 = record) :=
    run_holds (bulkReadBody_kept env size) _ kept
  rw [usbBulkRead]
  cases final : run (bulkReadBody (recordWrites env) size) (size + 1)
      { retrieved := 0, buffer, state } with
  | again loop | leave loop =>
      rw [final] at outcome
      exact outcome

theorem getTfPacket_kept (buffer : Memory UInt8) {state : σ × List (List UInt8)}
    (kept : state.2 = record) :
    (getTfPacket (recordWrites env) buffer state).state.2 = record := by
  have read := usbBulkRead_kept env buffer MAXIMUM_PACKET_SIZE kept
  rw [getTfPacket, acceptPacket]
  generalize usbBulkRead (recordWrites env) buffer MAXIMUM_PACKET_SIZE state = input at read
  simp only
  split
  · exact read
  · split
    · exact read
    · split
      all_goals
        simp only
        split
        · exact usbBulkWrite_kept env successPacket read
        · exact read

end Kept

/-! ## Data packets -/

/-- A data packet hands its payload to `write`, and nothing else is written in
its turn. -/
theorem getData_recordWrites (env : Env σ) (r : Int) (turn : Turn (σ × List (List UInt8)))
    (inData : turn.loop.state = .data) :
    (getData (recordWrites env) r turn).loop.outside.2 =
      turn.loop.outside.2 ++
        [Memory.load turn.loop.reply (dataOffset + 8) (dataLen turn.loop.reply).toNat] := by
  have written (turn : Turn (σ × List (List UInt8))) :
      (writePayload (recordWrites env) turn).2.loop.outside.2 =
        turn.loop.outside.2 ++
          [Memory.load turn.loop.reply (dataOffset + 8) (dataLen turn.loop.reply).toNat] := by
    rw [writePayload]
    split
    · rename_i answered
      have same := congrArg (fun out => out.2.2) answered
      exact same.symm
    · rename_i answered
      have same := congrArg (fun out => out.2.2) answered
      exact same.symm
  rw [getData, inData]
  simp only
  generalize shown : (if r < (packetLength turn.loop.reply).toNat then
    turn.print [.shortPacket r (packetLength turn.loop.reply)] else turn) = printed
  have unchanged : printed.loop.reply = turn.loop.reply ∧
      printed.loop.outside = turn.loop.outside := by
    rw [← shown]
    split <;> exact ⟨rfl, rfl⟩
  have record := written printed
  rw [unchanged.1, unchanged.2] at record
  split
  · exact usbBulkWrite_kept env cancelPacket record
  · exact record

/-- A turn of `puppy_hdd_file_get` for an accepted data packet. -/
theorem getBody_of_data {env : Env σ} {loop : GetLoop σ}
    (accepted : 0 < (received env loop).exchange.ret)
    (data : packetCmd (received env loop).loop.reply = DATA_HDD_FILE_DATA) :
    getBody env loop =
      .again (getData env (received env loop).exchange.ret (received env loop)).close := by
  have other : packetCmd (received env loop).loop.reply ≠ DATA_HDD_FILE_START := by
    rw [data]
    decide
  exact (if_pos accepted).trans ((if_neg other).trans (if_pos data))

/-- A turn of `do_hdd_file_get` for an accepted data packet. -/
theorem getBodyTool_of_data {env : Env σ} {loop : GetLoop σ}
    (accepted : 0 < (received env loop).exchange.ret)
    (data : packetCmd (received env loop).loop.reply = DATA_HDD_FILE_DATA) :
    getBodyTool env loop =
      .again (getData env (received env loop).exchange.ret (received env loop)).close := by
  have other : packetCmd (received env loop).loop.reply ≠ DATA_HDD_FILE_START := by
    rw [data]
    decide
  exact (if_pos accepted).trans ((if_neg other).trans (if_pos data))

/-- A pass goes round again and hands one buffer to `write`: at most as many
bytes as the packet declares behind its header and offset, all of them from
`reply.data`. -/
def HandsPayload (body : Body (GetLoop (σ × List (List UInt8)))
    (Int × GetLoop (σ × List (List UInt8)))) (loop : GetLoop (σ × List (List UInt8)))
    (packet : Memory UInt8) : Prop :=
  ∃ next bytes, body loop = .again next ∧
    next.outside.2 = loop.outside.2 ++ [bytes] ∧
    bytes = Memory.load packet (dataOffset + 8) bytes.length ∧
    bytes.length ≤ (packetLength packet).toNat - 16 ∧
    dataOffset + 8 + bytes.length ≤ MAXIMUM_PACKET_SIZE

/-- The `__u16` difference is small and in range exactly when it does not wrap. -/
theorem dataLen_le_iff {packet : Memory UInt8}
    (header : PACKET_HEAD_SIZE ≤ (packetLength packet).toNat) :
    ((dataLen packet).toNat ≤ (packetLength packet).toNat - 16 ∧
        dataOffset + 8 + (dataLen packet).toNat ≤ MAXIMUM_PACKET_SIZE) ↔
      16 ≤ (packetLength packet).toNat := by
  have bound := (packetLength packet).toNat_lt
  have size : (dataLen packet).toNat =
      (2 ^ 16 - 16 + (packetLength packet).toNat) % 2 ^ 16 := UInt16.toNat_sub _ _
  unfold MAXIMUM_PACKET_SIZE dataOffset
  unfold PACKET_HEAD_SIZE at header
  constructor
  · rintro ⟨atMost, _⟩
    omega
  · intro declared
    omega

/-- A body that acts on a data packet as both download loops do. -/
private theorem handsPayload_of_data {env : Env σ} {loop : GetLoop (σ × List (List UInt8))}
    {body : Body (GetLoop (σ × List (List UInt8))) (Int × GetLoop (σ × List (List UInt8)))}
    (inData : loop.state = .data)
    (accepted : 0 < (getTfPacket (recordWrites env) loop.reply loop.outside).ret)
    (pass : body loop = .again (getData (recordWrites env)
      (received (recordWrites env) loop).exchange.ret (received (recordWrites env) loop)).close) :
    HandsPayload body loop (getTfPacket (recordWrites env) loop.reply loop.outside).packet ↔
      16 ≤ (packetLength
        (getTfPacket (recordWrites env) loop.reply loop.outside).packet).toNat := by
  have header := (getTfPacket_of_pos accepted).1
  have record := getData_recordWrites env (received (recordWrites env) loop).exchange.ret
    (received (recordWrites env) loop) inData
  have before : (received (recordWrites env) loop).loop.outside.2 = loop.outside.2 :=
    getTfPacket_kept env loop.reply rfl
  rw [before] at record
  rw [← dataLen_le_iff header]
  constructor
  · rintro ⟨next, bytes, again, handed, _, atMost, inside⟩
    rw [pass] at again
    cases again
    have same := List.append_cancel_left (record.symm.trans handed)
    have length := congrArg List.length (List.cons.inj same).1
    rw [Memory.load_length] at length
    rw [← length] at atMost inside
    exact ⟨atMost, inside⟩
  · rintro ⟨atMost, inside⟩
    refine ⟨_, _, pass, record, ?_, ?_, ?_⟩
    · rw [Memory.load_length]
      rfl
    · rw [Memory.load_length]
      exact atMost
    · rw [Memory.load_length]
      exact inside

/-- Both download loops hand `write` no more than a data packet declares,
exactly when the packet declares its header and its offset. -/
theorem handsPayload_iff (env : Env σ) {loop : GetLoop (σ × List (List UInt8))}
    (inData : loop.state = .data)
    (accepted : 0 < (getTfPacket (recordWrites env) loop.reply loop.outside).ret)
    (data : packetCmd (getTfPacket (recordWrites env) loop.reply loop.outside).packet =
      DATA_HDD_FILE_DATA) :
    let packet := (getTfPacket (recordWrites env) loop.reply loop.outside).packet
    (HandsPayload (getBody (recordWrites env)) loop packet ↔
        16 ≤ (packetLength packet).toNat) ∧
      (HandsPayload (getBodyTool (recordWrites env)) loop packet ↔
        16 ≤ (packetLength packet).toNat) := by
  constructor
  · exact handsPayload_of_data inData accepted (getBody_of_data accepted data)
  · exact handsPayload_of_data inData accepted (getBodyTool_of_data accepted data)

/-- A loop in state `DATA` with one message to receive. -/
def dataLoop (message : List UInt8) : GetLoop (Link Unit × List (List UInt8)) :=
  { getInitial zeroBuffers
      ({ pending := [], queue := [message], device := () }, []) with state := .data }

theorem handsPayload_iff_dataLoop :
    let loop := dataLoop
      [0x12, 0x00, 0x00, 0x00, 0x00, 0x00, 0x0a, 0x10, 0x00, 0x00, 0x00, 0x00, 0x00, 0x00, 0x00,
        0x00, 0x62, 0x61]
    let packet := (getTfPacket (recordWrites Link.muteEnv) loop.reply loop.outside).packet
    (HandsPayload (getBody (recordWrites Link.muteEnv)) loop packet ↔
        16 ≤ (packetLength packet).toNat) ∧
      (HandsPayload (getBodyTool (recordWrites Link.muteEnv)) loop packet ↔
        16 ≤ (packetLength packet).toNat) :=
  handsPayload_iff Link.muteEnv rfl (by decide +kernel) (by decide +kernel)

/-- A data packet that is only a header makes the size wrap. -/
theorem not_handsPayload_headerOnly :
    ¬ ∀ loop : GetLoop (Link Unit × List (List UInt8)), loop.state = .data →
      0 < (getTfPacket (recordWrites Link.muteEnv) loop.reply loop.outside).ret →
      packetCmd (getTfPacket (recordWrites Link.muteEnv) loop.reply loop.outside).packet =
        DATA_HDD_FILE_DATA →
      HandsPayload (getBody (recordWrites Link.muteEnv)) loop
        (getTfPacket (recordWrites Link.muteEnv) loop.reply loop.outside).packet := by
  intro always
  let loop := dataLoop [0x08, 0x00, 0x00, 0x00, 0x00, 0x00, 0x0a, 0x10]
  have accepted : 0 < (getTfPacket (recordWrites Link.muteEnv) loop.reply loop.outside).ret := by
    decide +kernel
  have data : packetCmd
      (getTfPacket (recordWrites Link.muteEnv) loop.reply loop.outside).packet =
      DATA_HDD_FILE_DATA := by
    decide +kernel
  have declared := (handsPayload_of_data rfl accepted (getBody_of_data accepted data)).mp
    (always loop rfl accepted data)
  exact absurd declared (by decide +kernel)

end Puppy.Transfer
