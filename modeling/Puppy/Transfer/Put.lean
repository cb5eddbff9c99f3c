import Puppy.Usb.Command

/-!
# Uploading a file

`puppy_hdd_file_put` of `libpuppy.c`: the request, then one packet for every
`SUCCESS` the device sends, through the states `START`, `DATA`, `END` and
`FINISHED`.  The loop state carries the global packet buffers, the position in
the source file, and a log of the packets handed to `send_tf_packet` and of the
results of `read`.  Progress output is not modelled.
-/

namespace Puppy.Transfer

open Transition
open Puppy.Wire Puppy.Usb Puppy.Time

universe u

variable {σ : Type u}

/-- The direction byte of `send_cmd_hdd_file_send`. -/
def PUT : UInt8 := 0
def GET : UInt8 := 1

/-- A regular file that does not change while it is read. -/
structure SourceFile where
  contents : List UInt8
  mtime : Int
  /-- File sizes are `off64_t`. -/
  size_lt : contents.length < 2 ^ 63

/-- The packet buffers when a transfer starts: the globals `packet` and
`reply`, and the stack memory of a request. -/
structure Buffers where
  packet : Memory UInt8
  reply : Memory UInt8
  req : Memory UInt8

/-- Buffers of zeros. -/
def zeroBuffers : Buffers := ⟨fun _ => 0, fun _ => 0, fun _ => 0⟩

/-- The path `"a"`. -/
def pathA : CString := .single 0x61 (by decide)

/-- The states of `puppy_hdd_file_put`. -/
inductive PutState where
  | start
  | data
  | fileEnd
  | finished
  deriving DecidableEq, Repr

/-- The variables of the upload loop and what it has done so far. -/
structure PutLoop (σ : Type u) where
  state : PutState
  byteCount : UInt64
  packet : Memory UInt8
  reply : Memory UInt8
  /-- The offset of the open source file. -/
  position : Nat
  outside : σ
  sends : List Sent
  /-- The results of `read`, with `-1` for an error. -/
  reads : List Int
  stderr : List Diagnostic

/-- Hand the global packet to `send_tf_packet`. -/
def PutLoop.send (env : Env σ) (packet : Memory UInt8) (loop : PutLoop σ) : PutLoop σ × Int :=
  let out := sendTfPacket env packet loop.outside
  ({ loop with
      packet := out.packet
      outside := out.state
      sends := loop.sends ++ [{ packet, ret := out.ret }] }, out.ret)

def PutLoop.print (messages : List Diagnostic) (loop : PutLoop σ) : PutLoop σ :=
  { loop with stderr := loop.stderr ++ messages }

/-- The loop variables once `get_tf_packet` has returned. -/
def PutLoop.accept (got : Received σ) (loop : PutLoop σ) : PutLoop σ :=
  { loop.print got.stderr with reply := got.packet, outside := got.state }

/-! ## The packets -/

/-- `strncpy(name, dstPath, 94)` and the terminator behind it. -/
def typefileName (dstPath : CString) : List UInt8 :=
  let copied := dstPath.bytes.take 94
  copied ++ List.replicate (94 - copied.length) 0 ++ [0]

/-- The `DATA_HDD_FILE_START` packet, written over the global packet.  The
`typefile` holds stamp, file type, size, name, an unused byte and attributes. -/
def startPacket (env : Env σ) (src : SourceFile) (dstPath : CString)
    (packet : Memory UInt8) : Memory UInt8 :=
  let packet := putU16 packet 0 (UInt16.ofNat (PACKET_HEAD_SIZE + 114))
  let packet := putU32 packet 4 DATA_HDD_FILE_START
  let packet := putTfDatetime packet dataOffset (timeToTfdt env.localtime src.mtime)
  let packet := Memory.store packet (dataOffset + 5) [2]
  let packet := putU64 packet (dataOffset + 6) (UInt64.ofNat src.contents.length)
  let packet := Memory.store packet (dataOffset + 14) (typefileName dstPath)
  let packet := Memory.store packet (dataOffset + 109) [0]
  Memory.store packet (dataOffset + 110) [0, 0, 0, 0]

/-- The `DATA_HDD_FILE_DATA` packet around `w` bytes that `read` has placed at
`packet.data[8]`. -/
def dataPacket (packet : Memory UInt8) (w : Int) (byteCount : UInt64) : Memory UInt8 :=
  let packet := putU16 packet 0 (UInt16.ofInt (PACKET_HEAD_SIZE + 8 + w))
  let packet := putU32 packet 4 DATA_HDD_FILE_DATA
  putU64 packet dataOffset byteCount

/-- The `DATA_HDD_FILE_END` packet. -/
def endPacket (packet : Memory UInt8) : Memory UInt8 :=
  putU32 (putU16 packet 0 (UInt16.ofNat PACKET_HEAD_SIZE)) 4 DATA_HDD_FILE_END

/-! ## The states -/

/-- `case START`: send the `typefile`. -/
def putStart (env : Env σ) (src : SourceFile) (dstPath : CString) (loop : PutLoop σ) :
    Pass (PutLoop σ) (Int × PutLoop σ) :=
  let (loop, r) := loop.send env (startPacket env src dstPath loop.packet)
  if r < 0 then .leave (negEPROTO, loop.print [.incompleteSend])
  else .again { loop with state := .data }

/-- `read(src, &packet.data[8], payloadSize)`: the result, and the loop with
the buffer filled and the file offset moved. -/
def readPayload (env : Env σ) (src : SourceFile) (payloadSize : Nat) (loop : PutLoop σ) :
    Int × PutLoop σ :=
  match env.read (min payloadSize (src.contents.length - loop.position)) loop.outside with
  | (none, outside) => (-1, { loop with outside, reads := loop.reads ++ [-1] })
  | (some n, outside) =>
      (n.val,
        { loop with
          packet := Memory.store loop.packet (dataOffset + 8)
            ((src.contents.drop loop.position).take n)
          position := loop.position + n
          outside
          reads := loop.reads ++ [(n.val : Int)] })

/-- The packets whose size on the wire the device cannot take. -/
def moduloBug (w : Int) : Prop :=
  w > 4 ∧ (roundUpEven (PACKET_HEAD_SIZE + 8 + w).toNat) % 0x200 = 0

instance (w : Int) : Decidable (moduloBug w) :=
  inferInstanceAs (Decidable (_ ∧ _))

/-- `case DATA`: send the next payload. -/
def putData (env : Env σ) (src : SourceFile) (loop : PutLoop σ) :
    Pass (PutLoop σ) (Int × PutLoop σ) :=
  let payloadSize := (MAXIMUM_PACKET_SIZE - PACKET_HEAD_SIZE) - 9
  let (w, loop) := readPayload env src payloadSize loop
  -- a packet that is a multiple of 512 bytes gives the last four bytes back
  let position := if moduloBug w then loop.position - 4 else loop.position
  let w := if moduloBug w then w - 4 else w
  let packet := dataPacket loop.packet w loop.byteCount
  let byteCount := loop.byteCount + UInt64.ofInt w
  let state :=
    if w < 0 ∨ byteCount ≥ UInt64.ofNat src.contents.length then .fileEnd else loop.state
  let loop := { loop with packet, position, byteCount, state }
  if w > 0 then
    let (loop, r) := loop.send env packet
    if r < w then .leave (negEPROTO, loop.print [.incompleteSend])
    else .again loop
  else .again loop

/-- `case END`: send the end marker. -/
def putEnd (env : Env σ) (loop : PutLoop σ) : Pass (PutLoop σ) (Int × PutLoop σ) :=
  let (loop, r) := loop.send env (endPacket loop.packet)
  if r < 0 then .leave (negEPROTO, loop.print [.incompleteSend])
  else .again { loop with state := .finished }

/-- `case SUCCESS` -/
def putSuccess (env : Env σ) (src : SourceFile) (dstPath : CString) (loop : PutLoop σ) :
    Pass (PutLoop σ) (Int × PutLoop σ) :=
  match loop.state with
  | .start => putStart env src dstPath loop
  | .data => putData env src loop
  | .fileEnd => putEnd env loop
  | .finished => .leave (0, loop)

/-- One pass of the loop: receive a reply and act on it. -/
def putBody (env : Env σ) (src : SourceFile) (dstPath : CString) :
    Body (PutLoop σ) (Int × PutLoop σ) := fun loop =>
  let got := getTfPacket env loop.reply loop.outside
  let loop := loop.accept got
  if 0 < got.ret then
    let cmd := packetCmd loop.reply
    if cmd = SUCCESS then putSuccess env src dstPath loop
    else if cmd = FAIL then
      .leave (negEPROTO, loop.print [.deviceReports (decodeError loop.reply)])
    else .again (loop.print [.unhandledPacket none])
  else .leave (negEPROTO, loop)

/-- The loop state before anything was sent. -/
def putInitial (buffers : Buffers) (outside : σ) : PutLoop σ where
  state := .start
  byteCount := 0
  packet := buffers.packet
  reply := buffers.reply
  position := 0
  outside
  sends := []
  reads := []
  stderr := []

/-- Behind `send_cmd_hdd_file_send`: enter the loop or go to `out:`. -/
def PutLoop.requested (request : Requested σ) (loop : PutLoop σ) :
    Pass (PutLoop σ) (Int × PutLoop σ) :=
  let loop :=
    { loop.print request.stderr with
      outside := request.state
      sends := loop.sends ++ request.sends }
  if request.ret < 0 then .leave (negEPROTO, loop) else .again loop

/-- The part of `puppy_hdd_file_put` before its loop: `again` when the loop is
entered. -/
def putPrologue (env : Env σ) (src : SourceFile) (dstPath : CString) (buffers : Buffers)
    (outside : σ) : Pass (PutLoop σ) (Int × PutLoop σ) :=
  match env.open64 outside with
  | (some errno, outside) =>
      .leave (errno.val, (putInitial buffers outside).print [.canNotOpenSource errno.val])
  | (none, outside) =>
    match env.fstat64 outside with
    | (some errno, outside) =>
        .leave (errno.val, (putInitial buffers outside).print [.canNotExamineSource errno.val])
    | (none, outside) =>
        let fileSize := UInt64.ofNat src.contents.length
        if fileSize = 0 then
          .leave (negENODATA, (putInitial buffers outside).print [.sourceEmpty])
        else
          (putInitial buffers outside).requested
            (sendCmdHddFileSend env buffers.req PUT dstPath outside)

/-- `puppy_hdd_file_put`, for at most `fuel` passes of its loop: `again` when
the loop is still going, `leave` with the returned value otherwise. -/
def puppyHddFilePut (env : Env σ) (fuel : Nat) (src : SourceFile) (dstPath : CString)
    (buffers : Buffers) (outside : σ) : Pass (PutLoop σ) (Int × PutLoop σ) :=
  match putPrologue env src dstPath buffers outside with
  | .again loop => run (putBody env src dstPath) fuel loop
  | .leave result => .leave result

end Puppy.Transfer
