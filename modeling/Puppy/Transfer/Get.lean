import Puppy.Transfer.Put

/-!
# Downloading a file

`puppy_hdd_file_get` of `libpuppy.c`: the request, then one turn for every
packet, through the states `START`, `DATA` and `ABORT`.  The loop state carries
the global reply buffer, the bytes of the destination file, and a log of the
calls of `get_tf_packet` with what was sent and written on each.  Progress
output and the byte counter that only feeds it are not modelled.
-/

namespace Puppy.Transfer

open Transition
open Puppy.Wire Puppy.Usb Puppy.Time

universe u

variable {σ : Type u}

/-- The states of `puppy_hdd_file_get`. -/
inductive GetState where
  | start
  | data
  | abort
  deriving DecidableEq, Repr

/-- The number an error message shows for a state. -/
def GetState.number : GetState → Nat
  | .start => 0
  | .data => 1
  | .abort => 2

/-- One call of `get_tf_packet` and the turn behind it. -/
structure Exchange where
  ret : Int
  packet : Memory UInt8
  /-- What `get_tf_packet` itself sent. -/
  early : List Reply
  /-- What the state machine sent. -/
  answers : List Reply
  /-- The result of `write`, where it was called. -/
  write : Option Int

/-- The variables of the download loop and what it has done so far. -/
structure GetLoop (σ : Type u) where
  state : GetState
  reply : Memory UInt8
  dst : List UInt8
  /-- `mod_utime_buf` -/
  stamp : Int
  outside : σ
  log : List Exchange
  stderr : List Diagnostic
  /-- The time `utime` was called with. -/
  utime : Option Int

/-- The loop variables in the middle of a turn. -/
structure Turn (σ : Type u) where
  loop : GetLoop σ
  exchange : Exchange

namespace Turn

def print (messages : List Diagnostic) (turn : Turn σ) : Turn σ :=
  { turn with loop := { turn.loop with stderr := turn.loop.stderr ++ messages } }

def enter (state : GetState) (turn : Turn σ) : Turn σ :=
  { turn with loop := { turn.loop with state } }

/-- `send_success` or `send_cancel` by the state machine. -/
def answer (env : Env σ) (reply : Reply) (turn : Turn σ) : Turn σ :=
  let out := match reply with
    | .success => sendSuccess env turn.loop.outside
    | .cancel => sendCancel env turn.loop.outside
  { loop := { turn.loop with outside := out.state }
    exchange := { turn.exchange with answers := turn.exchange.answers ++ [reply] } }

/-- Report an error, send `CANCEL` and go over to `ABORT`. -/
def abort (env : Env σ) (messages : List Diagnostic) (turn : Turn σ) : Turn σ :=
  ((turn.print messages).answer env .cancel).enter .abort

/-- The loop variables at the end of the turn. -/
def close (turn : Turn σ) : GetLoop σ :=
  { turn.loop with log := turn.loop.log ++ [turn.exchange] }

/-- Everything behind `out:`, with the value to return. -/
def out (result : Int) (turn : Turn σ) : Int × GetLoop σ :=
  (result, { turn.close with utime := some turn.loop.stamp })

end Turn

/-- `get_u16(&reply.length) - (PACKET_HEAD_SIZE + 8)` as a `__u16`. -/
def dataLen (packet : Memory UInt8) : UInt16 :=
  packetLength packet - UInt16.ofNat (PACKET_HEAD_SIZE + 8)

/-! ## The packets -/

/-- `case DATA_HDD_FILE_START` -/
def getStart (env : Env σ) (turn : Turn σ) : Turn σ :=
  match turn.loop.state with
  | .start =>
      let stamp := tfdtToTime env.mktime (getTfDatetime turn.loop.reply dataOffset)
      let turn := { turn with loop := { turn.loop with stamp } }
      (turn.answer env .success).enter .data
  | state => turn.abort env [.unexpectedPacket DATA_HDD_FILE_START state.number]

/-- `write(dst, &reply.data[8], dataLen)`: the result, and the turn with the
destination extended by the bytes that were written. -/
def writePayload (env : Env σ) (turn : Turn σ) : Int × Turn σ :=
  let bytes := Memory.load turn.loop.reply (dataOffset + 8) (dataLen turn.loop.reply).toNat
  match env.write bytes turn.loop.outside with
  | (none, outside) =>
      (-1,
        { loop := { turn.loop with outside }
          exchange := { turn.exchange with write := some (-1) } })
  | (some n, outside) =>
      (n.val,
        { loop := { turn.loop with dst := turn.loop.dst ++ bytes.take n, outside }
          exchange := { turn.exchange with write := some n.val } })

/-- `case DATA_HDD_FILE_DATA` -/
def getData (env : Env σ) (r : Int) (turn : Turn σ) : Turn σ :=
  match turn.loop.state with
  | .data =>
      let length := packetLength turn.loop.reply
      let turn := if r < length.toNat then turn.print [.shortPacket r length] else turn
      let (w, turn) := writePayload env turn
      if w < (dataLen turn.loop.reply).toNat then turn.abort env [.canNotWriteData] else turn
  | state => turn.abort env [.unexpectedPacket DATA_HDD_FILE_DATA state.number]

/-- One pass of the loop: receive a packet and act on it. -/
def getBody (env : Env σ) : Body (GetLoop σ) (Int × GetLoop σ) := fun loop =>
  let got := getTfPacket env loop.reply loop.outside
  let turn : Turn σ :=
    { loop :=
        { loop with
          reply := got.packet
          outside := got.state
          stderr := loop.stderr ++ got.stderr }
      exchange :=
        { ret := got.ret, packet := got.packet, early := got.replies, answers := []
          write := none } }
  if 0 < got.ret then
    let cmd := packetCmd turn.loop.reply
    if cmd = DATA_HDD_FILE_START then .again (getStart env turn).close
    else if cmd = DATA_HDD_FILE_DATA then .again (getData env got.ret turn).close
    else if cmd = DATA_HDD_FILE_END then .leave ((turn.answer env .success).out 0)
    else if cmd = FAIL then
      .again (turn.abort env [.deviceReports (decodeError turn.loop.reply)]).close
    else if cmd = SUCCESS then .leave (turn.out negEPROTO)
    else .again (turn.print [.unhandledPacket (some cmd)]).close
  else .leave (turn.out negEPROTO)

/-- The loop state before the first packet. -/
def getInitial (buffers : Buffers) (outside : σ) : GetLoop σ where
  state := .start
  reply := buffers.reply
  dst := []
  stamp := 0
  outside
  log := []
  stderr := []
  utime := none

/-- Behind `send_cmd_hdd_file_send`: enter the loop or go to `out:`. -/
def GetLoop.requested (request : Requested σ) (loop : GetLoop σ) :
    Pass (GetLoop σ) (Int × GetLoop σ) :=
  let loop :=
    { loop with outside := request.state, stderr := loop.stderr ++ request.stderr }
  if request.ret < 0 then .leave (negEPROTO, { loop with utime := some loop.stamp })
  else .again loop

/-- The part of `puppy_hdd_file_get` before its loop: `again` when the loop is
entered.  The destination is truncated when it is opened. -/
def getPrologue (env : Env σ) (srcPath : CString) (buffers : Buffers) (outside : σ) :
    Pass (GetLoop σ) (Int × GetLoop σ) :=
  match env.open64 outside with
  | (some errno, outside) =>
      .leave (errno.val,
        { getInitial buffers outside with stderr := [.canNotOpenDestination errno.val] })
  | (none, outside) =>
      (getInitial buffers outside).requested
        (sendCmdHddFileSend env buffers.req GET srcPath outside)

/-- `puppy_hdd_file_get`, for at most `fuel` passes of its loop: `again` when
the loop is still going, `leave` with the returned value otherwise. -/
def puppyHddFileGet (env : Env σ) (fuel : Nat) (srcPath : CString) (buffers : Buffers)
    (outside : σ) : Pass (GetLoop σ) (Int × GetLoop σ) :=
  match getPrologue env srcPath buffers outside with
  | .again loop => run (getBody env) fuel loop
  | .leave result => .leave result

end Puppy.Transfer
