import Puppy.Transfer.Get

/-!
# Downloading a file with the command line tool

`do_hdd_file_get` of `puppy.c` acts on every packet as `puppy_hdd_file_get`
does.  The two differ in what they have still to do when they leave: here
`utime` stands before the label `out:`, so that only the end of the loop comes
to it.
-/

namespace Puppy.Transfer

open Transition
open Puppy.Wire Puppy.Usb

universe u

variable {σ : Type u}

/-- Everything behind `out:`, with the value to return. -/
def Turn.outTool (result : Int) (turn : Turn σ) : Int × GetLoop σ := (result, turn.close)

/-- One pass of the loop: receive a packet and act on it. -/
def getBodyTool (env : Env σ) : Body (GetLoop σ) (Int × GetLoop σ) := fun loop =>
  let got := getTfPacket env loop.reply loop.outside
  let turn : Turn σ :=
    { loop :=
        { loop with
          reply := got.packet
          outside := got.state
          stderr := loop.stderr ++ got.stderr }
      exchange :=
        { ret := got.ret, packet := got.packet, early := got.replies, answers := []
          write := none } }
  if 0 < got.ret then
    let cmd := packetCmd turn.loop.reply
    if cmd = DATA_HDD_FILE_START then .again (getStart env turn).close
    else if cmd = DATA_HDD_FILE_DATA then .again (getData env got.ret turn).close
    else if cmd = DATA_HDD_FILE_END then .leave ((turn.answer env .success).outTool 0)
    else if cmd = FAIL then
      .again (turn.abort env [.deviceReports (decodeError turn.loop.reply)]).close
    else if cmd = SUCCESS then .leave (turn.outTool negEPROTO)
    else .again (turn.print [.unhandledPacket (some cmd)]).close
  -- the loop has ended: `utime`, and on to `out:`
  else .leave (turn.out negEPROTO)

/-- Behind `send_cmd_hdd_file_send`: enter the loop or go to `out:`. -/
def GetLoop.requestedTool (request : Requested σ) (loop : GetLoop σ) :
    Pass (GetLoop σ) (Int × GetLoop σ) :=
  let loop :=
    { loop with outside := request.state, stderr := loop.stderr ++ request.stderr }
  if request.ret < 0 then .leave (negEPROTO, loop) else .again loop

/-- The part of `do_hdd_file_get` before its loop. -/
def getPrologueTool (env : Env σ) (srcPath : CString) (buffers : Buffers) (outside : σ) :
    Pass (GetLoop σ) (Int × GetLoop σ) :=
  match env.open64 outside with
  | (some errno, outside) =>
      .leave (errno.val,
        { getInitial buffers outside with stderr := [.canNotOpenDestination errno.val] })
  | (none, outside) =>
      (getInitial buffers outside).requestedTool
        (sendCmdHddFileSend env buffers.req GET srcPath outside)

/-- `do_hdd_file_get`, for at most `fuel` passes of its loop: `again` when the
loop is still going, `leave` with the returned value otherwise. -/
def doHddFileGet (env : Env σ) (fuel : Nat) (srcPath : CString) (buffers : Buffers)
    (outside : σ) : Pass (GetLoop σ) (Int × GetLoop σ) :=
  match getPrologueTool env srcPath buffers outside with
  | .again loop => run (getBodyTool env) fuel loop
  | .leave result => .leave result

end Puppy.Transfer
