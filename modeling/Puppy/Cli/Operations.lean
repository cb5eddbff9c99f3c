import Puppy.Cli.Options
import Puppy.Cli.Sort
import Puppy.Control.SingleReply
import Puppy.Transfer.GetTool

/-!
# The operations of puppy

The functions `main` of `puppy.c` chooses from, other than `do_hdd_dir` and
`do_hdd_file_get`.  Those with a single reply take the same course as the
functions of `libpuppy.c`; only `do_cmd_turbo` reads its number from a string.
-/

namespace Puppy.Tool

open Stdio Transition
open Puppy.Wire Puppy.Usb Puppy.Control Puppy.Transfer

universe u

variable {σ : Type u}

/-- `turbo_on`; `none` where the result of `atoi` is undefined. -/
def turboOn (state : CString) : Option Int32 :=
  (Cli.atoi state.bytes).map fun number =>
    if sameIgnoringCase (word "ON") state.bytes then 1 else Int32.ofInt number

/-- `do_cmd_turbo` -/
def doCmdTurbo (env : Env σ) (state : CString) (req reply : Memory UInt8) (outside : σ) :
    Option (Completed σ) :=
  (turboOn state).map fun turboOn =>
    concludeRequest env (sendCmdTurbo env req turboOn outside) reply SUCCESS (fun _ => [])
      negEPROTO

/-- `do_cmd_reset` -/
def doCmdReset (env : Env σ) (req reply : Memory UInt8) (outside : σ) : Completed σ :=
  concludeRequest env (sendCmdReset env req outside) reply SUCCESS (fun _ => [.reboots]) negEPROTO

/-- `do_cancel` -/
def doCancel (env : Env σ) (reply : Memory UInt8) (outside : σ) : Completed σ :=
  let out := sendCancel env outside
  conclude env out.sent [] reply out.state SUCCESS (fun _ => [.cancelled]) negEPROTO

/-- `do_hdd_size` -/
def doHddSize (env : Env σ) (req reply : Memory UInt8) (outside : σ) : Completed σ :=
  concludeRequest env (sendCmdHddSize env req outside) reply DATA_HDD_SIZE sizeReport negEPROTO

/-- `do_hdd_del` -/
def doHddDel (env : Env σ) (path : CString) (req reply : Memory UInt8) (outside : σ) :
    Completed σ :=
  concludeRequest env (sendCmdHddDel env req path outside) reply SUCCESS (fun _ => []) negEPROTO

/-- `do_hdd_rename` -/
def doHddRename (env : Env σ) (srcPath dstPath : CString) (req reply : Memory UInt8)
    (outside : σ) : Completed σ :=
  concludeRequest env (sendCmdHddRename env req srcPath dstPath outside) reply SUCCESS
    (fun _ => []) negEPROTO

/-- `do_hdd_mkdir` -/
def doHddMkdir (env : Env σ) (path : CString) (req reply : Memory UInt8) (outside : σ) :
    Completed σ :=
  concludeRequest env (sendCmdHddCreateDir env req path outside) reply SUCCESS (fun _ => [])
    negEPROTO

/-- `do_hdd_file_put`, for at most `fuel` passes of its loop.  It differs from
`puppy_hdd_file_put` in that only the end of the loop comes to `finalStats`. -/
def doHddFilePut (env : Env σ) (fuel : Nat) (src : SourceFile) (dstPath : CString)
    (buffers : Buffers) (outside : σ) : Pass (PutLoop σ) (Int × PutLoop σ) :=
  match putPrologue env src dstPath buffers outside with
  | .again loop => run (putBody env src dstPath) fuel loop
  | .leave result => .leave result

/-! ## Those with a single reply -/

/-- The branches of the `switch` in `main` with a single reply; `none` for the
others, and where a string is missing. -/
def callOperation (env : Env σ) (req reply : Memory UInt8) (outside : σ) :
    Operation → Option (Completed σ)
  | .cancel => some (doCancel env reply outside)
  | .reset => some (doCmdReset env req reply outside)
  | .size => some (doHddSize env req reply outside)
  | .del (some path) => some (doHddDel env path req reply outside)
  | .rename (some srcPath) (some dstPath) =>
      some (doHddRename env srcPath dstPath req reply outside)
  | .mkdir (some path) => some (doHddMkdir env path req reply outside)
  | .turbo (some state) => doCmdTurbo env state req reply outside
  | _ => none

/-- The command of the library that an operation is. -/
def Operation.command : Operation → Option Command
  | .cancel => some .cancel
  | .reset => some .reset
  | .size => some .hddSize
  | .del (some path) => some (.hddDel path)
  | .rename (some srcPath) (some dstPath) => some (.hddRename srcPath dstPath)
  | .mkdir (some path) => some (.hddMkdir path)
  | .turbo (some state) => (turboOn state).map .turbo
  | _ => none

/-- An operation with a single reply takes the course of its command. -/
theorem callOperation_eq (env : Env σ) (req reply : Memory UInt8) (outside : σ)
    (operation : Operation) :
    callOperation env req reply outside operation =
      operation.command.map (Command.call env req reply outside) := by
  cases operation with
  | cancel | reset | size => rfl
  | dir | filePut | fileGet => rfl
  | del path | mkdir path => cases path <;> rfl
  | rename srcPath dstPath => cases srcPath <;> cases dstPath <;> rfl
  | turbo state =>
      cases state with
      | none => rfl
      | some state =>
          rw [callOperation, doCmdTurbo, Operation.command, Option.map_map]
          rfl

end Puppy.Tool
