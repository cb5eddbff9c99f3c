import Puppy.Peer.Device
import Puppy.Transfer.Get
import Puppy.Transition.Session

/-!
# Jobs

What a user of the library can ask for, once as a call of the library and once
as what the device is for.  `Performs` runs a function of `libpuppy.c` on the
handle with its shared packets; `Disk.serve` says what the job means without
packets, messages or buffers.
-/

namespace Puppy.Peer

open Puppy.Wire Puppy.Usb Puppy.Control Puppy.Listing Puppy.Transfer Puppy.Time

universe u

/-- A job for the library. -/
inductive Job where
  | command (command : Command)
  | list (path : CString)
  | put (src : SourceFile) (path : CString)
  | get (path : CString)

/-- What a job returns, prints and leaves on the host.  Listings are shown in
different ways on the two levels. -/
inductive Result (ε : Type) where
  | command (outcome : Outcome)
  | list (entries : ε)
  | put (ret : Int) (stderr : List Diagnostic)
  | get (ret : Int) (dst : List UInt8) (utime : Option Int) (stderr : List Diagnostic)

/-! ## In the library -/

/-- The uninitialised memory a call finds, on the stack and on the heap. -/
structure Scratch where
  req : Memory UInt8
  heap : Memory DirEntry

/-- A job and the memory it is done in. -/
structure Call where
  job : Job
  scratch : Scratch

/-- The shared packets of the library, the error of the handle, and the
surroundings. -/
structure Globals (σ : Type u) where
  packet : Memory UInt8
  reply : Memory UInt8
  /-- `p->error` -/
  error : Int
  outside : σ

variable {σ : Type u}

/-- The buffers a transfer starts with. -/
def Globals.buffers (globals : Globals σ) (req : Memory UInt8) : Buffers where
  packet := globals.packet
  reply := globals.reply
  req

/-- The library performs a job: the call returns after some number of passes. -/
inductive Performs (env : Env σ) (globals : Globals σ) :
    Call → Result (List DirEntry) → Globals σ → Prop
  | command {command : Command} {scratch : Scratch} {completed : Completed σ}
      (returned : command.call env scratch.req globals.reply globals.outside = completed) :
      Performs env globals ⟨.command command, scratch⟩
        (.command (Outcome.ofCompleted completed))
        { globals with reply := completed.reply, outside := completed.state }
  | list {path : CString} {scratch : Scratch} {fuel : Nat} {array : List DirEntry}
      {last : DirLoop σ}
      (left : puppyHddDir env fuel scratch.heap globals.error path scratch.req globals.reply
        globals.outside = .leave (some array, last)) :
      Performs env globals ⟨.list path, scratch⟩ (.list array)
        { globals with error := last.error, reply := last.reply, outside := last.outside }
  | put {src : SourceFile} {path : CString} {scratch : Scratch} {fuel : Nat} {ret : Int}
      {last : PutLoop σ}
      (left : puppyHddFilePut env fuel src path (globals.buffers scratch.req) globals.outside =
        .leave (ret, last)) :
      Performs env globals ⟨.put src path, scratch⟩ (.put ret last.stderr)
        { globals with packet := last.packet, reply := last.reply, outside := last.outside }
  | get {path : CString} {scratch : Scratch} {fuel : Nat} {ret : Int} {last : GetLoop σ}
      (left : puppyHddFileGet env fuel path (globals.buffers scratch.req) globals.outside =
        .leave (ret, last)) :
      Performs env globals ⟨.get path, scratch⟩ (.get ret last.dst last.utime last.stderr)
        { globals with reply := last.reply, outside := last.outside }

/-! ## On the disk -/

/-- What a command whose paths do not fit reports without asking the device. -/
def refusal (command : Command) : Option Outcome :=
  match pathRequest command with
  | none => none
  | some request =>
      if request.size ≥ MAXIMUM_PACKET_SIZE then
        some { ret := negEPROTO, stdout := [], stderr := [request.tooLong] }
      else none

/-- The message for a code of the device. -/
def reported (code : UInt32) : Diagnostic :=
  .deviceReports (decodeError (Answer.failure code).packet)

variable {δ : Type u}

/-- What a job means. -/
def Disk.serve (disk : Disk δ) (host : Host) (job : Job) (state : δ) :
    Result (List Record) × δ :=
  match job with
  | .command command =>
      match refusal command with
      | some outcome => (.command outcome, state)
      | none =>
          let performed := disk.perform command state
          (.command (performed.1.outcome command), performed.2)
  | .list path => (.list (listing (disk.list path state).messages), state)
  | .put src path =>
      if src.contents = [] then (.put negENODATA [.sourceEmpty], state)
      else if ¬ FileSendAccepts path then (.put negEPROTO [.pathTooLong], state)
      else
        match disk.refuses path state with
        | some code => (.put negEPROTO [reported code], state)
        | none =>
            let file : File := ⟨timeToTfdt host.localtime src.mtime, src.contents⟩
            (.put 0 [], disk.store path file state)
  | .get path =>
      if ¬ FileSendAccepts path then (.get negEPROTO [] (some 0) [.pathTooLong], state)
      else
        match disk.fetch path state with
        | .error code => (.get negEPROTO [] (some 0) [reported code], state)
        | .ok download =>
            let time := tfdtToTime host.mktime download.file.stamp
            (.get 0 download.file.contents (some time) [], state)

/-- No length wraps, and the path of a listing fits: behind a request for a
listing that was not sent the handle keeps its error. -/
def Job.Admissible : Job → Prop
  | .command called => ShortPaths called
  | .list path => DirAccepts path
  | .put _ path | .get path => path.length ≤ 65534

/-! ## One level against the other -/

/-- The library shows what the job means. -/
inductive Agrees (env : Env σ) : Result (List Record) → Result (List DirEntry) → Prop
  | command {outcome : Outcome} : Agrees env (.command outcome) (.command outcome)
  | list {records : List Record} {array : List DirEntry}
      (length : array.length = records.length + 1)
      (shown : List.Forall₂ (Shows env) records (array.take records.length)) :
      Agrees env (.list records) (.list array)
  | put {ret : Int} {stderr : List Diagnostic} : Agrees env (.put ret stderr) (.put ret stderr)
  | get {ret : Int} {dst : List UInt8} {utime : Option Int} {stderr : List Diagnostic} :
      Agrees env (.get ret dst utime stderr) (.get ret dst utime stderr)

/-- Nothing is under way, and the handle has no error. -/
def AtRest (state : δ) (globals : Globals (Link (Server δ))) : Prop :=
  globals.error = 0 ∧ ∃ calls, globals.outside = line [] (resting state calls)

end Puppy.Peer
