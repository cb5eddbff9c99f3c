import Puppy.Cli.Entry
import Puppy.Cli.Slashes

/-!
# puppy-get

`main` of `puppy-get.c` over whatever `getopt`, `fnmatch`, `stat`,
`puppy_hdd_file_get` and `puppy_hdd_del` return.  A session collects what was
printed and called; a turn of the loop over the listing is the entry it looks at
with the calls that were made about it.
-/

namespace Puppy.Cli

open Puppy.Listing

universe u

/-- The calls that puppy-get makes, with their results. -/
inductive Call where
  /-- `fnmatch(glob, name, 0)` -/
  | fnmatch (glob name : CString) (result : Int)
  /-- `stat(path, &statbuf)`: `st_size`, or `none` when it fails. -/
  | stat (path : CString) (size : Option Int)
  /-- `puppy_hdd_file_get(p, src, dst)` -/
  | hddFileGet (src dst : CString) (result : Int)
  /-- `puppy_hdd_del(p, src)` -/
  | hddDel (src : CString) (result : Int)
  deriving DecidableEq

/-- What answers these calls, in any state. -/
structure World (σ : Type u) where
  fnmatch : CString → CString → σ → Int × σ
  stat : CString → σ → Option Int × σ
  hddFileGet : CString → CString → σ → Int × σ
  hddDel : CString → σ → Int × σ
  /-- `localtime` and `strftime` with "%Y-%m-%d %H:%M:%S" -/
  timeString : Int → List UInt8

/-- What puppy-get prints. -/
inductive Message where
  /-- `usage` -/
  | usage
  /-- "Failed to initialize puppy\n", on `stderr` -/
  | failedToInitialize
  /-- "Cannot retrieve contents" -/
  | cannotRetrieveContents
  /-- "%s %12lld %s\n" -/
  | file (time : List UInt8) (size : Int) (name : CString)
  /-- "File already transferred in full, " -/
  | alreadyTransferred
  /-- "removing source file.\n" -/
  | removing
  /-- "skipping.\n" -/
  | skipping
  /-- "Cannot remove source file %s\n" -/
  | cannotRemove (name : CString)
  /-- "Done, but file is not complete!\n" -/
  | notComplete
  /-- "Cannot stat file\n" -/
  | cannotStat
  /-- "Cannot retrieve source file %s" -/
  | cannotRetrieve (src : CString)
  deriving DecidableEq

/-! ## Options -/

/-- `ok`, `move` and `noact` -/
structure Flags where
  ok : Bool
  move : Bool
  noact : Bool
  deriving DecidableEq

/-- One result of `getopt(a_c, a_v, "mn")`. -/
def readOption (flags : Flags) (opt : Char) : Flags :=
  if flags.ok then
    if opt = 'm' then { flags with move := !flags.move }
    else if opt = 'n' then { flags with noact := !flags.noact }
    else { flags with ok := false }
  else flags

/-- The loop over the results of `getopt`. -/
def readOptions (options : List Char) : Flags :=
  options.foldl readOption { ok := true, move := false, noact := false }

/-! ## The loop over the listing -/

variable {σ : Type u}

/-- The variables of `main`, what it has printed, and the calls it has made
about the entry at hand. -/
structure Session (σ : Type u) where
  outside : σ
  ok : Bool
  output : List Message
  calls : List Call

namespace Session

def print (message : Message) (session : Session σ) : Session σ :=
  { session with output := session.output ++ [message] }

/-- `ok = 0`, with a message -/
def fail (message : Message) (session : Session σ) : Session σ :=
  { session.print message with ok := false }

/-- A call that has been answered. -/
def called (call : Call) (outside : σ) (session : Session σ) : Session σ :=
  { session with outside, calls := session.calls ++ [call] }

def fnmatch (world : World σ) (glob name : CString) (session : Session σ) : Int × Session σ :=
  let (result, outside) := world.fnmatch glob name session.outside
  (result, session.called (.fnmatch glob name result) outside)

def stat (world : World σ) (path : CString) (session : Session σ) : Option Int × Session σ :=
  let (size, outside) := world.stat path session.outside
  (size, session.called (.stat path size) outside)

def hddFileGet (world : World σ) (src dst : CString) (session : Session σ) : Int × Session σ :=
  let (result, outside) := world.hddFileGet src dst session.outside
  (result, session.called (.hddFileGet src dst result) outside)

def hddDel (world : World σ) (src : CString) (session : Session σ) : Int × Session σ :=
  let (result, outside) := world.hddDel src session.outside
  (result, session.called (.hddDel src result) outside)

end Session

/-- `matches` behind the loop over the globs. -/
def matchGlobs (world : World σ) (name : CString) :
    List CString → Session σ → Bool × Session σ
  | [], session => (false, session)
  | glob :: globs, session =>
      let (result, session) := session.fnmatch world glob name
      if result = 0 then (true, session) else matchGlobs world name globs session

/-- `sizeof(src)` -/
def SRC_SIZE : Nat := 256

/-- `snprintf(src, sizeof(src), "%s\\%s", dir, dst)` -/
def devicePath (dir dst : CString) : CString where
  bytes := (dir.bytes ++ backslash :: dst.bytes).take (SRC_SIZE - 1)
  noNul byte member := by
    have here := List.mem_of_mem_take member
    rw [List.mem_append, List.mem_cons] at here
    rcases here with inDir | rfl | inDst
    · exact dir.noNul byte inDir
    · decide
    · exact dst.noNul byte inDst

/-- `puppy_hdd_del`, and the message when it fails. -/
def removeSource (world : World σ) (src dst : CString) (session : Session σ) : Session σ :=
  let (result, session) := session.hddDel world src
  if result ≠ 0 then session.print (.cannotRemove dst) else session

/-- The branch for a file that is not there yet. -/
def download (world : World σ) (flags : Flags) (src : CString) (entry : Entry)
    (session : Session σ) : Session σ :=
  let dst := entry.name
  let (result, session) := session.hddFileGet world src dst
  if result = 0 then
    let (size, session) := session.stat world dst
    match size with
    | some size =>
        if size ≠ entry.size then session.fail .notComplete
        else if flags.move && !flags.noact then removeSource world src dst session
        else session
    | none => session.fail .cannotStat
  else session.fail (.cannotRetrieve src)

/-- The branch for an entry that matches. -/
def transfer (world : World σ) (flags : Flags) (dir : CString) (entry : Entry)
    (session : Session σ) : Session σ :=
  let dst := entry.name
  let src := devicePath dir dst
  let session := session.print (.file (world.timeString entry.time) entry.size dst)
  let (size, session) := session.stat world dst
  if size = some entry.size then
    let session := session.print .alreadyTransferred
    if flags.move && !flags.noact then
      removeSource world src dst (session.print .removing)
    else session.print .skipping
  else if !flags.noact then download world flags src entry session
  else session

/-- One pass of the loop over the listing. -/
def visit (world : World σ) (flags : Flags) (dir : CString) (globs : List CString)
    (entry : Entry) (session : Session σ) : Session σ :=
  if entry.ftype = PUPPY_FILE then
    let (matched, session) := matchGlobs world entry.name globs session
    if matched then transfer world flags dir entry session else session
  else session

/-- A pass of the loop, and the calls made in it. -/
structure Turn where
  entry : Entry
  calls : List Call

/-- What has happened when `main` returns. -/
structure Outcome (σ : Type u) where
  turns : List Turn
  session : Session σ
  /-- The exit status, or `none` when the loop runs past the end of the array. -/
  status : Option Int

/-- `return ok ? 0 : 1` -/
def exitWith (session : Session σ) : Outcome σ where
  turns := []
  session
  status := some (if session.ok then 0 else 1)

/-- `while(ok && ptr->name[0])` -/
def visitAll (world : World σ) (flags : Flags) (dir : CString) (globs : List CString) :
    List Entry → Session σ → Outcome σ
  | [], session =>
      if session.ok then { turns := [], session, status := none } else exitWith session
  | entry :: rest, session =>
      if session.ok ∧ entry.name ≠ CString.empty then
        let visited := visit world flags dir globs entry { session with calls := [] }
        let outcome := visitAll world flags dir globs rest visited
        { outcome with turns := { entry, calls := visited.calls } :: outcome.turns }
      else exitWith session

/-- `main` of `puppy-get.c`, with the results of `getopt`, the operands behind
the options, `puppy_ok(p)`, and what `puppy_hdd_dir` returns.  `heap` is what
`malloc` delivers in `convert_slashes`. -/
def puppyGet (world : World σ) (heap : Memory UInt8) (options : List Char)
    (operands : List CString) (opened : Bool) (listing : Option (List Entry))
    (outside : σ) : Outcome σ :=
  let flags := readOptions options
  let session : Session σ := { outside, ok := flags.ok, output := [], calls := [] }
  match flags.ok, operands with
  | true, directory :: glob :: globs =>
      if opened then
        let dir := (convertSlashes heap directory).result
        match listing with
        | none => exitWith (session.print .cannotRetrieveContents)
        | some entries => visitAll world flags dir (glob :: globs) entries session
      else exitWith (session.print .failedToInitialize)
  | _, _ => exitWith (session.fail .usage)

end Puppy.Cli
