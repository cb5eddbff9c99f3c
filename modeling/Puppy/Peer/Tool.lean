import Puppy.Peer.Session
import Puppy.Listing.Printing
import Puppy.Cli.Main
import Puppy.Cli.Operations

/-!
# The command line tool against a file server

`puppy` runs once for each command line, with packets of its own.  What it does
to the disk is what the library does.  What is seen differs in two ways: a
listing is printed packet by packet, and a download leaves the time stamp of its
destination alone.
-/

namespace Puppy.Peer

open Transition
open Puppy.Wire Puppy.Usb Puppy.Control Puppy.Listing Puppy.Transfer

universe u

variable {σ : Type u} {δ : Type u}

/-! ## In the tool -/

/-- What `do_hdd_dir` returns and prints. -/
structure Listed where
  ret : Int
  stdout : List Output

/-- The option `-x` of a command line. -/
def xmlGiven (argv : List CString) : Bool :=
  ((Tool.readOptions (Getopt.getopt Tool.optstring none (argv.map CString.bytes)).1 .initial).map
    Tool.Options.xml).getD false

/-- The packets of a process that has just been started. -/
def freshBuffers (req : Memory UInt8) : Buffers := ⟨fun _ => 0, fun _ => 0, req⟩

/-- The tool does an operation: the call returns after some number of passes.
`files` are the files of the host, and `req` is the memory a call finds on the
stack. -/
inductive Operates (env : Env σ) (tool : Tool) (files : CString → SourceFile)
    (req : Memory UInt8) (outside : σ) : Tool.Operation → Result Listed → σ → Prop
  | call {operation : Tool.Operation} {completed : Completed σ}
      (returned : Tool.callOperation env req (fun _ => 0) outside operation = some completed) :
      Operates env tool files req outside operation (.command (Outcome.ofCompleted completed))
        completed.state
  | dir {path : CString} {fuel : Nat} {ret : Int} {last : ToolLoop σ}
      (left : doHddDir env tool fuel path req (fun _ => 0) outside = .leave (ret, last)) :
      Operates env tool files req outside (.dir (some path)) (.list ⟨ret, last.stdout⟩)
        last.outside
  | filePut {srcPath dstPath : CString} {fuel : Nat} {ret : Int} {last : PutLoop σ}
      (left : Tool.doHddFilePut env fuel (files srcPath) dstPath (freshBuffers req) outside =
        .leave (ret, last)) :
      Operates env tool files req outside (.filePut (some srcPath) (some dstPath))
        (.put ret last.stderr) last.outside
  | fileGet {srcPath dstPath : CString} {fuel : Nat} {ret : Int} {last : GetLoop σ}
      (left : doHddFileGet env fuel srcPath (freshBuffers req) outside = .leave (ret, last)) :
      Operates env tool files req outside (.fileGet (some srcPath) (some dstPath))
        (.get ret last.dst last.utime last.stderr) last.outside

/-! ## On the disk -/

/-- The job that an operation is; `none` where a string is missing, and where the
number of `do_cmd_turbo` is undefined. -/
def jobOf (files : CString → SourceFile) : Tool.Operation → Option Job
  | .dir (some path) => some (.list path)
  | .filePut (some srcPath) (some dstPath) => some (.put (files srcPath) dstPath)
  | .fileGet (some srcPath) (some _) => some (.get srcPath)
  | operation => operation.command.map .command

/-- Every command line with the operands it needs asks for a job, but for a number
of `do_cmd_turbo` that is undefined. -/
theorem jobOf_of_requested (files : CString → SourceFile) {argv : List CString}
    {operation : Tool.Operation} (asked : Tool.requested argv = some operation) :
    (∃ job, jobOf files operation = some job) ∨
      ∃ state, operation = .turbo (some state) ∧ Tool.turboOn state = none := by
  obtain ⟨verb, _, chosen⟩ := Option.bind_eq_some_iff.mp asked
  generalize Tool.operandsOf argv = operands at chosen
  cases verb with
  | cancel | size | reboot =>
      cases chosen
      exact Or.inl ⟨_, rfl⟩
  | dir =>
      rcases operands with _ | ⟨path, rest⟩ <;> cases chosen
      · exact Or.inl ⟨_, rfl⟩
      · exact Or.inl ⟨_, rfl⟩
  | put | get | rename =>
      rcases operands with _ | ⟨srcPath, _ | ⟨dstPath, rest⟩⟩ <;> cases chosen
      exact Or.inl ⟨_, rfl⟩
  | delete | mkdir =>
      rcases operands with _ | ⟨path, rest⟩ <;> cases chosen
      exact Or.inl ⟨_, rfl⟩
  | turbo =>
      rcases operands with _ | ⟨state, rest⟩ <;> cases chosen
      cases number : Tool.turboOn state with
      | none => exact Or.inr ⟨state, rfl, number⟩
      | some turboOn =>
          have single : jobOf files (.turbo (some state)) =
              ((Tool.turboOn state).map .turbo).map .command :=
            rfl
          rw [single, number]
          exact Or.inl ⟨_, rfl⟩

/-- A command line that asks for a job. -/
structure Errand (files : CString → SourceFile) where
  argv : List CString
  operation : Tool.Operation
  asked : Tool.requested argv = some operation
  job : Job
  means : jobOf files operation = some job
  req : Memory UInt8

/-- What the tool shows where the library shows a result. -/
def Result.inTool {ε : Type} (listed : Listed) : Result ε → Result Listed
  | .command outcome => .command outcome
  | .list _ => .list listed
  | .put ret stderr => .put ret stderr
  | .get ret dst _ stderr => .get ret dst none stderr

/-- No length wraps. -/
def Job.Brief : Job → Prop
  | .command called => ShortPaths called
  | .list path | .put _ path | .get path => path.length ≤ 65534

section Meaning

variable (disk : Disk δ)

/-- What is printed for a directory. -/
def Disk.listed (env : Env σ) (tool : Tool) (path : CString) (state : δ) : Listed :=
  if DirAccepts path then
    ⟨0, (disk.list path state).messages.flatMap fun message => tool.sheet env message.contents⟩
  else ⟨negEPROTO, []⟩

/-- What a job means when the tool does it: what it means for the library, but for
what is seen of it. -/
def Disk.operate (env : Env σ) (host : Host) (tool : Tool) (job : Job) (state : δ) :
    Result Listed × δ :=
  let served := disk.serve host job state
  let listed :=
    match job with
    | .list path => disk.listed env tool path state
    | .command _ | .put _ _ | .get _ => ⟨0, []⟩
  (served.1.inTool listed, served.2)

end Meaning

/-! ## One level against the other -/

/-- Nothing is under way. -/
def Idle (state : δ) (outside : Link (Server δ)) : Prop :=
  ∃ calls, outside = line [] (resting state calls)

section Run

variable (disk : Disk δ) (amount : Nat → Nat) (host : Host) (tool : Tool)
  (files : CString → SourceFile) (req : Memory UInt8) {state : δ} {outside : Link (Server δ)}

/-- The tool does an operation as a job means it. -/
def Obeys (operation : Tool.Operation) (job : Job) (state : δ) (outside : Link (Server δ)) :
    Prop :=
  let meaning := disk.operate (Link.env (fileServer disk amount) host) host tool job state
  ∃ next, Operates (Link.env (fileServer disk amount) host) tool files req outside operation
      meaning.1 next ∧
    Idle meaning.2 next

/-- An operation with a single reply does what its command means. -/
theorem obeys_call {operation : Tool.Operation} {command : Command}
    (is : operation.command = some command) (short : ShortPaths command)
    (idle : Idle state outside) :
    Obeys disk amount host tool files req operation (.command command) state outside := by
  obtain ⟨calls, rfl⟩ := idle
  obtain ⟨outcome, left⟩ :=
    call_line disk amount host short req (fun _ => 0) [] state calls
  have meaning := serve_command disk host command state
  rw [meaning.2] at left
  simp only [Obeys, Disk.operate, meaning.1, ← outcome]
  refine ⟨_, .call ?_, calls, left⟩
  rw [Tool.callOperation_eq, is]
  rfl

/-- A directory is printed as it is sent. -/
theorem obeys_dir {path : CString} (short : path.length ≤ 65534) (idle : Idle state outside) :
    Obeys disk amount host tool files req (.dir (some path)) (.list path) state outside := by
  obtain ⟨calls, rfl⟩ := idle
  simp only [Obeys, Disk.operate, Disk.serve, Result.inTool, Disk.listed]
  by_cases accepts : DirAccepts path
  · obtain ⟨sent, playing⟩ := sendCmdHddDir_line disk amount host accepts req state calls
    have feeds := feeds_directory disk amount host state calls (disk.list path state)
    rw [← playing] at feeds
    obtain ⟨fuel, last, returned, stdout, ended⟩ :=
      toolRequested_of_feeds tool (fun _ => 0) sent feeds
    have printed : Operates (Link.env (fileServer disk amount) host) tool files req _ _ _ _ :=
      .dir returned
    rw [stdout] at printed
    rw [if_pos accepts]
    exact ⟨_, printed, calls, ended⟩
  · have returned : doHddDir (Link.env (fileServer disk amount) host) tool 0 path req
        (fun _ => 0) (line [] (resting state calls)) =
          .leave (negEPROTO, toolInitial (fun _ => 0)
            { ret := -1, sends := [], stderr := [.pathTooLong],
              state := line [] (resting state calls) }) := by
      rw [doHddDir, sendCmdHddDir_of_tooLong (by omega) accepts]
      rfl
    rw [if_neg accepts]
    exact ⟨_, .dir returned, calls, rfl⟩

/-- An upload does what it means. -/
theorem obeys_filePut {srcPath dstPath : CString} (positive : ∀ i, 0 < amount i)
    (short : dstPath.length ≤ 65534) (idle : Idle state outside) :
    Obeys disk amount host tool files req (.filePut (some srcPath) (some dstPath))
      (.put (files srcPath) dstPath) state outside := by
  obtain ⟨calls, rfl⟩ := idle
  have rest : AtRest state (Globals.fresh (line [] (resting state calls))) := ⟨rfl, calls, rfl⟩
  obtain ⟨seen, next, performs, agrees, left⟩ := performs_put disk amount host (files srcPath)
    dstPath state positive short ⟨req, heapOf 0⟩ rest
  rw [Obeys, Disk.operate]
  generalize disk.serve host (.put (files srcPath) dstPath) state = served at agrees left ⊢
  obtain ⟨shown, after⟩ := served
  cases performs with
  | put returned =>
      cases agrees
      exact ⟨_, .filePut returned, left.2⟩

/-- A download does what it means, but for the time. -/
theorem obeys_fileGet {srcPath dstPath : CString} (short : srcPath.length ≤ 65534)
    (idle : Idle state outside) :
    Obeys disk amount host tool files req (.fileGet (some srcPath) (some dstPath))
      (.get srcPath) state outside := by
  obtain ⟨calls, rfl⟩ := idle
  obtain ⟨fuel, result, last, left, means, heard, ended⟩ :=
    puppyHddFileGet_line disk amount host srcPath state short (freshBuffers req) calls
  simp only [Obeys, Disk.operate, means]
  exact ⟨_, .fileGet (doHddFileGet_of_left left heard), calls, ended⟩

end Run

/-! ## Sessions -/

/-- A command line is run by the tool. -/
def Runs (env : Env σ) (ctime : Int → CString) (files : CString → SourceFile) (outside : σ)
    (errand : Errand files) (seen : Result Listed) (next : σ) : Prop :=
  Operates env ⟨xmlGiven errand.argv, ctime⟩ files errand.req outside errand.operation seen next

section Session

variable (disk : Disk δ) (amount : Nat → Nat) (host : Host) (ctime : Int → CString)
  (files : CString → SourceFile)

/-- What a command line means on the disk. -/
def Disk.run (errand : Errand files) (state : δ) : Result Listed × δ :=
  disk.operate (Link.env (fileServer disk amount) host) host ⟨xmlGiven errand.argv, ctime⟩
    errand.job state

/-- Every command line does what it means. -/
theorem runs_refines (positive : ∀ i, 0 < amount i) :
    Refines (Runs (Link.env (fileServer disk amount) host) ctime files)
      (disk.run amount host ctime files) (fun errand => errand.job.Brief) Idle Eq := by
  rintro ⟨argv, operation, _, job, means, req⟩ state outside brief idle
  let tool : Tool := ⟨xmlGiven argv, ctime⟩
  suffices obeys : Obeys disk amount host tool files req operation job state outside by
    obtain ⟨next, operates, left⟩ := obeys
    exact ⟨_, next, operates, rfl, left⟩
  have single (same : jobOf files operation = operation.command.map .command) :
      ∃ command, operation.command = some command ∧ job = .command command := by
    rw [same] at means
    obtain ⟨command, is, rfl⟩ := Option.map_eq_some_iff.mp means
    exact ⟨command, is, rfl⟩
  cases operation with
  | dir path =>
      rcases path with _ | path
      · cases means
      · cases means
        exact obeys_dir disk amount host tool files req brief idle
  | filePut srcPath dstPath =>
      rcases srcPath with _ | srcPath <;> rcases dstPath with _ | dstPath <;> cases means
      exact obeys_filePut disk amount host tool files req positive brief idle
  | fileGet srcPath dstPath =>
      rcases srcPath with _ | srcPath <;> rcases dstPath with _ | dstPath <;> cases means
      exact obeys_fileGet disk amount host tool files req brief idle
  | cancel | reset | size | del | rename | mkdir | turbo =>
      obtain ⟨command, is, rfl⟩ := single rfl
      exact obeys_call disk amount host tool files req is brief idle

/-- The tool refines the disk: in every session of command lines each run returns,
shows what its job means on the disk, and leaves the line ready for the next. -/
theorem tool_refines (positive : ∀ i, 0 < amount i) {errands : List (Errand files)}
    (brief : ∀ errand ∈ errands, errand.job.Brief) {state : δ} {outside : Link (Server δ)}
    (idle : Idle state outside) :
    let meaning := serveAll (disk.run amount host ctime files) errands state
    ∃ last, Served (Runs (Link.env (fileServer disk amount) host) ctime files) outside errands
        meaning.1 last ∧
      Idle meaning.2 last := by
  intro meaning
  obtain ⟨seen, last, served, same, left⟩ :=
    (runs_refines disk amount host ctime files positive).served brief idle
  rw [List.forall₂_eq_eq_eq] at same
  subst same
  exact ⟨last, served, left⟩

end Session

/-! ## A session -/

/-- "-c", the name of a command, and operands. -/
def toolLine (command : String) (operands : List CString) : List CString :=
  Tool.upToNul (Stdio.word "-c") :: Tool.upToNul (Stdio.word command) :: operands

theorem requested_put :
    Tool.requested (toolLine "put" [pathA, pathA]) =
      some (.filePut (some pathA) (some pathA)) := by
  decide +kernel

theorem requested_get :
    Tool.requested (toolLine "get" [pathA, pathA]) =
      some (.fileGet (some pathA) (some pathA)) := by
  decide +kernel

theorem requested_delete :
    Tool.requested (toolLine "delete" [pathA]) = some (.del (some pathA)) := by
  decide +kernel

/-- A file is put on the shelf, fetched without its time and deleted. -/
theorem tool_refines_shelf :
    ∃ last, Served (Runs (Link.env (fileServer shelfDisk fun _ => 1) Host.epoch)
        (fun _ => CString.empty) fun _ => fiveBytes) (line [] (resting ([] : Shelf) 0))
        [⟨toolLine "put" [pathA, pathA], _, requested_put, _, rfl, fun _ => 0⟩,
          ⟨toolLine "get" [pathA, pathA], _, requested_get, _, rfl, fun _ => 0⟩,
          ⟨toolLine "delete" [pathA], _, requested_delete, _, rfl, fun _ => 0⟩]
        [.put 0 [], .get 0 fiveBytes.contents none [], .command ⟨0, [], []⟩] last ∧
      Idle ([] : Shelf) last := by
  have short : pathA.length ≤ 65534 := by decide
  apply tool_refines shelfDisk (fun _ => 1) Host.epoch (fun _ => CString.empty) (fun _ => fiveBytes)
    (fun _ => Nat.one_pos) (@fun errand member => ?_) ⟨0, rfl⟩
  simp only [List.mem_cons, List.not_mem_nil, or_false] at member
  rcases member with rfl | rfl | rfl
  · exact short
  · exact short
  · exact shortPaths_of_fits rfl

end Puppy.Peer
