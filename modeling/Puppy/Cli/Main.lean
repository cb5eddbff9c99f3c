import Puppy.Lock.Conduct

/-!
# puppy

`main` of `puppy.c` with `parseArgs` and `findToppy`, over the system calls of
the lock file.  What the functions for the commands do with the device is left
to the caller, which hands in a program for each operation.  `main` opens and
locks the lock file in an order of its own, and leaves it to the end of the
process to close it; it follows the same discipline as the library.
-/

namespace Puppy.Tool

open Process Getopt
open Puppy.Lock
open Puppy.Cli (Finder MAX_DEVICES_LINE_SIZE scanDevices)

/-- `findToppy` with its calls.  `stack` is what its variables hold before. -/
def findToppy (lockFd : Int) (stack : Finder) : Sys (Option CString) := do
  let r ← call (.flock lockFd .exclusive)
  if r ≠ 0 then do
    call (.print (.scan .anotherInstance))
    return none
  else do
    let devices ← call .devices
    match scanDevices devices stack with
    | .leave (.ok path) => return some (upToNul path)
    | .leave (.error error) => do
        call (.print (.scan error))
        return none
    | .again _ => return none

/-- What `parseArgs` leaves in the global variables. -/
structure Arguments where
  options : Options
  devPath : CString
  operands : Operands

/-- The end of `parseArgs`, once the device is known. -/
def finishArgs (options : Options) (devPath : CString) (operands : List CString) :
    Sys (Option Arguments) :=
  match takeOperands options.cmd operands with
  | .error missing => do
      call (.print (.missing missing))
      return none
  | .ok operands => return some { options, devPath, operands }

/-- The operands of a command line as strings again. -/
def operandsOf (argv : List CString) : List CString :=
  (getopt optstring none (argv.map CString.bytes)).2.map upToNul

/-- `parseArgs`, with the words behind the name of the program; `none` for -1. -/
def parseArgs (lockFd : Int) (stack : Finder) (argv : List CString) :
    Sys (Option Arguments) :=
  match readOptions (getopt optstring none (argv.map CString.bytes)).1 .initial with
  | none => do
      call (.print .usage)
      return none
  | some options =>
      if options.cmd = 0 then do
        call (.print .usage)
        return none
      else
        -- Search for a Toppy if the device is not specified
        match options.devPath with
        | some devPath => finishArgs options devPath (operandsOf argv)
        | none => do
            match ← findToppy lockFd stack with
            | some devPath => finishArgs options devPath (operandsOf argv)
            | none => return none

/-- `-EINVAL` -/
def negEINVAL : Int := -22

/-- `main` behind the set-up of the device. -/
def runCommand (serve : Int → Operation → Sys Int) (fd : Int) (arguments : Arguments) :
    Sys Int := do
  let options := arguments.options
  let r ← match chooseOperation options.cmd options.sendDirection arguments.operands with
    | some operation => serve fd operation
    | none => do
        call (.print (.notImplemented options.cmd))
        return negEINVAL
  let _ ← call (.ioctl fd .releaseInterface)
  let _ ← call (.close fd)
  return r

/-- A failure of `main` with the device open. -/
def closeDevice (fd error : Int) : Sys Int := do
  let _ ← call (.close fd)
  return error

/-- `main` behind the exclusive lock on the device. -/
def useDevice (serve : Int → Operation → Sys Int) (fd : Int) (arguments : Arguments) :
    Sys Int := do
  match ← readDeviceDescriptor fd with
  | none => closeDevice fd E_READ_DEVICE
  | some desc =>
      if ¬ isToppy desc then do
        call (.print .couldNotFind)
        closeDevice fd E_NOT_TF5000PVR
      else do
        let r ← call (.ioctl fd .reset)
        if r < 0 then do
          call (.print .canNotReset)
          closeDevice fd E_RESET_DEVICE
        else do
          let r ← call (.ioctl fd .claimInterface)
          if r < 0 then do
            call (.print .canNotClaim)
            closeDevice fd E_CLAIM_INTERFACE
          else do
            let r ← call (.ioctl fd .setInterface)
            if r < 0 then do
              call (.print .canNotSet)
              closeDevice fd E_SET_INTERFACE
            else runCommand serve fd arguments

/-- `main` behind `parseArgs`. -/
def lockDevice (serve : Int → Operation → Sys Int) (lockFd : Int) (arguments : Arguments) :
    Sys Int := do
  let r ← call (.flock lockFd .shared)
  if r ≠ 0 then do
    call (.print .canNotObtainSharedLock)
    return E_GLOBAL_LOCK
  else do
    let fd ← call (.openDevice arguments.devPath)
    if fd < 0 then do
      call (.print (.canNotOpen arguments.devPath))
      return E_READ_DEVICE
    else do
      let r ← call (.flock fd .exclusive)
      if r ≠ 0 then do
        call (.print (.canNotGetExclusiveLock arguments.devPath))
        closeDevice fd E_DEVICE_LOCK
      else useDevice serve fd arguments

/-- `main` of `puppy.c`.  `serve` runs the function for an operation on the
device's descriptor. -/
def main (serve : Int → Operation → Sys Int) (stack : Finder) (argv : List CString) :
    Sys Int := do
  let lockFd ← call .openLockFile
  if lockFd < 0 then do
    call (.print .canNotOpenLockFile)
    return E_LOCK_FILE
  else do
    match ← parseArgs lockFd stack argv with
    | none => return E_INVALID_ARGS
    | some arguments => lockDevice serve lockFd arguments

/-! ## How it conducts itself -/

/-- "/tmp/puppy" -/
def PUPPY_LOCKFILE : CString := upToNul (Stdio.word "/tmp/puppy")

/-- A path that starts like those of `findToppy`. -/
def BelowProc (path : List UInt8) : Prop := ∃ rest, path = 0x2F :: 0x70 :: rest

theorem belowProc_devicePath (bus device : Int) : BelowProc (Finder.devicePath bus device) := by
  have start : "/proc/bus/usb/".toUTF8.toList =
      0x2F :: 0x70 :: ("/proc/bus/usb/".toUTF8.toList.drop 2) := by
    decide +kernel
  rw [Finder.devicePath, start]
  simp only [List.cons_append]
  exact ⟨_, rfl⟩

/-- Once a device has been found, there is such a path for it. -/
def Located (finder : Finder) : Prop := finder.found = true → BelowProc finder.pathBuffer

theorem Located.storeTopology {finder : Finder} (located : Located finder) (values : List Int) :
    Located (finder.storeTopology values) := by
  rcases values with _ | ⟨bus, _ | ⟨device, rest⟩⟩ <;> exact located

theorem Located.storeProduct {finder : Finder} (located : Located finder) (values : List Int) :
    Located (finder.storeProduct values) := by
  rcases values with _ | ⟨vendor, _ | ⟨prodid, rest⟩⟩ <;> exact located

theorem Located.body {finder : Finder} (located : Located finder) :
    (Finder.body finder).Holds Located fun result =>
      ∀ path, result = .ok path → BelowProc path := by
  unfold Finder.body
  cases line : Stdio.fgets MAX_DEVICES_LINE_SIZE finder.toppy with
  | none =>
      simp only [Transition.Pass.Holds]
      split
      · rename_i found
        rintro path ⟨⟩
        exact located found
      · rintro path ⟨⟩
  | some read =>
      have behind : Located { finder with toppy := read.2 } := located
      simp only
      split
      · exact behind.storeTopology _
      · split
        · split
          · rintro path ⟨⟩
          · intro _
            exact belowProc_devicePath _ _
        · exact (behind.storeTopology _).storeProduct _

/-- `findToppy` returns a path below `/proc`. -/
theorem scanDevices_path {devices : Except Usb.Errno (List UInt8)} {stack : Finder}
    {path : List UInt8} (scanned : scanDevices devices stack = .leave (.ok path)) :
    BelowProc path := by
  cases devices with
  | error errno => cases scanned
  | ok file =>
      have start : Located { stack with toppy := file, found := false } := by
        rintro ⟨⟩
      have whole := Transition.run_holds (fun _ => Located.body) (file.length + 1) start
      rw [scanDevices] at scanned
      rw [scanned] at whole
      exact whole path rfl

/-- Such a path is not that of the lock file. -/
theorem upToNul_ne_lockFile {path : List UInt8} (below : BelowProc path) :
    upToNul path ≠ PUPPY_LOCKFILE := by
  obtain ⟨rest, rfl⟩ := below
  intro same
  have bytes := congrArg (fun string => string.bytes[1]?) same
  exact absurd bytes (by simp [upToNul, PUPPY_LOCKFILE, Stdio.word])

/-- The command of a command line with its operands, if it has all it needs. -/
def requested (argv : List CString) : Option Operation :=
  (Verb.last (getopt optstring none (argv.map CString.bytes)).1).bind fun verb =>
    verb.operation (operandsOf argv)

/-- The device of a command line. -/
def deviceGiven (argv : List CString) : Option CString :=
  (readOptions (getopt optstring none (argv.map CString.bytes)).1 .initial).bind Options.devPath

/-- `main` finds the operation that the command line asks for. -/
def Chosen (argv : List CString) (arguments : Arguments) : Prop :=
  ∃ operation, requested argv = some operation ∧
    chooseOperation arguments.options.cmd arguments.options.sendDirection arguments.operands =
      some operation

/-- The options behind the loop stand for the last command, so that `main` finds
an operation for whatever `parseArgs` accepts. -/
theorem chosen_of_takeOperands {argv : List CString} {options : Options}
    (read : readOptions (getopt optstring none (argv.map CString.bytes)).1 .initial =
      some options) (command : options.cmd ≠ 0) {operands : Operands}
    (takes : takeOperands options.cmd (operandsOf argv) = .ok operands) (devPath : CString) :
    Chosen argv { options, devPath, operands } := by
  have stands := stands_readOptions read
  cases last : Verb.last (getopt optstring none (argv.map CString.bytes)).1 with
  | none =>
      rw [last] at stands
      exact absurd stands.cmd command
  | some verb =>
      rw [last] at stands
      rcases stands.operation (operandsOf argv) with
        ⟨taken, operation, accepts, wanted, chosen⟩ | ⟨missing, refuses, _⟩
      · cases takes.symm.trans accepts
        exact ⟨operation, by rw [requested, last]; exact wanted, chosen⟩
      · cases takes.symm.trans refuses

/-- Arguments that lead to an operation, on a device that is not the lock file. -/
structure Ready (argv : List CString) (arguments : Arguments) : Prop where
  device : arguments.devPath ≠ PUPPY_LOCKFILE
  operation : Chosen argv arguments

/-- A command line with known options in words of their own, a double dash and the
operands.  With a device given, `parseArgs` accepts it exactly when the last
command that is recognised has its operands, and leaves `main` with that
command's operation. -/
theorem parseArgs_plain {argv operands : List CString} {results : List (Opt UInt8)}
    (plain : argv.map CString.bytes =
      commandLine optstring results (operands.map CString.bytes))
    (known : ∀ result ∈ results, result.Known optstring) {devPath : CString}
    (device : lastDevice results = some devPath) (lockFd : Int) (stack : Finder) :
    (∃ operation arguments,
      ((Verb.last results).bind fun verb => verb.operation operands) = some operation ∧
      parseArgs lockFd stack argv = .done (some arguments) ∧ arguments.devPath = devPath ∧
      chooseOperation arguments.options.cmd arguments.options.sendDirection arguments.operands =
        some operation) ∨
    (((Verb.last results).bind fun verb => verb.operation operands) = none ∧
      ∃ notice, parseArgs lockFd stack argv = .call (.print notice) fun _ => .done none) := by
  have words : getopt optstring none (argv.map CString.bytes) =
      (results, operands.map CString.bytes) := by
    rw [plain, getopt_commandLine known]
  have strings : operandsOf argv = operands := by
    rw [operandsOf, words, List.map_map]
    exact List.map_id'' upToNul_bytes operands
  obtain ⟨options, read, given⟩ := @readOptions_of_known results .initial known
  have stands := stands_readOptions read
  have devices : options.devPath = some devPath := given.trans device
  unfold parseArgs
  rw [words, read, strings]
  simp only [devices]
  cases last : Verb.last results with
  | none =>
      rw [last] at stands
      rw [if_pos (show options.cmd = 0 from stands.cmd)]
      exact Or.inr ⟨rfl, .usage, rfl⟩
  | some verb =>
      rw [last] at stands
      have command : options.cmd ≠ 0 := by
        rw [stands.cmd]
        cases verb <;> decide
      rw [if_neg command, finishArgs, Option.bind_some]
      rcases stands.operation operands with
        ⟨taken, operation, takes, wanted, chosen⟩ | ⟨missing, takes, wanted⟩
      · rw [takes]
        exact Or.inl ⟨operation, ⟨options, devPath, taken⟩, wanted, rfl, rfl, chosen⟩
      · rw [takes]
        exact Or.inr ⟨wanted, .missing missing, rfl⟩

/-- The options of an upload, with a download before it. -/
def putOptions : List (Opt UInt8) :=
  [.withArgument 0x64 defaultDevice.bytes, .withArgument 0x63 (Stdio.word "get"), .plain 0x71,
    .withArgument 0x63 (Stdio.word "put")]

/-- What the variables of `findToppy` hold. -/
def noFinder : Finder := ⟨[], 0, 0, 0, 0, false, []⟩

/-- "a" and "b" -/
def putOperands : List CString := [upToNul (Stdio.word "a"), upToNul (Stdio.word "b")]

/-- "-d", "/dev/puppy", "-c", "get", "-q", "-c", "put", "--", "a", "b" -/
def putLine : List CString :=
  [upToNul (Stdio.word "-d"), defaultDevice, upToNul (Stdio.word "-c"),
    upToNul (Stdio.word "get"), upToNul (Stdio.word "-q"), upToNul (Stdio.word "-c"),
    upToNul (Stdio.word "put"), upToNul (Stdio.word "--")] ++ putOperands

/-- The direction is that of the last command. -/
theorem parseArgs_plain_put :
    ∃ arguments, parseArgs 0 noFinder putLine = .done (some arguments) ∧
      arguments.devPath = defaultDevice ∧
      chooseOperation arguments.options.cmd arguments.options.sendDirection arguments.operands =
        some (.filePut putOperands[0]? putOperands[1]?) := by
  have known : ∀ result ∈ putOptions, result.Known optstring := by
    intro result member
    simp only [putOptions, List.mem_cons, List.not_mem_nil, or_false] at member
    rcases member with rfl | rfl | rfl | rfl
    all_goals exact ⟨by decide, rfl⟩
  have device : lastDevice putOptions = some defaultDevice :=
    congrArg some (upToNul_bytes defaultDevice)
  have plain : putLine.map CString.bytes = commandLine optstring putOptions
      (putOperands.map CString.bytes) := by
    decide +kernel
  rcases parseArgs_plain plain known device 0 noFinder with
    ⟨operation, arguments, wanted, accepts, path, chosen⟩ | ⟨refused, _⟩
  · cases wanted
    exact ⟨arguments, accepts, path, chosen⟩
  · cases refused

variable {paths : Paths}

/-- Where `main` stands between opening the lock file and locking it. -/
def Searched (lockFd inode : Nat) (stage : Stage) : Prop :=
  stage = .opened lockFd inode ∨ stage = .scanning lockFd inode

theorem conducts_findToppy (lockFd inode : Nat) (stack : Finder) :
    Conducts .tool paths
      (fun devPath last => Searched lockFd inode last ∧ devPath ≠ some PUPPY_LOCKFILE)
      (findToppy lockFd stack) (.opened lockFd inode) := by
  apply conducts_flock (.scan rfl)
  · rintro last (rfl | ⟨⟨⟩⟩)
    rw [if_pos (show (-1 : Int) ≠ 0 by decide)]
    refine conducts_print trivial ?_
    exact ⟨Or.inl rfl, by rintro ⟨⟩⟩
  · rw [if_neg (not_not_intro rfl)]
    apply conducts_devices
    intro devices
    cases scan : scanDevices devices stack with
    | again finder => exact ⟨Or.inr rfl, by rintro ⟨⟩⟩
    | leave result =>
        cases result with
        | error error =>
            refine conducts_print trivial ?_
            exact ⟨Or.inr rfl, by rintro ⟨⟩⟩
        | ok path =>
            refine ⟨Or.inr rfl, ?_⟩
            intro same
            exact upToNul_ne_lockFile (scanDevices_path scan) (Option.some.inj same)

theorem conducts_finishArgs {stage : Stage} {argv : List CString} {options : Options}
    {devPath : CString} (elsewhere : devPath ≠ PUPPY_LOCKFILE)
    (read : readOptions (getopt optstring none (argv.map CString.bytes)).1 .initial =
      some options) (command : options.cmd ≠ 0) :
    Conducts .tool paths
      (fun result last => last = stage ∧ ∀ arguments, result = some arguments →
        Ready argv arguments)
      (finishArgs options devPath (operandsOf argv)) stage := by
  rw [finishArgs]
  cases takes : takeOperands options.cmd (operandsOf argv) with
  | error missing =>
      refine conducts_print trivial ?_
      exact ⟨rfl, by rintro arguments ⟨⟩⟩
  | ok operands =>
      refine ⟨rfl, ?_⟩
      rintro arguments ⟨⟩
      exact ⟨elsewhere, chosen_of_takeOperands read command takes devPath⟩

theorem conducts_parseArgs {argv : List CString}
    (elsewhere : deviceGiven argv ≠ some PUPPY_LOCKFILE)
    (lockFd inode : Nat) (stack : Finder) :
    Conducts .tool paths
      (fun result last => Searched lockFd inode last ∧ ∀ arguments, result = some arguments →
        Ready argv arguments)
      (parseArgs lockFd stack argv) (.opened lockFd inode) := by
  have refuses : Conducts .tool paths
      (fun result last => Searched lockFd inode last ∧ ∀ arguments, result = some arguments →
        Ready argv arguments)
      (call (.print .usage) >>= fun _ => pure none) (.opened lockFd inode) := by
    refine conducts_print trivial ?_
    exact ⟨Or.inl rfl, by rintro arguments ⟨⟩⟩
  unfold parseArgs
  cases read : readOptions (getopt optstring none (argv.map CString.bytes)).1 .initial with
  | none => exact refuses
  | some options =>
      simp only
      by_cases command : options.cmd = 0
      · rw [if_pos command]
        exact refuses
      · rw [if_neg command]
        rw [deviceGiven, read, Option.bind_some] at elsewhere
        cases given : options.devPath with
        | some devPath =>
            rw [given] at elsewhere
            refine (conducts_finishArgs (fun same => elsewhere (congrArg some same)) read
              command).mono ?_
            rintro result last ⟨rfl, ready⟩
            exact ⟨Or.inl rfl, ready⟩
        | none =>
            apply (conducts_findToppy lockFd inode stack).bind
            rintro (_ | devPath) last ⟨searched, found⟩
            · exact ⟨searched, by rintro arguments ⟨⟩⟩
            · refine (conducts_finishArgs (fun same => found (congrArg some same)) read
                command).mono ?_
              rintro result final ⟨rfl, ready⟩
              exact ⟨searched, ready⟩

/-- The device is not open. -/
def Apart : Stage → Prop
  | .attached _ _ _ _ | .claimed _ _ _ _ | .releasing _ _ _ _ | .gone _ => False
  | .idle | .opened _ _ | .scanning _ _ | .scanned _ _ | .locked _ _ | .detached _ _
  | .unlinked _ _ | .left _ _ | .finished _ => True

theorem conducts_closeDevice {stage after : Stage} {fd : Nat}
    (closes : Closes .tool stage fd after) (apart : Apart after) (error : Int) :
    Conducts .tool paths (fun _ last => Apart last) (closeDevice fd error) stage := by
  apply conducts_close closes
  intro _
  exact apart

section UseDevice

variable {serve : Int → Operation → Sys Int} {argv : List CString} {arguments : Arguments}
  {lockFd inode fd number : Nat}
  (serves : ∀ fd operation, requested argv = some operation →
    (serve fd operation).Makes (Works fd))
  (ready : Ready argv arguments)
include serves ready

/-- Only the operation that the command line asks for is served. -/
theorem conducts_runCommand (distinct : fd ≠ lockFd) :
    Conducts .tool paths (fun _ last => Apart last) (runCommand serve fd arguments)
      (.claimed lockFd inode fd number) := by
  obtain ⟨operation, wanted, chosen⟩ := ready.operation
  have holds : (Stage.claimed lockFd inode fd number).Holds fd := ⟨_, _, _, rfl⟩
  rw [runCommand]
  simp only [chosen]
  apply (conducts_works (serves fd operation wanted) holds).bind
  rintro r last rfl
  apply conducts_ioctl holds
  intro _
  exact conducts_closeDevice (.leave distinct) trivial r

theorem conducts_useDevice (distinct : fd ≠ lockFd) :
    Conducts .tool paths (fun _ last => Apart last) (useDevice serve fd arguments)
      (.claimed lockFd inode fd number) := by
  have holds : (Stage.claimed lockFd inode fd number).Holds fd := ⟨_, _, _, rfl⟩
  have fails (error : Int) : Conducts .tool paths (fun _ last => Apart last)
      (closeDevice fd error) (.claimed lockFd inode fd number) :=
    conducts_closeDevice (.leave distinct) trivial error
  apply (conducts_readDeviceDescriptor holds).bind
  rintro (_ | desc) last rfl
  · exact fails E_READ_DEVICE
  · simp only
    by_cases other : ¬ isToppy desc
    · rw [if_pos other]
      refine conducts_print trivial ?_
      exact fails E_NOT_TF5000PVR
    · rw [if_neg other]
      apply conducts_ioctl holds
      intro r
      by_cases unreset : r < 0
      · rw [if_pos unreset]
        refine conducts_print trivial ?_
        exact fails E_RESET_DEVICE
      · rw [if_neg unreset]
        apply conducts_ioctl holds
        intro r
        by_cases unclaimed : r < 0
        · rw [if_pos unclaimed]
          refine conducts_print trivial ?_
          exact fails E_CLAIM_INTERFACE
        · rw [if_neg unclaimed]
          apply conducts_ioctl holds
          intro r
          by_cases failed : r < 0
          · rw [if_pos failed]
            refine conducts_print trivial ?_
            exact fails E_SET_INTERFACE
          · rw [if_neg failed]
            exact conducts_runCommand serves ready distinct

variable (elsewhere : ∀ path, path ≠ PUPPY_LOCKFILE → paths.node path ≠ none)
include elsewhere

theorem conducts_lockDevice {stage : Stage} (searched : Searched lockFd inode stage) :
    Conducts .tool paths (fun _ last => Apart last) (lockDevice serve lockFd arguments) stage := by
  have locks : Locks .tool stage lockFd .shared (.locked lockFd inode) := by
    rcases searched with rfl | rfl
    · exact .share
    · exact .convert rfl
  apply conducts_flock locks
  · intro last place
    rw [if_pos (show (-1 : Int) ≠ 0 by decide)]
    refine conducts_print trivial ?_
    rcases place with rfl | ⟨⟨⟩⟩
    · rcases searched with rfl | rfl
      · trivial
      · trivial
    · trivial
  · rw [if_neg (not_not_intro rfl)]
    apply conducts_openDevice (elsewhere _ ready.device)
    · rw [if_pos (show (-1 : Int) < 0 from Int.negSucc_lt_zero 0)]
      refine conducts_print trivial ?_
      trivial
    · intro fd number distinct
      rw [if_neg (Int.not_lt.mpr (Int.natCast_nonneg fd))]
      apply conducts_flock (.claim distinct)
      · rintro last (rfl | ⟨⟨⟩⟩)
        rw [if_pos (show (-1 : Int) ≠ 0 by decide)]
        refine conducts_print trivial ?_
        exact conducts_closeDevice (.abandon distinct) trivial E_DEVICE_LOCK
      · rw [if_neg (not_not_intro rfl)]
        exact conducts_useDevice serves ready distinct

end UseDevice

/-- `main` follows the discipline to its end, where the device is closed. -/
theorem conducts_main {serve : Int → Operation → Sys Int} {argv : List CString}
    (serves : ∀ fd operation, requested argv = some operation →
      (serve fd operation).Makes (Works fd))
    (elsewhere : ∀ path, path ≠ PUPPY_LOCKFILE → paths.node path ≠ none)
    (given : deviceGiven argv ≠ some PUPPY_LOCKFILE) (stack : Finder) :
    Conducts .tool paths (fun _ last => Apart last) (main serve stack argv) .idle := by
  apply conducts_openLockFile
  · rw [if_pos (show (-1 : Int) < 0 from Int.negSucc_lt_zero 0)]
    refine conducts_print trivial ?_
    trivial
  · intro lockFd inode
    rw [if_neg (Int.not_lt.mpr (Int.natCast_nonneg lockFd))]
    apply (conducts_parseArgs given lockFd inode stack).bind
    rintro (_ | arguments) last ⟨searched, ready⟩
    · rcases searched with rfl | rfl
      · trivial
      · trivial
    · exact conducts_lockDevice serves (ready arguments rfl) elsewhere searched

end Puppy.Tool
