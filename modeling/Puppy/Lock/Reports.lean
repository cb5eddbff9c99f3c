import Puppy.Lock.Programs

/-!
# What main reports

`parseArgs` keeps the command in two variables, and `main` finds its operation
in a `switch` over one of them, with a branch for commands that it does not
know.  Whatever the command line says, also with the lock file in the place of
the device, `parseArgs` accepts it only with the operation that it asks for, and
that branch is never reached.
-/

namespace Puppy.Tool

open Process Getopt
open Puppy.Lock
open Puppy.Cli (Finder scanDevices)

/-- Whatever is answered, a program does not report a command as not implemented,
and ends as described. -/
abbrev Reports {α : Type} (goal : α → Prop) (script : Sys α) : Prop :=
  Follows (Discipline.only SysCall.Known) (fun result _ => goal result) script ()

section Rules

variable {α : Type} {goal : α → Prop}

theorem reports_call {request : SysCall} {next : request.Answer → Sys α}
    (known : request.Known) (rest : ∀ answer, Reports goal (next answer)) :
    Reports goal (call request >>= next) :=
  ⟨known, fun answer _ _ => rest answer⟩

theorem reports_print {notice : Notice} {next : Unit → Sys α} (known : notice.Known)
    (rest : Reports goal (next ())) : Reports goal (call (.print notice) >>= next) := by
  refine reports_call known ?_
  intro _
  exact rest

end Rules

theorem reports_findToppy (lockFd : Int) (stack : Finder) :
    Reports (fun _ => True) (findToppy lockFd stack) := by
  refine reports_call trivial ?_
  intro r
  split
  · refine reports_print trivial ?_
    trivial
  · refine reports_call trivial ?_
    intro devices
    cases scanDevices devices stack with
    | again finder => trivial
    | leave result =>
        cases result with
        | error error =>
            refine reports_print trivial ?_
            trivial
        | ok path => trivial

/-- Arguments are accepted with the operation of the command line. -/
def Accepts (argv : List CString) (result : Option Arguments) : Prop :=
  ∀ arguments, result = some arguments → Chosen argv arguments

theorem accepts_none (argv : List CString) : Accepts argv none := by
  rintro arguments ⟨⟩

theorem reports_finishArgs {argv : List CString} {options : Options}
    (read : readOptions (getopt optstring none (argv.map CString.bytes)).1 .initial =
      some options) (command : options.cmd ≠ 0) (devPath : CString) :
    Reports (Accepts argv) (finishArgs options devPath (operandsOf argv)) := by
  rw [finishArgs]
  cases takes : takeOperands options.cmd (operandsOf argv) with
  | error missing =>
      refine reports_print trivial ?_
      exact accepts_none argv
  | ok operands =>
      rintro arguments ⟨⟩
      exact chosen_of_takeOperands read command takes devPath

/-- Whatever the command line, and whether a device is given or found. -/
theorem reports_parseArgs (lockFd : Int) (stack : Finder) (argv : List CString) :
    Reports (Accepts argv) (parseArgs lockFd stack argv) := by
  unfold parseArgs
  cases read : readOptions (getopt optstring none (argv.map CString.bytes)).1 .initial with
  | none =>
      refine reports_print trivial ?_
      exact accepts_none argv
  | some options =>
      simp only
      by_cases command : options.cmd = 0
      · rw [if_pos command]
        refine reports_print trivial ?_
        exact accepts_none argv
      · rw [if_neg command]
        cases options.devPath with
        | some devPath => exact reports_finishArgs read command devPath
        | none =>
            apply (reports_findToppy lockFd stack).bind
            rintro (_ | devPath) _ _
            · exact accepts_none argv
            · exact reports_finishArgs read command devPath

theorem reports_closeDevice (fd error : Int) :
    Reports (fun _ => True) (closeDevice fd error) := by
  refine reports_call trivial ?_
  intro _
  trivial

theorem reports_readDeviceDescriptor (fd : Int) :
    Reports (fun _ => True) (readDeviceDescriptor fd) := by
  refine reports_call trivial ?_
  rintro (_ | desc)
  · refine reports_print trivial ?_
    trivial
  · simp only
    split
    · refine reports_print trivial ?_
      trivial
    · trivial

/-- One step of the set-up of the device. -/
theorem reports_setUp (fd : Int) (control : Control) (notice : Notice) (error : Int)
    (known : notice.Known) {rest : Sys Int} (goesOn : Reports (fun _ => True) rest) :
    Reports (fun _ => True) (call (.ioctl fd control) >>= fun r =>
      if r < 0 then call (.print notice) >>= fun _ => closeDevice fd error else rest) := by
  refine reports_call trivial ?_
  intro r
  split
  · refine reports_print known ?_
    exact reports_closeDevice fd error
  · exact goesOn

section Serve

variable {serve : Int → Operation → Sys Int} {argv : List CString} {arguments : Arguments}
  (serves : ∀ fd operation, requested argv = some operation →
    (serve fd operation).Makes SysCall.Known)
include serves

section Command

variable (chosen : Chosen argv arguments)
include chosen

theorem reports_runCommand (fd : Int) :
    Reports (fun _ => True) (runCommand serve fd arguments) := by
  obtain ⟨operation, wanted, chosen⟩ := chosen
  rw [runCommand]
  simp only [chosen]
  have served : Reports (fun _ => True) (serve fd operation) :=
    (serves fd operation wanted).only fun _ => trivial
  apply served.bind
  intro r _ _
  refine reports_call trivial ?_
  intro _
  exact reports_closeDevice fd r

theorem reports_useDevice (fd : Int) :
    Reports (fun _ => True) (useDevice serve fd arguments) := by
  apply (reports_readDeviceDescriptor fd).bind
  rintro (_ | desc) _ _
  · exact reports_closeDevice fd E_READ_DEVICE
  · simp only
    split
    · refine reports_print trivial ?_
      exact reports_closeDevice fd E_NOT_TF5000PVR
    · refine reports_setUp fd .reset .canNotReset E_RESET_DEVICE trivial ?_
      refine reports_setUp fd .claimInterface .canNotClaim E_CLAIM_INTERFACE trivial ?_
      refine reports_setUp fd .setInterface .canNotSet E_SET_INTERFACE trivial ?_
      exact reports_runCommand serves chosen fd

theorem reports_lockDevice (lockFd : Int) :
    Reports (fun _ => True) (lockDevice serve lockFd arguments) := by
  refine reports_call trivial ?_
  intro r
  split
  · refine reports_print trivial ?_
    trivial
  · refine reports_call trivial ?_
    intro fd
    split
    · refine reports_print trivial ?_
      trivial
    · refine reports_call trivial ?_
      intro r
      split
      · refine reports_print trivial ?_
        exact reports_closeDevice fd E_DEVICE_LOCK
      · exact reports_useDevice serves chosen fd

end Command

/-- `main` gets no further than `parseArgs` without an operation. -/
theorem reports_main (stack : Finder) : Reports (fun _ => True) (main serve stack argv) := by
  refine reports_call trivial ?_
  intro lockFd
  split
  · refine reports_print trivial ?_
    trivial
  · apply (reports_parseArgs lockFd stack argv).bind
    rintro (_ | arguments) _ accepts
    · trivial
    · exact reports_lockDevice serves (accepts arguments rfl) lockFd

end Serve

end Puppy.Tool

namespace Puppy.Lock

open Process Transition
open Puppy.Tool

universe u

/-- It is `main`, and the functions for the commands do not report a command
themselves. -/
def Code.Serves {α : Type} : Code α → Prop
  | .tool serve _ argv =>
      ∀ fd operation, requested argv = some operation →
        (serve fd operation).Makes SysCall.Known
  | .library _ | .session _ _ => False

theorem Code.Serves.reports {α : Type} {code : Code α} (serves : code.Serves) :
    Reports (fun _ => True) code.script := by
  cases code with
  | library | session => exact serves.elim
  | tool serve stack argv => exact reports_main serves stack

/-- For every command line, `parseArgs` accepts it only with the operation that it
asks for; and in every run, whatever the device is and the kernel does, no `main`
is about to report a command as not implemented. -/
theorem known_of_print {ι : Type u} [DecidableEq ι] {α : ι → Type} {code : (i : ι) → Code (α i)}
    {paths : ι → Paths} {kernel : Kernel ι} {last : Processes α} {i : ι}
    (serves : (code i).Serves) (run : ReachesAny code paths kernel last) :
    (∀ lockFd stack argv,
      Reports (Accepts argv) (parseArgs lockFd stack argv)) ∧
    ∀ notice next, last.code i = some (.call (.print notice) next) → notice.Known := by
  refine ⟨reports_parseArgs, ?_⟩
  intro notice next pending
  have confined : ∀ script, last.code i = some script → Reports (fun _ => True) script := by
    apply Pool.follows_of_run run
    rintro _ ⟨⟩
    exact serves.reports
  exact (confined _ pending).1

/-- "-d", "/tmp/puppy", "-c", "get", "-c", "put", "--", "a", "b" -/
def lockFileLine : List CString :=
  [upToNul (Stdio.word "-d"), PUPPY_LOCKFILE, upToNul (Stdio.word "-c"),
    upToNul (Stdio.word "get"), upToNul (Stdio.word "-c"), upToNul (Stdio.word "put"),
    upToNul (Stdio.word "--"), upToNul (Stdio.word "a"), upToNul (Stdio.word "b")]

/-- A program over the library next to the tool with the lock file for a device. -/
def misdirected (i : Fin 2) : Code Int :=
  if i.val = 0 then .session none fun _ => pure 0
  else .tool (fun _ _ => pure 0) noFinder lockFileLine

/-- The tool shares the lock file, opens it once more in the place of the device,
and says that it can not lock it for itself. -/
theorem reaches_misdirected :
    ∃ last next, ReachesAny misdirected twoDevices emptyKernel last ∧
      last.code 1 = some (.call (.print (.canNotGetExclusiveLock PUPPY_LOCKFILE)) next) := by
  have start : Goes False twoDevices (startPool misdirected emptyKernel)
      (startPool misdirected emptyKernel) := .refl
  have chosen := start.answer 0 .getenv rfl .getenv fun _ => trivial
  have created := chosen.answer 0 .openLockFile rfl serves_openCreates fun _ => trivial
  have opened := created.answer 1 .openLockFile rfl (serves_openNamed 0 rfl) fun _ => trivial
  have shares := opened.answer 1 (.flock (0 : Nat) .shared) rfl
    (serves_flock rfl (by decide)) fun _ => trivial
  have again := shares.answer 1 (.openDevice PUPPY_LOCKFILE) rfl
    (serves_openDeviceNamed 1 (node_lockFile 1) rfl) fun _ => trivial
  have refused := again.answer 1 (.flock (1 : Nat) .exclusive) rfl .flockFails fun _ => trivial
  exact ⟨_, _, runs_any refused, rfl⟩

/-- `parseArgs` takes the lock file for the device, and the command line asks for
an upload. -/
theorem known_of_print_lockFile :
    ∃ (last : Processes fun _ : Fin 2 => Int) (next : Unit → Sys Int) (arguments : Arguments),
      ReachesAny misdirected twoDevices emptyKernel last ∧
      last.code 1 = some (.call (.print (.canNotGetExclusiveLock PUPPY_LOCKFILE)) next) ∧
      (Notice.canNotGetExclusiveLock PUPPY_LOCKFILE).Known ∧
      parseArgs 0 noFinder lockFileLine = .done (some arguments) ∧
      Chosen lockFileLine arguments := by
  obtain ⟨last, next, run, pending⟩ := reaches_misdirected
  have serves : (misdirected 1).Serves := fun _ _ _ => trivial
  obtain ⟨parses, prints⟩ := known_of_print serves run
  have accepts := parses 0 noFinder lockFileLine
  obtain ⟨arguments, parsed⟩ : ∃ arguments,
      parseArgs 0 noFinder lockFileLine = .done (some arguments) := ⟨_, rfl⟩
  rw [parsed] at accepts
  exact ⟨last, next, arguments, run, pending, prints _ _ pending, parsed, accepts arguments rfl⟩

end Puppy.Lock
