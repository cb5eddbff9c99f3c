import Puppy.Transition.Runs
import Mathlib.Logic.Function.Basic

/-!
# Processes around the lock file

`puppy.c` and the programs over `libpuppy.c` meet at `/tmp/puppy`: each opens
it, creating it when the name is absent, takes a lock on the inode it got, and
then opens and locks its device.  `puppy.c` first takes the lock exclusively to
scan for devices; `puppy_done` removes the name.  A step is one system call of
one process, and any number of processes take steps in any order.  A lock of
`flock` belongs to an inode and is converted in two steps, the old lock first
being given up.
-/

namespace Puppy.Lock

open Transition

universe u

/-- The programs that use the lock file. -/
inductive Program where
  /-- `main` of `puppy.c` -/
  | tool
  /-- A program that calls `puppy_open` and `puppy_done`. -/
  | library
  deriving DecidableEq, Repr

/-- Where a process stands. -/
inductive Phase where
  /-- Before the lock file is opened. -/
  | idle
  /-- `lockFd` is open. -/
  | opened
  /-- `findToppy` has the exclusive lock and scans for devices. -/
  | scanning
  /-- The exclusive lock was given up for the shared one that `main` asks for. -/
  | scanned
  /-- The shared lock was taken. -/
  | locked
  /-- The device is open. -/
  | attached (device : Nat)
  /-- The device is open and locked. -/
  | claimed (device : Nat)
  /-- `puppy_open` has failed and closed `lockFd`, and is about to close the device. -/
  | releasing (device : Nat)
  /-- `puppy_done` has closed the device. -/
  | detached
  /-- `puppy_done` has removed the name of the lock file. -/
  | unlinked
  /-- Everything is closed. -/
  | finished
  deriving DecidableEq, Repr

/-- `LOCK_SH` and `LOCK_EX` -/
inductive LockMode where
  | shared
  | exclusive
  deriving DecidableEq, Repr

namespace Phase

/-- The lock a process holds on the inode behind its `lockFd`. -/
def lock : Phase → Option LockMode
  | scanning => some .exclusive
  | locked | attached _ | claimed _ | detached | unlinked => some .shared
  | idle | opened | scanned | releasing _ | finished => none

/-- `lockFd` is open. -/
def HasLockFile : Phase → Prop
  | idle | releasing _ | finished => False
  | opened | scanning | scanned | locked | attached _ | claimed _ | detached | unlinked => True

instance : DecidablePred HasLockFile
  | idle | releasing _ | finished => isFalse id
  | opened | scanning | scanned | locked | attached _ | claimed _ | detached | unlinked =>
      isTrue trivial

/-- The process has taken its lock, and has neither closed its device again nor
given it up. -/
def Uses : Phase → Prop
  | locked | attached _ | claimed _ => True
  | idle | opened | scanning | scanned | releasing _ | detached | unlinked | finished => False

/-- The process uses its device or may still come to use it, having opened the
lock file. -/
def Engaged : Phase → Prop
  | opened | scanning | scanned | locked | attached _ | claimed _ => True
  | idle | releasing _ | detached | unlinked | finished => False

theorem Uses.engaged {phase : Phase} (uses : phase.Uses) : phase.Engaged := by
  cases phase <;> first | exact uses.elim | trivial

/-- A process that uses its device has the shared lock. -/
theorem Uses.lock {phase : Phase} (uses : phase.Uses) : phase.lock = some .shared := by
  cases phase <;> first | exact uses.elim | rfl

end Phase

/-- The name of the lock file, and all processes. -/
structure System (ι : Type u) where
  /-- The inode `/tmp/puppy` stands for. -/
  file : Option Nat
  phase : ι → Phase
  /-- The inode behind `lockFd`, as long as that is open. -/
  inode : ι → Nat

namespace System

variable {ι : Type u} [DecidableEq ι]

/-- No process has started. -/
def initial (file : Option Nat) : System ι where
  file
  phase _ := .idle
  inode _ := 0

/-- A process goes on to a phase. -/
def goto (system : System ι) (i : ι) (phase : Phase) : System ι :=
  { system with phase := Function.update system.phase i phase }

/-- `open` returns a descriptor for an inode. -/
def openInode (system : System ι) (i : ι) (inode : Nat) : System ι :=
  { system.goto i .opened with
    file := some inode
    inode := Function.update system.inode i inode }

omit [DecidableEq ι] in
/-- `flock` grants a lock when no other process has a conflicting one on the
same inode. -/
def Grants (system : System ι) (i : ι) (mode : LockMode) : Prop :=
  ∀ j, j ≠ i → system.inode j = system.inode i →
    (system.phase j).lock = none ∨ mode = .shared ∧ (system.phase j).lock = some .shared

end System

/-- The system calls on the lock file and the device, and the end of a process. -/
inductive Event (ι : Type u) where
  | openLockFile (i : ι)
  | flockExclusive (i : ι)
  | flockRelease (i : ι)
  | flockShared (i : ι)
  | openDevice (i : ι)
  | flockDevice (i : ι)
  | closeDevice (i : ι)
  | unlinkLockFile (i : ι)
  | closeLockFile (i : ι)
  | exit (i : ι)

variable {ι : Type u} [DecidableEq ι]

/-- One system call of one process. -/
inductive Moves (program : ι → Program) : System ι → Event ι → System ι → Prop
  /-- `open("/tmp/puppy", O_CREAT)` finds the name. -/
  | openNamed {system : System ι} {i : ι} {inode : Nat} (idle : system.phase i = .idle)
      (named : system.file = some inode) :
      Moves program system (.openLockFile i) (system.openInode i inode)
  /-- `open("/tmp/puppy", O_CREAT)` creates an inode that is not in use. -/
  | openCreates {system : System ι} {i : ι} {inode : Nat} (idle : system.phase i = .idle)
      (absent : system.file = none)
      (fresh : ∀ j, (system.phase j).HasLockFile → system.inode j ≠ inode) :
      Moves program system (.openLockFile i) (system.openInode i inode)
  /-- `findToppy`: `flock(lockFd, LOCK_EX | LOCK_NB)` succeeds. -/
  | flockExclusive {system : System ι} {i : ι} (tool : program i = .tool)
      (opened : system.phase i = .opened) (granted : system.Grants i .exclusive) :
      Moves program system (.flockExclusive i) (system.goto i .scanning)
  /-- `main`: `flock(lockFd, LOCK_SH | LOCK_NB)` first gives the exclusive lock up. -/
  | flockRelease {system : System ι} {i : ι} (tool : program i = .tool)
      (scanning : system.phase i = .scanning) :
      Moves program system (.flockRelease i) (system.goto i .scanned)
  /-- `flock(lockFd, LOCK_SH | LOCK_NB)` succeeds.  `puppy.c` comes here without
  a scan when it is given a device. -/
  | flockShared {system : System ι} {i : ι}
      (ready : system.phase i = .opened ∨ system.phase i = .scanned)
      (granted : system.Grants i .shared) :
      Moves program system (.flockShared i) (system.goto i .locked)
  /-- `open(devPath, O_RDWR)` succeeds. -/
  | openDevice {system : System ι} {i : ι} (device : Nat) (locked : system.phase i = .locked) :
      Moves program system (.openDevice i) (system.goto i (.attached device))
  /-- `flock(fd, LOCK_EX | LOCK_NB)` on the device succeeds. -/
  | flockDevice {system : System ι} {i : ι} {device : Nat}
      (attached : system.phase i = .attached device)
      (free : ∀ j, j ≠ i → system.phase j ≠ .claimed device) :
      Moves program system (.flockDevice i) (system.goto i (.claimed device))
  /-- `puppy_open` fails before the device is open. -/
  | openFails {system : System ι} {i : ι} (library : program i = .library)
      (early : system.phase i = .opened ∨ system.phase i = .locked) :
      Moves program system (.closeLockFile i) (system.goto i .finished)
  /-- `puppy_open` fails with the device open: `close(p->lockFd)`, -/
  | openFailsLate {system : System ι} {i : ι} {device : Nat} (library : program i = .library)
      (late : system.phase i = .attached device ∨ system.phase i = .claimed device) :
      Moves program system (.closeLockFile i) (system.goto i (.releasing device))
  /-- then `close(p->fd)`. -/
  | openFailed {system : System ι} {i : ι} {device : Nat}
      (releasing : system.phase i = .releasing device) :
      Moves program system (.closeDevice i) (system.goto i .finished)
  /-- `puppy_done`: `close(p->fd)`, -/
  | closeDevice {system : System ι} {i : ι} {device : Nat} (library : program i = .library)
      (claimed : system.phase i = .claimed device) :
      Moves program system (.closeDevice i) (system.goto i .detached)
  /-- `unlink(PUPPY_LOCKFILE)`, -/
  | unlinkLockFile {system : System ι} {i : ι} (detached : system.phase i = .detached) :
      Moves program system (.unlinkLockFile i) { system.goto i .unlinked with file := none }
  /-- which may fail, -/
  | unlinkFails {system : System ι} {i : ι} (detached : system.phase i = .detached) :
      Moves program system (.unlinkLockFile i) (system.goto i .unlinked)
  /-- and `close(p->lockFd)`. -/
  | closeLockFile {system : System ι} {i : ι} (unlinked : system.phase i = .unlinked) :
      Moves program system (.closeLockFile i) (system.goto i .finished)
  /-- `main` of `puppy.c` returns, at the end or after a failed call, `open` of the
  lock file fails, or a process is killed. -/
  | exit {system : System ι} (i : ι) :
      Moves program system (.exit i) (system.goto i .finished)

end Puppy.Lock
