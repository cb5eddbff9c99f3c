import Puppy.Lock.Open

/-!
# The stages of a process

What a process has open besides the descriptors it started with, and which of
its calls move it from one stage to the next.  A stage says which phase of the
protocol the process is in, and what its table of descriptors is.
-/

namespace Puppy.Lock

open Process

/-- What a process has open. -/
inductive Stage where
  /-- Nothing yet. -/
  | idle
  /-- The lock file, without a lock. -/
  | opened (lockFd inode : Nat)
  /-- The lock file, with the exclusive lock. -/
  | scanning (lockFd inode : Nat)
  /-- The lock file, with the exclusive lock given up. -/
  | scanned (lockFd inode : Nat)
  /-- The lock file, with the shared lock. -/
  | locked (lockFd inode : Nat)
  /-- The lock file, with the shared lock, and the device. -/
  | attached (lockFd inode fd node : Nat)
  /-- The lock file, with the shared lock, and the device, with the exclusive lock. -/
  | claimed (lockFd inode fd node : Nat)
  /-- The device, locked or not, after a failure. -/
  | releasing (inode fd node : Nat) (lock : Option LockMode)
  /-- The lock file, with the shared lock, and no longer the device. -/
  | detached (lockFd inode : Nat)
  /-- The same, with the name of the lock file removed. -/
  | unlinked (lockFd inode : Nat)
  /-- The lock file, with the shared lock, until the program ends. -/
  | left (lockFd inode : Nat)
  /-- Nothing any more. -/
  | finished (inode : Nat)
  /-- The process has ended. -/
  | gone (inode : Nat)
  deriving DecidableEq

namespace Stage

/-- The phase of the protocol. -/
def phase : Stage → Phase
  | idle => .idle
  | opened _ _ => .opened
  | scanning _ _ => .scanning
  | scanned _ _ => .scanned
  | locked _ _ => .locked
  | attached _ _ _ node => .attached node
  | claimed _ _ _ node => .claimed node
  | releasing _ _ node _ => .releasing node
  | detached _ _ => .detached
  | unlinked _ _ => .unlinked
  | left _ _ | finished _ | gone _ => .finished

/-- The inode that is, or was last, open as the lock file. -/
def inode : Stage → Nat
  | idle => 0
  | opened _ inode | scanning _ inode | scanned _ inode | locked _ inode | attached _ inode _ _
  | claimed _ inode _ _ | releasing inode _ _ _ | detached _ inode | unlinked _ inode
  | left _ inode | finished inode | gone inode => inode

/-- A table with one more descriptor. -/
def also (fd : Nat) (file : File) (lock : Option LockMode) (table : Nat → Option Description) :
    Nat → Option Description :=
  Function.update table fd (some ⟨file, lock⟩)

/-- The descriptors of a process that started with those of `base`. -/
def table (base : Nat → Option Description) : Stage → Nat → Option Description
  | idle | finished _ => base
  | opened lockFd inode | scanned lockFd inode => also lockFd (.lockFile inode) none base
  | scanning lockFd inode => also lockFd (.lockFile inode) (some .exclusive) base
  | locked lockFd inode | detached lockFd inode | unlinked lockFd inode | left lockFd inode =>
      also lockFd (.lockFile inode) (some .shared) base
  | attached lockFd inode fd node =>
      also fd (.node node) none (also lockFd (.lockFile inode) (some .shared) base)
  | claimed lockFd inode fd node =>
      also fd (.node node) (some .exclusive) (also lockFd (.lockFile inode) (some .shared) base)
  | releasing _ fd node lock => also fd (.node node) lock base
  | gone _ => fun _ => none

/-- The descriptors were unused before. -/
def Placed (base : Nat → Option Description) : Stage → Prop
  | idle | finished _ | gone _ => True
  | opened lockFd _ | scanning lockFd _ | scanned lockFd _ | locked lockFd _ | detached lockFd _
  | unlinked lockFd _ | left lockFd _ => base lockFd = none
  | attached lockFd _ fd _ | claimed lockFd _ fd _ =>
      base lockFd = none ∧ base fd = none ∧ fd ≠ lockFd
  | releasing _ fd _ _ => base fd = none

end Stage

/-! ## Moving from stage to stage -/

/-- A lock that is granted. -/
inductive Locks (kind : Program) : Stage → Nat → LockMode → Stage → Prop
  | scan {lockFd inode : Nat} (tool : kind = .tool) :
      Locks kind (.opened lockFd inode) lockFd .exclusive (.scanning lockFd inode)
  | share {lockFd inode : Nat} :
      Locks kind (.opened lockFd inode) lockFd .shared (.locked lockFd inode)
  | convert {lockFd inode : Nat} (tool : kind = .tool) :
      Locks kind (.scanning lockFd inode) lockFd .shared (.locked lockFd inode)
  | converted {lockFd inode : Nat} (tool : kind = .tool) :
      Locks kind (.scanned lockFd inode) lockFd .shared (.locked lockFd inode)
  | claim {lockFd inode fd node : Nat} (distinct : fd ≠ lockFd) :
      Locks kind (.attached lockFd inode fd node) fd .exclusive (.claimed lockFd inode fd node)

/-- A descriptor that is closed. -/
inductive Closes : Program → Stage → Nat → Stage → Prop
  | early {lockFd inode : Nat} :
      Closes .library (.opened lockFd inode) lockFd (.finished inode)
  | locked {lockFd inode : Nat} :
      Closes .library (.locked lockFd inode) lockFd (.finished inode)
  | attached {lockFd inode fd node : Nat} (distinct : fd ≠ lockFd) :
      Closes .library (.attached lockFd inode fd node) lockFd (.releasing inode fd node none)
  | claimed {lockFd inode fd node : Nat} (distinct : fd ≠ lockFd) :
      Closes .library (.claimed lockFd inode fd node) lockFd
        (.releasing inode fd node (some .exclusive))
  | releasing {inode fd node : Nat} {lock : Option LockMode} :
      Closes .library (.releasing inode fd node lock) fd (.finished inode)
  | detach {lockFd inode fd node : Nat} (distinct : fd ≠ lockFd) :
      Closes .library (.claimed lockFd inode fd node) fd (.detached lockFd inode)
  | unlinked {lockFd inode : Nat} :
      Closes .library (.unlinked lockFd inode) lockFd (.finished inode)
  | abandon {lockFd inode fd node : Nat} (distinct : fd ≠ lockFd) :
      Closes .tool (.attached lockFd inode fd node) fd (.left lockFd inode)
  | leave {lockFd inode fd node : Nat} (distinct : fd ≠ lockFd) :
      Closes .tool (.claimed lockFd inode fd node) fd (.left lockFd inode)

/-- The device is open and locked. -/
def Stage.Holds (stage : Stage) (fd : Nat) : Prop :=
  ∃ lockFd inode node, stage = .claimed lockFd inode fd node

/-- The calls a program may make: on negative descriptors any, on others those
that the stage is about, and on the device only while it is locked.  No command
is reported as a bug. -/
def Permits (kind : Program) (paths : Paths) (stage : Stage) : SysCall → Prop
  | .openLockFile => stage = .idle
  | .openDevice path => paths.node path ≠ none ∧ ∃ lockFd inode, stage = .locked lockFd inode
  | .flock fd mode => fd < 0 ∨ ∃ (k : Nat) (after : Stage), fd = k ∧ Locks kind stage k mode after
  | .close fd => fd < 0 ∨ ∃ (k : Nat) (after : Stage), fd = k ∧ Closes kind stage k after
  | .read fd | .ioctl fd _ | .bulk fd _ => fd < 0 ∨ ∃ k : Nat, fd = k ∧ stage.Holds k
  | .unlinkLockFile => ∃ lockFd inode, stage = .detached lockFd inode
  | .print notice => notice.Known
  | .getenv | .devices | .other _ => True

/-- The old lock is given up before a new one is granted. -/
inductive Converts (kind : Program) : Stage → Nat → LockMode → Stage → Prop
  | scanned {lockFd inode : Nat} (tool : kind = .tool) :
      Converts kind (.scanning lockFd inode) lockFd .shared (.scanned lockFd inode)

/-- The stages a call leads to. -/
def Leads (kind : Program) (paths : Paths) (stage : Stage) :
    (request : SysCall) → request.Answer → Stage → Prop
  | .openLockFile, answer, after =>
      answer = -1 ∧ after = stage ∨
        ∃ lockFd inode : Nat, answer = lockFd ∧ after = .opened lockFd inode
  | .openDevice _, answer, after =>
      answer = -1 ∧ after = stage ∨
        ∃ lockFd inode fd node : Nat, stage = .locked lockFd inode ∧ fd ≠ lockFd ∧
          answer = fd ∧ after = .attached lockFd inode fd node
  | .flock fd mode, answer, after =>
      answer = -1 ∧ (after = stage ∨ ∃ k : Nat, fd = k ∧ Converts kind stage k mode after) ∨
        answer = 0 ∧ ∃ k : Nat, fd = k ∧ Locks kind stage k mode after
  | .close fd, _, after =>
      fd < 0 ∧ after = stage ∨ ∃ k : Nat, fd = k ∧ Closes kind stage k after
  | .read fd, answer, after | .bulk fd _, answer, after =>
      (fd < 0 → answer = none) ∧ after = stage
  | .ioctl fd _, answer, after => (fd < 0 → answer = -1) ∧ after = stage
  | .unlinkLockFile, _, after =>
      ∃ lockFd inode, stage = .detached lockFd inode ∧ after = .unlinked lockFd inode
  | .getenv, answer, after => answer = paths.puppy ∧ after = stage
  | .devices, _, after | .print _, _, after | .other _, _, after => after = stage

/-- How the programs go about the lock file and the device. -/
def discipline (kind : Program) (paths : Paths) :
    Discipline SysCall SysCall.Answer Stage where
  Permits := Permits kind paths
  Prepares stage request after :=
    ∃ (k : Nat) (mode : LockMode), request = .flock k mode ∧ Converts kind stage k mode after
  Moves := Leads kind paths
  permits_of_prepares := by
    rintro stage request after ⟨k, mode, rfl, ⟨tool⟩⟩ _
    exact Or.inr ⟨_, _, rfl, .converted tool⟩
  moves_of_prepares := by
    rintro stage request after answer last ⟨k, mode, rfl, ⟨tool⟩⟩ moves
    rcases moves with ⟨rfl, rfl | ⟨j, same, ⟨⟩⟩⟩ | ⟨rfl, j, same, locks⟩
    · exact Or.inl ⟨rfl, Or.inr ⟨_, rfl, .scanned tool⟩⟩
    · cases Int.ofNat.inj same
      cases locks
      exact Or.inr ⟨rfl, _, rfl, .convert tool⟩

end Puppy.Lock
