import Puppy.Lock.Stages

/-!
# How the library conducts itself

One rule for each system call says what has to be shown of the rest of a
program.  With them `puppy_open`, `puppy_done` and the programs around them
follow the discipline of the lock file: they use the device only while it is
locked, and close what they have opened.
-/

namespace Puppy.Lock

open Process

variable {kind : Program} {paths : Paths} {α : Type} {stage : Stage}

/-- A program follows the discipline from a stage on. -/
abbrev Conducts (kind : Program) (paths : Paths) (post : α → Stage → Prop)
    (script : Sys α) (stage : Stage) : Prop :=
  Follows (discipline kind paths) post script stage

/-! ## A rule for each call -/

theorem Locks.unique {k : Nat} {mode : LockMode} {first second : Stage}
    (left : Locks kind stage k mode first) (right : Locks kind stage k mode second) :
    first = second := by
  cases left <;> cases right <;> rfl

theorem Closes.unique {k : Nat} {first second : Stage} (left : Closes kind stage k first)
    (right : Closes kind stage k second) : first = second := by
  cases left <;> cases right <;> first | rfl | contradiction

section Rules

variable {post : α → Stage → Prop}

theorem conducts_print {notice : Notice} {next : Unit → Sys α}
    (known : notice.Known) (rest : Conducts kind paths post (next ()) stage) :
    Conducts kind paths post (call (.print notice) >>= next) stage := by
  refine ⟨known, ?_⟩
  rintro ⟨⟩ after rfl
  exact rest

theorem conducts_getenv {next : Option CString → Sys α}
    (rest : Conducts kind paths post (next paths.puppy) stage) :
    Conducts kind paths post (call .getenv >>= next) stage := by
  refine ⟨trivial, ?_⟩
  rintro answer after ⟨rfl, rfl⟩
  exact rest

theorem conducts_devices {next : Except Usb.Errno (List UInt8) → Sys α}
    (rest : ∀ answer, Conducts kind paths post (next answer) stage) :
    Conducts kind paths post (call .devices >>= next) stage := by
  refine ⟨trivial, ?_⟩
  rintro answer after rfl
  exact rest answer

theorem conducts_openLockFile {next : Int → Sys α}
    (fails : Conducts kind paths post (next (-1)) .idle)
    (rest : ∀ lockFd inode : Nat, Conducts kind paths post (next lockFd) (.opened lockFd inode)) :
    Conducts kind paths post (call .openLockFile >>= next) .idle := by
  refine ⟨rfl, ?_⟩
  rintro answer after (⟨rfl, rfl⟩ | ⟨lockFd, inode, rfl, rfl⟩)
  · exact fails
  · exact rest lockFd inode

theorem conducts_openDevice {path : CString} {next : Int → Sys α} {lockFd inode : Nat}
    (leads : paths.node path ≠ none)
    (fails : Conducts kind paths post (next (-1)) (.locked lockFd inode))
    (rest : ∀ fd number : Nat, fd ≠ lockFd →
      Conducts kind paths post (next fd) (.attached lockFd inode fd number)) :
    Conducts kind paths post (call (.openDevice path) >>= next) (.locked lockFd inode) := by
  refine ⟨⟨leads, lockFd, inode, rfl⟩, ?_⟩
  rintro answer after (⟨rfl, rfl⟩ | ⟨_, _, fd, number, same, distinct, rfl, rfl⟩)
  · exact fails
  · cases same
    exact rest fd number distinct

/-- The stage is where the lock was taken, or where it was tried in vain. -/
theorem conducts_flock {k : Nat} {mode : LockMode} {next : Int → Sys α} {after : Stage}
    (locks : Locks kind stage k mode after)
    (fails : ∀ last, last = stage ∨ Converts kind stage k mode last →
      Conducts kind paths post (next (-1)) last)
    (rest : Conducts kind paths post (next 0) after) :
    Conducts kind paths post (call (.flock k mode) >>= next) stage := by
  refine ⟨Or.inr ⟨k, after, rfl, locks⟩, ?_⟩
  rintro answer last (⟨rfl, same | ⟨j, same, converts⟩⟩ | ⟨rfl, j, same, granted⟩)
  · exact fails last (Or.inl same)
  · cases Int.ofNat.inj same
    exact fails last (Or.inr converts)
  · cases Int.ofNat.inj same
    rw [granted.unique locks]
    exact rest

theorem conducts_close {k : Nat} {next : Int → Sys α} {after : Stage}
    (closes : Closes kind stage k after)
    (rest : ∀ answer, Conducts kind paths post (next answer) after) :
    Conducts kind paths post (call (.close k) >>= next) stage := by
  refine ⟨Or.inr ⟨k, after, rfl, closes⟩, ?_⟩
  rintro answer last (⟨negative, _⟩ | ⟨j, same, closed⟩)
  · omega
  · cases Int.ofNat.inj same
    rw [closed.unique closes]
    exact rest answer

/-- Nothing happens when a descriptor is closed that is not there. -/
theorem conducts_close_negative {fd : Int} {next : Int → Sys α} (negative : fd < 0)
    (rest : ∀ answer, Conducts kind paths post (next answer) stage) :
    Conducts kind paths post (call (.close fd) >>= next) stage := by
  refine ⟨Or.inl negative, ?_⟩
  rintro answer last (⟨_, rfl⟩ | ⟨j, rfl, _⟩)
  · exact rest answer
  · omega

theorem conducts_read {k : Nat} {next : Option (List UInt8) → Sys α} (holds : stage.Holds k)
    (rest : ∀ answer, Conducts kind paths post (next answer) stage) :
    Conducts kind paths post (call (.read k) >>= next) stage := by
  refine ⟨Or.inr ⟨k, rfl, holds⟩, ?_⟩
  rintro answer last ⟨_, rfl⟩
  exact rest answer

theorem conducts_ioctl {k : Nat} {control : Control} {next : Int → Sys α}
    (holds : stage.Holds k) (rest : ∀ answer, Conducts kind paths post (next answer) stage) :
    Conducts kind paths post (call (.ioctl k control) >>= next) stage := by
  refine ⟨Or.inr ⟨k, rfl, holds⟩, ?_⟩
  rintro answer last ⟨_, rfl⟩
  exact rest answer

theorem conducts_ioctl_negative {fd : Int} {control : Control} {next : Int → Sys α}
    (negative : fd < 0) (rest : Conducts kind paths post (next (-1)) stage) :
    Conducts kind paths post (call (.ioctl fd control) >>= next) stage := by
  refine ⟨Or.inl negative, ?_⟩
  rintro answer last ⟨fails, rfl⟩
  rw [fails negative]
  exact rest

theorem conducts_unlinkLockFile {next : Int → Sys α} {lockFd inode : Nat}
    (rest : ∀ answer, Conducts kind paths post (next answer) (.unlinked lockFd inode)) :
    Conducts kind paths post (call .unlinkLockFile >>= next) (.detached lockFd inode) := by
  refine ⟨⟨lockFd, inode, rfl⟩, ?_⟩
  rintro answer last ⟨_, _, same, rfl⟩
  cases same
  exact rest answer

end Rules

/-! ## The library -/

/-- What a failed `puppy_open` leaves: the descriptors of the handle are negative
and nothing is open. -/
def Failed (p : Handle) (stage : Stage) : Prop :=
  p.error ≠ 0 ∧ p.lockFd = -1 ∧ p.fd = -1 ∧ (stage = .idle ∨ ∃ inode, stage = .finished inode)

/-- What a successful one leaves: the handle has the lock file and the device. -/
def Opened (p : Handle) (stage : Stage) : Prop :=
  p.error = 0 ∧ ∃ lockFd inode fd number : Nat, p.lockFd = lockFd ∧ p.fd = fd ∧ fd ≠ lockFd ∧
    stage = .claimed lockFd inode fd number

/-- A handle is as described by its error. -/
def Settled (p : Handle) (stage : Stage) : Prop := Failed p stage ∨ Opened p stage

/-- The device is open, locked or not. -/
inductive Attached (lockFd inode fd number : Nat) : Stage → Prop
  | attached : Attached lockFd inode fd number (.attached lockFd inode fd number)
  | claimed : Attached lockFd inode fd number (.claimed lockFd inode fd number)

theorem conducts_abandon {lockFd inode fd number : Nat} (distinct : fd ≠ lockFd)
    (device : Attached lockFd inode fd number stage) (old error : Int) :
    Conducts .library paths
      (fun p last => p = { lockFd := -1, fd := -1, error } ∧ last = .finished inode)
      (Handle.abandon { lockFd, fd, error := old } error) stage := by
  cases device with
  | attached =>
      apply conducts_close (.attached distinct)
      intro _
      apply conducts_close .releasing
      intro _
      exact ⟨rfl, rfl⟩
  | claimed =>
      apply conducts_close (.claimed distinct)
      intro _
      apply conducts_close .releasing
      intro _
      exact ⟨rfl, rfl⟩

theorem settled_of_abandoned {inode : Nat} {error : Int} (nonzero : error ≠ 0) (p : Handle)
    (last : Stage) (abandoned : p = { lockFd := -1, fd := -1, error } ∧ last = .finished inode) :
    Settled p last := by
  obtain ⟨rfl, rfl⟩ := abandoned
  exact Or.inl ⟨nonzero, rfl, rfl, Or.inr ⟨inode, rfl⟩⟩

/-- Closing twice fails the second time. -/
theorem conducts_abandon_again (inode : Nat) (old : Int) {error : Int} (nonzero : error ≠ 0) :
    Conducts kind paths Settled (Handle.abandon { lockFd := -1, fd := -1, error := old } error)
      (.finished inode) := by
  apply conducts_close_negative (Int.negSucc_lt_zero 0)
  intro _
  apply conducts_close_negative (Int.negSucc_lt_zero 0)
  intro _
  exact settled_of_abandoned nonzero _ _ ⟨rfl, rfl⟩

/-- Reading the descriptor changes nothing. -/
theorem conducts_readDeviceDescriptor {fd : Nat} (holds : stage.Holds fd) :
    Conducts kind paths (fun _ last => last = stage) (readDeviceDescriptor fd) stage := by
  apply conducts_read holds
  rintro (_ | desc)
  · refine conducts_print trivial ?_
    rfl
  · simp only
    split
    · refine conducts_print trivial ?_
      rfl
    · rfl

section SetUp

variable {lockFd inode fd number : Nat} (distinct : fd ≠ lockFd)
include distinct

/-- A failure while the device is locked. -/
theorem conducts_failure {error : Int} (nonzero : error ≠ 0) :
    Conducts .library paths Settled (Handle.abandon { lockFd, fd, error := 0 } error)
      (.claimed lockFd inode fd number) :=
  (conducts_abandon distinct .claimed 0 error).mono (settled_of_abandoned nonzero)

/-- Either the handle is what it was, or everything has been closed. -/
theorem conducts_claimInterface :
    Conducts .library paths
      (fun p last => p = { lockFd, fd, error := 0 } ∧ last = .claimed lockFd inode fd number ∨
        p = { lockFd := -1, fd := -1, error := E_CLAIM_INTERFACE } ∧ last = .finished inode)
      (claimInterface { lockFd, fd, error := 0 }) (.claimed lockFd inode fd number) := by
  apply conducts_ioctl ⟨_, _, _, rfl⟩
  intro r
  by_cases failed : r < 0
  · rw [if_pos failed]
    refine conducts_print trivial ?_
    apply (conducts_abandon distinct .claimed 0 E_CLAIM_INTERFACE).mono
    intro p last abandoned
    exact Or.inr abandoned
  · rw [if_neg failed]
    exact Or.inl ⟨rfl, rfl⟩

theorem conducts_setInterface :
    Conducts .library paths Settled (setInterface { lockFd, fd, error := 0 })
      (.claimed lockFd inode fd number) := by
  apply conducts_ioctl ⟨_, _, _, rfl⟩
  intro r
  by_cases failed : r < 0
  · rw [if_pos failed]
    refine conducts_print trivial ?_
    exact conducts_failure distinct (by decide)
  · rw [if_neg failed]
    exact Or.inr ⟨rfl, lockFd, inode, fd, number, rfl, rfl, distinct, rfl⟩

omit distinct in
/-- Behind a claim that failed, the descriptor is no longer there. -/
theorem conducts_setInterface_abandoned :
    Conducts .library paths Settled
      (setInterface { lockFd := -1, fd := -1, error := E_CLAIM_INTERFACE }) (.finished inode) := by
  apply conducts_ioctl_negative (Int.negSucc_lt_zero 0)
  rw [if_pos (show (-1 : Int) < 0 from Int.negSucc_lt_zero 0)]
  refine conducts_print trivial ?_
  exact conducts_abandon_again inode _ (by decide)

theorem conducts_setUpDevice :
    Conducts .library paths Settled (setUpDevice { lockFd, fd, error := 0 })
      (.claimed lockFd inode fd number) := by
  have holds : (Stage.claimed lockFd inode fd number).Holds fd := ⟨_, _, _, rfl⟩
  apply (conducts_readDeviceDescriptor holds).bind
  rintro (_ | desc) last rfl
  · exact conducts_failure distinct (by decide)
  · simp only
    by_cases other : ¬ isToppy desc
    · rw [if_pos other]
      refine conducts_print trivial ?_
      exact conducts_failure distinct (by decide)
    · rw [if_neg other]
      apply conducts_ioctl holds
      intro r
      by_cases failed : r < 0
      · rw [if_pos failed]
        refine conducts_print trivial ?_
        exact conducts_failure distinct (by decide)
      · rw [if_neg failed]
        apply (conducts_claimInterface distinct).bind
        rintro p last (⟨rfl, rfl⟩ | ⟨rfl, rfl⟩)
        · exact conducts_setInterface distinct
        · exact conducts_setInterface_abandoned

end SetUp

/-- The device `puppy_open` goes for. -/
def Paths.chosen (paths : Paths) (devPath : Option CString) : CString :=
  (devPath.or paths.puppy).getD defaultDevice

theorem conducts_chooseDevice (devPath : Option CString) :
    Conducts kind paths (fun path last => path = paths.chosen devPath ∧ last = stage)
      (chooseDevice devPath) stage := by
  cases devPath with
  | some path => exact ⟨rfl, rfl⟩
  | none =>
      apply conducts_getenv
      cases puppy : paths.puppy with
      | some path => exact ⟨by rw [Paths.chosen, puppy]; rfl, rfl⟩
      | none => exact ⟨by rw [Paths.chosen, puppy]; rfl, rfl⟩

/-- `puppy_open` ends with both descriptors and the device locked, or with
nothing open. -/
theorem conducts_puppyOpen {devPath : Option CString}
    (leads : paths.node (paths.chosen devPath) ≠ none) :
    Conducts .library paths Settled (puppyOpen devPath) .idle := by
  apply (conducts_chooseDevice devPath).bind
  rintro path last ⟨rfl, rfl⟩
  apply conducts_openLockFile
  · rw [if_pos (show (-1 : Int) < 0 from Int.negSucc_lt_zero 0)]
    refine conducts_print trivial ?_
    exact Or.inl ⟨by decide, rfl, rfl, Or.inl rfl⟩
  · intro lockFd inode
    rw [if_neg (Int.not_lt.mpr (Int.natCast_nonneg lockFd))]
    apply conducts_flock .share
    · rintro last (rfl | ⟨⟨⟩⟩)
      rw [if_pos (show (-1 : Int) ≠ 0 by decide)]
      refine conducts_print trivial ?_
      apply conducts_close .early
      intro _
      exact Or.inl ⟨by decide, rfl, rfl, Or.inr ⟨inode, rfl⟩⟩
    · rw [if_neg (not_not_intro rfl)]
      apply conducts_openDevice leads
      · rw [if_pos (show (-1 : Int) < 0 from Int.negSucc_lt_zero 0)]
        apply conducts_close .locked
        intro _
        refine conducts_print trivial ?_
        exact Or.inl ⟨by decide, rfl, rfl, Or.inr ⟨inode, rfl⟩⟩
      · intro fd number distinct
        rw [if_neg (Int.not_lt.mpr (Int.natCast_nonneg fd))]
        apply conducts_flock (.claim distinct)
        · rintro last (rfl | ⟨⟨⟩⟩)
          rw [if_pos (show (-1 : Int) ≠ 0 by decide)]
          apply (conducts_abandon distinct .attached 0 E_DEVICE_LOCK).bind
          intro p last abandoned
          refine conducts_print trivial ?_
          exact settled_of_abandoned (by decide) p last abandoned
        · rw [if_neg (not_not_intro rfl)]
          exact conducts_setUpDevice distinct

/-- Nothing is open any more. -/
def Closed (stage : Stage) : Prop := stage = .idle ∨ ∃ inode, stage = .finished inode

/-- `puppy_done` closes everything that `puppy_open` has opened. -/
theorem conducts_puppyDone {p : Handle} (settled : Settled p stage) :
    Conducts .library paths (fun _ last => Closed last) (puppyDone p) stage := by
  rcases settled with ⟨_, _, fd, closed⟩ |
    ⟨_, lockFd, inode, fd, number, same, device, distinct, rfl⟩
  · rw [puppyDone, fd, if_neg (by decide)]
    exact closed
  · rw [puppyDone, device, same, if_pos (by omega)]
    apply conducts_ioctl ⟨_, _, _, rfl⟩
    intro _
    apply conducts_close (.detach distinct)
    intro _
    apply conducts_unlinkLockFile
    intro _
    apply conducts_close .unlinked
    intro _
    exact Or.inr ⟨inode, rfl⟩

/-- The calls of the code between `puppy_open` and `puppy_done`, or between the
set-up and the end of `main`: transfers, messages, and whatever else is about
neither the lock file nor the device. -/
def Works (fd : Int) : SysCall → Prop
  | .bulk k _ => k = fd
  | .print notice => notice.Known
  | .other _ => True
  | .openLockFile | .openDevice _ | .flock _ _ | .read _ | .ioctl _ _ | .close _
  | .unlinkLockFile | .getenv | .devices => False

/-- Such code leaves the stage as it is. -/
theorem conducts_works {fd : Nat} {script : Sys α} (works : script.Makes (Works fd))
    (holds : stage.Holds fd) :
    Conducts kind paths (fun _ last => last = stage) script stage := by
  apply works.follows
  · intro request work
    cases request with
    | bulk k bytes =>
        cases work
        exact Or.inr ⟨fd, rfl, holds⟩
    | print | other => exact work
    | openLockFile | openDevice | flock | read | ioctl | close | unlinkLockFile | getenv
    | devices => exact work.elim
  · intro request answer after work moves
    cases request with
    | bulk k bytes => exact moves.2
    | print | other => exact moves
    | openLockFile | openDevice | flock | read | ioctl | close | unlinkLockFile | getenv
    | devices => exact work.elim

/-- A program over the library follows the discipline to its end. -/
theorem conducts_puppySession {devPath : Option CString} {work : Handle → Sys Int}
    (leads : paths.node (paths.chosen devPath) ≠ none)
    (works : ∀ p, (work p).Makes (Works p.fd)) :
    Conducts .library paths (fun _ last => Closed last) (puppySession devPath work) .idle := by
  apply (conducts_puppyOpen leads).bind
  intro p last settled
  by_cases ok : puppyOk p = true
  · rw [if_pos ok]
    rcases settled with failed | ⟨noError, lockFd, inode, fd, number, same, device, distinct, rfl⟩
    · exact absurd (of_decide_eq_true ok) failed.1
    · have transfers := works p
      rw [device] at transfers
      apply (conducts_works transfers ⟨lockFd, inode, number, rfl⟩).bind
      rintro status after rfl
      apply (conducts_puppyDone (Or.inr ⟨noError, lockFd, inode, fd, number, same, device,
        distinct, rfl⟩)).bind
      intro _ end_ closed
      exact closed
  · rw [if_neg ok]
    refine conducts_print trivial ?_
    apply (conducts_puppyDone settled).bind
    intro _ _ closed
    exact closed

end Puppy.Lock
