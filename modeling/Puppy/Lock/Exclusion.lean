import Puppy.Lock.Processes
import Mathlib.Data.Fin.VecNotation

/-!
# Exclusion through the lock file

Processes exclude each other only while they lock the same inode, and
`puppy_done` removes the name under which later processes would find it.  While
the name is only removed when no other process depends on the inode behind it,
all processes that use their device or may come to use it have that inode open,
and a scan excludes them.
-/

namespace Puppy.Lock

open Transition

universe u

variable {ι : Type u}

/-- Whenever `findToppy` has the exclusive lock, no other process uses its
device. -/
def ScansAlone (system : System ι) : Prop :=
  ∀ i j, i ≠ j → system.phase i = .scanning → ¬ (system.phase j).Uses

/-- The name of the lock file is only removed while no other process that uses
its device, or may come to use it, has the inode of that name open. -/
def SparesOthers (system : System ι) : Event ι → Prop
  | .unlinkLockFile i =>
      ∀ j, j ≠ i → (system.phase j).Engaged → system.file ≠ some (system.inode j)
  | _ => True

/-- What exclusion rests on: the processes concerned have the inode of the name
open, and an exclusive lock is the only one on its inode. -/
structure Guarded (system : System ι) : Prop where
  named : ∀ i, (system.phase i).Engaged → system.file = some (system.inode i)
  exclusive : ∀ i j, i ≠ j → system.inode i = system.inode j →
    (system.phase i).lock = some .exclusive → (system.phase j).lock = none

theorem Guarded.scansAlone {system : System ι} (guarded : Guarded system) :
    ScansAlone system := by
  intro i j different scanning uses
  have engaged : (system.phase i).Engaged := by
    rw [scanning]
    trivial
  have same : system.inode i = system.inode j := by
    apply Option.some.inj
    rw [← guarded.named i engaged, ← guarded.named j uses.engaged]
  have unlocked := guarded.exclusive i j different same (by rw [scanning]; rfl)
  rw [uses.lock] at unlocked
  cases unlocked

theorem guarded_initial (file : Option Nat) : Guarded (System.initial file : System ι) where
  named _ engaged := engaged.elim
  exclusive _ _ _ _ held := by cases held

section Steps

variable [DecidableEq ι] {system : System ι} {i : ι} {phase : Phase}

theorem phase_goto_self : (system.goto i phase).phase i = phase :=
  Function.update_self _ _ _

theorem phase_goto_of_ne {j : ι} (other : j ≠ i) :
    (system.goto i phase).phase j = system.phase j :=
  Function.update_of_ne other _ _

/-- A process that stays engaged only if it was keeps to the inode it has open. -/
theorem Guarded.named_goto (guarded : Guarded system)
    (engaged : phase.Engaged → (system.phase i).Engaged) (j : ι)
    (stays : ((system.goto i phase).phase j).Engaged) :
    system.file = some (system.inode j) := by
  by_cases self : j = i
  · subst self
    rw [phase_goto_self] at stays
    exact guarded.named j (engaged stays)
  · rw [phase_goto_of_ne self] at stays
    exact guarded.named j stays

/-- A process that goes on without a new lock, and stays engaged only if it was,
keeps the others excluded. -/
theorem Guarded.goto (guarded : Guarded system)
    (engaged : phase.Engaged → (system.phase i).Engaged)
    (lock : phase.lock = none ∨ phase.lock = (system.phase i).lock) :
    Guarded (system.goto i phase) := by
  have kept : ∀ j mode, ((system.goto i phase).phase j).lock = some mode →
      (system.phase j).lock = some mode := by
    intro j mode held
    by_cases self : j = i
    · subst self
      rw [phase_goto_self] at held
      rcases lock with none | same
      · rw [none] at held
        cases held
      · rw [← same]
        exact held
    · rwa [phase_goto_of_ne self] at held
  constructor
  · exact guarded.named_goto engaged
  · intro j k different same held
    have unlocked := guarded.exclusive j k different same (kept j _ held)
    cases also : ((system.goto i phase).phase k).lock with
    | none => rfl
    | some mode =>
        rw [kept k mode also] at unlocked
        cases unlocked

/-- A lock that was granted excludes what it has to. -/
theorem Guarded.grant (guarded : Guarded system) {mode : LockMode}
    (engaged : phase.Engaged → (system.phase i).Engaged) (lock : phase.lock = some mode)
    (granted : system.Grants i mode) : Guarded (system.goto i phase) := by
  constructor
  · exact guarded.named_goto engaged
  · intro j k different same held
    by_cases jSelf : j = i
    · subst jSelf
      rw [phase_goto_self, lock] at held
      rw [phase_goto_of_ne different.symm]
      rcases granted k different.symm same.symm with free | ⟨shared, _⟩
      · exact free
      · rw [shared] at held
        cases held
    · rw [phase_goto_of_ne jSelf] at held
      by_cases kSelf : k = i
      · subst kSelf
        rcases granted j jSelf same with free | ⟨_, shared⟩
        · rw [free] at held
          cases held
        · rw [shared] at held
          cases held
      · rw [phase_goto_of_ne kSelf]
        exact guarded.exclusive j k different same held

/-- A process that opens the inode of the name joins the others. -/
theorem Guarded.openInode (guarded : Guarded system) {inode : Nat}
    (others : ∀ j, (system.phase j).Engaged → system.inode j = inode) :
    Guarded (system.openInode i inode) := by
  constructor
  · intro j engaged
    by_cases self : j = i
    · subst self
      simp only [System.openInode, Function.update_self]
    · simp only [System.openInode, Function.update_of_ne self]
      simp only [System.openInode, phase_goto_of_ne self] at engaged
      rw [others j engaged]
  · intro j k different same held
    simp only [System.openInode] at same held ⊢
    by_cases kSelf : k = i
    · subst kSelf
      rw [phase_goto_self]
      rfl
    · rw [phase_goto_of_ne kSelf]
      by_cases jSelf : j = i
      · subst jSelf
        rw [phase_goto_self] at held
        cases held
      · rw [phase_goto_of_ne jSelf] at held
        rw [Function.update_of_ne jSelf, Function.update_of_ne kSelf] at same
        exact guarded.exclusive j k different same held

omit [DecidableEq ι] in
/-- Without a process that depends on it, the name can be removed. -/
theorem Guarded.unlink (guarded : Guarded system)
    (spared : ∀ j, ¬ (system.phase j).Engaged) : Guarded { system with file := none } where
  named j engaged := absurd engaged (spared j)
  exclusive := guarded.exclusive

/-- Every system call keeps the processes guarded, if no name is removed that
others depend on. -/
theorem Guarded.moves {program : ι → Program} {event : Event ι} {next : System ι}
    (guarded : Guarded system) (move : Moves program system event next)
    (spares : SparesOthers system event) : Guarded next := by
  cases move with
  | openNamed idle named =>
      apply guarded.openInode
      intro j engaged
      exact Option.some.inj ((guarded.named j engaged).symm.trans named)
  | openCreates idle absent fresh =>
      apply guarded.openInode
      intro j engaged
      have name := guarded.named j engaged
      rw [absent] at name
      cases name
  | flockExclusive tool opened granted =>
      apply guarded.grant (fun _ => by rw [opened]; trivial) rfl granted
  | flockRelease tool scanning =>
      exact guarded.goto (fun _ => by rw [scanning]; trivial) (Or.inl rfl)
  | flockShared ready granted =>
      apply guarded.grant _ rfl granted
      rcases ready with opened | scanned
      · intro _
        rw [opened]
        trivial
      · intro _
        rw [scanned]
        trivial
  | openDevice device locked =>
      exact guarded.goto (fun _ => by rw [locked]; trivial) (Or.inr (by rw [locked]; rfl))
  | flockDevice attached free =>
      exact guarded.goto (fun _ => by rw [attached]; trivial) (Or.inr (by rw [attached]; rfl))
  | openFails library early => exact guarded.goto (fun engaged => engaged.elim) (Or.inl rfl)
  | openFailsLate library late => exact guarded.goto (fun engaged => engaged.elim) (Or.inl rfl)
  | openFailed releasing => exact guarded.goto (fun engaged => engaged.elim) (Or.inl rfl)
  | closeDevice library claimed =>
      exact guarded.goto (fun engaged => engaged.elim) (Or.inr (by rw [claimed]; rfl))
  | @unlinkLockFile i detached =>
      have gone : Guarded (system.goto i .unlinked) :=
        guarded.goto (fun engaged => engaged.elim) (Or.inr (by rw [detached]; rfl))
      apply gone.unlink
      intro j engaged
      by_cases self : j = i
      · subst self
        rw [phase_goto_self] at engaged
        exact engaged
      · rw [phase_goto_of_ne self] at engaged
        exact spares j self engaged (guarded.named j engaged)
  | unlinkFails detached =>
      exact guarded.goto (fun engaged => engaged.elim) (Or.inr (by rw [detached]; rfl))
  | closeLockFile unlinked => exact guarded.goto (fun engaged => engaged.elim) (Or.inl rfl)
  | exit i => exact guarded.goto (fun engaged => engaged.elim) (Or.inl rfl)

end Steps

/-! ## Every run -/

/-- In every run of any number of processes in which the name of the lock file
is never removed from under another process, a scan excludes all uses of
devices. -/
theorem scansAlone_of_runs [DecidableEq ι] (program : ι → Program) (file : Option Nat)
    {system : System ι} (run : Runs (Moves program) SparesOthers (System.initial file) system) :
    ScansAlone system := by
  have guarded : Guarded system :=
    run.invariant (guarded_initial file) fun _ _ _ move spares kept => kept.moves move spares
  exact guarded.scansAlone

/-- Two library programs and, last, the command line tool. -/
def threePrograms : Fin 3 → Program := ![.library, .library, .tool]

/-- The first program has opened its device, used it and given it back, and has
removed the name of the lock file. -/
def oneSession : System (Fin 3) :=
  System.goto { (((((((System.initial none).openInode 0 0).goto 0 .locked).goto 0
    (.attached 0)).goto 0 (.claimed 0)).goto 0 .detached).goto 0 .unlinked) with file := none }
    0 .finished

theorem runs_oneSession :
    Runs (Moves threePrograms) SparesOthers (System.initial none) oneSession := by
  have claimed : Runs (Moves threePrograms) SparesOthers (System.initial none)
      (((((System.initial none).openInode 0 0).goto 0 .locked).goto 0 (.attached 0)).goto 0
        (.claimed 0)) :=
    (((Runs.refl.step (.openCreates rfl rfl (by decide)) trivial).step
      (.flockShared (Or.inl rfl) (by unfold System.Grants; decide)) trivial).step
      (.openDevice 0 rfl) trivial).step (.flockDevice rfl (by decide)) trivial
  have detached := claimed.step (.closeDevice (i := 0) rfl rfl) trivial
  have removed := detached.step (.unlinkLockFile (i := 0) rfl) (by
    intro j other
    match j with
    | 0 => exact absurd rfl other
    | 1 | 2 => exact False.elim)
  exact removed.step (.closeLockFile (i := 0) rfl) trivial

/-- Behind that the tool creates another lock file and scans, and the second
program opens the file too. -/
theorem scansAlone_of_runs_firstScan :
    ScansAlone (((oneSession.openInode 2 1).goto 2 .scanning).openInode 1 1) := by
  have created : Runs (Moves threePrograms) SparesOthers (System.initial none)
      (oneSession.openInode 2 1) :=
    runs_oneSession.step (.openCreates rfl rfl (by decide)) trivial
  have scans := created.step
    (.flockExclusive (i := 2) rfl rfl (by unfold System.Grants; decide)) trivial
  exact scansAlone_of_runs threePrograms none
    (scans.step (.openNamed (i := 1) rfl rfl) trivial)

/-- The first program opens its device and gives it back, and the second one
opens it. -/
def handedOver : System (Fin 3) :=
  ((((((((((System.initial none).openInode 0 0).goto 0 .locked).goto 0 (.attached 0)).goto 0
    (.claimed 0)).openInode 1 0).goto 1 .locked).goto 0 .detached).goto 1 (.attached 0)).goto 1
    (.claimed 0))

theorem runs_handedOver :
    Runs (Moves threePrograms) anyEvent (System.initial none) handedOver := by
  have first : Runs (Moves threePrograms) anyEvent (System.initial none)
      (((((System.initial none).openInode 0 0).goto 0 .locked).goto 0 (.attached 0)).goto 0
        (.claimed 0)) :=
    (((Runs.refl.next (.openCreates rfl rfl (by decide))).next
      (.flockShared (Or.inl rfl) (by unfold System.Grants; decide))).next
      (.openDevice 0 rfl)).next (.flockDevice rfl (by decide))
  have second := ((first.next (.openNamed (i := 1) rfl rfl)).next
    (.flockShared (i := 1) (Or.inl rfl) (by unfold System.Grants; decide))).next
    (.closeDevice (i := 0) rfl rfl)
  exact (second.next (.openDevice (i := 1) 0 rfl)).next (.flockDevice rfl (by decide))

/-- Once the first program has removed the name, the tool creates another inode
and scans while the second program uses the device. -/
theorem not_scansAlone_runs :
    ¬ ∀ system : System (Fin 3),
      Runs (Moves threePrograms) anyEvent (System.initial none) system → ScansAlone system := by
  intro alone
  have removed := runs_handedOver.next (.unlinkLockFile (i := 0) rfl)
  have created : Runs (Moves threePrograms) anyEvent (System.initial none)
      (System.openInode { handedOver.goto 0 .unlinked with file := none } 2 1) :=
    removed.next (.openCreates rfl rfl (by decide))
  have scans := created.next
    (.flockExclusive (i := 2) rfl rfl (by unfold System.Grants; decide))
  exact alone _ scans 2 1 (by decide) rfl trivial

end Puppy.Lock
