import Puppy.Lock.Programs

/-!
# Sessions with a device

No process goes back in the protocol.  So what a process exchanges with a device
is not broken up by what others exchange with it: from when another process
talks to the device on, the one that talked to it before is done with devices.
-/

namespace Puppy.Lock

open Process Transition
open Puppy.Tool

universe u

/-! ## Going on -/

/-- How far a process is. -/
def Phase.rank : Phase → Nat
  | idle => 0
  | opened => 1
  | scanning => 2
  | scanned => 3
  | locked => 4
  | attached _ => 5
  | claimed _ => 6
  | releasing _ => 7
  | detached => 8
  | unlinked => 9
  | finished => 10

/-- A process is where it was, or further. -/
def Phase.Onward (before after : Phase) : Prop := after = before ∨ before.rank < after.rank

theorem Phase.Onward.trans {first middle last : Phase} (before : first.Onward middle)
    (after : middle.Onward last) : first.Onward last := by
  rcases before with rfl | before
  · exact after
  · rcases after with rfl | after
    · exact Or.inr before
    · exact Or.inr (before.trans after)

section Systems

variable {ι : Type u} [DecidableEq ι] {program : ι → Program} {system next : System ι}
  {event : Event ι}

theorem onward_update {phase : ι → Phase} {i : ι} {before after : Phase}
    (stood : phase i = before) (further : before.Onward after) (j : ι) :
    (phase j).Onward (Function.update phase i after j) := by
  by_cases self : j = i
  · rw [self, Function.update_self, stood]
    exact further
  · rw [Function.update_of_ne self]
    exact Or.inl rfl

/-- No move takes a process back. -/
theorem Moves.onward (moves : Moves program system event next) (j : ι) :
    (system.phase j).Onward (next.phase j) := by
  have further {before after : Phase} (ahead : before.rank < after.rank) : before.Onward after :=
    Or.inr ahead
  cases moves with
  | openNamed idle | openCreates idle => exact onward_update idle (further (by decide)) j
  | flockExclusive _ opened => exact onward_update opened (further (by decide)) j
  | flockRelease _ scanning => exact onward_update scanning (further (by decide)) j
  | flockShared ready =>
      rcases ready with opened | scanned
      · exact onward_update opened (further (by decide)) j
      · exact onward_update scanned (further (by decide)) j
  | openDevice _ locked => exact onward_update locked (further (by simp [Phase.rank])) j
  | flockDevice attached => exact onward_update attached (further (by simp [Phase.rank])) j
  | openFails _ early =>
      rcases early with opened | locked
      · exact onward_update opened (further (by decide)) j
      · exact onward_update locked (further (by decide)) j
  | openFailsLate _ late =>
      rcases late with attached | claimed
      · exact onward_update attached (further (by simp [Phase.rank])) j
      · exact onward_update claimed (further (by simp [Phase.rank])) j
  | openFailed releasing => exact onward_update releasing (further (by simp [Phase.rank])) j
  | closeDevice _ claimed => exact onward_update claimed (further (by simp [Phase.rank])) j
  | unlinkLockFile detached | unlinkFails detached =>
      exact onward_update detached (further (by decide)) j
  | closeLockFile unlinked => exact onward_update unlinked (further (by decide)) j
  | exit i =>
      refine onward_update rfl ?_ j
      generalize system.phase i = phase
      cases phase with
      | finished => exact Or.inl rfl
      | attached | claimed | releasing => exact further (by simp [Phase.rank])
      | idle | opened | scanning | scanned | locked | detached | unlinked =>
          exact further (by decide)

theorem onward_of_runs {allowed : System ι → Event ι → Prop} {last : System ι}
    (run : Runs (Moves program) allowed system last) (i : ι) :
    (system.phase i).Onward (last.phase i) := by
  induction run with
  | refl => exact Or.inl rfl
  | step _ moves _ ih => exact ih.trans (moves.onward i)

end Systems

/-- The first program is killed while it has its device, and the second one comes
to talk to the same device. -/
theorem reaches_second :
    ∃ first middle, ReachesAny (sessions fun _ => none) twoDevices emptyKernel first ∧
      TalksTo first 0 (.node 0) ∧ GoesOn twoDevices first middle ∧
      TalksTo middle 1 (.node 0) := by
  have start : Goes False twoDevices (startPool (sessions fun _ => none) emptyKernel)
      (startPool (sessions fun _ => none) emptyKernel) := .refl
  have chosen := start.answer 0 .getenv rfl .getenv fun _ => trivial
  have created := chosen.answer 0 .openLockFile rfl serves_openCreates fun _ => trivial
  have shares := created.answer 0 (.flock (0 : Nat) .shared) rfl
    (serves_flock rfl (by decide)) fun _ => trivial
  have attached := shares.answer 0 (.openDevice defaultDevice) rfl
    (serves_openDevice 1 (node_defaultDevice 0) rfl) fun _ => trivial
  have claimed := attached.answer 0 (.flock (1 : Nat) .exclusive) rfl
    (serves_flock rfl (by decide)) fun _ => trivial
  have killed := claimed.again.step (.ended (i := 0) ends_kernelOf) fun _ => trivial
  have chooses := Goes.answer killed 1 .getenv rfl .getenv fun _ => trivial
  have opened := chooses.answer 1 .openLockFile rfl (serves_openNamed 0 rfl) fun _ => trivial
  have shared := opened.answer 1 (.flock (0 : Nat) .shared) rfl
    (serves_flock rfl (by decide)) fun _ => trivial
  have follows := shared.answer 1 (.openDevice defaultDevice) rfl
    (serves_openDevice 1 (node_defaultDevice 1) rfl) fun _ => trivial
  have holds := follows.answer 1 (.flock (1 : Nat) .exclusive) rfl
    (serves_flock rfl (by decide)) fun _ => trivial
  refine ⟨_, _, runs_any claimed, ?_, runs_any holds, ?_⟩
  · exact ⟨_, _, 1, ⟨.node 0, some .exclusive⟩, rfl, rfl, rfl, rfl⟩
  · exact ⟨_, _, 1, ⟨.node 0, some .exclusive⟩, rfl, rfl, rfl, rfl⟩

/-! ## Processes that take turns -/

section Pools

variable {ι : Type u} [DecidableEq ι] {α : ι → Type} {code : (i : ι) → Code (α i)}
  {paths : ι → Paths} {kernel : Kernel ι} {first middle last : Processes α}

/-- The processes are in stages that the protocol reaches, have open what these
say, and go on as they allow. -/
def InStages (code : (i : ι) → Code (α i)) (paths : ι → Paths) (kernel : Kernel ι)
    (pool : Processes α) (stage : ι → Stage) : Prop :=
  Pool.Tracked (fun i => discipline (code i).kind (paths i)) (fun i => (code i).post)
    (Mirrors (fun i => (code i).kind) False (System.initial kernel.name) kernel.table) pool stage

/-- A run goes on from stage to stage, and no process goes back. -/
theorem InStages.goesOn {stage : ι → Stage} (staged : InStages code paths kernel first stage)
    (run : GoesOn paths first last) :
    ∃ stages, InStages code paths kernel last stages ∧
      ∀ i, (stage i).phase.Onward (stages i).phase := by
  obtain ⟨mirrors, conducts⟩ := staged
  have fromHere : Pool.Tracked (fun i => discipline (code i).kind (paths i))
      (fun i => (code i).post)
      (Mirrors (fun i => (code i).kind) False (systemOf first.kernel.name stage) kernel.table)
      first stage := ⟨⟨mirrors.table, mirrors.placed, .refl⟩, conducts⟩
  obtain ⟨stages, onwards, goes⟩ := fromHere.run (keeps_mirrors _ False _ _ paths)
    (allowed_of_any run)
  exact ⟨stages, ⟨⟨onwards.table, onwards.placed, mirrors.runs.trans onwards.runs⟩, goes⟩,
    onward_of_runs onwards.runs⟩

/-- In every run, what a process exchanges with a device is in one piece: once
another process talks to the device, the one that talked to it before neither
opens a device nor talks to one any more. -/
theorem sessions_apart (sound : ∀ i, (code i).Sound (paths i))
    (run : ReachesAny code paths kernel first) {file : File} {i j : ι}
    (before : TalksTo first i file) (onward : GoesOn paths first middle)
    (between : TalksTo middle j file) (other : i ≠ j) (further : GoesOn paths middle last) :
    ¬ UsesDevice last i := by
  obtain ⟨stage, staged⟩ := tracked_of_reaches sound (allowed_of_any run)
  obtain ⟨node, rfl, claimed⟩ := claimed_of_talksTo staged.1 (staged.2 i) before
  obtain ⟨stages, held, ahead⟩ := InStages.goesOn staged onward
  obtain ⟨node', same, claims⟩ := claimed_of_talksTo held.1 (held.2 j) between
  cases same
  have past : (Phase.claimed node).rank < (stages i).phase.rank := by
    have ahead := ahead i
    rw [claimed] at ahead
    rcases ahead with still | past
    · exact absurd (oneHolder_of_runs held.1.runs i j node still claims) other
    · exact past
  obtain ⟨ended, ⟨mirrors, conducts⟩, ahead⟩ := InStages.goesOn held further
  have past : (Phase.claimed node).rank < (ended i).phase.rank := by
    rcases ahead i with still | later
    · rw [still]
      exact past
    · exact past.trans later
  rintro (⟨path, next, pending⟩ | ⟨file, talks⟩)
  · obtain ⟨_, lockFd, inode, locked⟩ := (conducts i _ pending).1
    rw [locked] at past
    exact absurd past (by simp [Phase.rank, Stage.phase])
  · obtain ⟨number, _, again⟩ := claimed_of_talksTo mirrors (conducts i) talks
    rw [again] at past
    exact absurd past (Nat.lt_irrefl 6)

/-- The first program is killed, and it does not come back to its device. -/
theorem sessions_apart_killed :
    ∃ first middle : Processes fun _ : Fin 2 => Int,
      ReachesAny (sessions fun _ => none) twoDevices emptyKernel first ∧
      TalksTo first 0 (.node 0) ∧ GoesOn twoDevices first middle ∧
      TalksTo middle 1 (.node 0) ∧ ¬ UsesDevice middle 0 := by
  obtain ⟨first, middle, run, before, onward, between⟩ := reaches_second
  have sound (i : Fin 2) : (sessions (fun _ => none) i).Sound (twoDevices i) :=
    sound_session (Or.inl rfl)
  exact ⟨first, middle, run, before, onward, between,
    sessions_apart sound run before onward between (by decide) .refl⟩

end Pools

end Puppy.Lock
