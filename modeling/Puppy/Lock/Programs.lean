import Puppy.Lock.Refinement
import Puppy.Cli.Main

/-!
# Any number of programs at once

Processes that run `puppy_open`, a program over the library, or `main` of
`puppy.c`, each on its own and all on the same kernel.  Their system calls
interleave in any order, may fail, and any process may be killed; still no two
of them use the same device, and each uses and closes only what it has opened.
-/

namespace Puppy.Lock

open Process Transition
open Puppy.Tool

universe u

/-- The programs, by the type of their results. -/
inductive Code : Type → Type
  /-- `puppy_open` -/
  | library (devPath : Option CString) : Code Handle
  /-- A program over the library, with its work between `puppy_open` and `puppy_done` -/
  | session (devPath : Option CString) (work : Handle → Sys Int) : Code Int
  /-- `main` of `puppy.c`, with the functions for the commands -/
  | tool (serve : Int → Operation → Sys Int) (stack : Cli.Finder) (argv : List CString) : Code Int

namespace Code

variable {α : Type}

def kind : Code α → Program
  | library _ | session _ _ => .library
  | tool _ _ _ => .tool

def script : Code α → Sys α
  | library devPath => puppyOpen devPath
  | session devPath work => puppySession devPath work
  | tool serve stack argv => main serve stack argv

/-- The device path does not lead to the lock file, and the code that is handed
in keeps to transfers. -/
def Sound (paths : Paths) : Code α → Prop
  | library devPath => paths.node (paths.chosen devPath) ≠ none
  | session devPath work =>
      paths.node (paths.chosen devPath) ≠ none ∧ ∀ p, (work p).Makes (Works p.fd)
  | tool serve _ argv =>
      (∀ path, path ≠ PUPPY_LOCKFILE → paths.node path ≠ none) ∧
        deviceGiven argv ≠ some PUPPY_LOCKFILE ∧
        ∀ fd operation, requested argv = some operation → (serve fd operation).Makes (Works fd)

/-- The stage a program ends in. -/
def post : Code α → α → Stage → Prop
  | library _ => Settled
  | session _ _ => fun _ last => Closed last
  | tool _ _ _ => fun _ last => Apart last

theorem conducts {paths : Paths} {code : Code α} (sound : code.Sound paths) :
    Conducts code.kind paths code.post code.script .idle := by
  cases code with
  | library devPath => exact conducts_puppyOpen sound
  | session devPath work => exact conducts_puppySession sound.1 sound.2
  | tool serve stack argv => exact conducts_main sound.2.2 sound.1 sound.2.1 stack

end Code

/-- All processes with the kernel. -/
abbrev Processes {ι : Type u} (α : ι → Type) := Pool (Kernel ι) SysCall SysCall.Answer α

section Pools

variable {ι : Type u} [DecidableEq ι] {α : ι → Type} {code : (i : ι) → Code (α i)}
  {paths : ι → Paths} {kernel : Kernel ι} {last : Processes α}

/-- All processes are about to start. -/
def startPool (code : (i : ι) → Code (α i)) (kernel : Kernel ι) : Processes α where
  kernel
  code i := some (code i).script

/-- A run from the start, in which the name of the lock file may be removed from
under others or, if that is said, may not. -/
abbrev Reaches (spared : Prop) (code : (i : ι) → Code (α i)) (paths : ι → Paths)
    (kernel : Kernel ι) (last : Processes α) : Prop :=
  Runs (Pool.Steps (Kernel.spec paths))
    (fun (state : Processes α) event => KernelAllows spared state.kernel event)
    (startPool code kernel) last

/-- A run without a restriction. -/
abbrev ReachesAny (code : (i : ι) → Code (α i)) (paths : ι → Paths) (kernel : Kernel ι)
    (last : Processes α) : Prop :=
  Runs (Pool.Steps (Kernel.spec paths)) anyEvent (startPool code kernel) last

/-- A run from any state on. -/
abbrev GoesOn (paths : ι → Paths) (first last : Processes α) : Prop :=
  Runs (Pool.Steps (Kernel.spec paths)) anyEvent first last

/-- Nothing need be spared. -/
theorem allowed_of_any {first : Processes α} (run : GoesOn paths first last) :
    Runs (Pool.Steps (Kernel.spec paths))
      (fun (state : Processes α) event => KernelAllows False state.kernel event) first last := by
  induction run with
  | refl => exact .refl
  | step _ move _ ih => exact ih.step move fun never => never.elim

/-- In every state that is reached the processes are in stages that the protocol
reaches, have open what these say, and go on as they allow. -/
theorem tracked_of_reaches {spared : Prop} (sound : ∀ i, (code i).Sound (paths i))
    (run : Reaches spared code paths kernel last) :
    ∃ stage : ι → Stage,
      Mirrors (fun i => (code i).kind) spared (System.initial kernel.name) kernel.table
        last.kernel stage ∧
      ∀ i script, last.code i = some script →
        Conducts (code i).kind (paths i) (code i).post script (stage i) := by
  have tracked : Pool.Tracked (fun i => discipline (code i).kind (paths i))
      (fun i => (code i).post)
      (Mirrors (fun i => (code i).kind) spared (System.initial kernel.name) kernel.table)
      (startPool code kernel) fun _ => .idle := by
    constructor
    · exact ⟨fun _ => rfl, fun _ => trivial, .refl⟩
    · rintro i script ⟨⟩
      exact Code.conducts (sound i)
  exact tracked.run (keeps_mirrors _ spared _ _ paths) run

/-- A process is about to read from a file, or to send it an `ioctl`. -/
def TalksTo (pool : Processes α) (i : ι) (file : File) : Prop :=
  ∃ request next fd description, pool.code i = some (.call request next) ∧
    request.talksTo = some fd ∧ pool.kernel.lookup i fd = some description ∧
    description.file = file

/-- A process is about to open its device, or to talk to it. -/
def UsesDevice (pool : Processes α) (i : ι) : Prop :=
  (∃ path next, pool.code i = some (.call (.openDevice path) next)) ∨
    ∃ file, TalksTo pool i file

/-- No process starts with the lock file open. -/
def Fresh (kernel : Kernel ι) : Prop :=
  ∀ i fd description inode, kernel.table i fd = some description →
    description.file ≠ .lockFile inode

end Pools

/-! ## A small system -/

/-- "/dev/puppy2" -/
def secondDevice : CString := upToNul (Stdio.word "/dev/puppy2")

/-- "/tmp/puppy" leads to the lock file, "/dev/puppy" to one device, and every
other path to another one. -/
def twoDevices (_ : Fin 2) : Paths where
  node path :=
    if path = PUPPY_LOCKFILE then none else if path = defaultDevice then some 0 else some 1
  puppy := none

theorem node_defaultDevice (i : Fin 2) : (twoDevices i).node defaultDevice = some 0 := by
  simp only [twoDevices]
  rw [if_neg (by decide +kernel), if_true]

theorem node_secondDevice (i : Fin 2) : (twoDevices i).node secondDevice = some 1 := by
  simp only [twoDevices]
  rw [if_neg (by decide +kernel), if_neg (by decide +kernel)]

theorem node_lockFile (i : Fin 2) : (twoDevices i).node PUPPY_LOCKFILE = none := by
  simp only [twoDevices, if_true]

/-- A program over the library next to `puppy -c size`. -/
def twoPrograms (i : Fin 2) : Code Int :=
  if i = 0 then .session none fun _ => pure 0
  else .tool (fun _ _ => pure 0) ⟨[], 0, 0, 0, 0, false, []⟩
    [upToNul (Stdio.word "-c"), upToNul (Stdio.word "size")]

/-- Two programs over the library. -/
def sessions (devPath : Fin 2 → Option CString) (i : Fin 2) : Code Int :=
  .session (devPath i) fun _ => pure 0

/-- The second program has a device of its own. -/
def ownDevices (i : Fin 2) : Option CString := if i = 0 then none else some secondDevice

theorem sound_session {i : Fin 2} {devPath : Option CString}
    (device : devPath = none ∨ devPath = some secondDevice) :
    (Code.session devPath fun _ => pure 0).Sound (twoDevices i) := by
  refine ⟨?_, fun _ => trivial⟩
  rcases device with rfl | rfl
  · change (twoDevices i).node defaultDevice ≠ none
    rw [node_defaultDevice]
    exact Option.some_ne_none 0
  · change (twoDevices i).node secondDevice ≠ none
    rw [node_secondDevice]
    exact Option.some_ne_none 1

theorem sound_twoPrograms (i : Fin 2) : (twoPrograms i).Sound (twoDevices i) := by
  match i with
  | 0 => exact sound_session (Or.inl rfl)
  | 1 =>
      refine ⟨?_, by decide, fun _ _ _ => trivial⟩
      intro path other
      simp only [twoDevices, if_neg other]
      split
      · exact Option.some_ne_none 0
      · exact Option.some_ne_none 1

theorem sound_ownDevices (i : Fin 2) : (sessions ownDevices i).Sound (twoDevices i) := by
  apply sound_session
  rw [ownDevices]
  split
  · exact Or.inl rfl
  · exact Or.inr rfl

/-- What the processes have opened and closed, the last one first. -/
abbrev Entries := Fin 2 → List (Nat × Option Description)

/-- The kernel behind that. -/
def kernelOf (name : Option Nat) (entries : Entries) : Kernel (Fin 2) where
  name
  table i fd := ((entries i).lookup fd).join

/-- Nothing is open, and there is no lock file. -/
def emptyKernel : Kernel (Fin 2) := kernelOf none fun _ => []

theorem fresh_emptyKernel : Fresh emptyKernel := by
  rintro i fd description inode ⟨⟩

/-- One more entry of a process. -/
def Entries.enter (entries : Entries) (i : Fin 2) (fd : Nat) (entry : Option Description) :
    Entries :=
  Function.update entries i ((fd, entry) :: entries i)

/-- No entry of the file but the process's own conflicts with a lock. -/
def Entries.Clear (entries : Entries) (i : Fin 2) (fd : Nat) (file : File) (mode : LockMode) :
    Prop :=
  ∀ j, ∀ entry ∈ entries j, (j ≠ i ∨ entry.1 ≠ fd) →
    entry.2.map Description.file = some file →
      entry.2.bind Description.lock = none ∨
        mode = .shared ∧ entry.2.bind Description.lock = some .shared

instance (entries : Entries) (i : Fin 2) (fd : Nat) (file : File) (mode : LockMode) :
    Decidable (entries.Clear i fd file mode) := by
  unfold Entries.Clear
  infer_instance

section Entries

variable {paths : Fin 2 → Paths} {name : Option Nat} {entries : Entries} {i : Fin 2}

theorem set_kernelOf (fd : Nat) (entry : Option Description) :
    (kernelOf name entries).set i fd entry = kernelOf name (entries.enter i fd entry) := by
  simp only [Kernel.set, kernelOf, Entries.enter]
  congr 1
  funext j k
  by_cases self : j = i
  · subst self
    simp only [Function.update_self, List.lookup_cons]
    by_cases here : k = fd
    · rw [here, Function.update_self, beq_self_eq_true]
      rfl
    · rw [Function.update_of_ne here, beq_false_of_ne here]
  · rw [Function.update_of_ne self, Function.update_of_ne self]

theorem mem_of_table {j : Fin 2} {k : Nat} {description : Description}
    (found : (kernelOf name entries).table j k = some description) :
    (k, some description) ∈ entries j := by
  have listed := Option.join_eq_some_iff.mp found
  obtain ⟨before, after, split, _⟩ := List.lookup_eq_some_iff.mp listed
  rw [split]
  exact List.mem_append_right _ List.mem_cons_self

theorem serves_openNamed {inode : Nat} (fd : Nat)
    (unused : (kernelOf (some inode) entries).table i fd = none) :
    (kernelOf (some inode) entries).Serves paths i .openLockFile (fd : Int)
      (kernelOf (some inode) (entries.enter i fd (some ⟨.lockFile inode, none⟩))) := by
  rw [← set_kernelOf]
  exact .openNamed rfl unused

/-- The first lock file of all. -/
theorem serves_openCreates :
    emptyKernel.Serves paths i .openLockFile (0 : Nat)
      (kernelOf (some 0) (Entries.enter (fun _ => []) i 0 (some ⟨.lockFile 0, none⟩))) := by
  have created :
      kernelOf (some 0) (Entries.enter (fun _ => []) i 0 (some ⟨.lockFile 0, none⟩)) =
      { emptyKernel.set i 0 (some ⟨.lockFile 0, none⟩) with name := some 0 } := by
    rw [emptyKernel, set_kernelOf]
    rfl
  rw [created]
  exact .openCreates rfl (by rintro _ _ _ ⟨⟩) rfl

theorem serves_openDevice {path : CString} {number : Nat} (fd : Nat)
    (leads : (paths i).node path = some number)
    (unused : (kernelOf name entries).table i fd = none) :
    (kernelOf name entries).Serves paths i (.openDevice path) (fd : Int)
      (kernelOf name (entries.enter i fd (some ⟨.node number, none⟩))) := by
  rw [← set_kernelOf]
  exact .openDevice leads unused

theorem serves_openDeviceNamed {path : CString} {inode : Nat} (fd : Nat)
    (leads : (paths i).node path = none)
    (unused : (kernelOf (some inode) entries).table i fd = none) :
    (kernelOf (some inode) entries).Serves paths i (.openDevice path) (fd : Int)
      (kernelOf (some inode) (entries.enter i fd (some ⟨.lockFile inode, none⟩))) := by
  rw [← set_kernelOf]
  exact .openDeviceNamed leads rfl unused

theorem serves_flock {fd : Nat} {file : File} {mode : LockMode}
    (isOpen : (kernelOf name entries).table i fd = some ⟨file, none⟩)
    (clear : entries.Clear i fd file mode) :
    (kernelOf name entries).Serves paths i (.flock fd mode) 0
      (kernelOf name (entries.enter i fd (some ⟨file, some mode⟩))) := by
  rw [← set_kernelOf]
  refine .flock isOpen (Or.inl rfl) ?_
  intro j k description other found same
  rcases clear j _ (mem_of_table found) other (congrArg some same) with unlocked | shared
  · exact Or.inl unlocked
  · exact Or.inr shared

section Open

variable {fd : Nat} {description : Description}
  (isOpen : (kernelOf name entries).table i fd = some description)
include isOpen

theorem serves_read (bytes : List UInt8) :
    (kernelOf name entries).Serves paths i (.read fd) (some bytes) (kernelOf name entries) :=
  .read fun closed => nomatch isOpen.symm.trans closed

theorem serves_ioctl (control : Control) :
    (kernelOf name entries).Serves paths i (.ioctl fd control) 0 (kernelOf name entries) :=
  .ioctl fun closed => nomatch isOpen.symm.trans closed

theorem serves_close :
    (kernelOf name entries).Serves paths i (.close fd) 0
      (kernelOf name (entries.enter i fd none)) := by
  rw [← set_kernelOf]
  exact .close isOpen

end Open

theorem serves_unlink {inode : Nat} :
    (kernelOf (some inode) entries).Serves paths i .unlinkLockFile 0 (kernelOf none entries) :=
  .unlink rfl

theorem ends_kernelOf :
    (kernelOf name entries).Ends i (kernelOf name (Function.update entries i [])) := by
  have gone : kernelOf name (Function.update entries i []) =
      { kernelOf name entries with
        table := Function.update (kernelOf name entries).table i fun _ => none } := by
    simp only [kernelOf]
    congr 1
    funext j k
    by_cases self : j = i
    · rw [self, Function.update_self, Function.update_self]
      rfl
    · rw [Function.update_of_ne self, Function.update_of_ne self]
  rw [gone]
  exact .exit

end Entries

/-- A run of the two processes. -/
abbrev Goes (spared : Prop) (paths : Fin 2 → Paths)
    (first last : Processes fun _ : Fin 2 => Int) : Prop :=
  Runs (Pool.Steps (Kernel.spec paths))
    (fun (state : Processes fun _ : Fin 2 => Int) event => KernelAllows spared state.kernel event)
    first last

/-- One more call that is answered. -/
theorem Goes.answer {spared : Prop} {paths : Fin 2 → Paths}
    {first middle : Processes fun _ : Fin 2 => Int} (run : Goes spared paths first middle)
    (i : Fin 2) (request : SysCall) {next : request.Answer → Sys Int} {answer : request.Answer}
    {after : Kernel (Fin 2)} (pending : middle.code i = some (.call request next))
    (serves : middle.kernel.Serves paths i request answer after)
    (permitted : KernelAllows spared middle.kernel (.answered i request)) :
    Goes spared paths first
      { kernel := after, code := Function.update middle.code i (some (next answer)) } :=
  run.step (.answered pending serves) permitted

/-- The run that goes on from its end. -/
theorem Goes.again {spared : Prop} {paths : Fin 2 → Paths}
    {first last : Processes fun _ : Fin 2 => Int} (_ : Goes spared paths first last) :
    Goes spared paths last last :=
  .refl

/-- The library program has opened the lock file when the tool scans, and can not
lock it. -/
theorem reaches_scan :
    ∃ last next, Reaches True twoPrograms twoDevices emptyKernel last ∧
      last.kernel.table 1 0 = some ⟨.lockFile 0, some .exclusive⟩ ∧
      last.code 0 = some (.call (.print .canNotObtainSharedLock) next) := by
  have start : Goes True twoDevices (startPool twoPrograms emptyKernel)
      (startPool twoPrograms emptyKernel) := .refl
  have chosen := start.answer 0 .getenv rfl .getenv fun _ => trivial
  have created := chosen.answer 0 .openLockFile rfl serves_openCreates fun _ => trivial
  have opened := created.answer 1 .openLockFile rfl (serves_openNamed 0 rfl) fun _ => trivial
  have scans := opened.answer 1 (.flock (0 : Nat) .exclusive) rfl
    (serves_flock rfl (by decide)) fun _ => trivial
  have refused := scans.answer 0 (.flock (0 : Nat) .shared) rfl .flockFails fun _ => trivial
  exact ⟨_, _, refused, rfl, rfl⟩

/-- A device descriptor of 0x11db:0x1000. -/
def toppyDescriptor : List UInt8 :=
  [18, 1, 0, 2, 0, 0, 0, 64, 0xdb, 0x11, 0x00, 0x10, 0, 0, 0, 0, 0, 1]

/-- Both programs over the library come to talk to their devices, and then the
first one finishes its session while the other one stays with its device. -/
theorem reaches_both :
    ∃ middle last, ReachesAny (sessions ownDevices) twoDevices emptyKernel middle ∧
      TalksTo middle 0 (.node 0) ∧ TalksTo middle 1 (.node 1) ∧
      GoesOn twoDevices middle last ∧ last.code 0 = some (.done 0) ∧
      TalksTo last 1 (.node 1) := by
  have start : Goes False twoDevices (startPool (sessions ownDevices) emptyKernel)
      (startPool (sessions ownDevices) emptyKernel) := .refl
  have chosen := start.answer 0 .getenv rfl .getenv fun _ => trivial
  have created := chosen.answer 0 .openLockFile rfl serves_openCreates fun _ => trivial
  have shares := created.answer 0 (.flock (0 : Nat) .shared) rfl
    (serves_flock rfl (by decide)) fun _ => trivial
  have attached := shares.answer 0 (.openDevice defaultDevice) rfl
    (serves_openDevice 1 (node_defaultDevice 0) rfl) fun _ => trivial
  have claimed := attached.answer 0 (.flock (1 : Nat) .exclusive) rfl
    (serves_flock rfl (by decide)) fun _ => trivial
  have opened := claimed.answer 1 .openLockFile rfl (serves_openNamed 0 rfl) fun _ => trivial
  have shared := opened.answer 1 (.flock (0 : Nat) .shared) rfl
    (serves_flock rfl (by decide)) fun _ => trivial
  have other := shared.answer 1 (.openDevice secondDevice) rfl
    (serves_openDevice 1 (node_secondDevice 1) rfl) fun _ => trivial
  have both := other.answer 1 (.flock (1 : Nat) .exclusive) rfl
    (serves_flock rfl (by decide)) fun _ => trivial
  have ready := both.again.answer 0 (.read (1 : Nat)) rfl
    (serves_read rfl toppyDescriptor) fun _ => trivial
  have reset := ready.answer 0 (.ioctl (1 : Nat) .reset) rfl
    (serves_ioctl rfl .reset) fun _ => trivial
  have claims := reset.answer 0 (.ioctl (1 : Nat) .claimInterface) rfl
    (serves_ioctl rfl .claimInterface) fun _ => trivial
  have sets := claims.answer 0 (.ioctl (1 : Nat) .setInterface) rfl
    (serves_ioctl rfl .setInterface) fun _ => trivial
  have released := sets.answer 0 (.ioctl (1 : Nat) .releaseInterface) rfl
    (serves_ioctl rfl .releaseInterface) fun _ => trivial
  have detached := released.answer 0 (.close (1 : Nat)) rfl (serves_close rfl) fun _ => trivial
  have unlinked := detached.answer 0 .unlinkLockFile rfl serves_unlink False.elim
  have ended := unlinked.answer 0 (.close (0 : Nat)) rfl (serves_close rfl) fun _ => trivial
  refine ⟨_, _, runs_any both, ?_, ?_, runs_any ended, rfl, ?_⟩
  · exact ⟨_, _, 1, ⟨.node 0, some .exclusive⟩, rfl, rfl, rfl, rfl⟩
  · exact ⟨_, _, 1, ⟨.node 1, some .exclusive⟩, rfl, rfl, rfl, rfl⟩
  · exact ⟨_, _, 1, ⟨.node 1, some .exclusive⟩, rfl, rfl, rfl, rfl⟩

section Protocol

variable {ι : Type u} [DecidableEq ι] {α : ι → Type} {code : (i : ι) → Code (α i)}
  {paths : ι → Paths} {kernel : Kernel ι} {last : Processes α}

/-- Every run of the programs is a run of the protocol, seen through the stages of
the processes: they say what each has open and how it goes on. -/
theorem runs_refine (sound : ∀ i, (code i).Sound (paths i))
    (run : ReachesAny code paths kernel last) :
    ∃ stage : ι → Stage,
      (∀ i, last.kernel.table i = (stage i).table (kernel.table i)) ∧
      (∀ i script, last.code i = some script →
        Conducts (code i).kind (paths i) (code i).post script (stage i)) ∧
      Runs (Moves fun i => (code i).kind) anyEvent (System.initial kernel.name)
        (systemOf last.kernel.name stage) := by
  obtain ⟨stage, mirrors, conducts⟩ := tracked_of_reaches sound (allowed_of_any run)
  exact ⟨stage, mirrors.table, conducts, runs_any mirrors.runs⟩

/-- While the tool scans and the other program can not lock the file, the stages of
both say so. -/
theorem runs_refine_scan :
    ∃ (last : Processes fun _ : Fin 2 => Int) (next : Unit → Sys Int) (stage : Fin 2 → Stage),
      last.kernel.table 1 0 = some ⟨.lockFile 0, some .exclusive⟩ ∧
      last.code 0 = some (.call (.print .canNotObtainSharedLock) next) ∧
      (∀ i, last.kernel.table i = (stage i).table (emptyKernel.table i)) ∧
      (∀ i script, last.code i = some script →
        Conducts (twoPrograms i).kind (twoDevices i) (twoPrograms i).post script (stage i)) ∧
      Runs (Moves fun i => (twoPrograms i).kind) anyEvent (System.initial none)
        (systemOf last.kernel.name stage) := by
  obtain ⟨last, next, run, scans, refused⟩ := reaches_scan
  obtain ⟨stage, refines⟩ := runs_refine sound_twoPrograms (runs_any run)
  exact ⟨last, next, stage, scans, refused, refines⟩

/-! ## One process for each device -/

/-- No two processes have claimed the same device. -/
def OneHolder (phase : ι → Phase) : Prop :=
  ∀ i j node, phase i = .claimed node → phase j = .claimed node → i = j

theorem OneHolder.update {phase : ι → Phase} (one : OneHolder phase) {i : ι} {next : Phase}
    (free : ∀ node, next = .claimed node → ∀ j, j ≠ i → phase j ≠ .claimed node) :
    OneHolder (Function.update phase i next) := by
  intro j k node first second
  by_cases jSelf : j = i
  · by_cases kSelf : k = i
    · rw [jSelf, kSelf]
    · rw [jSelf, Function.update_self] at first
      rw [Function.update_of_ne kSelf] at second
      exact absurd second (free node first k kSelf)
  · rw [Function.update_of_ne jSelf] at first
    by_cases kSelf : k = i
    · rw [kSelf, Function.update_self] at second
      exact absurd first (free node second j jSelf)
    · rw [Function.update_of_ne kSelf] at second
      exact one j k node first second

/-- A device is only claimed while nobody else has it. -/
theorem OneHolder.moves {kind : ι → Program} {system next : System ι} {event : Event ι}
    (one : OneHolder system.phase) (moves : Moves kind system event next) :
    OneHolder next.phase := by
  cases moves with
  | flockDevice attached free =>
      apply one.update
      rintro node ⟨⟩ j other
      exact free j other
  | openNamed | openCreates | flockExclusive | flockRelease | flockShared | openDevice | openFails
  | openFailsLate | openFailed | closeDevice | unlinkLockFile | unlinkFails | closeLockFile
  | exit =>
      apply one.update
      rintro node ⟨⟩

theorem oneHolder_of_runs {kind : ι → Program} {spared : Prop} {file : Option Nat}
    {system : System ι}
    (run : Runs (Moves kind) (ProtocolAllows spared) (System.initial file) system) :
    OneHolder system.phase := by
  induction run with
  | refl => rintro i j node ⟨⟩
  | step _ moves _ ih => exact ih.moves moves

/-- What a process talks to is a device it has claimed. -/
theorem claimed_of_talksTo {kind : ι → Program} {spared : Prop} {first : System ι}
    {base : ι → Nat → Option Description} {stage : ι → Stage} {i : ι}
    {post : α i → Stage → Prop} {file : File}
    (mirrors : Mirrors kind spared first base last.kernel stage)
    (conducts : ∀ script, last.code i = some script →
      Conducts (kind i) (paths i) post script (stage i))
    (talks : TalksTo last i file) :
    ∃ node, file = .node node ∧ (stage i).phase = .claimed node := by
  obtain ⟨request, next, fd, description, pending, about, found, rfl⟩ := talks
  have permits := (conducts _ pending).1
  have holds : fd < 0 ∨ ∃ k : Nat, fd = k ∧ (stage i).Holds k := by
    cases request <;> cases about <;> exact permits
  rcases holds with below | ⟨k, rfl, lockFd, inode, node, claimed⟩
  · cases fd with
    | ofNat k => exact absurd below (Int.not_lt.mpr (Int.natCast_nonneg k))
    | negSucc k => cases found
  · change last.kernel.table i k = some description at found
    rw [mirrors.table i, claimed, Stage.table, Stage.also, Function.update_self] at found
    cases found
    exact ⟨node, rfl, congrArg Stage.phase claimed⟩

/-- In every run, no two processes talk to the same device at a time. -/
theorem talksTo_unique (sound : ∀ i, (code i).Sound (paths i))
    (run : ReachesAny code paths kernel last) {file : File} {i j : ι}
    (first : TalksTo last i file) (second : TalksTo last j file) : i = j := by
  obtain ⟨stage, mirrors, conducts⟩ := tracked_of_reaches sound (allowed_of_any run)
  obtain ⟨node, rfl, claimed⟩ := claimed_of_talksTo mirrors (conducts i) first
  obtain ⟨other, same, alsoClaimed⟩ := claimed_of_talksTo mirrors (conducts j) second
  cases same
  exact oneHolder_of_runs mirrors.runs i j node claimed alsoClaimed

/-- Two programs talk to their devices, and nobody else does. -/
theorem talksTo_unique_claimed :
    ∃ last : Processes fun _ : Fin 2 => Int,
      ReachesAny (sessions ownDevices) twoDevices emptyKernel last ∧
      TalksTo last 0 (.node 0) ∧ TalksTo last 1 (.node 1) ∧
      ∀ j, (TalksTo last j (.node 0) → 0 = j) ∧ (TalksTo last j (.node 1) → 1 = j) := by
  obtain ⟨last, _, run, first, second, _⟩ := reaches_both
  refine ⟨last, run, first, second, ?_⟩
  intro j
  exact ⟨talksTo_unique sound_ownDevices run first, talksTo_unique sound_ownDevices run second⟩

/-! ## Scanning alone -/

/-- Only a scan holds the exclusive lock on the lock file. -/
theorem Stage.scanning_of_exclusive {stage : Stage} {base : Nat → Option Description}
    (clean : ∀ fd description inode, base fd = some description →
      description.file ≠ .lockFile inode) {fd inode : Nat}
    (held : stage.table base fd = some ⟨.lockFile inode, some .exclusive⟩) :
    stage.phase = .scanning := by
  have other {k : Nat} {file : File} {lock : Option LockMode} {table : Nat → Option Description}
      (entry : also k file lock table fd = some ⟨.lockFile inode, some .exclusive⟩)
      (differs : (⟨file, lock⟩ : Description) ≠ ⟨.lockFile inode, some .exclusive⟩) :
      table fd = some ⟨.lockFile inode, some .exclusive⟩ := by
    by_cases here : fd = k
    · rw [also, here, Function.update_self] at entry
      exact absurd (Option.some.inj entry) differs
    · rwa [also, Function.update_of_ne here] at entry
  have none {table : Nat → Option Description} (same : table = base)
      (entry : table fd = some ⟨.lockFile inode, some .exclusive⟩) : False :=
    clean fd _ inode (same ▸ entry) rfl
  cases stage with
  | scanning => rfl
  | idle | finished => exact (none rfl held).elim
  | opened | scanned | locked | detached | unlinked | left =>
      exact (none rfl (other held (by rintro ⟨⟩))).elim
  | attached | claimed =>
      exact (none rfl (other (other held (by rintro ⟨⟩)) (by rintro ⟨⟩))).elim
  | releasing => exact (none rfl (other held (by rintro ⟨⟩))).elim
  | gone => cases held

/-- In every run in which the name of the lock file is never removed from under
another process, no process is about to use its device while another one has the
lock file locked for a scan. -/
theorem not_usesDevice_of_scan (sound : ∀ i, (code i).Sound (paths i)) (fresh : Fresh kernel)
    (run : Reaches True code paths kernel last) {i j : ι} (other : i ≠ j) {fd inode : Nat}
    (scans : last.kernel.table i fd = some ⟨.lockFile inode, some .exclusive⟩) :
    ¬ UsesDevice last j := by
  obtain ⟨stage, mirrors, conducts⟩ := tracked_of_reaches sound run
  rw [mirrors.table i] at scans
  have scanning := Stage.scanning_of_exclusive (fresh i) scans
  have guarded : Guarded (systemOf last.kernel.name stage) :=
    mirrors.runs.invariant (guarded_initial _) fun _ _ _ moves allowed kept =>
      kept.moves moves (allowed trivial)
  have alone := guarded.scansAlone i j other scanning
  rintro (⟨path, next, pending⟩ | ⟨file, talks⟩)
  · obtain ⟨_, lockFd, number, locked⟩ := (conducts j _ pending).1
    apply alone
    change (stage j).phase.Uses
    rw [locked]
    trivial
  · obtain ⟨node, _, claimed⟩ := claimed_of_talksTo mirrors (conducts j) talks
    apply alone
    change (stage j).phase.Uses
    rw [claimed]
    trivial

/-- While the tool scans, the other program, which has opened the lock file, does
not come to use its device. -/
theorem not_usesDevice_of_scan_first :
    ∃ (last : Processes fun _ : Fin 2 => Int) (next : Unit → Sys Int),
      Reaches True twoPrograms twoDevices emptyKernel last ∧
      last.kernel.table 1 0 = some ⟨.lockFile 0, some .exclusive⟩ ∧
      last.code 0 = some (.call (.print .canNotObtainSharedLock) next) ∧
      ¬ UsesDevice last 0 := by
  obtain ⟨last, next, run, scans, refused⟩ := reaches_scan
  exact ⟨last, next, run, scans, refused, not_usesDevice_of_scan sound_twoPrograms
    fresh_emptyKernel run (show (1 : Fin 2) ≠ 0 by decide) scans⟩

/-! ## Descriptors -/

/-- A lock is taken on a descriptor that the process has opened. -/
theorem Locks.isOpen {kind : Program} {stage next : Stage} {fd : Nat} {mode : LockMode}
    {base : Nat → Option Description} (locks : Locks kind stage fd mode next)
    (placed : stage.Placed base) : base fd = none ∧ stage.table base fd ≠ none := by
  cases locks with
  | claim distinct =>
      constructor
      · exact placed.2.1
      · simp only [Stage.table, Stage.also, Function.update_self]
        exact Option.some_ne_none _
  | scan | share | convert | converted =>
      constructor
      · exact placed
      · simp only [Stage.table, Stage.also, Function.update_self]
        exact Option.some_ne_none _

/-- What is closed was opened by the process. -/
theorem Closes.unused {kind : Program} {stage next : Stage} {fd : Nat}
    {base : Nat → Option Description} (closes : Closes kind stage fd next)
    (placed : stage.Placed base) : base fd = none := by
  cases closes with
  | early | locked | releasing | unlinked => exact placed
  | attached | claimed => exact placed.1
  | detach | abandon | leave => exact placed.2.1

/-- In every run, a call about a descriptor is about one that its process has
opened and not yet closed, or about a negative one. -/
theorem descriptor_own (sound : ∀ i, (code i).Sound (paths i))
    (run : ReachesAny code paths kernel last) {i : ι} {request : SysCall}
    {next : request.Answer → Sys (α i)} (pending : last.code i = some (.call request next))
    {fd : Int} (about : request.descriptor = some fd) :
    fd < 0 ∨ ∃ k : Nat, fd = k ∧ kernel.table i k = none ∧ last.kernel.table i k ≠ none := by
  obtain ⟨stage, mirrors, conducts⟩ := tracked_of_reaches sound (allowed_of_any run)
  have permits := (conducts i _ pending).1
  have placed := mirrors.placed i
  have held {k : Nat} (holds : (stage i).Holds k) :
      kernel.table i k = none ∧ last.kernel.table i k ≠ none := by
    obtain ⟨lockFd, inode, node, claimed⟩ := holds
    rw [claimed] at placed
    constructor
    · exact placed.2.1
    · rw [mirrors.table i, claimed, Stage.table, Stage.also, Function.update_self]
      exact Option.some_ne_none _
  cases request with
  | flock fd mode =>
      cases about
      rcases permits with below | ⟨k, after, same, locks⟩
      · exact Or.inl below
      · rw [mirrors.table i]
        exact Or.inr ⟨k, same, locks.isOpen placed⟩
  | close fd =>
      cases about
      rcases permits with below | ⟨k, after, same, closes⟩
      · exact Or.inl below
      · rw [mirrors.table i]
        exact Or.inr ⟨k, same, closes.unused placed, closes.isOpen placed⟩
  | read fd | ioctl fd control | bulk fd bytes =>
      cases about
      rcases permits with below | ⟨k, same, holds⟩
      · exact Or.inl below
      · exact Or.inr ⟨k, same, held holds⟩
  | openLockFile | openDevice | unlinkLockFile | getenv | devices | print | other => cases about

/-- The descriptors from which two programs read are their own. -/
theorem descriptor_own_claimed :
    ∃ last : Processes fun _ : Fin 2 => Int,
      ReachesAny (sessions ownDevices) twoDevices emptyKernel last ∧
      TalksTo last 0 (.node 0) ∧ TalksTo last 1 (.node 1) ∧
      ∀ i, ∃ k : Nat, emptyKernel.table i k = none ∧ last.kernel.table i k ≠ none := by
  obtain ⟨last, _, run, first, second, _⟩ := reaches_both
  refine ⟨last, run, first, second, ?_⟩
  intro i
  have talks : ∃ file, TalksTo last i file := by
    match i with
    | 0 => exact ⟨_, first⟩
    | 1 => exact ⟨_, second⟩
  obtain ⟨file, request, next, fd, description, pending, about, found, _⟩ := talks
  have same : request.descriptor = some fd := by
    cases request <;> cases about <;> rfl
  rcases descriptor_own sound_ownDevices run pending same with
    below | ⟨k, _, unused, isOpen⟩
  · cases fd with
    | ofNat k => exact absurd below (Int.not_lt.mpr (Int.natCast_nonneg k))
    | negSucc k => cases found
  · exact ⟨k, unused, isOpen⟩

/-- What a program leaves open, compared with the descriptors it started with. -/
def Code.Leaves {α : Type} (before after : Nat → Option Description) : Code α → α → Prop
  | .library _, p =>
      p.error ≠ 0 ∧ p.lockFd = -1 ∧ p.fd = -1 ∧ after = before ∨
        p.error = 0 ∧ ∃ lockFd inode fd node : Nat, p.lockFd = lockFd ∧ p.fd = fd ∧
          fd ≠ lockFd ∧ before lockFd = none ∧ before fd = none ∧
          after = Stage.also fd (.node node) (some .exclusive)
            (Stage.also lockFd (.lockFile inode) (some .shared) before)
  | .session _ _, _ => after = before
  | .tool _ _ _, _ =>
      after = before ∨ ∃ lockFd inode lock, before lockFd = none ∧
        after = Stage.also lockFd (.lockFile inode) lock before

omit [DecidableEq ι] in
theorem Code.leaves_of_post {α : Type} {code : Code α} {result : α} {stage : Stage}
    {before : Nat → Option Description} (ends : code.post result stage)
    (placed : stage.Placed before) : code.Leaves before (stage.table before) result := by
  cases code with
  | library devPath =>
      rcases ends with ⟨failed, lockFd, fd, rfl | ⟨inode, rfl⟩⟩ |
        ⟨succeeded, lockFd, inode, fd, node, same, device, distinct, rfl⟩
      · exact Or.inl ⟨failed, lockFd, fd, rfl⟩
      · exact Or.inl ⟨failed, lockFd, fd, rfl⟩
      · exact Or.inr ⟨succeeded, lockFd, inode, fd, node, same, device, distinct, placed.1,
          placed.2.1, rfl⟩
  | session devPath work =>
      rcases ends with rfl | ⟨inode, rfl⟩
      · rfl
      · rfl
  | tool serve stack argv =>
      cases stage with
      | attached | claimed | releasing | gone => exact ends.elim
      | idle | finished => exact Or.inl rfl
      | opened | scanning | scanned | locked | detached | unlinked | left =>
          exact Or.inr ⟨_, _, _, placed, rfl⟩

/-- In every run, `puppy_open` is done with both descriptors open and locked or
with none; a program over the library has closed whatever it opened; and `main`
has closed the device. -/
theorem leaves_of_done (sound : ∀ i, (code i).Sound (paths i))
    (run : ReachesAny code paths kernel last) {i : ι} {result : α i}
    (done : last.code i = some (.done result)) :
    (code i).Leaves (kernel.table i) (last.kernel.table i) result := by
  obtain ⟨stage, mirrors, conducts⟩ := tracked_of_reaches sound (allowed_of_any run)
  have ends : (code i).post result (stage i) := conducts i _ done
  rw [mirrors.table i]
  exact Code.leaves_of_post ends (mirrors.placed i)

/-- A program over the library that has talked to its device leaves nothing, while
another one goes on to talk to its own. -/
theorem leaves_of_done_session :
    ∃ middle last : Processes fun _ : Fin 2 => Int,
      ReachesAny (sessions ownDevices) twoDevices emptyKernel middle ∧
      TalksTo middle 0 (.node 0) ∧ GoesOn twoDevices middle last ∧
      TalksTo last 1 (.node 1) ∧ last.code 0 = some (.done 0) ∧
      (sessions ownDevices 0).Leaves (emptyKernel.table 0) (last.kernel.table 0) 0 := by
  obtain ⟨middle, last, run, first, _, further, done, second⟩ := reaches_both
  exact ⟨middle, last, run, first, further, second, done,
    leaves_of_done sound_ownDevices (run.trans further) done⟩

end Protocol

end Puppy.Lock
