import Puppy.Lock.Conduct
import Puppy.Lock.Exclusion

/-!
# The programs refine the protocol

A pool of processes whose programs follow the discipline is seen as a system of
the protocol: the phase of a process and the inode it has open are those of its
stage.  Every step of the pool is a step of the protocol or none, so that what
the protocol guarantees holds of the programs.
-/

namespace Puppy.Lock

open Process Transition

universe u

variable {ι : Type u}

namespace Stage

/-- A process with the lock file open has a descriptor for its inode, with the
lock of its phase. -/
theorem table_of_hasLockFile {stage : Stage} {base : Nat → Option Description}
    (placed : stage.Placed base) (isOpen : stage.phase.HasLockFile) :
    ∃ fd, stage.table base fd = some ⟨.lockFile stage.inode, stage.phase.lock⟩ := by
  cases stage with
  | idle | releasing | left | finished | gone => exact isOpen.elim
  | opened lockFd | scanning lockFd | scanned lockFd | locked lockFd | detached lockFd
  | unlinked lockFd => exact ⟨lockFd, Function.update_self _ _ _⟩
  | attached lockFd inode fd node | claimed lockFd inode fd node =>
      refine ⟨lockFd, ?_⟩
      simp only [table, also]
      rw [Function.update_of_ne placed.2.2.symm]
      exact Function.update_self _ _ _

/-- A lock is held on a file that is open. -/
theorem hasLockFile_of_lock {phase : Phase} {mode : LockMode} (held : phase.lock = some mode) :
    phase.HasLockFile := by
  cases phase <;> trivial

/-- A process that has claimed a device holds the lock on it. -/
theorem table_of_claimed {stage : Stage} {base : Nat → Option Description} {node : Nat}
    (claimed : stage.phase = .claimed node) :
    ∃ fd, stage.table base fd = some ⟨.node node, some .exclusive⟩ := by
  cases stage with
  | claimed lockFd inode fd number =>
      cases claimed
      exact ⟨fd, Function.update_self _ _ _⟩
  | _ => cases claimed

end Stage

/-- What is closed is open. -/
theorem Closes.isOpen {kind : Program} {stage last : Stage} {fd : Nat}
    {base : Nat → Option Description} (closes : Closes kind stage fd last)
    (placed : stage.Placed base) : stage.table base fd ≠ none := by
  cases closes with
  | attached distinct | claimed distinct =>
      simp only [Stage.table, Stage.also, Function.update_of_ne distinct.symm,
        Function.update_self]
      exact Option.some_ne_none _
  | early | locked | releasing | detach | unlinked | abandon | leave =>
      simp only [Stage.table, Stage.also, Function.update_self]
      exact Option.some_ne_none _

/-- The system of the protocol behind the stages of all processes. -/
def systemOf (name : Option Nat) (stage : ι → Stage) : System ι where
  file := name
  phase i := (stage i).phase
  inode i := (stage i).inode

section Views

variable [DecidableEq ι] {name : Option Nat} {stage : ι → Stage} {i : ι}

theorem systemOf_goto {last : Stage} (same : last.inode = (stage i).inode) :
    systemOf name (Function.update stage i last) = (systemOf name stage).goto i last.phase := by
  simp only [systemOf, System.goto, System.mk.injEq, true_and]
  constructor
  · funext j
    by_cases self : j = i
    · subst self
      rw [Function.update_self, Function.update_self]
    · rw [Function.update_of_ne self, Function.update_of_ne self]
  · funext j
    by_cases self : j = i
    · subst self
      rw [Function.update_self, same]
    · rw [Function.update_of_ne self]

theorem systemOf_openInode {lockFd inode : Nat} :
    systemOf (some inode) (Function.update stage i (.opened lockFd inode)) =
      (systemOf name stage).openInode i inode := by
  simp only [systemOf, System.openInode, System.goto, System.mk.injEq, true_and]
  constructor
  · funext j
    by_cases self : j = i
    · subst self
      rw [Function.update_self, Function.update_self]
      rfl
    · rw [Function.update_of_ne self, Function.update_of_ne self]
  · funext j
    by_cases self : j = i
    · subst self
      rw [Function.update_self, Function.update_self]
      rfl
    · rw [Function.update_of_ne self, Function.update_of_ne self]

end Views

/-! ## The view -/

/-- The name of the lock file is only removed while no other process has the inode
of that name open. -/
def Kernel.Spares (kernel : Kernel ι) : Pool.Event ι SysCall → Prop
  | .answered i .unlinkLockFile =>
      ∀ j fd description inode, j ≠ i → kernel.table j fd = some description →
        description.file = .lockFile inode → kernel.name ≠ some inode
  | _ => True

/-- All events are allowed, or those that spare others. -/
def KernelAllows (spared : Prop) (kernel : Kernel ι) (event : Pool.Event ι SysCall) : Prop :=
  spared → kernel.Spares event

/-- The same for the protocol. -/
def ProtocolAllows (spared : Prop) (system : System ι) (event : Event ι) : Prop :=
  spared → SparesOthers system event

section Mirrors

variable [DecidableEq ι]

/-- Every process has open what its stage says, on top of what it started with,
and the stages are reached by a run of the protocol. -/
structure Mirrors (kind : ι → Program) (spared : Prop) (first : System ι)
    (base : ι → Nat → Option Description) (kernel : Kernel ι) (stage : ι → Stage) : Prop where
  table : ∀ i, kernel.table i = (stage i).table (base i)
  placed : ∀ i, (stage i).Placed (base i)
  runs : Runs (Moves kind) (ProtocolAllows spared) first (systemOf kernel.name stage)

variable {kind : ι → Program} {spared : Prop} {first : System ι}
  {base : ι → Nat → Option Description} {kernel : Kernel ι} {stage : ι → Stage} {i : ι}

/-- A call that changes nothing. -/
theorem Mirrors.stays (mirrors : Mirrors kind spared first base kernel stage) :
    Mirrors kind spared first base kernel (Function.update stage i (stage i)) := by
  rw [Function.update_eq_self]
  exact mirrors

/-- A call that changes the descriptors of its process. -/
theorem Mirrors.goes (mirrors : Mirrors kind spared first base kernel stage) {last : Stage}
    {name : Option Nat} {entries : Nat → Option Description}
    (table : entries = last.table (base i)) (placed : last.Placed (base i))
    (runs : Runs (Moves kind) (ProtocolAllows spared) first
      (systemOf name (Function.update stage i last))) :
    Mirrors kind spared first base
      { name, table := Function.update kernel.table i entries } (Function.update stage i last) := by
  constructor
  · intro j
    by_cases self : j = i
    · subst self
      simp only [Function.update_self]
      exact table
    · simp only [Function.update_of_ne self]
      exact mirrors.table j
  · intro j
    by_cases self : j = i
    · subst self
      rw [Function.update_self]
      exact placed
    · rw [Function.update_of_ne self]
      exact mirrors.placed j
  · exact runs

/-- The protocol moves along, to a phase with the same inode. -/
theorem Mirrors.runs_goto (mirrors : Mirrors kind spared first base kernel stage) {last : Stage}
    {event : Event ι} (same : last.inode = (stage i).inode)
    (moves : Moves kind (systemOf kernel.name stage) event
      ((systemOf kernel.name stage).goto i last.phase))
    (allowed : ProtocolAllows spared (systemOf kernel.name stage) event) :
    Runs (Moves kind) (ProtocolAllows spared) first
      (systemOf kernel.name (Function.update stage i last)) := by
  rw [systemOf_goto same]
  exact mirrors.runs.step moves allowed

/-- What the kernel grants on the lock file, the protocol grants. -/
theorem Mirrors.grants (mirrors : Mirrors kind spared first base kernel stage) {fd : Nat}
    {mode : LockMode} (granted : kernel.Grants i fd (.lockFile (stage i).inode) mode) :
    (systemOf kernel.name stage).Grants i mode := by
  intro j other same
  cases held : (stage j).phase.lock with
  | none => exact Or.inl held
  | some lock =>
      obtain ⟨k, entry⟩ := Stage.table_of_hasLockFile (mirrors.placed j)
        (Stage.hasLockFile_of_lock held)
      rw [← mirrors.table j] at entry
      have allows := granted j k _ (Or.inl other) entry (congrArg File.lockFile same)
      exact allows

/-- A device that the kernel lets a process lock has been claimed by nobody else. -/
theorem Mirrors.free (mirrors : Mirrors kind spared first base kernel stage) {fd node : Nat}
    (granted : kernel.Grants i fd (.node node) .exclusive) (j : ι) (other : j ≠ i) :
    (systemOf kernel.name stage).phase j ≠ .claimed node := by
  intro claimed
  obtain ⟨k, entry⟩ := Stage.table_of_claimed claimed
  rw [← mirrors.table j] at entry
  rcases granted j k _ (Or.inl other) entry rfl with free | ⟨shared, _⟩
  · cases free
  · cases shared

/-- An inode that nobody has open is new to the protocol. -/
theorem Mirrors.fresh (mirrors : Mirrors kind spared first base kernel stage) {inode : Nat}
    (fresh : ∀ j k description, kernel.table j k = some description →
      description.file ≠ .lockFile inode) (j : ι)
    (isOpen : ((systemOf kernel.name stage).phase j).HasLockFile) :
    (systemOf kernel.name stage).inode j ≠ inode := by
  obtain ⟨k, entry⟩ := Stage.table_of_hasLockFile (mirrors.placed j) isOpen
  rw [← mirrors.table j] at entry
  intro same
  exact fresh j k _ entry (congrArg File.lockFile same)

/-- Removing a name that nobody else has open spares the others. -/
theorem Mirrors.spares (mirrors : Mirrors kind spared first base kernel stage)
    (allowed : KernelAllows spared kernel (.answered i .unlinkLockFile)) :
    ProtocolAllows spared (systemOf kernel.name stage) (.unlinkLockFile i) := by
  intro holds j other engaged named
  have isOpen : (stage j).phase.HasLockFile := by
    change ((stage j).phase).Engaged at engaged
    revert engaged
    generalize (stage j).phase = phase
    cases phase <;> first | exact id | exact fun _ => trivial
  obtain ⟨k, entry⟩ := Stage.table_of_hasLockFile (mirrors.placed j) isOpen
  rw [← mirrors.table j] at entry
  exact allowed holds j k _ _ other entry rfl named

/-! ## One call -/

variable {paths : ι → Paths} {after : Kernel ι}

/-- A call is answered as the discipline says, and what it does is what the stage
it leads to says. -/
def Matched (kind : ι → Program) (spared : Prop) (first : System ι)
    (base : ι → Nat → Option Description) (paths : ι → Paths) (stage : ι → Stage) (i : ι)
    (request : SysCall) (answer : request.Answer) (after : Kernel ι) : Prop :=
  ∃ last, Leads (kind i) (paths i) (stage i) request answer last ∧
    Mirrors kind spared first base after (Function.update stage i last)

theorem Mirrors.openLockFile (mirrors : Mirrors kind spared first base kernel stage)
    {answer : Int} (idle : stage i = .idle)
    (serves : kernel.Serves paths i .openLockFile answer after) :
    Matched kind spared first base paths stage i .openLockFile answer after := by
  have start := mirrors.table i
  rw [idle] at start
  have phase : (systemOf kernel.name stage).phase i = .idle := congrArg Stage.phase idle
  cases serves with
  | openLockFileFails => exact ⟨_, Or.inl ⟨rfl, rfl⟩, mirrors.stays⟩
  | @openNamed fd inode named unused =>
      refine ⟨.opened fd inode, Or.inr ⟨fd, inode, rfl, rfl⟩, ?_⟩
      apply mirrors.goes
      · rw [start]
        rfl
      · rw [start] at unused
        exact unused
      · rw [named, systemOf_openInode]
        exact mirrors.runs.step (.openNamed phase named) fun _ => trivial
  | @openCreates fd inode absent fresh unused =>
      refine ⟨.opened fd inode, Or.inr ⟨fd, inode, rfl, rfl⟩, ?_⟩
      apply mirrors.goes
      · rw [start]
        rfl
      · rw [start] at unused
        exact unused
      · rw [systemOf_openInode]
        exact mirrors.runs.step (.openCreates phase absent (mirrors.fresh fresh)) fun _ => trivial

theorem Mirrors.openDevice (mirrors : Mirrors kind spared first base kernel stage)
    {answer : Int} {path : CString} {lockFd inode : Nat} (leads : (paths i).node path ≠ none)
    (locked : stage i = .locked lockFd inode)
    (serves : kernel.Serves paths i (.openDevice path) answer after) :
    Matched kind spared first base paths stage i (.openDevice path) answer after := by
  have table := mirrors.table i
  have placed := mirrors.placed i
  rw [locked] at table placed
  cases serves with
  | openDeviceFails => exact ⟨_, Or.inl ⟨rfl, rfl⟩, mirrors.stays⟩
  | @openDevice _ fd number found unused =>
      rw [table] at unused
      have distinct : fd ≠ lockFd := by
        rintro rfl
        simp only [Stage.table, Stage.also, Function.update_self] at unused
        cases unused
      refine ⟨.attached lockFd inode fd number,
        Or.inr ⟨lockFd, inode, fd, number, locked, distinct, rfl, rfl⟩, ?_⟩
      apply mirrors.goes
      · rw [table]
        rfl
      · simp only [Stage.table, Stage.also, Function.update_of_ne distinct] at unused
        exact ⟨placed, unused, distinct⟩
      · exact mirrors.runs_goto (by rw [locked]; rfl)
          (.openDevice number (congrArg Stage.phase locked)) fun _ => trivial
  | openDeviceNamed named => exact absurd named leads

/-- A lock that is granted. -/
theorem Mirrors.locks (mirrors : Mirrors kind spared first base kernel stage) {fd : Nat}
    {mode : LockMode} {description : Description} {last : Stage}
    (locks : Locks (kind i) (stage i) fd mode last)
    (isOpen : kernel.table i fd = some description)
    (converted : description.lock = none ∨ description.lock = some mode)
    (granted : kernel.Grants i fd description.file mode) :
    Mirrors kind spared first base
      (kernel.set i fd (some { description with lock := some mode }))
      (Function.update stage i last) := by
  have table := mirrors.table i
  have placed := mirrors.placed i
  rw [table] at isOpen
  generalize before : stage i = here at locks table placed isOpen
  have phase : (systemOf kernel.name stage).phase i = here.phase := congrArg Stage.phase before
  cases locks with
  | scan tool =>
      simp only [Stage.table, Stage.also, Function.update_self] at isOpen
      cases isOpen
      apply mirrors.goes
      · rw [table]
        exact Function.update_idem _ _ _
      · exact placed
      · have grants : (systemOf kernel.name stage).Grants i _ :=
          mirrors.grants (by rw [before]; exact granted)
        exact mirrors.runs_goto (by rw [before]; rfl) (.flockExclusive tool phase grants)
          fun _ => trivial
  | share =>
      simp only [Stage.table, Stage.also, Function.update_self] at isOpen
      cases isOpen
      apply mirrors.goes
      · rw [table]
        exact Function.update_idem _ _ _
      · exact placed
      · have grants : (systemOf kernel.name stage).Grants i _ :=
          mirrors.grants (by rw [before]; exact granted)
        exact mirrors.runs_goto (by rw [before]; rfl) (.flockShared (Or.inl phase) grants)
          fun _ => trivial
  | convert tool =>
      simp only [Stage.table, Stage.also, Function.update_self] at isOpen
      cases isOpen
      rcases converted with free | same
      · cases free
      · cases same
  | converted tool =>
      simp only [Stage.table, Stage.also, Function.update_self] at isOpen
      cases isOpen
      apply mirrors.goes
      · rw [table]
        exact Function.update_idem _ _ _
      · exact placed
      · have grants : (systemOf kernel.name stage).Grants i _ :=
          mirrors.grants (by rw [before]; exact granted)
        exact mirrors.runs_goto (by rw [before]; rfl) (.flockShared (Or.inr phase) grants)
          fun _ => trivial
  | claim distinct =>
      simp only [Stage.table, Stage.also, Function.update_self] at isOpen
      cases isOpen
      apply mirrors.goes
      · rw [table]
        exact Function.update_idem _ _ _
      · exact placed
      · exact mirrors.runs_goto (by rw [before]; rfl) (.flockDevice phase (mirrors.free granted))
          fun _ => trivial

/-- A descriptor that is closed. -/
theorem Mirrors.closes (mirrors : Mirrors kind spared first base kernel stage) {fd : Nat}
    {last : Stage} (closes : Closes (kind i) (stage i) fd last) :
    Mirrors kind spared first base (kernel.set i fd none) (Function.update stage i last) := by
  have table := mirrors.table i
  have placed := mirrors.placed i
  have removed {entry : Nat → Option Description} {k : Nat} {file : File}
      {lock : Option LockMode} (unused : entry k = none) :
      Function.update (Stage.also k file lock entry) k none = entry := by
    rw [Stage.also, Function.update_idem, ← unused, Function.update_eq_self]
  generalize before : stage i = here at closes table placed
  generalize program : kind i = who at closes
  have phase : (systemOf kernel.name stage).phase i = here.phase := congrArg Stage.phase before
  have onlyDevice {lockFd k : Nat} {file : File} {lock : Option LockMode} (distinct : k ≠ lockFd)
      {inode : Nat} (unused : base i lockFd = none) :
      Function.update (Stage.also k file lock
        (Stage.also lockFd (.lockFile inode) (some .shared) (base i))) lockFd none =
        Stage.also k file lock (base i) := by
    rw [Stage.also, Function.update_comm distinct, removed unused]
    rfl
  have beside {lockFd k inode : Nat} (distinct : k ≠ lockFd) (unused : base i k = none) :
      Stage.also lockFd (.lockFile inode) (some .shared) (base i) k = none := by
    rw [Stage.also, Function.update_of_ne distinct]
    exact unused
  cases closes with
  | early =>
      refine mirrors.goes ?_ trivial ?_
      · rw [table]
        exact removed placed
      · exact mirrors.runs_goto (by rw [before]; rfl) (.openFails program (Or.inl phase))
          fun _ => trivial
  | locked =>
      refine mirrors.goes ?_ trivial ?_
      · rw [table]
        exact removed placed
      · exact mirrors.runs_goto (by rw [before]; rfl) (.openFails program (Or.inr phase))
          fun _ => trivial
  | attached distinct =>
      refine mirrors.goes ?_ placed.2.1 ?_
      · rw [table]
        exact onlyDevice distinct placed.1
      · exact mirrors.runs_goto (by rw [before]; rfl) (.openFailsLate program (Or.inl phase))
          fun _ => trivial
  | claimed distinct =>
      refine mirrors.goes ?_ placed.2.1 ?_
      · rw [table]
        exact onlyDevice distinct placed.1
      · exact mirrors.runs_goto (by rw [before]; rfl) (.openFailsLate program (Or.inr phase))
          fun _ => trivial
  | releasing =>
      refine mirrors.goes ?_ trivial ?_
      · rw [table]
        exact removed placed
      · exact mirrors.runs_goto (by rw [before]; rfl) (.openFailed phase) fun _ => trivial
  | detach distinct =>
      refine mirrors.goes ?_ placed.1 ?_
      · rw [table]
        exact removed (beside distinct placed.2.1)
      · exact mirrors.runs_goto (by rw [before]; rfl) (.closeDevice program phase)
          fun _ => trivial
  | unlinked =>
      refine mirrors.goes ?_ trivial ?_
      · rw [table]
        exact removed placed
      · exact mirrors.runs_goto (by rw [before]; rfl) (.closeLockFile phase) fun _ => trivial
  | abandon distinct =>
      refine mirrors.goes ?_ placed.1 ?_
      · rw [table]
        exact removed (beside distinct placed.2.1)
      · exact mirrors.runs_goto (by rw [before]; rfl) (.exit i) fun _ => trivial
  | leave distinct =>
      refine mirrors.goes ?_ placed.1 ?_
      · rw [table]
        exact removed (beside distinct placed.2.1)
      · exact mirrors.runs_goto (by rw [before]; rfl) (.exit i) fun _ => trivial

/-- The name of the lock file is removed, or that fails. -/
theorem Mirrors.unlink (mirrors : Mirrors kind spared first base kernel stage) {answer : Int}
    {lockFd inode : Nat} (detached : stage i = .detached lockFd inode)
    (allowed : KernelAllows spared kernel (.answered i .unlinkLockFile))
    (serves : kernel.Serves paths i .unlinkLockFile answer after) :
    Matched kind spared first base paths stage i .unlinkLockFile answer after := by
  have table := mirrors.table i
  have placed := mirrors.placed i
  rw [detached] at table placed
  have phase : (systemOf kernel.name stage).phase i = .detached := congrArg Stage.phase detached
  have same : (Stage.unlinked lockFd inode).inode = (stage i).inode := by
    rw [detached]
    rfl
  have tables : kernel.table = Function.update kernel.table i (kernel.table i) := by
    rw [Function.update_eq_self]
  refine ⟨.unlinked lockFd inode, ⟨lockFd, inode, detached, rfl⟩, ?_⟩
  cases serves with
  | unlinkFails =>
      have gone : Mirrors kind spared first base
          { name := kernel.name, table := Function.update kernel.table i (kernel.table i) }
          (Function.update stage i (.unlinked lockFd inode)) :=
        mirrors.goes table placed
          (mirrors.runs_goto same (.unlinkFails phase) (mirrors.spares allowed))
      rwa [← tables] at gone
  | unlink named =>
      have gone : Mirrors kind spared first base
          { name := none, table := Function.update kernel.table i (kernel.table i) }
          (Function.update stage i (.unlinked lockFd inode)) := by
        refine mirrors.goes table placed ?_
        have view : systemOf none (Function.update stage i (.unlinked lockFd inode)) =
            { (systemOf kernel.name stage).goto i .unlinked with file := none } := by
          have moved :
              systemOf kernel.name (Function.update stage i (.unlinked lockFd inode)) = _ :=
            systemOf_goto same
          exact congrArg (fun system : System ι => { system with file := none }) moved
        rw [view]
        exact mirrors.runs.step (.unlinkLockFile phase) (mirrors.spares allowed)
      rwa [← tables] at gone

/-- Every call that the discipline permits is answered as it says. -/
theorem Mirrors.answered (mirrors : Mirrors kind spared first base kernel stage)
    {request : SysCall} {answer : request.Answer}
    (permits : Permits (kind i) (paths i) (stage i) request)
    (allowed : KernelAllows spared kernel (.answered i request))
    (serves : kernel.Serves paths i request answer after) :
    Matched kind spared first base paths stage i request answer after := by
  have negative {fd : Int} (below : fd < 0) : kernel.lookup i fd = none := by
    cases fd with
    | ofNat k => exact absurd below (Int.not_lt.mpr (Int.natCast_nonneg k))
    | negSucc k => rfl
  cases request with
  | openLockFile => exact mirrors.openLockFile permits serves
  | openDevice path =>
      obtain ⟨leads, lockFd, inode, locked⟩ := permits
      exact mirrors.openDevice leads locked serves
  | flock fd mode =>
      cases serves with
      | flockFails => exact ⟨_, Or.inl ⟨rfl, Or.inl rfl⟩, mirrors.stays⟩
      | flock isOpen converted granted =>
          rcases permits with below | ⟨k, last, same, locks⟩
          · exact absurd below (Int.not_lt.mpr (Int.natCast_nonneg _))
          · cases Int.ofNat.inj same
            exact ⟨last, Or.inr ⟨rfl, _, rfl, locks⟩,
              mirrors.locks locks isOpen converted granted⟩
  | close fd =>
      cases serves with
      | closeClosed closed =>
          rcases permits with below | ⟨k, last, rfl, closes⟩
          · exact ⟨_, Or.inl ⟨below, rfl⟩, mirrors.stays⟩
          · have isOpen := closes.isOpen (mirrors.placed i)
            rw [← mirrors.table i] at isOpen
            exact absurd closed isOpen
      | close isOpen =>
          rcases permits with below | ⟨k, last, same, closes⟩
          · exact absurd below (Int.not_lt.mpr (Int.natCast_nonneg _))
          · cases Int.ofNat.inj same
            exact ⟨last, Or.inr ⟨_, rfl, closes⟩, mirrors.closes closes⟩
  | read fd =>
      cases serves with
      | read closed =>
          exact ⟨_, ⟨fun below => closed (negative below), rfl⟩, mirrors.stays⟩
  | ioctl fd control =>
      cases serves with
      | ioctl closed =>
          exact ⟨_, ⟨fun below => closed (negative below), rfl⟩, mirrors.stays⟩
  | bulk fd bytes =>
      cases serves with
      | bulk closed =>
          exact ⟨_, ⟨fun below => closed (negative below), rfl⟩, mirrors.stays⟩
  | unlinkLockFile =>
      obtain ⟨lockFd, inode, detached⟩ := permits
      exact mirrors.unlink detached allowed serves
  | getenv =>
      cases serves
      exact ⟨_, ⟨rfl, rfl⟩, mirrors.stays⟩
  | devices | print | other =>
      cases serves
      exact ⟨_, rfl, mirrors.stays⟩

/-- A lock that is converted is given up first. -/
theorem Mirrors.prepared (mirrors : Mirrors kind spared first base kernel stage)
    {request : SysCall} (permits : Permits (kind i) (paths i) (stage i) request)
    (prepares : kernel.Prepares i request after) :
    ∃ last, (discipline (kind i) (paths i)).Prepares (stage i) request last ∧
      Mirrors kind spared first base after (Function.update stage i last) := by
  have table := mirrors.table i
  have placed := mirrors.placed i
  cases prepares with
  | @flock fd mode held file isOpen differs =>
      rcases permits with below | ⟨k, next, same, locks⟩
      · exact absurd below (Int.not_lt.mpr (Int.natCast_nonneg _))
      · cases Int.ofNat.inj same
        rw [table] at isOpen
        generalize before : stage i = here at locks table placed isOpen
        have phase : (systemOf kernel.name stage).phase i = here.phase :=
          congrArg Stage.phase before
        cases locks with
        | @convert lockFd inode tool =>
            simp only [Stage.table, Stage.also, Function.update_self] at isOpen
            cases isOpen
            refine ⟨.scanned fd inode, ⟨fd, .shared, rfl, .scanned tool⟩, ?_⟩
            refine mirrors.goes ?_ placed ?_
            · rw [table]
              exact Function.update_idem _ _ _
            · exact mirrors.runs_goto (by rw [before]; rfl) (.flockRelease tool phase)
                fun _ => trivial
        | scan | share | converted | claim =>
            simp only [Stage.table, Stage.also, Function.update_self] at isOpen
            cases isOpen

/-- A process that ends is gone. -/
theorem Mirrors.ended (mirrors : Mirrors kind spared first base kernel stage)
    (ends : kernel.Ends i after) :
    ∃ last, Mirrors kind spared first base after (Function.update stage i last) := by
  cases ends with
  | exit =>
      refine ⟨.gone (stage i).inode, mirrors.goes rfl trivial ?_⟩
      exact mirrors.runs_goto rfl (.exit i) fun _ => trivial

variable (kind spared first base) in
/-- The view by stages is kept by everything the kernel does. -/
theorem keeps_mirrors (paths : ι → Paths) :
    Pool.Keeps (Kernel.spec paths) (fun i => discipline (kind i) (paths i)) (KernelAllows spared)
      (Mirrors kind spared first base) where
  answered mirrors permits allowed serves := mirrors.answered permits allowed serves
  prepared mirrors permits _ prepares := mirrors.prepared permits prepares
  ended mirrors _ ends := mirrors.ended ends

end Mirrors

end Puppy.Lock
