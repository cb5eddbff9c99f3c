import Puppy.Cli.Fetch

/-!
# puppy-get in two worlds

puppy-get sees its surroundings through the answers to its calls.  When one
world answers as another does, call by call, whole runs in the two worlds are
the same, and the worlds are left in states that belong together.
-/

namespace Puppy.Cli

universe u v w

variable {σ : Type u} {τ : Type v}

/-- The answers are the same, and the states behind them belong together. -/
def SameAnswer {α : Type w} (related : σ → τ → Prop) (first : α × σ) (second : α × τ) : Prop :=
  first.1 = second.1 ∧ related first.2 second.2

/-- One world answers as another does, about all paths for which `src` has
room. -/
structure Follows (related : σ → τ → Prop) (first : World σ) (second : World τ) : Prop where
  fnmatch : ∀ {s t}, related s t → ∀ glob name,
    SameAnswer related (first.fnmatch glob name s) (second.fnmatch glob name t)
  stat : ∀ {s t}, related s t → ∀ path,
    SameAnswer related (first.stat path s) (second.stat path t)
  hddFileGet : ∀ {s t}, related s t → ∀ {src : CString}, src.length < SRC_SIZE → ∀ dst,
    SameAnswer related (first.hddFileGet src dst s) (second.hddFileGet src dst t)
  hddDel : ∀ {s t}, related s t → ∀ {src : CString}, src.length < SRC_SIZE →
    SameAnswer related (first.hddDel src s) (second.hddDel src t)
  timeString : first.timeString = second.timeString

/-- Two sessions that have printed and called the same. -/
structure Along (related : σ → τ → Prop) (first : Session σ) (second : Session τ) : Prop where
  outside : related first.outside second.outside
  ok : first.ok = second.ok
  output : first.output = second.output
  calls : first.calls = second.calls

theorem devicePath_length_lt (dir dst : CString) : (devicePath dir dst).length < SRC_SIZE := by
  have length : (devicePath dir dst).length ≤ SRC_SIZE - 1 := List.length_take_le _ _
  unfold SRC_SIZE at *
  omega

namespace Along

variable {related : σ → τ → Prop} {first : Session σ} {second : Session τ}
  {one : World σ} {other : World τ}

theorem print (along : Along related first second) (message : Message) :
    Along related (first.print message) (second.print message) :=
  ⟨along.outside, along.ok, congrArg (· ++ [message]) along.output, along.calls⟩

theorem fail (along : Along related first second) (message : Message) :
    Along related (first.fail message) (second.fail message) :=
  ⟨along.outside, rfl, congrArg (· ++ [message]) along.output, along.calls⟩

theorem called (along : Along related first second) (call : Call) {s : σ} {t : τ}
    (outside : related s t) :
    Along related (first.called call s) (second.called call t) :=
  ⟨outside, along.ok, along.output, congrArg (· ++ [call]) along.calls⟩

theorem fnmatch (along : Along related first second) (follows : Follows related one other)
    (glob name : CString) :
    SameAnswer (Along related) (first.fnmatch one glob name) (second.fnmatch other glob name) := by
  obtain ⟨same, outside⟩ := follows.fnmatch along.outside glob name
  refine ⟨same, ?_⟩
  simp only [Session.fnmatch]
  rw [same]
  exact along.called _ outside

theorem stat (along : Along related first second) (follows : Follows related one other)
    (path : CString) :
    SameAnswer (Along related) (first.stat one path) (second.stat other path) := by
  obtain ⟨same, outside⟩ := follows.stat along.outside path
  refine ⟨same, ?_⟩
  simp only [Session.stat]
  rw [same]
  exact along.called _ outside

theorem hddFileGet (along : Along related first second) (follows : Follows related one other)
    {src : CString} (short : src.length < SRC_SIZE) (dst : CString) :
    SameAnswer (Along related) (first.hddFileGet one src dst)
      (second.hddFileGet other src dst) := by
  obtain ⟨same, outside⟩ := follows.hddFileGet along.outside short dst
  refine ⟨same, ?_⟩
  simp only [Session.hddFileGet]
  rw [same]
  exact along.called _ outside

theorem hddDel (along : Along related first second) (follows : Follows related one other)
    {src : CString} (short : src.length < SRC_SIZE) :
    SameAnswer (Along related) (first.hddDel one src) (second.hddDel other src) := by
  obtain ⟨same, outside⟩ := follows.hddDel along.outside short
  refine ⟨same, ?_⟩
  simp only [Session.hddDel]
  rw [same]
  exact along.called _ outside

/-! ## The branches -/

theorem matchGlobs (along : Along related first second) (follows : Follows related one other)
    (name : CString) (globs : List CString) :
    SameAnswer (Along related) (matchGlobs one name globs first)
      (matchGlobs other name globs second) := by
  induction globs generalizing first second with
  | nil => exact ⟨rfl, along⟩
  | cons glob globs ih =>
      have asked := along.fnmatch follows glob name
      simp only [Cli.matchGlobs]
      generalize first.fnmatch one glob name = left at asked ⊢
      generalize second.fnmatch other glob name = right at asked ⊢
      obtain ⟨result, first⟩ := left
      obtain ⟨answer, second⟩ := right
      obtain ⟨rfl, along⟩ := asked
      split
      · exact ⟨rfl, along⟩
      · exact ih along

theorem removeSource (along : Along related first second) (follows : Follows related one other)
    {src : CString} (short : src.length < SRC_SIZE) (dst : CString) :
    Along related (removeSource one src dst first) (removeSource other src dst second) := by
  have deleted := along.hddDel follows short
  simp only [Cli.removeSource]
  generalize first.hddDel one src = left at deleted ⊢
  generalize second.hddDel other src = right at deleted ⊢
  obtain ⟨result, first⟩ := left
  obtain ⟨answer, second⟩ := right
  obtain ⟨rfl, along⟩ := deleted
  split
  · exact along.print _
  · exact along

theorem download (along : Along related first second) (follows : Follows related one other)
    (flags : Flags) {src : CString} (short : src.length < SRC_SIZE) (entry : Entry) :
    Along related (download one flags src entry first)
      (download other flags src entry second) := by
  have got := along.hddFileGet follows short entry.name
  simp only [Cli.download]
  generalize first.hddFileGet one src entry.name = left at got ⊢
  generalize second.hddFileGet other src entry.name = right at got ⊢
  obtain ⟨result, first⟩ := left
  obtain ⟨answer, second⟩ := right
  obtain ⟨rfl, along⟩ := got
  simp only at along ⊢
  split
  · have checked := along.stat follows entry.name
    generalize first.stat one entry.name = left at checked ⊢
    generalize second.stat other entry.name = right at checked ⊢
    obtain ⟨size, first⟩ := left
    obtain ⟨answer, second⟩ := right
    obtain ⟨rfl, along⟩ := checked
    cases size with
    | none => exact along.fail _
    | some size =>
        simp only at along ⊢
        split
        · exact along.fail _
        · split
          · exact along.removeSource follows short entry.name
          · exact along
  · exact along.fail _

theorem transfer (along : Along related first second) (follows : Follows related one other)
    (flags : Flags) (dir : CString) (entry : Entry) :
    Along related (transfer one flags dir entry first)
      (transfer other flags dir entry second) := by
  have short := devicePath_length_lt dir entry.name
  simp only [Cli.transfer, follows.timeString]
  have checked := (along.print (.file (other.timeString entry.time) entry.size entry.name)).stat
    follows entry.name
  generalize (first.print _).stat one entry.name = left at checked ⊢
  generalize (second.print _).stat other entry.name = right at checked ⊢
  obtain ⟨size, first⟩ := left
  obtain ⟨answer, second⟩ := right
  obtain ⟨rfl, along⟩ := checked
  simp only at along ⊢
  split
  · have noted := along.print .alreadyTransferred
    split
    · exact (noted.print .removing).removeSource follows short entry.name
    · exact noted.print .skipping
  · split
    · exact along.download follows flags short entry
    · exact along

theorem visit (along : Along related first second) (follows : Follows related one other)
    (flags : Flags) (dir : CString) (globs : List CString) (entry : Entry) :
    Along related (visit one flags dir globs entry first)
      (visit other flags dir globs entry second) := by
  simp only [Cli.visit]
  split
  · have matched := along.matchGlobs follows entry.name globs
    generalize Cli.matchGlobs one entry.name globs first = left at matched ⊢
    generalize Cli.matchGlobs other entry.name globs second = right at matched ⊢
    obtain ⟨hit, first⟩ := left
    obtain ⟨answer, second⟩ := right
    obtain ⟨rfl, along⟩ := matched
    simp only at along ⊢
    split
    · exact along.transfer follows flags dir entry
    · exact along
  · exact along

end Along

/-! ## Whole runs -/

/-- Two runs that have done the same. -/
structure SameRun (related : σ → τ → Prop) (first : Outcome σ) (second : Outcome τ) : Prop where
  turns : first.turns = second.turns
  status : first.status = second.status
  session : Along related first.session second.session

section Runs

variable {related : σ → τ → Prop} {one : World σ} {other : World τ}

theorem sameRun_exitWith {first : Session σ} {second : Session τ}
    (along : Along related first second) :
    SameRun related (exitWith first) (exitWith second) := by
  refine ⟨rfl, ?_, along⟩
  simp only [exitWith, along.ok]

theorem visitAll_sameRun (follows : Follows related one other) (flags : Flags) (dir : CString)
    (globs : List CString) (entries : List Entry) {first : Session σ} {second : Session τ}
    (along : Along related first second) :
    SameRun related (visitAll one flags dir globs entries first)
      (visitAll other flags dir globs entries second) := by
  induction entries generalizing first second with
  | nil =>
      simp only [visitAll, along.ok]
      split
      · exact ⟨rfl, rfl, along⟩
      · exact sameRun_exitWith along
  | cons entry rest ih =>
      by_cases goesOn : second.ok = true ∧ entry.name ≠ CString.empty
      · have fresh : Along related { first with calls := [] } { second with calls := [] } :=
          ⟨along.outside, along.ok, along.output, rfl⟩
        have visited := fresh.visit follows flags dir globs entry
        obtain ⟨turns, status, session⟩ := ih visited
        rw [visitAll, if_pos (by rwa [along.ok]), visitAll, if_pos goesOn]
        refine ⟨?_, status, session⟩
        simp only [turns, visited.calls]
      · rw [visitAll, if_neg (by rwa [along.ok]), visitAll, if_neg goesOn]
        exact sameRun_exitWith along

/-- In worlds that answer alike puppy-get does the same. -/
theorem puppyGet_sameRun (follows : Follows related one other) (heap : Memory UInt8)
    (options : List Char) (operands : List CString) (opened : Bool)
    (listing : Option (List Entry)) {s : σ} {t : τ} (outside : related s t) :
    SameRun related (puppyGet one heap options operands opened listing s)
      (puppyGet other heap options operands opened listing t) := by
  unfold puppyGet
  generalize readOptions options = flags
  have initial : Along related
      { outside := s, ok := flags.ok, output := [], calls := [] }
      { outside := t, ok := flags.ok, output := [], calls := [] } :=
    ⟨outside, rfl, rfl, rfl⟩
  simp only
  split
  · split
    · split
      · exact sameRun_exitWith (initial.print _)
      · exact visitAll_sameRun follows flags _ _ _ initial
    · exact sameRun_exitWith (initial.print _)
  · exact sameRun_exitWith (initial.fail _)

end Runs

end Puppy.Cli
