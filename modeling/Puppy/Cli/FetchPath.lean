import Puppy.Cli.FetchSafety
import Mathlib.Data.List.TakeDrop

/-!
# The device paths of puppy-get

The path of a file on the device is put together in `src`, which holds 255
characters.  Wherever the directory, a backslash and the name fit, puppy-get
acts on the very file it has checked.
-/

namespace Puppy.Cli

open Puppy.Listing

universe u

/-- The directory, a backslash and a name. -/
def fullPath (dir name : CString) : List UInt8 := dir.bytes ++ backslash :: name.bytes

/-- The turn gives the device this path. -/
def Turn.ActsOn (turn : Turn) (src : CString) : Prop :=
  (∃ dst result, Call.hddFileGet src dst result ∈ turn.calls) ∨
    ∃ result, Call.hddDel src result ∈ turn.calls

/-- All turns give the device the full path of their entry, which is neither
that of an entry with another name nor the directory. -/
structure ActsOnChecked {σ : Type u} (dir : CString) (outcome : Outcome σ) : Prop where
  exact : ∀ turn ∈ outcome.turns, ∀ src, turn.ActsOn src →
    src.bytes = fullPath dir turn.entry.name
  separate : ∀ turn ∈ outcome.turns, ∀ other ∈ outcome.turns, ∀ src,
    turn.ActsOn src → other.ActsOn src → turn.entry.name = other.entry.name
  inside : ∀ turn ∈ outcome.turns, ∀ src, turn.ActsOn src →
    src ≠ dir ∧ ∀ name, src.bytes = fullPath dir name → name = turn.entry.name

theorem devicePath_full_iff (dir name : CString) :
    (devicePath dir name).bytes = fullPath dir name ↔
      dir.length + 1 + name.length < SRC_SIZE := by
  have length : (fullPath dir name).length = dir.length + 1 + name.length := by
    simp only [fullPath, List.length_append, List.length_cons, CString.length]
    omega
  have bytes : (devicePath dir name).bytes = (fullPath dir name).take (SRC_SIZE - 1) := rfl
  rw [bytes, List.take_eq_self_iff, length, SRC_SIZE]
  omega

theorem fullPath_injective {dir first second : CString}
    (same : fullPath dir first = fullPath dir second) : first = second :=
  CString.eq_iff_bytes.mpr (List.cons.inj (List.append_cancel_left same)).2

theorem fullPath_ne (dir name : CString) : fullPath dir name ≠ dir.bytes := by
  intro same
  have length := congrArg List.length same
  simp [fullPath] at length

/-- Exact paths tell the names apart. -/
theorem ActsOnChecked.of_exact {σ : Type u} {dir : CString} {outcome : Outcome σ}
    (exact : ∀ turn ∈ outcome.turns, ∀ src, turn.ActsOn src →
      src.bytes = fullPath dir turn.entry.name) : ActsOnChecked dir outcome where
  exact
  separate turn member other also src acts alsoActs :=
    fullPath_injective ((exact turn member src acts).symm.trans (exact other also src alsoActs))
  inside turn member src acts := by
    have path := exact turn member src acts
    constructor
    · rintro rfl
      exact fullPath_ne _ _ path.symm
    · intro name same
      exact fullPath_injective (same.symm.trans path)

/-- The branch for an entry that matches acts on one path. -/
theorem Transferred.actsOn {flags : Flags} {entry : Entry} {path src : CString}
    {calls : List Call} {ok : Bool} (transferred : Transferred flags path entry calls ok)
    (acts : Turn.ActsOn { entry, calls } src) : src = path := by
  cases transferred <;> simp [Turn.ActsOn] at acts <;> exact acts

theorem Matching.not_actsOn {entry : Entry} {calls : List Call}
    (matching : Matching entry calls) (src : CString) :
    ¬ Turn.ActsOn { entry, calls } src := by
  rintro (⟨dst, result, member⟩ | ⟨result, member⟩)
  · obtain ⟨glob, other, same⟩ := matching _ member
    cases same
  · exact matching.not_hddDel src result member

/-- A turn acts on no path but that of its entry, which is a file. -/
theorem Visited.actsOn {flags : Flags} {dir : CString} {globs : List CString} {entry : Entry}
    {calls : List Call} {ok : Bool} (visited : Visited flags dir globs entry calls ok)
    {src : CString} (acts : Turn.ActsOn { entry, calls } src) :
    entry.ftype = PUPPY_FILE ∧ src = devicePath dir entry.name := by
  cases visited with
  | passed matching => exact absurd acts (matching.not_actsOn src)
  | @matched before calls _ _ file matching _ _ transferred =>
      refine ⟨file, transferred.actsOn ?_⟩
      have notBefore := matching.not_actsOn src
      simp only [Turn.ActsOn, List.mem_append] at acts notBefore ⊢
      rcases acts with ⟨dst, result, early | late⟩ | ⟨result, early | late⟩
      · exact absurd (Or.inl ⟨dst, result, early⟩) notBefore
      · exact Or.inl ⟨dst, result, late⟩
      · exact absurd (Or.inr ⟨result, early⟩) notBefore
      · exact Or.inr ⟨result, late⟩

/-! ## Files that are wanted -/

/-- `fnmatch` looks at its arguments only. -/
def World.Matches {σ : Type u} (world : World σ) (matching : CString → CString → Int) : Prop :=
  ∀ glob name outside, world.fnmatch glob name outside = (matching glob name, outside)

/-- The entry is a file whose name matches a glob. -/
def Wanted (matching : CString → CString → Int) (globs : List CString) (entry : Entry) : Prop :=
  entry.ftype = PUPPY_FILE ∧ ∃ glob ∈ globs, matching glob entry.name = 0

instance (matching : CString → CString → Int) (globs : List CString) (entry : Entry) :
    Decidable (Wanted matching globs entry) :=
  inferInstanceAs (Decidable (_ ∧ _))

section Wanted

variable {σ : Type u} {world : World σ} {matching : CString → CString → Int}
  (fixed : world.Matches matching)
include fixed

/-- The loop over the globs. -/
theorem matchGlobs_of_matches (name : CString) (globs : List CString) (session : Session σ) :
    ∃ next : Session σ,
      matchGlobs world name globs session =
        (decide (∃ glob ∈ globs, matching glob name = 0), next) ∧
      next.outside = session.outside ∧ next.ok = session.ok := by
  induction globs generalizing session with
  | nil => exact ⟨session, rfl, rfl, rfl⟩
  | cons glob globs ih =>
      have asked : session.fnmatch world glob name =
          (matching glob name,
            session.called (.fnmatch glob name (matching glob name)) session.outside) := by
        simp only [Session.fnmatch, fixed glob name session.outside]
      simp only [matchGlobs, asked]
      by_cases hit : matching glob name = 0
      · have some : ∃ other ∈ glob :: globs, matching other name = 0 :=
          ⟨glob, List.mem_cons_self, hit⟩
        rw [if_pos hit, decide_eq_true some]
        exact ⟨_, rfl, rfl, rfl⟩
      · rw [if_neg hit]
        obtain ⟨next, same, outside, ok⟩ :=
          ih (session.called (.fnmatch glob name (matching glob name)) session.outside)
        exact ⟨next, by simp [same, hit], outside, ok⟩

/-- A turn that acts on a path is about a file that is wanted. -/
theorem wanted_of_actsOn {flags : Flags} {dir : CString} {globs : List CString} {entry : Entry}
    {session : Session σ} (fresh : session.calls = []) {src : CString}
    (acts : Turn.ActsOn ⟨entry, (visit world flags dir globs entry session).calls⟩ src) :
    Wanted matching globs entry := by
  by_contra unwanted
  refine absurd acts (Matching.not_actsOn ?_ src)
  unfold visit
  by_cases file : entry.ftype = PUPPY_FILE
  · rw [if_pos file]
    obtain ⟨calls, appended, _, looks, _⟩ := matchGlobs_calls world entry globs session
    obtain ⟨next, matched, _⟩ := matchGlobs_of_matches fixed entry.name globs session
    have missed : ¬ ∃ glob ∈ globs, matching glob entry.name = 0 := fun hit => unwanted ⟨file, hit⟩
    rw [matched, fresh, List.nil_append] at appended
    simp only [matched, missed, decide_false, Bool.false_eq_true, if_false]
    rw [appended]
    exact looks
  · rw [if_neg file, fresh]
    exact List.forall_mem_nil _

theorem visitAll_wanted (flags : Flags) (dir : CString) (globs : List CString)
    (entries : List Entry) (session : Session σ) :
    ∀ turn ∈ (visitAll world flags dir globs entries session).turns, ∀ src, turn.ActsOn src →
      Wanted matching globs turn.entry := by
  induction entries generalizing session with
  | nil =>
      rw [visitAll]
      split <;> exact List.forall_mem_nil _
  | cons entry rest ih =>
      rw [visitAll]
      split
      · rw [List.forall_mem_cons]
        exact ⟨fun src acts => wanted_of_actsOn fixed rfl acts, ih _⟩
      · exact List.forall_mem_nil _

end Wanted

/-! ## A file that is asked for -/

/-- `stat` answers from a list, and nothing can be fetched. -/
def scripted (matching : CString → CString → Int) : World (List (Option Int)) where
  fnmatch glob name outside := (matching glob name, outside)
  stat _ outside := (outside.headD none, outside.tail)
  hddFileGet _ _ outside := (1, outside)
  hddDel _ outside := (1, outside)
  timeString _ := []

/-- `-n` was not given. -/
def plainFlags : Flags := readOptions []

section Scripted

variable {matching : CString → CString → Int} {globs : List CString} (dir : CString)

theorem matches_scripted (matching : CString → CString → Int) :
    (scripted matching).Matches matching :=
  fun _ _ _ => rfl

/-- A file that is wanted and not there is asked for. -/
theorem visit_scripted_missing {entry : Entry} (wanted : Wanted matching globs entry)
    {session : Session (List (Option Int))} (missing : session.outside = []) :
    Call.hddFileGet (devicePath dir entry.name) entry.name 1 ∈
      (visit (scripted matching) plainFlags dir globs entry session).calls := by
  obtain ⟨next, matched, outside, _⟩ :=
    matchGlobs_of_matches (matches_scripted matching) entry.name globs session
  unfold visit
  rw [if_pos wanted.1]
  simp only [matched, wanted.2, decide_true, if_true]
  simp [scripted, transfer, download, Session.stat, Session.hddFileGet, plainFlags, readOptions,
    Session.fail, Session.print, Session.called, outside, missing]

/-- What `stat` has to answer for an entry to be passed. -/
def passing (matching : CString → CString → Int) (globs : List CString) (entry : Entry) :
    List (Option Int) :=
  if Wanted matching globs entry then [some entry.size] else []

theorem visit_scripted_passing (entry : Entry) {script : List (Option Int)}
    (session : Session (List (Option Int))) (ok : session.ok = true)
    (answers : session.outside = passing matching globs entry ++ script) :
    let next := visit (scripted matching) plainFlags dir globs entry session
    next.ok = true ∧ next.outside = script := by
  intro next
  obtain ⟨behind, matched, outside, same⟩ :=
    matchGlobs_of_matches (matches_scripted matching) entry.name globs session
  simp only [next, visit]
  by_cases file : entry.ftype = PUPPY_FILE
  · rw [if_pos file]
    simp only [matched]
    by_cases hit : ∃ glob ∈ globs, matching glob entry.name = 0
    · rw [passing, if_pos ⟨file, hit⟩] at answers
      rw [if_pos (decide_eq_true hit)]
      simp [scripted, transfer, Session.stat, Session.print, Session.called, plainFlags,
        readOptions, outside, answers, same, ok]
    · rw [passing, if_neg fun wanted => hit wanted.2] at answers
      rw [if_neg (by simpa using hit)]
      exact ⟨same.trans ok, outside.trans answers⟩
  · rw [passing, if_neg fun wanted => file wanted.1] at answers
    rw [if_neg file]
    exact ⟨ok, answers⟩

/-- Any file that is wanted is reached and asked for, when those before it are
there. -/
theorem visitAll_scripted {entry : Entry} (wanted : Wanted matching globs entry) :
    ∀ {entries : List Entry}, entry ∈ named entries →
      ∃ script, ∀ session : Session (List (Option Int)), session.ok = true →
        session.outside = script →
        ∃ turn ∈ (visitAll (scripted matching) plainFlags dir globs entries session).turns,
          turn.entry.name = entry.name ∧ turn.ActsOn (devicePath dir entry.name) := by
  intro entries
  induction entries with
  | nil =>
      intro member
      cases member
  | cons first rest ih =>
      intro member
      rw [named, List.takeWhile_cons] at member
      split at member
      · rename_i nonempty
        have nonempty := of_decide_eq_true nonempty
        rcases List.mem_cons.mp member with rfl | later
        · refine ⟨[], ?_⟩
          intro session ok missing
          rw [visitAll, if_pos ⟨ok, nonempty⟩]
          exact ⟨_, List.mem_cons_self, rfl,
            Or.inl ⟨entry.name, 1, visit_scripted_missing dir wanted missing⟩⟩
        · obtain ⟨script, reaches⟩ := ih later
          refine ⟨passing matching globs first ++ script, ?_⟩
          intro session ok answers
          obtain ⟨goesOn, behind⟩ := visit_scripted_passing dir first
            { session with calls := [] } ok answers
          obtain ⟨turn, reached, acts⟩ := reaches _ goesOn behind
          rw [visitAll, if_pos ⟨ok, nonempty⟩]
          exact ⟨turn, List.mem_cons_of_mem _ reached, acts⟩
      · cases member

end Scripted

/-- In the runs that ask for a file its path is only right when it is short. -/
theorem short_of_actsOnChecked {heap : Memory UInt8} {directory : CString}
    {entries : List Entry} {entry : Entry} (member : entry ∈ named entries)
    (matching : CString → CString → Int) (globs : List CString)
    (wanted : Wanted matching globs entry)
    (checked : ∀ outside, ActsOnChecked (convertSlashes heap directory).result
      (puppyGet (scripted matching) heap [] (directory :: globs) true (some entries) outside)) :
    (convertSlashes heap directory).result.length + 1 + entry.name.length < SRC_SIZE := by
  rw [← devicePath_full_iff]
  obtain ⟨script, reaches⟩ := visitAll_scripted (convertSlashes heap directory).result wanted member
  obtain ⟨turn, reached, same, acts⟩ :=
    reaches { outside := script, ok := true, output := [], calls := [] } rfl rfl
  obtain ⟨glob, given, hit⟩ := wanted.2
  cases globs with
  | nil => cases given
  | cons glob globs =>
      have path := (checked script).exact turn reached _ acts
      rwa [same] at path

/-- Where the paths of the files that a run acts on are short, they are right. -/
theorem puppyGet_actsOnChecked {σ : Type u} (world : World σ) (heap : Memory UInt8)
    (options : List Char) (directory : CString) (globs : List CString) (entries : List Entry)
    (outside : σ)
    (short : ∀ turn ∈ (puppyGet world heap options (directory :: globs) true (some entries)
        outside).turns, ∀ src, turn.ActsOn src → turn.entry ∈ named entries →
      turn.entry.ftype = PUPPY_FILE →
      (convertSlashes heap directory).result.length + 1 + turn.entry.name.length < SRC_SIZE) :
    ActsOnChecked (convertSlashes heap directory).result
      (puppyGet world heap options (directory :: globs) true (some entries) outside) := by
  apply ActsOnChecked.of_exact
  intro turn member src acts
  have fits := short turn member src acts
  rcases puppyGet_cases world heap options (directory :: globs) true (some entries) outside with
    ⟨_, _, _, session, operands, listing, comes⟩ | noTurns
  · cases operands
    cases listing
    rw [comes] at member
    have careful := visitAll_careful world (readOptions options)
      (convertSlashes heap directory).result globs entries session
    obtain ⟨ok, visited⟩ := careful.turns turn member
    obtain ⟨file, rfl⟩ := visited.actsOn acts
    rw [devicePath_full_iff]
    exact fits (careful.order.subset (List.mem_map_of_mem member)) file
  · rw [noTurns] at member
    cases member

/-- puppy-get acts on the files it has checked, in all runs over a listing,
exactly when the directory, a backslash and the name of every file among the
entries visited make at most 255 characters; and with an `fnmatch` that looks at
its arguments only, exactly when they do for every file that matches a glob. -/
theorem puppyGet_actsOnChecked_iff (heap : Memory UInt8) (directory : CString)
    (entries : List Entry) :
    ((∀ (σ : Type) (world : World σ) (options : List Char) (globs : List CString) (outside : σ),
      ActsOnChecked (convertSlashes heap directory).result
        (puppyGet world heap options (directory :: globs) true (some entries) outside)) ↔
    ∀ entry ∈ named entries, entry.ftype = PUPPY_FILE →
      (convertSlashes heap directory).result.length + 1 + entry.name.length < SRC_SIZE) ∧
    ∀ (matching : CString → CString → Int) (globs : List CString),
      (∀ (σ : Type) (world : World σ) (options : List Char) (outside : σ),
        world.Matches matching →
        ActsOnChecked (convertSlashes heap directory).result
          (puppyGet world heap options (directory :: globs) true (some entries) outside)) ↔
      ∀ entry ∈ named entries, Wanted matching globs entry →
        (convertSlashes heap directory).result.length + 1 + entry.name.length < SRC_SIZE := by
  refine ⟨⟨?_, ?_⟩, ?_⟩
  · intro checked entry member file
    refine short_of_actsOnChecked member (fun _ _ => 0) [CString.empty]
      ⟨file, CString.empty, List.mem_cons_self, rfl⟩ ?_
    intro outside
    exact checked _ _ [] [CString.empty] outside
  · intro short σ world options globs outside
    apply puppyGet_actsOnChecked
    intro turn _ src _ listed file
    exact short turn.entry listed file
  · intro matching globs
    constructor
    · intro checked entry member wanted
      apply short_of_actsOnChecked member matching globs wanted
      intro outside
      exact checked _ _ [] outside (matches_scripted matching)
    · intro short σ world options outside fixed
      apply puppyGet_actsOnChecked
      intro turn reached src acts listed _
      refine short turn.entry listed ?_
      rcases puppyGet_cases world heap options (directory :: globs) true (some entries)
        outside with ⟨_, _, _, session, operands, listing, comes⟩ | noTurns
      · cases operands
        cases listing
        rw [comes] at reached
        exact visitAll_wanted fixed _ _ _ _ _ turn reached src acts
      · rw [noTurns] at reached
        cases reached

/-- A directory argument of 255 characters. -/
def longDirectory : CString where
  bytes := List.replicate 255 0x61
  noNul byte member := by
    rw [List.eq_of_mem_replicate member]
    decide

/-- A file with a name of one character. -/
def shortFile : Entry where
  ftype := PUPPY_FILE
  time := 0
  size := 0
  name := CString.single 0x66 (by decide)

/-- Below a directory of 255 characters nothing is left of the name: the path
of a file is that of the directory. -/
theorem not_actsOnChecked_longDirectory :
    ¬ ∀ (heap : Memory UInt8) (directory : CString) (entries : List Entry) (σ : Type)
      (world : World σ) (options : List Char) (globs : List CString) (outside : σ),
      ActsOnChecked (convertSlashes heap directory).result
        (puppyGet world heap options (directory :: globs) true (some entries) outside) := by
  intro checked
  have member : shortFile ∈ named [shortFile] := by
    rw [named, List.takeWhile_cons, if_pos (by decide)]
    exact List.mem_cons_self
  have short := short_of_actsOnChecked member (fun _ _ => 0) [CString.empty]
    ⟨rfl, CString.empty, List.mem_cons_self, rfl⟩
    fun outside => checked (fun _ => 0) longDirectory _ _ _ _ _ outside
  rw [CString.length, result_convertSlashes] at short
  exact absurd short (by decide +kernel)

end Puppy.Cli
