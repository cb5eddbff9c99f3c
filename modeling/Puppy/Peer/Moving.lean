import Puppy.Peer.Commands
import Puppy.Cli.FetchPath
import Mathlib.Logic.Function.Basic

/-!
# puppy-get on a disk

What the calls of puppy-get mean for the files on a disk and on the host.  Over
a run in which no name is listed twice, no recording gets lost: what can no
longer be fetched lies on the host, or a file of the listed size lay there
before the run.
-/

namespace Puppy.Peer

open Puppy.Usb Puppy.Control Puppy.Listing Puppy.Transfer Puppy.Cli

universe u

variable {δ : Type u}

/-! ## The files -/

/-- The files on the host, under their names. -/
abbrev LocalFiles := CString → Option (List UInt8)

/-- Open a file, which truncates it, and write to it. -/
def LocalFiles.write (name : CString) (bytes : List UInt8) (files : LocalFiles) : LocalFiles :=
  Function.update files name (some bytes)

/-- A disk, and the files on the host. -/
structure Stock (δ : Type u) where
  disk : δ
  files : LocalFiles

/-- The bytes of a file on the disk, if it can be fetched. -/
def Disk.contents (disk : Disk δ) (path : CString) (state : δ) : Option (List UInt8) :=
  match disk.fetch path state with
  | .error _ => none
  | .ok download => some download.file.contents

/-- What a download returns, and what it writes. -/
def Disk.obtain (disk : Disk δ) (path : CString) (state : δ) : Int × List UInt8 :=
  if ¬ FileSendAccepts path then (negEPROTO, [])
  else
    match disk.contents path state with
    | none => (negEPROTO, [])
    | some bytes => (0, bytes)

/-- What is left of the disk behind a deletion. -/
def Disk.without (disk : Disk δ) (path : CString) (state : δ) : δ :=
  (exchange disk (.hddDel path) ([], state)).2.2

/-- What the calls of puppy-get mean. -/
def diskWorld (disk : Disk δ) (matching : CString → CString → Int)
    (timeString : Int → List UInt8) : World (Stock δ) where
  fnmatch glob name stock := (matching glob name, stock)
  stat path stock := ((stock.files path).map fun bytes => (bytes.length : Int), stock)
  hddFileGet src dst stock :=
    let obtained := disk.obtain src stock.disk
    (obtained.1, { stock with files := stock.files.write dst obtained.2 })
  hddDel src stock :=
    ((exchange disk (.hddDel src) ([], stock.disk)).1.ret,
      { stock with disk := disk.without src stock.disk })
  timeString := timeString

/-- Only the file that is named is deleted. -/
def Disk.DeletesAlone (disk : Disk δ) : Prop :=
  ∀ path other state, other ≠ path →
    disk.contents other (disk.perform (.hddDel path) state).2 = disk.contents other state

theorem Disk.DeletesAlone.contents_without {disk : Disk δ} (alone : disk.DeletesAlone)
    {path other : CString} (different : other ≠ path) (state : δ) :
    disk.contents other (disk.without path state) = disk.contents other state := by
  unfold Disk.without exchange
  cases refusal (.hddDel path) with
  | some outcome => rfl
  | none => exact alone path other state different

/-- A download that returns `0` has written the whole file. -/
theorem Disk.contents_of_obtain {disk : Disk δ} {path : CString} {state : δ}
    (done : (disk.obtain path state).1 = 0) :
    disk.contents path state = some (disk.obtain path state).2 := by
  unfold Disk.obtain at done ⊢
  split at done
  · exact absurd done (by decide)
  · rename_i accepts
    rw [if_neg accepts]
    cases found : disk.contents path state with
    | none =>
        rw [found] at done
        exact absurd done (by decide)
    | some bytes => rfl

/-! ## One entry -/

section Entry

variable (disk : Disk δ) (matching : CString → CString → Int) (timeString : Int → List UInt8)
  (flags : Flags) (dir : CString) (globs : List CString) (entry : Entry)

/-- The file has the size that is listed. -/
def Whole (entry : Entry) (bytes : List UInt8) : Prop := (bytes.length : Int) = entry.size

instance (entry : Entry) (bytes : List UInt8) : Decidable (Whole entry bytes) :=
  inferInstanceAs (Decidable ((_ : Int) = _))

/-- A file of the listed size is on the host. -/
def There (stock : Stock δ) : Prop :=
  ∃ own, stock.files entry.name = some own ∧ Whole entry own

/-- What becomes of an entry: nothing; its file is fetched; or it is removed,
behind a download or because a file of its size is there already. -/
inductive Handled (src : CString) (stock : Stock δ) : Stock δ → Prop
  | untouched : Handled src stock stock
  | fetched :
      Handled src stock
        { stock with files := stock.files.write entry.name (disk.obtain src stock.disk).2 }
  | moved (done : (disk.obtain src stock.disk).1 = 0) :
      Handled src stock
        { disk := disk.without src stock.disk
          files := stock.files.write entry.name (disk.obtain src stock.disk).2 }
  | removed (there : There entry stock) :
      Handled src stock { stock with disk := disk.without src stock.disk }

/-- The calls of a session, one by one. -/
theorem stat_diskWorld (path : CString) (session : Session (Stock δ)) :
    ∃ next : Session (Stock δ), session.stat (diskWorld disk matching timeString) path =
        ((session.outside.files path).map fun bytes => (bytes.length : Int), next) ∧
      next.outside = session.outside :=
  ⟨_, rfl, rfl⟩

theorem hddFileGet_diskWorld (src dst : CString) (session : Session (Stock δ)) :
    ∃ next : Session (Stock δ),
      session.hddFileGet (diskWorld disk matching timeString) src dst =
        ((disk.obtain src session.outside.disk).1, next) ∧
      next.outside =
        { session.outside with
          files := session.outside.files.write dst (disk.obtain src session.outside.disk).2 } :=
  ⟨_, rfl, rfl⟩

theorem removeSource_diskWorld (src dst : CString) (session : Session (Stock δ)) :
    (removeSource (diskWorld disk matching timeString) src dst session).outside =
      { session.outside with disk := disk.without src session.outside.disk } := by
  simp only [removeSource]
  split <;> rfl

/-- A file that is not there yet. -/
theorem download_handled (src : CString) (session : Session (Stock δ)) :
    let behind := download (diskWorld disk matching timeString) flags src entry session
    Handled disk entry src session.outside behind.outside ∧
      (behind.ok = true → There entry behind.outside) := by
  intro behind
  obtain ⟨next, got, fetched⟩ :=
    hddFileGet_diskWorld disk matching timeString src entry.name session
  simp only [behind, download, got]
  have handled : Handled disk entry src session.outside next.outside := fetched ▸ .fetched
  by_cases done : (disk.obtain src session.outside.disk).1 = 0
  · rw [if_pos done]
    obtain ⟨last, checked, outside⟩ := stat_diskWorld disk matching timeString entry.name next
    have found : next.outside.files entry.name =
        some (disk.obtain src session.outside.disk).2 := by
      rw [fetched]
      exact Function.update_self _ _ _
    rw [found, Option.map_some] at checked
    simp only [checked]
    split
    · rw [Session.fail, Session.print]
      refine ⟨outside.symm ▸ handled, ?_⟩
      rintro ⟨⟩
    · rename_i whole
      have there : There entry next.outside := ⟨_, found, not_not.mp whole⟩
      split
      · rw [removeSource_diskWorld, outside]
        refine ⟨?_, fun _ => there⟩
        rw [fetched]
        exact .moved done
      · rw [outside]
        exact ⟨handled, fun _ => there⟩
  · rw [if_neg done]
    refine ⟨handled, ?_⟩
    rintro ⟨⟩

/-- An entry that matches. -/
theorem transfer_handled (session : Session (Stock δ)) :
    let behind := transfer (diskWorld disk matching timeString) flags dir entry session
    Handled disk entry (devicePath dir entry.name) session.outside behind.outside ∧
      (behind.ok = true → flags.noact = false → There entry behind.outside) := by
  intro behind
  simp only [behind, transfer]
  generalize printed : session.print _ = first
  have start : first.outside = session.outside := by
    rw [← printed]
    rfl
  obtain ⟨next, checked, outside⟩ := stat_diskWorld disk matching timeString entry.name first
  rw [start] at checked outside
  simp only [checked]
  by_cases size : (session.outside.files entry.name).map (fun bytes => (bytes.length : Int)) =
      some entry.size
  · rw [if_pos size]
    obtain ⟨own, found, whole⟩ := Option.map_eq_some_iff.mp size
    have there : There entry session.outside := ⟨own, found, whole⟩
    split
    · rw [removeSource_diskWorld]
      rw [show ((next.print .alreadyTransferred).print .removing).outside = session.outside
        from outside]
      exact ⟨.removed there, fun _ _ => there⟩
    · rw [show ((next.print .alreadyTransferred).print .skipping).outside = session.outside
        from outside]
      exact ⟨.untouched, fun _ _ => there⟩
  · rw [if_neg size]
    by_cases acts : flags.noact = false
    · rw [if_pos (by rw [acts]; rfl)]
      obtain ⟨handled, arrived⟩ := download_handled disk matching timeString flags entry
        (devicePath dir entry.name) next
      rw [outside] at handled
      exact ⟨handled, fun ok _ => arrived ok⟩
    · rw [if_neg (by simpa using acts), outside]
      exact ⟨.untouched, fun _ acting => absurd acting acts⟩

theorem matches_diskWorld : (diskWorld disk matching timeString).Matches matching :=
  fun _ _ _ => rfl

/-- One pass of the loop over the listing. -/
theorem visit_handled (session : Session (Stock δ)) :
    let behind := visit (diskWorld disk matching timeString) flags dir globs entry session
    Handled disk entry (devicePath dir entry.name) session.outside behind.outside ∧
      (¬ Wanted matching globs entry → behind.outside = session.outside) ∧
      (behind.ok = true → flags.noact = false → Wanted matching globs entry →
        There entry behind.outside) := by
  intro behind
  simp only [behind, visit]
  by_cases file : entry.ftype = PUPPY_FILE
  · rw [if_pos file]
    obtain ⟨next, matched, outside, _⟩ := matchGlobs_of_matches
      (matches_diskWorld disk matching timeString) entry.name globs session
    simp only [matched]
    by_cases hit : ∃ glob ∈ globs, matching glob entry.name = 0
    · rw [if_pos (decide_eq_true hit)]
      obtain ⟨handled, arrived⟩ :=
        transfer_handled disk matching timeString flags dir entry next
      rw [outside] at handled
      exact ⟨handled, fun unwanted => absurd ⟨file, hit⟩ unwanted, fun ok acts _ => arrived ok acts⟩
    · rw [if_neg (by simpa using hit), outside]
      exact ⟨.untouched, fun _ => rfl, fun _ _ wanted => absurd wanted.2 hit⟩
  · rw [if_neg file]
    exact ⟨.untouched, fun _ => rfl, fun _ _ wanted => absurd wanted.1 file⟩

end Entry

/-! ## What an entry leaves alone -/

section Handled

variable {disk : Disk δ} {entry : Entry} {src : CString} {before after : Stock δ}

/-- Other files of the disk stay. -/
theorem Handled.contents_of_ne (handled : Handled disk entry src before after)
    (alone : disk.DeletesAlone) {path : CString} (different : path ≠ src) :
    disk.contents path after.disk = disk.contents path before.disk := by
  cases handled with
  | untouched => rfl
  | fetched => rfl
  | moved _ => exact alone.contents_without different before.disk
  | removed _ => exact alone.contents_without different before.disk

/-- Other files on the host stay. -/
theorem Handled.files_of_ne (handled : Handled disk entry src before after) {name : CString}
    (different : name ≠ entry.name) : after.files name = before.files name := by
  cases handled with
  | untouched => rfl
  | fetched => exact Function.update_of_ne different _ _
  | moved _ => exact Function.update_of_ne different _ _
  | removed _ => rfl

/-- The file itself can still be fetched, or it has been, or a file of its size
was there already. -/
theorem Handled.kept (handled : Handled disk entry src before after) {bytes : List UInt8}
    (stored : disk.contents src before.disk = some bytes) :
    disk.contents src after.disk = some bytes ∨ after.files entry.name = some bytes ∨
      There entry before ∧ after.files entry.name = before.files entry.name := by
  cases handled with
  | untouched => exact Or.inl stored
  | fetched => exact Or.inl stored
  | moved done =>
      have same := (Disk.contents_of_obtain done).symm.trans stored
      exact Or.inr (Or.inl ((Function.update_self _ _ _).trans same))
  | removed there => exact Or.inr (Or.inr ⟨there, rfl⟩)

end Handled

/-! ## Whole runs -/

/-- No two files among the entries share a name. -/
def Apart (first second : Entry) : Prop :=
  first.ftype = PUPPY_FILE → second.ftype = PUPPY_FILE → first.name ≠ second.name

/-- The file of a turn lies on the host as it was on the disk, or a file of its
size lies there as it did before. -/
def Secured (before after : Stock δ) (bytes : List UInt8) (turn : Turn) : Prop :=
  after.files turn.entry.name = some bytes ∨
    There turn.entry before ∧ after.files turn.entry.name = before.files turn.entry.name

/-- A turn looks at the name of its own entry only. -/
theorem Secured.congr {before middle after : Stock δ} {bytes : List UInt8} {turn : Turn}
    (same : middle.files turn.entry.name = before.files turn.entry.name)
    (secured : Secured middle after bytes turn) : Secured before after bytes turn := by
  unfold Secured There at *
  rwa [same] at secured

/-- A file of the disk can still be fetched, or it is that of an entry that
matches, and the turn of this entry has secured it. -/
def Preserved (disk : Disk δ) (matching : CString → CString → Int) (globs : List CString)
    (dir : CString) (entries : List Entry) (before : Stock δ)
    (outcome : Cli.Outcome (Stock δ)) (path : CString) (bytes : List UInt8) : Prop :=
  disk.contents path outcome.session.outside.disk = some bytes ∨
    ∃ turn ∈ outcome.turns, turn.entry ∈ entries ∧ Wanted matching globs turn.entry ∧
      path.bytes = fullPath dir turn.entry.name ∧
      Secured before outcome.session.outside bytes turn

section Runs

variable (disk : Disk δ) (matching : CString → CString → Int) (timeString : Int → List UInt8)
  (flags : Flags) (dir : CString) (globs : List CString)

/-- A file on the host whose name is not listed stays. -/
theorem visitAll_files {name : CString} {entries : List Entry}
    (other : ∀ entry ∈ named entries, entry.ftype = PUPPY_FILE → entry.name ≠ name)
    (session : Session (Stock δ)) :
    (visitAll (diskWorld disk matching timeString) flags dir globs entries
      session).session.outside.files name = session.outside.files name := by
  induction entries generalizing session with
  | nil =>
      rw [visitAll]
      split <;> rfl
  | cons entry rest ih =>
      by_cases goesOn : session.ok = true ∧ entry.name ≠ CString.empty
      · rw [named, List.takeWhile_cons, if_pos (decide_eq_true goesOn.2),
          List.forall_mem_cons] at other
        obtain ⟨handled, spared, _⟩ := visit_handled disk matching timeString flags dir globs entry
          { session with calls := [] }
        rw [visitAll, if_pos goesOn]
        simp only
        rw [ih other.2]
        by_cases wanted : Wanted matching globs entry
        · exact handled.files_of_ne (other.1 wanted.1).symm
        · rw [spared wanted]
      · rw [visitAll, if_neg goesOn]
        rfl

variable {disk matching globs dir} in
/-- A run over the entries behind the first one, which has another name than
they have. -/
theorem Preserved.behind {entry : Entry} {rest : List Entry} {before next : Stock δ}
    {outcome : Cli.Outcome (Stock δ)} {path : CString} {bytes : List UInt8} (turn : Turn)
    (same : ∀ other ∈ rest, other.ftype = PUPPY_FILE →
      next.files other.name = before.files other.name)
    (preserved : Preserved disk matching globs dir rest next outcome path bytes) :
    Preserved disk matching globs dir (entry :: rest) before
      { outcome with turns := turn :: outcome.turns } path bytes := by
  rcases preserved with still | ⟨later, member, listed, wanted, path, secured⟩
  · exact Or.inl still
  · exact Or.inr ⟨later, List.mem_cons_of_mem _ member, List.mem_cons_of_mem _ listed, wanted,
      path, secured.congr (same later.entry listed wanted.1)⟩

/-- Over a run in which the paths of the files that match are whole, every file of
the disk is preserved. -/
theorem visitAll_preserved (alone : disk.DeletesAlone) {entries : List Entry}
    (apart : (named entries).Pairwise Apart)
    (whole : ∀ entry ∈ named entries, Wanted matching globs entry →
      dir.length + 1 + entry.name.length < SRC_SIZE)
    (session : Session (Stock δ)) {path : CString} {bytes : List UInt8}
    (stored : disk.contents path session.outside.disk = some bytes) :
    Preserved disk matching globs dir (named entries) session.outside
      (visitAll (diskWorld disk matching timeString) flags dir globs entries session) path
      bytes := by
  induction entries generalizing session with
  | nil =>
      rw [visitAll]
      split <;> exact Or.inl stored
  | cons entry rest ih =>
      by_cases goesOn : session.ok = true ∧ entry.name ≠ CString.empty
      · have more : named (entry :: rest) = entry :: named rest := by
          rw [named, List.takeWhile_cons, if_pos (decide_eq_true goesOn.2)]
          rfl
        rw [more, List.pairwise_cons] at apart
        rw [more, List.forall_mem_cons] at whole
        rw [visitAll, if_pos goesOn, more]
        simp only
        obtain ⟨handled, spared, _⟩ := visit_handled disk matching timeString flags dir globs entry
          { session with calls := [] }
        generalize visit (diskWorld disk matching timeString) flags dir globs entry
          { session with calls := [] } = next at handled spared
        have same : ∀ other ∈ named rest, other.ftype = PUPPY_FILE →
            next.outside.files other.name = session.outside.files other.name := by
          intro other member otherFile
          by_cases wanted : Wanted matching globs entry
          · exact handled.files_of_ne (apart.1 other member wanted.1 otherFile).symm
          · rw [spared wanted]
        -- what can be fetched behind this entry is left to the other entries
        have behind (still : disk.contents path next.outside.disk = some bytes) :
            Preserved disk matching globs dir (entry :: named rest) session.outside _ path bytes :=
          (ih apart.2 whole.2 next still).behind { entry, calls := next.calls } same
        by_cases here : Wanted matching globs entry ∧ path = devicePath dir entry.name
        · obtain ⟨wanted, rfl⟩ := here
          have full : (devicePath dir entry.name).bytes = fullPath dir entry.name :=
            (devicePath_full_iff dir entry.name).mpr (whole.1 wanted)
          have last := visitAll_files disk matching timeString flags dir globs
            (fun other member otherFile => (apart.1 other member wanted.1 otherFile).symm) next
          rcases handled.kept stored with still | fetched | ⟨there, kept⟩
          · exact behind still
          · exact Or.inr ⟨_, List.mem_cons_self, List.mem_cons_self, wanted, full,
              Or.inl (last.trans fetched)⟩
          · exact Or.inr ⟨_, List.mem_cons_self, List.mem_cons_self, wanted, full,
              Or.inr ⟨there, last.trans kept⟩⟩
        · apply behind
          by_cases wanted : Wanted matching globs entry
          · rw [handled.contents_of_ne alone fun same => here ⟨wanted, same⟩]
            exact stored
          · rw [spared wanted]
            exact stored
      · rw [visitAll, if_neg goesOn]
        exact Or.inl stored

/-- A run with the exit status 0 has every file that matches. -/
theorem visitAll_there (acts : flags.noact = false) {entries : List Entry}
    (apart : (named entries).Pairwise Apart) (session : Session (Stock δ))
    (status : (visitAll (diskWorld disk matching timeString) flags dir globs entries
      session).status = some 0) :
    ∀ entry ∈ named entries, Wanted matching globs entry →
      There entry (visitAll (diskWorld disk matching timeString) flags dir globs entries
        session).session.outside := by
  induction entries generalizing session with
  | nil => exact List.forall_mem_nil _
  | cons entry rest ih =>
      by_cases goesOn : session.ok = true ∧ entry.name ≠ CString.empty
      · have more : named (entry :: rest) = entry :: named rest := by
          rw [named, List.takeWhile_cons, if_pos (decide_eq_true goesOn.2)]
          rfl
        rw [more, List.pairwise_cons] at apart
        rw [visitAll, if_pos goesOn] at status ⊢
        rw [more, List.forall_mem_cons]
        obtain ⟨_, _, arrived⟩ := visit_handled disk matching timeString flags dir globs entry
          { session with calls := [] }
        generalize visit (diskWorld disk matching timeString) flags dir globs entry
          { session with calls := [] } = next at arrived status
        refine ⟨?_, ih apart.2 next status⟩
        intro wanted
        have ok : next.ok = true := by
          by_contra failed
          rw [Bool.not_eq_true] at failed
          simp only [visitAll_of_not_ok _ _ _ _ rest failed, exitWith, failed] at status
          cases status
        have last := visitAll_files disk matching timeString flags dir globs
          (fun other member otherFile => (apart.1 other member wanted.1 otherFile).symm) next
        unfold There at arrived ⊢
        rw [last]
        exact arrived ok acts wanted
      · rw [visitAll, if_neg goesOn] at status
        intro listed member
        rw [named, List.takeWhile_cons] at member
        split at member
        · rename_i nonempty
          have failed : session.ok = false := by
            rw [← Bool.not_eq_true]
            exact fun ok => goesOn ⟨ok, of_decide_eq_true nonempty⟩
          simp only [exitWith, failed] at status
          cases status
        · cases member

end Runs

end Puppy.Peer
