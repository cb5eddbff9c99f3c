import Puppy.Peer.Moving
import Puppy.Peer.Session
import Puppy.Cli.Worlds

/-!
# puppy-get on a file server

puppy-get over the library, on a line to a device with a disk.  Its calls come
back and mean what they mean on the disk, so that whole runs keep the recordings
as runs on the disk do.
-/

namespace Puppy.Peer

open Transition
open Puppy.Usb Puppy.Control Puppy.Listing Puppy.Transfer Puppy.Cli

universe u

variable {δ : Type u}

/-! ## The calls -/

/-- What puppy-get works on: the library, and the files on the host. -/
structure Place (σ : Type u) where
  globals : Globals σ
  files : LocalFiles

section Library

variable (device : Device δ) (host : Host) (memory : Globals (Link δ) → Memory UInt8)

/-- `puppy_hdd_file_get`, on a host that can open and write its files.  A call
that did not come back would end the run; here it leaves things alone. -/
noncomputable def libraryGet (src dst : CString) (place : Place (Link δ)) :
    Int × Place (Link δ) :=
  let buffers := place.globals.buffers (memory place.globals)
  match eventual fun fuel =>
      puppyHddFileGet (Link.env device host) fuel src buffers place.globals.outside with
  | none => (negEPROTO, place)
  | some (ret, last) =>
      (ret,
        { globals := { place.globals with reply := last.reply, outside := last.outside }
          files := place.files.write dst last.dst })

/-- The place behind a command. -/
def Place.behind (completed : Completed (Link δ)) (place : Place (Link δ)) :
    Int × Place (Link δ) :=
  (completed.ret,
    { place with
      globals := { place.globals with reply := completed.reply, outside := completed.state } })

/-- `puppy_hdd_del` -/
def libraryDel (src : CString) (place : Place (Link δ)) : Int × Place (Link δ) :=
  place.behind ((Command.hddDel src).call (Link.env device host) (memory place.globals)
    place.globals.reply place.globals.outside)

/-- The calls of puppy-get over the library.  `memory` is what a call finds on
the stack. -/
noncomputable def libraryWorld (matching : CString → CString → Int)
    (timeString : Int → List UInt8) : World (Place (Link δ)) where
  fnmatch glob name place := (matching glob name, place)
  stat path place := ((place.files path).map fun bytes => (bytes.length : Int), place)
  hddFileGet := libraryGet device host memory
  hddDel := libraryDel device host memory
  timeString := timeString

end Library

theorem puppyHddFileGet_leave_unique {σ : Type u} {env : Env σ} {path : CString}
    {buffers : Buffers} {outside : σ} {m n : Nat} {first second : Int × GetLoop σ}
    (left : puppyHddFileGet env m path buffers outside = .leave first)
    (right : puppyHddFileGet env n path buffers outside = .leave second) : first = second := by
  unfold puppyHddFileGet at left right
  split at left
  · rename_i loop entered
    rw [entered] at right
    exact run_leave_unique left right
  · rename_i result ended
    rw [ended] at right
    cases left
    cases right
    rfl

/-- A download on the disk. -/
theorem serve_get (disk : Disk δ) (host : Host) (path : CString) (state : δ) :
    ∃ utime stderr, disk.serve host (.get path) state =
      (.get (disk.obtain path state).1 (disk.obtain path state).2 utime stderr, state) := by
  simp only [Disk.serve, Disk.obtain, Disk.contents]
  by_cases accepts : FileSendAccepts path
  · rw [if_neg (not_not.mpr accepts), if_neg (not_not.mpr accepts)]
    cases disk.fetch path state with
    | error code => exact ⟨_, _, rfl⟩
    | ok download => exact ⟨_, _, rfl⟩
  · rw [if_pos accepts, if_pos accepts]
    exact ⟨_, _, rfl⟩

theorem Agrees.of_get {env : Env (Link (Server δ))} {ret other : Int} {dst bytes : List UInt8}
    {utime time : Option Int} {stderr messages : List Diagnostic}
    (agrees : Agrees env (.get ret dst utime stderr) (.get other bytes time messages)) :
    other = ret ∧ bytes = dst := by
  cases agrees
  exact ⟨rfl, rfl⟩

/-- Nothing is under way, and the files on the host are these. -/
structure Tied (place : Place (Link (Server δ))) (stock : Stock δ) : Prop where
  rest : AtRest stock.disk place.globals
  files : place.files = stock.files

/-- A command that leaves the line idle leaves things tied. -/
theorem Tied.behind {place : Place (Link (Server δ))} {stock : Stock δ} (tied : Tied place stock)
    {completed : Completed (Link (Server δ))} {outcome : Outcome} {state : δ} {calls : Nat}
    (same : Outcome.ofCompleted completed = outcome)
    (idle : completed.state = line [] (resting state calls)) :
    SameAnswer Tied (place.behind completed) (outcome.ret, { stock with disk := state }) :=
  ⟨congrArg Outcome.ret same, ⟨tied.rest.1, calls, idle⟩, tied.files⟩

section Calls

variable (disk : Disk δ) (amount : Nat → Nat) (host : Host)
  (memory : Globals (Link (Server δ)) → Memory UInt8) (matching : CString → CString → Int)
  (timeString : Int → List UInt8)

/-- A download comes back with what the disk has. -/
theorem libraryGet_tied {place : Place (Link (Server δ))} {stock : Stock δ}
    (tied : Tied place stock) {src : CString} (short : src.length < SRC_SIZE) (dst : CString) :
    SameAnswer Tied (libraryGet (fileServer disk amount) host memory src dst place)
      ((diskWorld disk matching timeString).hddFileGet src dst stock) := by
  have admissible : src.length ≤ 65534 := by
    unfold SRC_SIZE at short
    omega
  obtain ⟨seen, next, performs, agrees, rest⟩ := performs_get disk amount host src stock.disk
    admissible ⟨memory place.globals, heapOf 0⟩ tied.rest
  obtain ⟨utime, stderr, means⟩ := serve_get disk host src stock.disk
  rw [means] at agrees rest
  cases performs with
  | @get _ _ _ ret last left =>
      obtain ⟨same, written⟩ := agrees.of_get
      have back : eventual (fun fuel =>
          puppyHddFileGet (Link.env (fileServer disk amount) host) fuel src
            (place.globals.buffers (memory place.globals)) place.globals.outside) =
          some (ret, last) :=
        eventual_eq puppyHddFileGet_leave_unique left
      have answer : libraryGet (fileServer disk amount) host memory src dst place =
          (ret,
            { globals := { place.globals with reply := last.reply, outside := last.outside }
              files := place.files.write dst last.dst }) := by
        simp only [libraryGet, back]
      rw [answer]
      refine ⟨same, rest, ?_⟩
      simp only [diskWorld]
      rw [written, tied.files]

/-- A deletion does to the disk what it means. -/
theorem libraryDel_tied {place : Place (Link (Server δ))} {stock : Stock δ}
    (tied : Tied place stock) {src : CString} (short : src.length < SRC_SIZE) :
    SameAnswer Tied (libraryDel (fileServer disk amount) host memory src place)
      ((diskWorld disk matching timeString).hddDel src stock) := by
  obtain ⟨calls, outside⟩ := tied.rest.2
  have admissible : ShortPaths (.hddDel src) := by
    intro request sends path member
    cases sends
    rw [PathRequest.paths, List.mem_singleton] at member
    subst member
    unfold SRC_SIZE at short
    omega
  obtain ⟨outcome, left⟩ := call_line disk amount host admissible (memory place.globals)
    place.globals.reply [] stock.disk calls
  rw [(serve_command disk host (.hddDel src) stock.disk).2] at left
  rw [List.map_nil, ← outside] at outcome left
  exact tied.behind outcome left

/-- Over the library puppy-get gets the answers it gets on the disk. -/
theorem libraryWorld_follows :
    Follows Tied (libraryWorld (fileServer disk amount) host memory matching timeString)
      (diskWorld disk matching timeString) where
  fnmatch tied glob name := ⟨rfl, tied⟩
  stat tied path := by
    refine ⟨?_, tied⟩
    simp only [libraryWorld, diskWorld]
    rw [tied.files]
  hddFileGet tied _ short dst :=
    libraryGet_tied disk amount host memory matching timeString tied short dst
  hddDel tied _ short := libraryDel_tied disk amount host memory matching timeString tied short
  timeString := rfl

end Calls

/-! ## Whole runs -/

/-- `main` comes to the loop over the listing with nothing called, or leaves its
surroundings alone. -/
theorem puppyGet_enters {σ : Type u} (world : World σ) (heap : Memory UInt8)
    (options : List Char) (operands : List CString) (opened : Bool)
    (listing : Option (List Entry)) (outside : σ) :
    (∃ directory globs entries, operands = directory :: globs ∧ listing = some entries ∧
      puppyGet world heap options operands opened listing outside =
        visitAll world (readOptions options) (convertSlashes heap directory).result globs entries
          { outside, ok := true, output := [], calls := [] }) ∨
      (puppyGet world heap options operands opened listing outside).session.outside = outside := by
  unfold puppyGet
  cases ok : (readOptions options).ok with
  | false =>
      simp only [ok]
      exact Or.inr rfl
  | true =>
      simp only [ok]
      match operands with
      | [] => exact Or.inr rfl
      | [_] => exact Or.inr rfl
      | directory :: glob :: globs =>
          cases opened with
          | false => exact Or.inr rfl
          | true =>
              cases listing with
              | none => exact Or.inr rfl
              | some entries => exact Or.inl ⟨directory, glob :: globs, entries, rfl, rfl, rfl⟩

section Runs

variable (disk : Disk δ) (amount : Nat → Nat) (host : Host)
  (memory : Globals (Link (Server δ)) → Memory UInt8) (matching : CString → CString → Int)
  (timeString : Int → List UInt8)

/-- puppy-get loses no recording.  After any run over the library, on a listing
in which no two files share a name and the paths of the files that match are
whole, each file of the disk can still be fetched; or it is the file of an entry
that matches, its path being the directory, a backslash and the name, and under
this name it lies on the host, or a file of the size that is listed for it lay
there before and still does. -/
theorem puppyGet_preserves (alone : disk.DeletesAlone) (heap : Memory UInt8)
    (options : List Char) (operands : List CString) (opened : Bool)
    (listing : Option (List Entry)) (apart : (named (listing.getD [])).Pairwise Apart)
    (whole : ∀ directory globs, operands = directory :: globs →
      ∀ entry ∈ named (listing.getD []), Wanted matching globs entry →
        (convertSlashes heap directory).result.length + 1 + entry.name.length < SRC_SIZE)
    {state : δ} {globals : Globals (Link (Server δ))} (rest : AtRest state globals)
    (files : LocalFiles) :
    let outcome := puppyGet (libraryWorld (fileServer disk amount) host memory matching timeString)
      heap options operands opened listing ⟨globals, files⟩
    ∃ later, AtRest later outcome.session.outside.globals ∧
      ∀ path bytes, disk.contents path state = some bytes →
        disk.contents path later = some bytes ∨
          ∃ directory globs, operands = directory :: globs ∧ ∃ turn ∈ outcome.turns,
            turn.entry ∈ named (listing.getD []) ∧ Wanted matching globs turn.entry ∧
            path.bytes = fullPath (convertSlashes heap directory).result turn.entry.name ∧
            (outcome.session.outside.files turn.entry.name = some bytes ∨
              ∃ own, files turn.entry.name = some own ∧ Whole turn.entry own ∧
                outcome.session.outside.files turn.entry.name = some own) := by
  intro outcome
  have same := puppyGet_sameRun
    (libraryWorld_follows disk amount host memory matching timeString) heap options operands opened
    listing (show Tied ⟨globals, files⟩ ⟨state, files⟩ from ⟨rest, rfl⟩)
  obtain ⟨turns, -, ⟨later, local'⟩, -⟩ := same
  refine ⟨_, later, ?_⟩
  intro path bytes stored
  rw [turns, local']
  rcases puppyGet_enters (diskWorld disk matching timeString) heap options operands opened listing
    ⟨state, files⟩ with ⟨directory, globs, entries, operands, listed, comes⟩ | untouched
  · subst listed
    rw [comes]
    rcases visitAll_preserved disk matching timeString (readOptions options)
      (convertSlashes heap directory).result globs alone apart (whole directory globs operands)
      { outside := ⟨state, files⟩, ok := true, output := [], calls := [] } stored with
      still | ⟨turn, member, named, wanted, path, secured⟩
    · exact Or.inl still
    · refine Or.inr ⟨directory, globs, operands, turn, member, named, wanted, path, ?_⟩
      rcases secured with fetched | ⟨⟨own, there, complete⟩, kept⟩
      · exact Or.inl fetched
      · exact Or.inr ⟨own, there, complete, kept.trans there⟩
  · rw [untouched]
    exact Or.inl stored

/-- When puppy-get returns `0` from a listing it has not been told to look at
only, every file that matches lies on the host with the listed size. -/
theorem puppyGet_complete (heap : Memory UInt8) (options : List Char)
    (directory glob : CString) (globs : List CString) (entries : List Entry)
    (acts : (readOptions options).noact = false) (apart : (named entries).Pairwise Apart)
    {state : δ} {globals : Globals (Link (Server δ))} (rest : AtRest state globals)
    (files : LocalFiles)
    (status : (puppyGet (libraryWorld (fileServer disk amount) host memory matching timeString)
      heap options (directory :: glob :: globs) true (some entries) ⟨globals, files⟩).status =
        some 0) :
    ∀ entry ∈ named entries, Wanted matching (glob :: globs) entry →
      ∃ own, (puppyGet (libraryWorld (fileServer disk amount) host memory matching timeString)
          heap options (directory :: glob :: globs) true (some entries)
          ⟨globals, files⟩).session.outside.files entry.name = some own ∧
        Whole entry own := by
  have same := puppyGet_sameRun
    (libraryWorld_follows disk amount host memory matching timeString) heap options
    (directory :: glob :: globs) true (some entries)
    (show Tied ⟨globals, files⟩ ⟨state, files⟩ from ⟨rest, rfl⟩)
  rw [same.status] at status
  rw [same.session.outside.files]
  cases ok : (readOptions options).ok with
  | false =>
      simp only [puppyGet, ok, exitWith, Session.fail] at status
      cases status
  | true =>
      simp only [puppyGet, ok, if_true] at status ⊢
      exact visitAll_there disk matching timeString (readOptions options)
        (convertSlashes heap directory).result (glob :: globs) acts apart _ status

end Runs

/-! ## A recording on a shelf -/

theorem deletesAlone_shelfDisk : shelfDisk.DeletesAlone := by
  intro path other shelf different
  have kept : (Shelf.perform (.hddDel path) shelf).2.find other = shelf.find other := by
    cases found : shelf.find path with
    | none => simp only [Shelf.perform, found]
    | some file =>
        simp only [Shelf.perform, found]
        exact Shelf.find_remove different shelf
  simp only [Disk.contents, shelfDisk, kept]

/-- A recording of three bytes as it is listed. -/
def recording : Entry where
  ftype := PUPPY_FILE
  time := 0
  size := 3
  name := letter

/-- Another one, of two bytes. -/
def secondRecording : Entry where
  ftype := PUPPY_FILE
  time := 0
  size := 2
  name := secondLetter

/-- The end of a listing. -/
def listingEnd : Entry where
  ftype := PUPPY_UNKNOWN
  time := 0
  size := 0
  name := CString.empty

/-- A shelf with the recordings in the directory without a name. -/
def recordingShelf : Shelf :=
  [(devicePath CString.empty recording.name, ⟨⟨0, 0, 0, 0⟩, [1, 2, 3]⟩),
    (devicePath CString.empty secondRecording.name, ⟨⟨0, 0, 0, 0⟩, [4, 5]⟩)]

/-- On the host there is another file of the name and the size of the second one. -/
def recordingFiles : LocalFiles :=
  LocalFiles.write secondRecording.name [6, 7] fun _ => none

theorem named_recordings :
    named [recording, secondRecording, listingEnd] = [recording, secondRecording] := by
  rw [named, List.takeWhile_cons, if_pos (by decide), List.takeWhile_cons, if_pos (by decide),
    List.takeWhile_cons, if_neg (by decide)]

theorem apart_recordings :
    (named [recording, secondRecording, listingEnd]).Pairwise Apart := by
  rw [named_recordings, List.pairwise_pair]
  intro _ _
  decide

theorem whole_recordings :
    ∀ entry ∈ named [recording, secondRecording, listingEnd],
      (convertSlashes (fun _ => 0) CString.empty).result.length + 1 + entry.name.length <
        SRC_SIZE := by
  rw [named_recordings]
  decide +kernel

/-- The first recording is moved, and the second one is deleted. -/
theorem puppyGet_preserves_recordings :
    let outcome := puppyGet
      (libraryWorld (fileServer shelfDisk fun _ => 1) Host.epoch (fun _ _ => 0) (fun _ _ => 0)
        fun _ => [])
      (fun _ => 0) ['m'] [CString.empty, CString.empty] true
      (some [recording, secondRecording, listingEnd])
      ⟨Globals.fresh (line [] (resting recordingShelf 0)), recordingFiles⟩
    ∃ later, AtRest later outcome.session.outside.globals ∧
      ∀ path bytes, shelfDisk.contents path recordingShelf = some bytes →
        shelfDisk.contents path later = some bytes ∨
          ∃ directory globs, [CString.empty, CString.empty] = directory :: globs ∧
            ∃ turn ∈ outcome.turns,
              turn.entry ∈ named [recording, secondRecording, listingEnd] ∧
              Wanted (fun _ _ => 0) globs turn.entry ∧
              path.bytes =
                fullPath (convertSlashes (fun _ => 0) directory).result turn.entry.name ∧
              (outcome.session.outside.files turn.entry.name = some bytes ∨
                ∃ own, recordingFiles turn.entry.name = some own ∧ Whole turn.entry own ∧
                  outcome.session.outside.files turn.entry.name = some own) := by
  refine puppyGet_preserves shelfDisk (fun _ => 1) Host.epoch (fun _ _ => 0) (fun _ _ => 0)
    (fun _ => []) deletesAlone_shelfDisk (fun _ => 0) ['m'] [CString.empty, CString.empty] true
    (some [recording, secondRecording, listingEnd]) apart_recordings ?_
    (atRest_fresh recordingShelf) recordingFiles
  rintro directory globs ⟨⟩ entry listed _
  exact whole_recordings entry listed

/-- On the shelf the run ends well. -/
theorem status_recordings :
    (puppyGet (diskWorld shelfDisk (fun _ _ => 0) fun _ => []) (fun _ => 0) ['m']
      [CString.empty, CString.empty] true (some [recording, secondRecording, listingEnd])
      ⟨recordingShelf, recordingFiles⟩).status = some 0 := by
  decide +kernel

theorem puppyGet_complete_recordings :
    let files := (puppyGet
      (libraryWorld (fileServer shelfDisk fun _ => 1) Host.epoch (fun _ _ => 0) (fun _ _ => 0)
        fun _ => [])
      (fun _ => 0) ['m'] [CString.empty, CString.empty] true
      (some [recording, secondRecording, listingEnd])
      ⟨Globals.fresh (line [] (resting recordingShelf 0)), recordingFiles⟩).session.outside.files
    (∃ own, files recording.name = some own ∧ Whole recording own) ∧
      ∃ own, files secondRecording.name = some own ∧ Whole secondRecording own := by
  have rest := atRest_fresh recordingShelf
  have same := puppyGet_sameRun
    (libraryWorld_follows shelfDisk (fun _ => 1) Host.epoch (fun _ _ => 0) (fun _ _ => 0)
      fun _ => [])
    (fun _ => 0) ['m'] [CString.empty, CString.empty] true
    (some [recording, secondRecording, listingEnd])
    (show Tied ⟨_, recordingFiles⟩ ⟨recordingShelf, recordingFiles⟩ from ⟨rest, rfl⟩)
  have there := puppyGet_complete shelfDisk (fun _ => 1) Host.epoch (fun _ _ => 0) (fun _ _ => 0)
    (fun _ => []) (fun _ => 0) ['m'] CString.empty CString.empty []
    [recording, secondRecording, listingEnd] rfl apart_recordings rest recordingFiles
    (same.status.trans status_recordings)
  rw [named_recordings] at there
  constructor
  · exact there recording List.mem_cons_self ⟨by decide, CString.empty,
      List.mem_singleton_self _, rfl⟩
  · exact there secondRecording (List.mem_cons_of_mem _ (List.mem_singleton_self _)) ⟨by decide,
      CString.empty, List.mem_singleton_self _, rfl⟩

end Puppy.Peer
