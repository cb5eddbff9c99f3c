import Puppy.Peer.Commands
import Puppy.Peer.Directories
import Puppy.Cli.Browse
import Puppy.Cli.FieldOrder

/-!
# puppy-dir on a file server

puppy-dir over a listing that the library has received from a device with a
disk.  It prints the records of the directory whose names match, in the order
asked for, if the element behind them happens to begin with a NUL: the
terminator itself is stored too late to reach the array.
-/

namespace Puppy.Peer

open Transition Sorting
open Puppy.Usb Puppy.Listing Puppy.Transfer Puppy.Time Puppy.Cli

universe u

variable {σ : Type u} {δ : Type u}

/-- The entry a tool reads for a record. -/
def entryOf (env : Env σ) (record : Record) : Entry where
  ftype :=
    if record.filetype = 1 then PUPPY_DIR
    else if record.filetype = 2 then PUPPY_FILE
    else PUPPY_UNKNOWN
  time := tfdtToTime env.mktime record.stamp
  size := record.size
  name := record.name

theorem ofDirEntry_of_shows {env : Env σ} {record : Record} {entry : DirEntry}
    (shows : Shows env record entry) : Entry.ofDirEntry entry = entryOf env record := by
  rw [Entry.ofDirEntry, entryOf, shows.ftype, shows.size, shows.time]
  exact congrArg (Entry.mk _ _ _) shows.name

theorem map_ofDirEntry_of_shows {env : Env σ} {records : List Record} {entries : List DirEntry}
    (shown : List.Forall₂ (Shows env) records entries) :
    entries.map Entry.ofDirEntry = records.map (entryOf env) := by
  induction shown with
  | nil => rfl
  | cons first _ ih => rw [List.map_cons, List.map_cons, ofDirEntry_of_shows first, ih]

/-- A string that begins with a NUL is empty. -/
theorem name_ne_zero_of_shows {env : Env σ} {record : Record} {entry : DirEntry}
    (shows : Shows env record entry) (named : record.name ≠ CString.empty) :
    entry.name 0 ≠ 0 := by
  intro zero
  apply named
  have empty : CString.scan entry.name 0 Listing.NAME_SIZE = [] := if_pos zero
  rw [← shows.name, CString.eq_iff_bytes]
  exact empty

/-- The scan finds the entries that show records, and goes by the element behind
them. -/
theorem visits_of_shows {env : Env σ} {records : List Record} {entries : List DirEntry}
    (shown : List.Forall₂ (Shows env) records entries)
    (named : ∀ record ∈ records, record.name ≠ CString.empty) (last : DirEntry) :
    visits (entries ++ [last]) = if last.name 0 = 0 then some entries else none := by
  induction shown with
  | nil =>
      rw [List.nil_append, visits]
      rfl
  | cons first _ ih =>
      rw [List.forall_mem_cons] at named
      rw [List.cons_append, visits, if_neg (name_ne_zero_of_shows first named.1), ih named.2]
      split <;> rfl

/-- However many passes are allowed, a listing is one array. -/
theorem Performs.list_unique {env : Env σ} {globals next other : Globals σ} {path : CString}
    {scratch : Scratch} {array : List DirEntry} {seen : Result (List DirEntry)}
    (first : Performs env globals ⟨.list path, scratch⟩ (.list array) next)
    (second : Performs env globals ⟨.list path, scratch⟩ seen other) :
    seen = .list array ∧ other = next := by
  cases first with
  | list left =>
      cases second with
      | list right =>
          cases run_leave_unique left right
          exact ⟨rfl, rfl⟩

section Line

variable (disk : Disk δ) (amount : Nat → Nat) (host : Host)

/-- The entries a tool reads for a directory: none when its path is refused. -/
def entriesOf (path : CString) (state : δ) : List Entry :=
  if DirAccepts path then
    (listing (disk.list path state).messages).map
      (entryOf (Link.env (fileServer disk amount) host))
  else []

/-- A listing by the library shows the records of the directory in front of one
more element. -/
theorem shown_of_performs_list {state : δ} {globals next : Globals (Link (Server δ))}
    (rest : AtRest state globals) {path : CString} (short : path.length + 1 < 2 ^ 31)
    {scratch : Scratch} {array : List DirEntry}
    (listed : Performs (Link.env (fileServer disk amount) host) globals ⟨.list path, scratch⟩
      (.list array) next) :
    (DirAccepts path → AtRest state next) ∧ ∃ records entries last, array = entries ++ [last] ∧
      List.Forall₂ (Shows (Link.env (fileServer disk amount) host)) records entries ∧
      records.map (entryOf (Link.env (fileServer disk amount) host)) =
        entriesOf disk amount host path state := by
  by_cases accepts : DirAccepts path
  · obtain ⟨seen, other, performs, agrees, idle⟩ :=
      performs_list disk amount host accepts scratch rest
    obtain ⟨rfl, rfl⟩ := listed.list_unique performs
    refine ⟨fun _ => idle, ?_⟩
    rw [entriesOf, if_pos accepts]
    generalize listing (disk.list path state).messages = records at agrees
    cases agrees with
    | list length shown =>
        have behind : (array.drop records.length).length = 1 := by
          rw [List.length_drop]
          omega
        obtain ⟨last, only⟩ := List.length_eq_one_iff.mp behind
        have split := List.take_append_drop records.length array
        rw [only] at split
        exact ⟨records, _, last, split.symm, shown, rfl⟩
  · refine ⟨fun accepted => absurd accepted accepts, [], [], ?_⟩
    rw [entriesOf, if_neg accepts]
    cases listed with
    | list left =>
        -- the request is refused, and the array is the terminator's memory alone
        obtain ⟨_, _, _, returns⟩ := run_dirBody_of_not_goes _
          (not_goes_of_tooLong short accepts (Link.env (fileServer disk amount) host)
            globals.error globals.reply scratch.heap scratch.req globals.outside)
        rw [puppyHddDir] at left
        cases run_leave_unique left (returns 0)
        exact ⟨_, rfl, .nil, rfl⟩

/-- puppy-dir prints the records of a directory.  When its listing comes from a
library call on a device at rest, and the options are honoured, it ends well
exactly when the element behind the records begins with a NUL; then it prints
the records with matching names, each as often as the directory has it, and in
the order asked for last where the comparison is consistent on the records. -/
theorem puppyDir_lists {state : δ} {globals next : Globals (Link (Server δ))}
    (rest : AtRest state globals) (char : CharKind) (world : DirWorld) (heap : Memory UInt8)
    {argv : List CString} (opened : world.opened = true)
    (honoured : ∀ opt ∈ dirResults argv, ∃ char ∈ Stdio.word "UtSn", opt = .plain char)
    (short : (dirPath heap argv).length + 1 < 2 ^ 31) {scratch : Scratch}
    (listed : Performs (Link.env (fileServer disk amount) host) globals
      ⟨.list (dirPath heap argv), scratch⟩ (.list (world.hddDir (dirPath heap argv))) next)
    (named : ∀ entry ∈ entriesOf disk amount host (dirPath heap argv) state,
      entry.name ≠ CString.empty)
    (sorts : Sorts world.qsort) :
    let entries := entriesOf disk amount host (dirPath heap argv) state
    let outcome := puppyDir char world heap argv
    (DirAccepts (dirPath heap argv) → AtRest state next) ∧
      ∃ last, (world.hddDir (dirPath heap argv)).getLast? = some last ∧
        (outcome.status = some 0 ↔ last.name 0 = 0) ∧
        (last.name 0 = 0 → ∃ sorted, outcome.output = sorted.map world.line ∧
          ((∀ compare list, (world.qsort compare list).Perm list) →
            sorted.Perm (entries.filter (world.prints argv))) ∧
          ((∀ comparator ∈ (dirField argv).comparator char,
              ConsistentOn comparator {entry | entry ∈ entries}) →
            InOrder char (dirField argv) (entries.filter (world.prints argv)) sorted)) := by
  intro entries outcome
  obtain ⟨idle, records, array, last, whole, shown, same⟩ :=
    shown_of_performs_list disk amount host rest short listed
  have named : ∀ record ∈ records, record.name ≠ CString.empty := by
    intro record member
    exact named _ (same ▸ List.mem_map_of_mem member)
  have visited := visits_of_shows shown named last
  rw [← whole] at visited
  have prints := puppyDir_of_honoured char heap opened honoured
  have read : array.map Entry.ofDirEntry = entries := (map_ofDirEntry_of_shows shown).trans same
  refine ⟨idle, last, by rw [whole, List.getLast?_concat], ?_⟩
  by_cases ended : last.name 0 = 0
  · rw [visited, if_pos ended] at prints
    simp only [read] at prints
    refine ⟨iff_of_true (congrArg DirOutcome.status prints) ended, fun _ => ?_⟩
    refine ⟨_, congrArg DirOutcome.output prints, ?_, ?_⟩
    · intro permutes
      exact (perm_sortDirEntries char permutes _ _).filter _
    · intro consistent
      exact (inOrder_sortDirEntries char sorts consistent).filter _
  · rw [visited, if_neg ended] at prints
    refine ⟨iff_of_false ?_ ended, fun zero => absurd zero ended⟩
    rw [show outcome = _ from prints]
    rintro ⟨⟩

end Line

/-! ## A directory on the shelf -/

/-- Three files on a shelf, under names of one character. -/
def nameShelf : Shelf :=
  [(pathA, ⟨⟨0, 0, 0, 0⟩, [1, 2, 3]⟩), (letter, ⟨⟨0, 0, 0, 0⟩, [4]⟩),
    (secondLetter, ⟨⟨0, 0, 0, 0⟩, [5, 6]⟩)]

/-- "-S" -/
def sizeWord : CString where
  bytes := [0x2D, 0x53]
  noNul := by decide +kernel

theorem dirResults_sizeWord : dirResults [sizeWord] = [.plain 0x53] := by
  decide +kernel

theorem dirField_sizeWord : dirField [sizeWord] = .bySize := by
  rw [dirField, dirResults_sizeWord]
  rfl

/-- The records of a shelf have the paths and the sizes of its files. -/
theorem kept_of_mem_listing {shelf : Shelf} {path : CString} {record : Record}
    (member : record ∈ listing (shelfDisk.list path shelf).messages) :
    ∃ kept ∈ shelf, kept.1 = record.name ∧ record.size = kept.2.contents.length := by
  have records : listing (shelfDisk.list path shelf).messages =
      ((shelf.filterMap Shelf.record).take (maxEntries - 1)).map Fileable.toRecord :=
    listing_messages _
  rw [records, List.mem_map] at member
  obtain ⟨fileable, taken, rfl⟩ := member
  obtain ⟨kept, onShelf, recorded⟩ := List.mem_filterMap.mp (List.mem_of_mem_take taken)
  unfold Shelf.record at recorded
  simp only at recorded
  split at recorded
  · cases recorded
    exact ⟨kept, onShelf, rfl, rfl⟩
  · cases recorded

/-- The entries of the shelf. -/
abbrev nameEntries (path : CString) : List Entry :=
  entriesOf shelfDisk (fun _ => 1) Host.epoch path nameShelf

theorem kept_of_mem_nameEntries {path : CString} {entry : Entry}
    (member : entry ∈ nameEntries path) :
    ∃ kept ∈ nameShelf, kept.1 = entry.name ∧ entry.size = kept.2.contents.length := by
  rw [nameEntries, entriesOf] at member
  split at member
  · obtain ⟨record, listed, rfl⟩ := List.mem_map.mp member
    obtain ⟨kept, onShelf, name, size⟩ := kept_of_mem_listing listed
    exact ⟨kept, onShelf, name, congrArg Int.ofNat size⟩
  · cases member

/-- Their sizes are small, so that they can be put in order. -/
theorem consistentOn_nameEntries (path : CString) :
    ConsistentOn compareBySize {entry | entry ∈ nameEntries path} := by
  have small : ∀ entry ∈ nameEntries path, 0 ≤ entry.size ∧ entry.size ≤ 3 := by
    intro entry member
    obtain ⟨kept, onShelf, _, size⟩ := kept_of_mem_nameEntries member
    have bounded : ∀ kept ∈ nameShelf,
        0 ≤ (kept.2.contents.length : Int) ∧ (kept.2.contents.length : Int) ≤ 3 := by
      decide
    rw [size]
    exact bounded kept onShelf
  apply consistentOn_compareByField
  intro a inA b inB
  obtain ⟨_, _⟩ := small a inA
  obtain ⟨_, _⟩ := small b inB
  unfold KeepsSign
  omega

/-- What puppy-dir gets when the library has returned an array. -/
def shelfWorld (array : List DirEntry) : DirWorld where
  opened := true
  hddDir _ := array
  fnmatch _ _ := 0
  timeString _ := []
  qsort := mergeSort

/-- The files on the shelf are printed by size. -/
theorem puppyDir_lists_shelf :
    ∃ array next, Performs (Link.env (fileServer shelfDisk fun _ => 1) Host.epoch)
        (Globals.fresh (line [] (resting nameShelf 0)))
        ⟨.list (dirPath (fun _ => 0) [sizeWord]), .zero⟩ (.list array) next ∧
      let entries := nameEntries (dirPath (fun _ => 0) [sizeWord])
      let outcome := puppyDir .signed (shelfWorld array) (fun _ => 0) [sizeWord]
      AtRest nameShelf next ∧ ∃ last, array.getLast? = some last ∧
        (outcome.status = some 0 ↔ last.name 0 = 0) ∧
        (last.name 0 = 0 → ∃ sorted,
          outcome.output = sorted.map (shelfWorld array).line ∧
          sorted.Perm (entries.filter ((shelfWorld array).prints [sizeWord])) ∧
          InOrder .signed .bySize (entries.filter ((shelfWorld array).prints [sizeWord]))
            sorted) := by
  have rest := atRest_fresh nameShelf
  have accepts : DirAccepts (dirPath (fun _ => 0) [sizeWord]) := by decide +kernel
  obtain ⟨seen, next, performs, agrees, _⟩ :=
    performs_list shelfDisk (fun _ => 1) Host.epoch accepts .zero rest
  cases agrees with
  | @list _ array _ _ =>
      refine ⟨array, next, performs, ?_⟩
      have honoured : ∀ opt ∈ dirResults [sizeWord],
          ∃ char ∈ Stdio.word "UtSn", opt = .plain char := by
        rw [dirResults_sizeWord, List.forall_mem_singleton]
        exact ⟨0x53, by decide, rfl⟩
      have named : ∀ entry ∈ nameEntries (dirPath (fun _ => 0) [sizeWord]),
          entry.name ≠ CString.empty := by
        intro entry member
        obtain ⟨kept, onShelf, name, _⟩ := kept_of_mem_nameEntries member
        have nonempty : ∀ kept ∈ nameShelf, kept.1 ≠ CString.empty := by
          decide
        rw [← name]
        exact nonempty kept onShelf
      obtain ⟨idle, last, ends, status, prints⟩ := puppyDir_lists shelfDisk (fun _ => 1)
        Host.epoch rest .signed (shelfWorld array) (fun _ => 0) rfl honoured (by decide +kernel)
        performs named sorts_mergeSort
      refine ⟨idle accepts, last, ends, status, ?_⟩
      intro zero
      obtain ⟨sorted, output, perm, inOrder⟩ := prints zero
      rw [dirField_sizeWord] at inOrder
      refine ⟨sorted, output, perm perm_mergeSort, inOrder ?_⟩
      rintro comparator ⟨⟩
      exact consistentOn_nameEntries _

end Puppy.Peer
