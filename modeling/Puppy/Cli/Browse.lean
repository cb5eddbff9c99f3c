import Puppy.Cli.Sort
import Puppy.Cli.Slashes
import Puppy.Cli.Options

/-!
# puppy-dir

`main` of `puppy-dir.c` over whatever `puppy_open`, `puppy_hdd_dir`, `fnmatch`
and `strftime` return.  The options decide whether the device is asked and by
what the listing is sorted; the lines printed are the matching entries before
the first empty name.
-/

namespace Puppy.Cli

open Sorting Getopt
open Puppy.Listing
open Puppy.Tool (upToNul)

/-- What puppy-dir prints. -/
inductive DirMessage where
  /-- `usage` -/
  | usage
  /-- "Failed to initialize puppy\n", on `stderr` -/
  | failedToInitialize
  /-- "%s %12lld  %s\n" -/
  | file (time : List UInt8) (size : Int) (name : CString)
  deriving DecidableEq

/-! ## Options -/

/-- "htUSn" -/
def dirOptstring : Optstring UInt8 where
  dash := 0x2D
  takes char := if char ∈ Stdio.word "htUSn" then some false else none

/-- `ok` and `sort_field`, and what the loop over the options has printed. -/
structure DirOptions where
  ok : Bool
  sortField : SortField
  output : List DirMessage

/-- The values they start with. -/
def DirOptions.initial : DirOptions where
  ok := true
  sortField := .byNameTime
  output := []

/-- One pass of the loop over the results of `getopt`. -/
def readDirOption (options : DirOptions) (opt : Opt UInt8) : DirOptions :=
  if options.ok then
    match opt with
    | .plain char =>
        if char = 0x68 then { options with ok := false, output := options.output ++ [.usage] }
        else if char = 0x55 then { options with sortField := .unsorted }
        else if char = 0x74 then { options with sortField := .byTime }
        else if char = 0x53 then { options with sortField := .bySize }
        else if char = 0x6E then { options with sortField := .byName }
        else if char = 0x4E then { options with sortField := .byNameTime }
        else { options with ok := false }
    | .withArgument _ _ | .unknown => { options with ok := false }
  else options

/-- The loop over the results of `getopt`. -/
def readDirOptions (results : List (Opt UInt8)) : DirOptions :=
  results.foldl readDirOption .initial

/-! ## main -/

/-- What puppy-dir calls, and what it gets. -/
structure DirWorld where
  /-- `puppy_ok(p)` -/
  opened : Bool
  /-- `puppy_hdd_dir(p, dir)` -/
  hddDir : CString → List DirEntry
  /-- `fnmatch(glob, name, 0)` -/
  fnmatch : CString → CString → Int
  /-- `localtime` and `strftime` with "%Y-%m-%d %H:%M:%S" -/
  timeString : Int → List UInt8
  /-- `qsort` -/
  qsort : Comparator Entry → List Entry → List Entry

/-- What has happened when `main` returns. -/
structure DirOutcome where
  /-- The directory that `puppy_hdd_dir` was asked for. -/
  asked : Option CString
  output : List DirMessage
  /-- The exit status, or `none` when the scan runs past the end of the array. -/
  status : Option Int

/-- "*" -/
def star : CString := CString.single 0x2A (by decide)

/-- The `printf` for an entry. -/
def DirWorld.line (world : DirWorld) (entry : Entry) : DirMessage :=
  .file (world.timeString entry.time) entry.size entry.name

/-- `main` of `puppy-dir.c`, with the words behind the name of the program.
`heap` is what `malloc` delivers in `convert_slashes`. -/
def puppyDir (char : CharKind) (world : DirWorld) (heap : Memory UInt8)
    (argv : List CString) : DirOutcome :=
  let parsed := getopt dirOptstring none (argv.map CString.bytes)
  let options := readDirOptions parsed.1
  let operands := parsed.2.map upToNul
  if options.ok then
    if world.opened then
      let dir := (convertSlashes heap (operands[0]?.getD CString.empty)).result
      let glob := operands[1]?.getD star
      match visits (world.hddDir dir) with
      | none => { asked := some dir, output := options.output, status := none }
      | some entries =>
          let sorted :=
            sortDirEntries char world.qsort (entries.map Entry.ofDirEntry) options.sortField
          { asked := some dir
            output := options.output ++
              (sorted.filter fun entry => world.fnmatch glob entry.name = 0).map world.line
            status := some 0 }
    else
      { asked := none, output := options.output ++ [.failedToInitialize], status := some 0 }
  else { asked := none, output := options.output, status := some 0 }

/-! ## The options that are honoured -/

/-- The order an option asks for. -/
def sortFieldOf : Opt UInt8 → Option SortField
  | .plain char =>
      if char = 0x55 then some .unsorted
      else if char = 0x74 then some .byTime
      else if char = 0x53 then some .bySize
      else if char = 0x6E then some .byName
      else if char = 0x4E then some .byNameTime
      else none
  | .withArgument _ _ | .unknown => none

theorem readDirOption_of_ok {options : DirOptions} (ok : options.ok = true) (opt : Opt UInt8) :
    (∃ field, sortFieldOf opt = some field ∧
      readDirOption options opt = { options with sortField := field }) ∨
      sortFieldOf opt = none ∧ (readDirOption options opt).ok = false := by
  cases opt with
  | plain char =>
      rw [readDirOption, if_pos ok, sortFieldOf]
      by_cases help : char = 0x68
      · subst help
        exact Or.inr ⟨rfl, rfl⟩
      · rw [if_neg help]
        split_ifs
        · exact Or.inl ⟨_, rfl, rfl⟩
        · exact Or.inl ⟨_, rfl, rfl⟩
        · exact Or.inl ⟨_, rfl, rfl⟩
        · exact Or.inl ⟨_, rfl, rfl⟩
        · exact Or.inl ⟨_, rfl, rfl⟩
        · exact Or.inr ⟨rfl, rfl⟩
  | withArgument char optarg =>
      rw [readDirOption, if_pos ok]
      exact Or.inr ⟨rfl, rfl⟩
  | unknown =>
      rw [readDirOption, if_pos ok]
      exact Or.inr ⟨rfl, rfl⟩

/-- Once `ok` is cleared the options are left as they are. -/
theorem foldl_readDirOption_of_not_ok {options : DirOptions} (failed : options.ok = false)
    (results : List (Opt UInt8)) : results.foldl readDirOption options = options := by
  induction results with
  | nil => rfl
  | cons opt results ih =>
      have stays : readDirOption options opt = options := by
        unfold readDirOption
        rw [if_neg (by rw [failed]; decide)]
      rw [List.foldl_cons, stays, ih]

/-- The options are honoured when each of them asks for an order, and the last
one counts. -/
theorem foldl_readDirOption (results : List (Opt UInt8)) {options : DirOptions}
    (ok : options.ok = true) :
    ((results.foldl readDirOption options).ok = true ↔
        ∀ opt ∈ results, (sortFieldOf opt).isSome = true) ∧
      ((results.foldl readDirOption options).ok = true →
        results.foldl readDirOption options =
          { options with
            sortField := (results.filterMap sortFieldOf).getLast?.getD options.sortField }) := by
  induction results generalizing options with
  | nil =>
      exact ⟨iff_of_true ok (List.forall_mem_nil _), fun _ => rfl⟩
  | cons opt results ih =>
      rw [List.foldl_cons, List.forall_mem_cons]
      rcases readDirOption_of_ok ok opt with ⟨field, asks, read⟩ | ⟨none, failed⟩
      · obtain ⟨honoured, last⟩ := @ih { options with sortField := field } ok
        rw [read, asks, honoured]
        refine ⟨by simp, ?_⟩
        intro all
        rw [last (honoured.mpr all), List.filterMap_cons_some asks]
        cases results.filterMap sortFieldOf with
        | nil => rfl
        | cons first rest => simp [List.getLast?_cons]
      · rw [foldl_readDirOption_of_not_ok failed, none, failed]
        simp

/-- The results of `getopt` for some words. -/
def dirResults (argv : List CString) : List (Opt UInt8) :=
  (getopt dirOptstring none (argv.map CString.bytes)).1

/-- The order that is asked for last. -/
def dirField (argv : List CString) : SortField :=
  ((dirResults argv).filterMap sortFieldOf).getLast?.getD .byNameTime

/-- Of the options `getopt` knows, `-h` is the only one that asks for no order,
and it does not know `-N`. -/
theorem isSome_sortFieldOf_iff {argv : List CString} {opt : Opt UInt8}
    (member : opt ∈ dirResults argv) :
    (sortFieldOf opt).isSome = true ↔ ∃ char ∈ Stdio.word "UtSn", opt = .plain char := by
  cases opt with
  | plain char =>
      have takes := takes_of_mem_getopt member
      have known : char ∈ Stdio.word "htUSn" := by
        by_contra other
        simp only [dirOptstring, if_neg other] at takes
        cases takes
      have chars : Stdio.word "htUSn" = [0x68, 0x74, 0x55, 0x53, 0x6E] := rfl
      rw [chars] at known
      simp only [List.mem_cons, List.not_mem_nil, or_false] at known
      rcases known with rfl | rfl | rfl | rfl | rfl <;> decide
  | withArgument char optarg =>
      refine iff_of_false Bool.false_ne_true ?_
      rintro ⟨_, _, ⟨⟩⟩
  | unknown =>
      refine iff_of_false Bool.false_ne_true ?_
      rintro ⟨_, _, ⟨⟩⟩

/-- puppy-dir asks the device for a directory exactly when it can be opened and
every option is `-U`, `-t`, `-S` or `-n`; the documented `-N` is none of them. -/
theorem puppyDir_asks_iff (char : CharKind) (world : DirWorld) (heap : Memory UInt8)
    (argv : List CString) :
    (puppyDir char world heap argv).asked.isSome = true ↔
      world.opened = true ∧
        ∀ opt ∈ dirResults argv, ∃ char ∈ Stdio.word "UtSn", opt = .plain char := by
  have honoured : (readDirOptions (dirResults argv)).ok = true ↔
      ∀ opt ∈ dirResults argv, ∃ char ∈ Stdio.word "UtSn", opt = .plain char :=
    (foldl_readDirOption (dirResults argv) rfl).1.trans
      (forall₂_congr fun _ member => isSome_sortFieldOf_iff member)
  rw [← honoured, puppyDir, ← dirResults]
  simp only
  split
  · rename_i ok
    split
    · rename_i opened
      rw [opened, ok]
      split <;> simp
    · rename_i closed
      simp [closed]
  · rename_i refused
    simp [refused]

/-! ## The lines that are printed -/

/-- The same entries in the order of a field. -/
structure InOrder (char : CharKind) (field : SortField) (source sorted : List Entry) : Prop where
  perm : sorted.Perm source
  ordered : ∀ comparator ∈ field.comparator char, sorted.Pairwise comparator.AtMost
  kept : field = .unsorted → sorted = source

theorem InOrder.filter {char : CharKind} {field : SortField} {source sorted : List Entry}
    (inOrder : InOrder char field source sorted) (keep : Entry → Bool) :
    InOrder char field (source.filter keep) (sorted.filter keep) where
  perm := inOrder.perm.filter keep
  ordered comparator chosen := (inOrder.ordered comparator chosen).filter keep
  kept unsorted := congrArg (List.filter keep) (inOrder.kept unsorted)

/-- With a comparison function that is consistent on the listing,
`sort_dir_entries` puts it in order. -/
theorem inOrder_sortDirEntries (char : CharKind)
    {qsort : Comparator Entry → List Entry → List Entry} (sorts : Sorts qsort)
    {field : SortField} {entries : List Entry}
    (consistent : ∀ comparator ∈ field.comparator char,
      ConsistentOn comparator {entry | entry ∈ entries}) :
    InOrder char field entries (sortDirEntries char qsort entries field) := by
  unfold sortDirEntries
  cases chosen : field.comparator char with
  | none =>
      refine ⟨List.Perm.refl _, ?_, fun _ => rfl⟩
      intro other same
      rw [chosen] at same
      cases same
  | some comparator =>
      obtain ⟨perm, ordered⟩ := sorts comparator entries (consistent comparator chosen)
      refine ⟨perm, ?_, ?_⟩
      · intro other same
        rw [chosen] at same
        cases same
        exact ordered
      · rintro rfl
        cases chosen

/-- A `qsort` that only moves entries leaves `sort_dir_entries` with the entries it
had. -/
theorem perm_sortDirEntries (char : CharKind)
    {qsort : Comparator Entry → List Entry → List Entry}
    (permutes : ∀ compare list, (qsort compare list).Perm list) (entries : List Entry)
    (field : SortField) : (sortDirEntries char qsort entries field).Perm entries := by
  unfold sortDirEntries
  cases field.comparator char with
  | none => exact List.Perm.refl _
  | some comparator => exact permutes comparator entries

/-- The operands of the words. -/
def dirOperands (argv : List CString) : List CString :=
  (getopt dirOptstring none (argv.map CString.bytes)).2.map upToNul

/-- The directory to list. -/
def dirPath (heap : Memory UInt8) (argv : List CString) : CString :=
  (convertSlashes heap ((dirOperands argv)[0]?.getD CString.empty)).result

/-- The names to print. -/
def dirGlob (argv : List CString) : CString := (dirOperands argv)[1]?.getD star

/-- Whether an entry is printed. -/
def DirWorld.prints (world : DirWorld) (argv : List CString) (entry : Entry) : Bool :=
  world.fnmatch (dirGlob argv) entry.name = 0

section Printing

variable (char : CharKind) {world : DirWorld} (heap : Memory UInt8) {argv : List CString}

/-- With options that are honoured, the device is asked. -/
theorem puppyDir_of_honoured (opened : world.opened = true)
    (honoured : ∀ opt ∈ dirResults argv, ∃ char ∈ Stdio.word "UtSn", opt = .plain char) :
    puppyDir char world heap argv =
      match visits (world.hddDir (dirPath heap argv)) with
      | none => { asked := some (dirPath heap argv), output := [], status := none }
      | some entries =>
          { asked := some (dirPath heap argv)
            output := ((sortDirEntries char world.qsort (entries.map Entry.ofDirEntry)
              (dirField argv)).filter (world.prints argv)).map world.line
            status := some 0 } := by
  have ok : ∀ opt ∈ dirResults argv, (sortFieldOf opt).isSome = true := fun opt member =>
    (isSome_sortFieldOf_iff member).mpr (honoured opt member)
  have loop := foldl_readDirOption (dirResults argv) (show DirOptions.initial.ok = true from rfl)
  have read : readDirOptions (dirResults argv) =
      { DirOptions.initial with sortField := dirField argv } :=
    loop.2 (loop.1.mpr ok)
  rw [puppyDir, ← dirResults]
  simp only [read, opened]
  rfl

end Printing

end Puppy.Cli
