import Puppy.Cli.Sort
import Puppy.Usb.Link

/-!
# The order of sizes and times

`compare_by_size` and `compare_by_time` return the difference of two 64-bit
fields as an `int`.  The low 32 bits have the sign of the difference for some
differences only, and the listing is sorted by the field where all of them do.
-/

namespace Puppy.Cli

open Sorting Puppy.Listing Puppy.Usb

/-- The difference does not overflow, and its low 32 bits have its sign. -/
def KeepsSign (difference : Int) : Prop :=
  difference = 0 ∨
    (0 < difference ∧ difference < 2 ^ 63 ∧
      0 < difference % 2 ^ 32 ∧ difference % 2 ^ 32 < 2 ^ 31) ∨
    (difference < 0 ∧ -2 ^ 63 ≤ difference ∧ 2 ^ 31 ≤ difference % 2 ^ 32)

theorem longToInt_sign_iff {difference : Int}
    (fits : -2 ^ 63 ≤ difference ∧ difference < 2 ^ 63) :
    (longToInt difference < 0 ↔ difference < 0) ∧ (0 < longToInt difference ↔ 0 < difference) ↔
      KeepsSign difference := by
  rw [longToInt, KeepsSign, Int.bmod_def]
  split <;> omega

/-- A comparison function of a field tells its order exactly where the difference
keeps its sign. -/
theorem compareByField_tells_iff (field : Entry → Int) (a b : Entry) :
    Tells (compareByField field) (KeyBefore field) a b ↔ KeepsSign (field a - field b) := by
  have less : field a - field b < 0 ↔ field a < field b := by omega
  have greater : 0 < field a - field b ↔ field b < field a := by omega
  rw [Tells, KeyBefore, KeyBefore, ← less, ← greater]
  by_cases fits : -2 ^ 63 ≤ field a - field b ∧ field a - field b < 2 ^ 63
  · have answer : compareByField field a b = some (longToInt (field a - field b)) := by
      rw [compareByField, checked, if_pos fits]
      rfl
    rw [← longToInt_sign_iff fits, answer]
    constructor
    · rintro ⟨r, same, tells⟩
      cases same
      exact tells
    · intro tells
      exact ⟨_, rfl, tells⟩
  · have undefined : compareByField field a b = none := by
      rw [compareByField, checked, if_neg fits]
      rfl
    apply iff_of_false
    · rintro ⟨r, answer, _⟩
      rw [undefined] at answer
      cases answer
    · rintro (equal | ⟨_, less, _⟩ | ⟨_, atLeast, _⟩) <;> omega

/-- Where all differences keep their signs, the comparison function is consistent. -/
theorem consistentOn_compareByField {field : Entry → Int} {s : Set Entry}
    (keep : ∀ a ∈ s, ∀ b ∈ s, KeepsSign (field a - field b)) :
    ConsistentOn (compareByField field) s := by
  have tells : ∀ a ∈ s, ∀ b ∈ s, Tells (compareByField field) (KeyBefore field) a b := by
    intro a inA b inB
    exact (compareByField_tells_iff field a b).mpr (keep a inA b inB)
  exact (consistentOn_iff_splitOn tells).mpr (splitOn_keyBefore field s)

/-- The comparison function tells the order of the field on a listing, and the
listing is sorted by it. -/
structure SortsBy (char : CharKind) (qsort : Comparator Entry → List Entry → List Entry)
    (aField : SortField) (compare : Comparator Entry) (field : Entry → Int)
    (entries : List Entry) : Prop where
  signs : ∀ a ∈ entries, ∀ b ∈ entries, Tells compare (KeyBefore field) a b
  perm : (sortDirEntries char qsort entries aField).Perm entries
  ordered : OrderedBy field (sortDirEntries char qsort entries aField)

theorem sortsBy_iff {char : CharKind} {qsort : Comparator Entry → List Entry → List Entry}
    (sorts : Sorts qsort) {aField : SortField} {field : Entry → Int}
    (chosen : aField.comparator char = some (compareByField field)) (entries : List Entry) :
    SortsBy char qsort aField (compareByField field) field entries ↔
      ∀ a ∈ entries, ∀ b ∈ entries, KeepsSign (field a - field b) := by
  constructor
  · intro sorted a inA b inB
    exact (compareByField_tells_iff field a b).mp (sorted.signs a inA b inB)
  · intro keep
    have tells : ∀ a ∈ entries, ∀ b ∈ entries,
        Tells (compareByField field) (KeyBefore field) a b := by
      intro a inA b inB
      exact (compareByField_tells_iff field a b).mpr (keep a inA b inB)
    obtain ⟨perm, ordered⟩ := sorts.orderedBy tells
    have result : sortDirEntries char qsort entries aField =
        qsort (compareByField field) entries := by
      rw [sortDirEntries, chosen]
    constructor
    · exact tells
    · rw [result]
      exact perm
    · rw [result]
      exact ordered

/-- The comparison functions by size and by time answer with the sign of the
difference exactly where the difference keeps it, and a listing is sorted by
the field where all differences do. -/
theorem sortDirEntries_byField_iff (char : CharKind)
    (qsort : Comparator Entry → List Entry → List Entry) (sorts : Sorts qsort)
    (entries : List Entry) :
    ((∀ a b, Tells compareBySize (KeyBefore Entry.size) a b ↔ KeepsSign (a.size - b.size)) ∧
      (SortsBy char qsort .bySize compareBySize Entry.size entries ↔
        ∀ a ∈ entries, ∀ b ∈ entries, KeepsSign (a.size - b.size))) ∧
      (∀ a b, Tells compareByTime (KeyBefore Entry.time) a b ↔ KeepsSign (a.time - b.time)) ∧
      (SortsBy char qsort .byTime compareByTime Entry.time entries ↔
        ∀ a ∈ entries, ∀ b ∈ entries, KeepsSign (a.time - b.time)) := by
  constructor
  · constructor
    · exact compareByField_tells_iff Entry.size
    · exact sortsBy_iff sorts rfl entries
  · constructor
    · exact compareByField_tells_iff Entry.time
    · exact sortsBy_iff sorts rfl entries

/-- The entry of a recording with a size, as `decode_dir` makes it. -/
def recordingOfSize (size : UInt64) : Entry :=
  Entry.ofDirEntry (decodeEntry Link.muteEnv
    { stamp := { mjd := 54466, hour := 0, minute := 0, second := 0 }
      filetype := 2
      size
      name := .single 0x72 (by decide) }
    { ftype := 0, time := 0, size := 0, name := fun _ => 0 })

theorem sortDirEntries_byField_iff_recordings :
    let entries := [recordingOfSize 2, recordingOfSize 1]
    ((∀ a b, Tells compareBySize (KeyBefore Entry.size) a b ↔ KeepsSign (a.size - b.size)) ∧
      (SortsBy .signed mergeSort .bySize compareBySize Entry.size entries ↔
        ∀ a ∈ entries, ∀ b ∈ entries, KeepsSign (a.size - b.size))) ∧
      (∀ a b, Tells compareByTime (KeyBefore Entry.time) a b ↔ KeepsSign (a.time - b.time)) ∧
      (SortsBy .signed mergeSort .byTime compareByTime Entry.time entries ↔
        ∀ a ∈ entries, ∀ b ∈ entries, KeepsSign (a.time - b.time)) :=
  sortDirEntries_byField_iff .signed mergeSort sorts_mergeSort
    [recordingOfSize 2, recordingOfSize 1]

/-- A recording of 4 GiB compares equal to an empty one. -/
theorem not_tells_compareBySize_fourGiB :
    ¬ Tells compareBySize (KeyBefore Entry.size) (recordingOfSize 0x100000000)
        (recordingOfSize 0) := by
  rintro ⟨r, answer, _, greater⟩
  have equal : compareBySize (recordingOfSize 0x100000000) (recordingOfSize 0) = some 0 := by
    decide +kernel
  have larger : (recordingOfSize 0).size < (recordingOfSize 0x100000000).size := by
    decide +kernel
  rw [equal] at answer
  cases answer
  exact Int.lt_irrefl 0 (greater.mpr larger)

end Puppy.Cli
