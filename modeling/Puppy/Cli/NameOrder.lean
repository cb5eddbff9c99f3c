import Puppy.Cli.Sort
import Puppy.Order.FirstDifference

/-!
# The order of names

`strcmp_len` looks at the shorter of two name parts only, so that names compare
equal when one is a prefix of the other, and the secondary key decides between
them.  Both comparison functions by name therefore tell the order of words with
a key, and are consistent exactly where the keys of its entries are apart.
-/

namespace Puppy.Cli

open Sorting Puppy.Listing

/-! ## The name part -/

/-- The characters of the name part. -/
def nameWord (char : CharKind) (entry : Entry) : List Int :=
  (entry.name.bytes.take (extractParts entry.name).nameLen).map (charValue char)

theorem strcmpLen_neg (char : CharKind) (a : List UInt8) (aLen : Nat) (b : List UInt8)
    (bLen : Nat) : strcmpLen char b bLen a aLen = -strcmpLen char a aLen b bLen := by
  induction a generalizing aLen b bLen with
  | nil => cases b <;> cases bLen <;> rfl
  | cons x a ih =>
      cases aLen with
      | zero => cases b <;> cases bLen <;> rfl
      | succ aLen =>
          cases b with
          | nil => rfl
          | cons y b =>
              cases bLen with
              | zero => rfl
              | succ bLen =>
                  simp only [strcmpLen]
                  rw [ih aLen b bLen]
                  split <;> split <;> omega

/-- `strcmp_len` is negative when the first difference says so. -/
theorem strcmpLen_lt_zero_iff (char : CharKind) (a : List UInt8) (aLen : Nat) (b : List UInt8)
    (bLen : Nat) :
    strcmpLen char a aLen b bLen < 0 ↔
      Below ((a.take aLen).map (charValue char)) ((b.take bLen).map (charValue char)) := by
  induction a generalizing aLen b bLen with
  | nil =>
      rw [List.take_nil, List.map_nil]
      exact iff_of_false (lt_irrefl 0) (not_below_nil _)
  | cons x a ih =>
      cases aLen with
      | zero => exact iff_of_false (lt_irrefl 0) (not_below_nil _)
      | succ aLen =>
          cases b with
          | nil =>
              rw [List.take_nil, List.map_nil]
              exact iff_of_false (lt_irrefl 0) (not_below_to_nil _)
          | cons y b =>
              cases bLen with
              | zero => exact iff_of_false (lt_irrefl 0) (not_below_to_nil _)
              | succ bLen =>
                  rw [List.take_succ_cons, List.take_succ_cons, List.map_cons, List.map_cons,
                    Below.cons_iff, ← ih]
                  simp only [strcmpLen]
                  split <;> omega

/-- The sign of `strcmp_len` is the order of the name parts. -/
theorem strcmpLen_sign (char : CharKind) (a b : Entry) :
    let nameCmp := strcmpLen char a.name.bytes (extractParts a.name).nameLen
      b.name.bytes (extractParts b.name).nameLen
    (nameCmp < 0 ↔ Below (nameWord char a) (nameWord char b)) ∧
      (0 < nameCmp ↔ Below (nameWord char b) (nameWord char a)) := by
  intro nameCmp
  constructor
  · exact strcmpLen_lt_zero_iff char _ _ _ _
  · rw [nameWord, nameWord, ← strcmpLen_lt_zero_iff, strcmpLen_neg]
    exact Int.neg_neg_iff_pos.symm

/-! ## The secondary key -/

theorem checked_eq_some {bits : Nat} {value : Int}
    (fits : -2 ^ (bits - 1) ≤ value ∧ value < 2 ^ (bits - 1)) : checked bits value = some value :=
  if_pos fits

/-- A difference tells the order of its operands when it is not truncated. -/
theorem tells_sub {x y r : Int} (same : r = x - y) : (r < 0 ↔ x < y) ∧ (0 < r ↔ y < x) := by
  omega

/-- The comparison functions by name tell the order of words and a key when
their secondary key is told. -/
theorem compareByNameAnd_tells {char : CharKind} {aSecondary : CompareByNameAnd}
    {key : Entry → Int} {a b : Entry}
    (tells : Tells (compareSecondary aSecondary) (KeyBefore key) a b) :
    Tells (compareByNameAnd char aSecondary) (WordKeyBefore (nameWord char) key) a b := by
  obtain ⟨less, greater⟩ := strcmpLen_sign char a b
  rw [Tells]
  unfold compareByNameAnd
  generalize strcmpLen char a.name.bytes (extractParts a.name).nameLen
    b.name.bytes (extractParts b.name).nameLen = nameCmp at less greater ⊢
  simp only
  by_cases equal : nameCmp = 0
  · have agree : Agree (nameWord char a) (nameWord char b) := by
      rcases below_trichotomy (nameWord char a) (nameWord char b) with below | agree | above
      · exact absurd (less.mpr below) (by omega)
      · exact agree
      · exact absurd (greater.mpr above) (by omega)
    rw [if_neg (not_not.mpr equal), wordKeyBefore_iff_key agree, wordKeyBefore_iff_key agree.symm]
    exact tells
  · have differ : ¬ Agree (nameWord char a) (nameWord char b) := by
      intro agree
      rcases Int.lt_or_gt_of_ne equal with negative | positive
      · exact (less.mp negative).not_agree agree
      · exact (greater.mp positive).not_agree agree.symm
    rw [if_pos equal, wordKeyBefore_iff_below differ,
      wordKeyBefore_iff_below fun agree => differ agree.symm]
    exact ⟨nameCmp, rfl, less, greater⟩

/-! ## Numbers -/

theorem strrchr_eq_some {bytes : List UInt8} {char : UInt8} {i : Nat}
    (found : strrchr bytes char = some i) : bytes[i]? = some char := by
  induction bytes generalizing i with
  | nil => cases found
  | cons byte rest ih =>
      rw [strrchr] at found
      cases later : strrchr rest char with
      | some j =>
          rw [later] at found
          cases found
          exact ih later
      | none =>
          rw [later] at found
          simp only at found
          split at found
          · rename_i same
            cases found
            rw [same]
            rfl
          · cases found

/-- A number that does not start with a dash is not negative. -/
theorem atoi_bounds {string : List UInt8} {n : Int}
    (unsigned : (string.dropWhile isspace).head? ≠ some dashChar) (value : atoi string = some n) :
    0 ≤ n ∧ n < 2 ^ 31 := by
  rw [atoi, if_neg unsigned] at value
  split at value
  all_goals
    rw [checked] at value
    split at value
    · cases value
      omega
    · cases value

theorem isdigit_not_sign {byte : UInt8} (digit : isdigit byte = true) :
    isspace byte = false ∧ byte ≠ dashChar := by
  simp only [isdigit, Bool.decide_and, Bool.and_eq_true, decide_eq_true_eq,
    UInt8.le_iff_toNat_le, UInt8.reduceToNat] at digit
  constructor
  · simp only [isspace, Bool.decide_or, Bool.or_eq_false_iff, decide_eq_false_iff_not,
      UInt8.le_iff_toNat_le, ← UInt8.toNat_inj, UInt8.reduceToNat]
    omega
  · rintro rfl
    exact absurd digit (by decide)

/-- What is read between the dash and the dot is a number of digits or empty. -/
theorem numberBetween_bounds {name : List UInt8} {dash dot : Nat} {n : Int}
    (ordered : dash < dot) (atDot : name[dot]? = some dotChar)
    (value : numberBetween name dash dot = some n) : 0 ≤ n ∧ n < 2 ^ 31 := by
  obtain ⟨inside, isDot⟩ := List.getElem?_eq_some_iff.mp atDot
  have text : name.drop (dash + 1) =
      (name.take dot).drop (dash + 1) ++ dotChar :: name.drop (dot + 1) := by
    rw [← isDot, ← List.drop_eq_getElem_cons inside,
      ← List.drop_append_of_le_length (by rw [List.length_take]; omega), List.take_append_drop]
  have length : ((name.take dot).drop (dash + 1)).length = dot - (dash + 1) := by
    rw [List.length_drop, List.length_take, Nat.min_eq_left (Nat.le_of_lt inside)]
  rw [numberBetween] at value
  split at value
  · rename_i digits
    apply atoi_bounds _ value
    rw [text]
    generalize (name.take dot).drop (dash + 1) = between at digits length ⊢
    cases between with
    | nil =>
        rw [List.nil_append, List.dropWhile_cons_of_neg (by decide)]
        exact fun same => absurd (Option.some.inj same) (by decide)
    | cons byte more =>
        have digit : isdigit byte = true := by
          by_contra other
          rw [List.takeWhile_cons_of_neg other] at digits
          rw [List.length_cons] at length
          rw [List.length_nil] at digits
          omega
        obtain ⟨notSpace, notDash⟩ := isdigit_not_sign digit
        rw [List.cons_append, List.dropWhile_cons_of_neg (by rw [notSpace]; decide)]
        exact fun same => notDash (Option.some.inj same)
  · cases value
    decide

/-- Numbers are not negative. -/
theorem extractParts_number_bounds {name : CString} {n : Int}
    (value : (extractParts name).number = some n) : 0 ≤ n ∧ n < 2 ^ 31 := by
  rw [extractParts] at value
  split at value
  · cases value
    decide
  · rename_i dot atDot
    split at value
    · cases value
      decide
    · split at value
      · rename_i dash atDash
        have ordered : dash < dot := by
          have filtered := (Option.filter_eq_some_iff.mp atDash).2
          exact of_decide_eq_true filtered
        exact numberBetween_bounds ordered (strrchr_eq_some atDot) value
      · cases value
        decide

/-! ## Both orders -/

/-- The number of a name, where `extract_parts` finds one it can represent. -/
def entryNumber (entry : Entry) : Int := (extractParts entry.name).number.getD 0

/-- The number of every entry can be represented. -/
def NumbersFit (s : Set Entry) : Prop :=
  ∀ entry ∈ s, (extractParts entry.name).number.isSome = true

/-- The differences of all times fit in an `int`. -/
def TimesFit (s : Set Entry) : Prop :=
  ∀ a ∈ s, ∀ b ∈ s, -2 ^ 31 ≤ a.time - b.time ∧ a.time - b.time < 2 ^ 31

theorem compareSecondary_number_tells {s : Set Entry} (fit : NumbersFit s) {a b : Entry}
    (inA : a ∈ s) (inB : b ∈ s) :
    Tells (compareSecondary .number) (KeyBefore entryNumber) a b := by
  obtain ⟨aNum, aNumber⟩ := Option.isSome_iff_exists.mp (fit a inA)
  obtain ⟨bNum, bNumber⟩ := Option.isSome_iff_exists.mp (fit b inB)
  have aBounds := extractParts_number_bounds aNumber
  have bBounds := extractParts_number_bounds bNumber
  have answer : compareSecondary .number a b = some (aNum - bNum) := by
    rw [compareSecondary, aNumber, bNumber]
    exact checked_eq_some (by omega)
  refine ⟨aNum - bNum, answer, ?_⟩
  rw [KeyBefore, KeyBefore, entryNumber, entryNumber, aNumber, bNumber]
  exact tells_sub rfl

theorem compareSecondary_time_tells {s : Set Entry} (fit : TimesFit s) {a b : Entry}
    (inA : a ∈ s) (inB : b ∈ s) :
    Tells (compareSecondary .time) (KeyBefore Entry.time) a b := by
  have bounds := fit a inA b inB
  have whole : longToInt (a.time - b.time) = a.time - b.time :=
    Int.bmod_eq_of_le (by omega) (by omega)
  have answer : compareSecondary .time a b = some (longToInt (a.time - b.time)) := by
    rw [compareSecondary, checked_eq_some (by omega)]
    rfl
  exact ⟨_, answer, tells_sub whole⟩

/-- A name is compared with itself by its number. -/
theorem numbersFit_of_consistentOn {char : CharKind} {s : Set Entry}
    (consistent : ConsistentOn (compareByName char) s) : NumbersFit s := by
  intro entry member
  obtain ⟨r, _, answer, _⟩ := consistent.opposite entry member entry member
  have equal : strcmpLen char entry.name.bytes (extractParts entry.name).nameLen
      entry.name.bytes (extractParts entry.name).nameLen = 0 := by
    have opposite := strcmpLen_neg char entry.name.bytes (extractParts entry.name).nameLen
      entry.name.bytes (extractParts entry.name).nameLen
    omega
  rw [compareByName, compareByNameAnd, equal, if_neg (not_not.mpr rfl), compareSecondary] at answer
  obtain ⟨number, known, _⟩ := Option.bind_eq_some_iff.mp answer
  rw [known]
  rfl

/-- Both comparison functions by name are consistent on a set of entries exactly
when no name part is a prefix of two others that differ from each other, unless
the secondary key puts it on the right side of one of them. -/
theorem compareByName_consistentOn_iff (char : CharKind) (s : Set Entry) (fit : TimesFit s) :
    (ConsistentOn (compareByName char) s ↔
        NumbersFit s ∧ KeyedApart (nameWord char) entryNumber s) ∧
      (ConsistentOn (compareByNameTime char) s ↔
        KeyedApart (nameWord char) Entry.time s) := by
  constructor
  · have decided : NumbersFit s → (ConsistentOn (compareByName char) s ↔
        KeyedApart (nameWord char) entryNumber s) := by
      intro numbers
      rw [← splitOn_wordKeyBefore_iff]
      exact consistentOn_iff_splitOn fun a inA b inB =>
        compareByNameAnd_tells (compareSecondary_number_tells numbers inA inB)
    constructor
    · intro consistent
      have numbers : NumbersFit s := numbersFit_of_consistentOn consistent
      exact ⟨numbers, (decided numbers).mp consistent⟩
    · rintro ⟨numbers, apart⟩
      exact (decided numbers).mpr apart
  · rw [← splitOn_wordKeyBefore_iff]
    exact consistentOn_iff_splitOn fun a inA b inB =>
      compareByNameAnd_tells (compareSecondary_time_tells fit inA inB)

/-- An empty file with a name. -/
def fileNamed (bytes : List UInt8) (noNul : ∀ byte ∈ bytes, byte ≠ 0) : Entry where
  ftype := PUPPY_FILE
  time := 0
  size := 0
  name := ⟨bytes, noNul⟩

/-- The files `aa`, `a` and `ab`. -/
def tiedEntries : List Entry :=
  [fileNamed [97, 97] (by simp), fileNamed [97] (by simp), fileNamed [97, 98] (by simp)]

theorem compareByName_consistentOn_iff_tiedEntries :
    (ConsistentOn (compareByName .signed) {entry | entry ∈ tiedEntries} ↔
        NumbersFit {entry | entry ∈ tiedEntries} ∧
          KeyedApart (nameWord .signed) entryNumber {entry | entry ∈ tiedEntries}) ∧
      (ConsistentOn (compareByNameTime .signed) {entry | entry ∈ tiedEntries} ↔
        KeyedApart (nameWord .signed) Entry.time {entry | entry ∈ tiedEntries}) := by
  have times : ∀ a ∈ tiedEntries, ∀ b ∈ tiedEntries,
      -2 ^ 31 ≤ a.time - b.time ∧ a.time - b.time < 2 ^ 31 := by decide
  exact compareByName_consistentOn_iff .signed {entry | entry ∈ tiedEntries} times

/-- `ab` ties with `a` and `a` with `aa`, but `ab` comes behind `aa`. -/
theorem not_consistentOn_tiedEntries :
    ¬ ConsistentOn (compareByName .signed) {entry | entry ∈ tiedEntries} ∧
      ¬ ConsistentOn (compareByNameTime .signed) {entry | entry ∈ tiedEntries} := by
  have first : tiedEntries[0] ∈ {entry | entry ∈ tiedEntries} := List.getElem_mem _
  have second : tiedEntries[1] ∈ {entry | entry ∈ tiedEntries} := List.getElem_mem _
  have third : tiedEntries[2] ∈ {entry | entry ∈ tiedEntries} := List.getElem_mem _
  constructor
  · intro consistent
    exact absurd (consistent.trans _ third _ second _ first (by decide) (by decide)) (by decide)
  · intro consistent
    exact absurd (consistent.trans _ third _ second _ first (by decide) (by decide)) (by decide)

end Puppy.Cli
