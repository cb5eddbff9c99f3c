import Puppy.Cli.NameOrder
import Mathlib.Data.List.TakeWhile

/-!
# How names are split

`extract_parts` looks for the last dot, dash and plus of a name independently of
each other.  Each documented form of a name fixes where they are found, whatever
else the name holds, and with it the name part and the number.
-/

namespace Puppy.Cli

/-! ## The last occurrence -/

theorem strrchr_eq_none_iff {bytes : List UInt8} {char : UInt8} :
    strrchr bytes char = none ↔ char ∉ bytes := by
  induction bytes with
  | nil => simp [strrchr]
  | cons byte rest ih =>
      rw [strrchr, List.mem_cons, not_or, ← ih]
      cases strrchr rest char with
      | some i => simp
      | none =>
          simp only [ite_eq_right_iff, reduceCtorEq, imp_false, and_true]
          exact ne_comm

theorem strrchr_lt {bytes : List UInt8} {char : UInt8} {i : Nat}
    (found : strrchr bytes char = some i) : i < bytes.length :=
  (List.getElem?_eq_some_iff.mp (strrchr_eq_some found)).1

/-- The search goes through what is appended first. -/
theorem strrchr_append (before after : List UInt8) (char : UInt8) :
    strrchr (before ++ after) char =
      match strrchr after char with
      | some i => some (before.length + i)
      | none => strrchr before char := by
  induction before with
  | nil => cases found : strrchr after char <;> simp [strrchr, found]
  | cons byte rest ih =>
      rw [List.cons_append, strrchr, ih]
      cases strrchr after char with
      | some i =>
          simp only [List.length_cons]
          congr 1
          omega
      | none => rfl

/-- A character that does not come again is found where it is. -/
theorem strrchr_append_cons {after : List UInt8} {char : UInt8} (absent : char ∉ after)
    (before : List UInt8) : strrchr (before ++ char :: after) char = some before.length := by
  have here : strrchr (char :: after) char = some 0 := by
    rw [strrchr, strrchr_eq_none_iff.mpr absent]
    exact if_pos rfl
  rw [strrchr_append, here]
  rfl

/-- The dot behind another character and a middle part is found where it is. -/
theorem strrchr_dot {ext : List UInt8} (noDot : dotChar ∉ ext) (base middle : List UInt8)
    (char : UInt8) :
    strrchr (base ++ char :: (middle ++ dotChar :: ext)) dotChar =
      some (base.length + 1 + middle.length) := by
  have split : base ++ char :: (middle ++ dotChar :: ext) =
      (base ++ char :: middle) ++ dotChar :: ext := by
    rw [List.append_assoc, List.cons_append]
  rw [split, strrchr_append_cons noDot, List.length_append, List.length_cons, Nat.add_assoc,
    Nat.add_comm 1]

/-- In front of a position nothing is found that does not occur there. -/
theorem strrchr_before_eq_none {before : List UInt8} {char : UInt8} (absent : char ∉ before)
    (after : List UInt8) :
    (strrchr (before ++ after) char).filter (· < before.length) = none := by
  rw [strrchr_append]
  cases strrchr after char with
  | some i => simp [Option.filter]
  | none => rw [strrchr_eq_none_iff.mpr absent, Option.filter_none]

/-! ## The number -/

/-- A string of digits is the number `atoi` reads up to the dot. -/
theorem atoi_digits {digits : List UInt8} (nonempty : digits ≠ [])
    (each : ∀ digit ∈ digits, isdigit digit = true) (fits : decimal digits < 2 ^ 31)
    (ext : List UInt8) : atoi (digits ++ dotChar :: ext) = some (decimal digits : Int) := by
  obtain ⟨first, rest, rfl⟩ := List.exists_cons_of_ne_nil nonempty
  obtain ⟨notSpace, notDash⟩ := isdigit_not_sign (each first List.mem_cons_self)
  have notPlus : first ≠ plusChar := by
    rintro rfl
    exact absurd (each plusChar List.mem_cons_self) (by decide)
  have text : (first :: rest ++ dotChar :: ext).dropWhile isspace =
      first :: rest ++ dotChar :: ext := by
    rw [List.cons_append, List.dropWhile_cons_of_neg (by rw [notSpace]; decide)]
  have run : (first :: rest ++ dotChar :: ext).takeWhile isdigit = first :: rest := by
    rw [List.takeWhile_append_of_pos each, List.takeWhile_cons_of_neg (by decide),
      List.append_nil]
  rw [atoi, text, run, List.cons_append, List.head?_cons,
    if_neg (fun same => notDash (Option.some.inj same)),
    if_neg (fun same => notPlus (Option.some.inj same))]
  apply checked_eq_some
  omega

/-- With nothing but digits between a dash and the dot, their number is taken. -/
theorem numberBetween_digits {digits : List UInt8} (nonempty : digits ≠ [])
    (each : ∀ digit ∈ digits, isdigit digit = true) (fits : decimal digits < 2 ^ 31)
    (base ext : List UInt8) :
    numberBetween (base ++ dashChar :: (digits ++ dotChar :: ext)) base.length
        (base.length + 1 + digits.length) = some (decimal digits : Int) := by
  have behind : (base ++ dashChar :: (digits ++ dotChar :: ext)).drop (base.length + 1) =
      digits ++ dotChar :: ext := by
    rw [List.drop_length_add_append, List.drop_one, List.tail_cons]
  have between : ((base ++ dashChar :: (digits ++ dotChar :: ext)).take
      (base.length + 1 + digits.length)).drop (base.length + 1) = digits := by
    rw [List.drop_take, behind, Nat.add_sub_cancel_left, List.take_left]
  rw [numberBetween, between, behind, List.takeWhile_eq_self_iff.mpr each]
  simp only [if_true]
  exact atoi_digits nonempty each fits ext

/-! ## The documented forms -/

section Forms

variable {name : CString} {base ext : List UInt8}

/-- `foo-123.rec` -/
theorem extractParts_dash {digits : List UInt8}
    (form : name.bytes = base ++ dashChar :: (digits ++ dotChar :: ext))
    (noPlus : plusChar ∉ base) (nonempty : digits ≠ [])
    (each : ∀ digit ∈ digits, isdigit digit = true) (fits : decimal digits < 2 ^ 31)
    (noDot : dotChar ∉ ext) (noDash : dashChar ∉ ext) (noPlusBehind : plusChar ∉ ext) :
    extractParts name = { nameLen := base.length, number := some (decimal digits) } := by
  have notIn {char : UInt8} (other : isdigit char = false) : char ∉ digits := by
    intro member
    rw [each char member] at other
    cases other
  have dot : strrchr name.bytes dotChar = some (base.length + 1 + digits.length) := by
    rw [form, strrchr_dot noDot]
  have dash : strrchr name.bytes dashChar = some base.length := by
    rw [form]
    apply strrchr_append_cons
    rw [List.mem_append, List.mem_cons, not_or, not_or]
    exact ⟨notIn (by decide), by decide, noDash⟩
  have plus : strrchr name.bytes plusChar = none := by
    rw [strrchr_eq_none_iff, form]
    simp only [List.mem_append, List.mem_cons, not_or]
    exact ⟨noPlus, by decide, notIn (by decide), by decide, noPlusBehind⟩
  have inFront : base.length < base.length + 1 + digits.length := by omega
  have number := numberBetween_digits nonempty each fits base ext
  rw [← form] at number
  simp only [extractParts, dot, plus, dash, Option.filter_none, Option.filter_some,
    decide_eq_true inFront, if_true, number]

/-- `foo+1200-1300.rec` -/
theorem extractParts_plus {middle : List UInt8}
    (form : name.bytes = base ++ plusChar :: (middle ++ dotChar :: ext))
    (noPlus : plusChar ∉ middle) (noDot : dotChar ∉ ext) (noPlusBehind : plusChar ∉ ext) :
    extractParts name = { nameLen := base.length, number := some 0 } := by
  have dot : strrchr name.bytes dotChar = some (base.length + 1 + middle.length) := by
    rw [form, strrchr_dot noDot]
  have plus : strrchr name.bytes plusChar = some base.length := by
    rw [form]
    apply strrchr_append_cons
    rw [List.mem_append, List.mem_cons, not_or, not_or]
    exact ⟨noPlus, by decide, noPlusBehind⟩
  have inFront : base.length < base.length + 1 + middle.length := by omega
  simp only [extractParts, dot, plus, Option.filter_some, decide_eq_true inFront, if_true]

/-- `foo` -/
theorem extractParts_noDot (noDot : dotChar ∉ name.bytes) :
    extractParts name = { nameLen := name.length, number := some 0 } := by
  simp only [extractParts, strrchr_eq_none_iff.mpr noDot]

/-- `foo.rec` -/
theorem extractParts_plain (form : name.bytes = base ++ dotChar :: ext) (noDot : dotChar ∉ ext)
    (noPlus : plusChar ∉ base) (noDash : dashChar ∉ base) :
    extractParts name = { nameLen := base.length, number := some 0 } := by
  have dot : strrchr name.bytes dotChar = some base.length := by
    rw [form, strrchr_append_cons noDot]
  have plus := strrchr_before_eq_none noPlus (dotChar :: ext)
  have dash := strrchr_before_eq_none noDash (dotChar :: ext)
  rw [← form] at plus dash
  simp only [extractParts, dot, plus, dash]

end Forms

theorem extractParts_nameLen_le (name : CString) : (extractParts name).nameLen ≤ name.length := by
  rw [extractParts]
  split
  · exact Nat.le_refl _
  · rename_i dot atDot
    split
    · rename_i plus atPlus
      exact Nat.le_of_lt (strrchr_lt (Option.filter_eq_some_iff.mp atPlus).1)
    · split
      · rename_i dash atDash
        exact Nat.le_of_lt (strrchr_lt (Option.filter_eq_some_iff.mp atDash).1)
      · exact Nat.le_of_lt (strrchr_lt atDot)

/-- `extract_parts` splits every name of a documented form as documented. -/
theorem extractParts_documented (name : CString) :
    (∀ base digits ext, name.bytes = base ++ dashChar :: (digits ++ dotChar :: ext) →
      plusChar ∉ base → digits ≠ [] → (∀ digit ∈ digits, isdigit digit = true) →
      decimal digits < 2 ^ 31 → dotChar ∉ ext → dashChar ∉ ext → plusChar ∉ ext →
      extractParts name = { nameLen := base.length, number := some (decimal digits) }) ∧
    (∀ base middle ext, name.bytes = base ++ plusChar :: (middle ++ dotChar :: ext) →
      plusChar ∉ middle → dotChar ∉ ext → plusChar ∉ ext →
      extractParts name = { nameLen := base.length, number := some 0 }) ∧
    (dotChar ∉ name.bytes →
      extractParts name = { nameLen := name.length, number := some 0 }) ∧
    (∀ part ext, name.bytes = part ++ dotChar :: ext → dotChar ∉ ext →
      plusChar ∉ part → dashChar ∉ part →
      extractParts name = { nameLen := part.length, number := some 0 }) ∧
    (extractParts name).nameLen ≤ name.length := by
  refine ⟨?_, ?_, extractParts_noDot, ?_, extractParts_nameLen_le name⟩
  · intro base digits ext form noPlus nonempty each fits noDot noDash noPlusBehind
    exact extractParts_dash form noPlus nonempty each fits noDot noDash noPlusBehind
  · intro base middle ext form noPlus noDot noPlusBehind
    exact extractParts_plus form noPlus noDot noPlusBehind
  · intro part ext form noDot noPlus noDash
    exact extractParts_plain form noDot noPlus noDash

end Puppy.Cli
