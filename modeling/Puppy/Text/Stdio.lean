import Mathlib.Data.List.TakeWhile

/-!
# Reading text with the C library

`fgets`, `sscanf` and the field `%03d` of `sprintf`, over byte lists.  A format
of `sscanf` is a list of directives.  Which texts a format is meant for is a
relation of its own: a text spells a format with certain values, and scanning
it stores them.
-/

namespace Stdio

/-! ## Characters -/

def newline : UInt8 := 10

/-- `isspace` -/
def isSpace (byte : UInt8) : Bool := byte = 32 ∨ 9 ≤ byte ∧ byte ≤ 13

/-- What numbers are written in. -/
inductive Radix where
  | decimal
  | hexadecimal
  deriving DecidableEq

def Radix.base : Radix → Nat
  | decimal => 10
  | hexadecimal => 16

/-- The value of a digit, and 16 for other characters. -/
def digitValue (byte : UInt8) : Nat :=
  if 0x30 ≤ byte ∧ byte ≤ 0x39 then byte.toNat - 0x30
  else if 0x61 ≤ byte ∧ byte ≤ 0x66 then byte.toNat - 0x61 + 10
  else if 0x41 ≤ byte ∧ byte ≤ 0x46 then byte.toNat - 0x41 + 10
  else 16

def isDigit (radix : Radix) (byte : UInt8) : Bool := digitValue byte < radix.base

/-- The number some digits stand for. -/
def number (radix : Radix) (digits : List UInt8) : Nat :=
  digits.foldl (fun value digit => radix.base * value + digitValue digit) 0

/-! ## `fgets` -/

/-- Everything up to the first newline, including it. -/
def upToNewline : List UInt8 → List UInt8
  | [] => []
  | byte :: rest => if byte = newline then [byte] else byte :: upToNewline rest

/-- `fgets` into a buffer of `size` bytes: what it reads and what it leaves, or
`none` at the end of the stream. -/
def fgets (size : Nat) (stream : List UInt8) : Option (List UInt8 × List UInt8) :=
  if stream = [] then none
  else
    let line := upToNewline (stream.take (size - 1))
    some (line, stream.drop line.length)

theorem upToNewline_line {line : List UInt8} (inside : newline ∉ line) (rest : List UInt8) :
    upToNewline (line ++ newline :: rest) = line ++ [newline] := by
  induction line with
  | nil => exact if_pos rfl
  | cons byte line ih =>
      rw [List.mem_cons, not_or] at inside
      rw [List.cons_append, upToNewline, if_neg (Ne.symm inside.1), ih inside.2, List.cons_append]

/-- A line that fits the buffer is read whole. -/
theorem fgets_line {line : List UInt8} (inside : newline ∉ line) {size : Nat}
    (fits : line.length + 1 < size) (rest : List UInt8) :
    fgets size (line ++ newline :: rest) = some (line ++ [newline], rest) := by
  have nonempty : line ++ newline :: rest ≠ [] := by simp
  have front : (line ++ newline :: rest).take (size - 1) =
      line ++ newline :: rest.take (size - 1 - (line.length + 1)) := by
    rw [List.take_append, List.take_of_length_le (by omega),
      show size - 1 - line.length = size - 1 - (line.length + 1) + 1 by omega, List.take_succ_cons]
  have behind : (line ++ newline :: rest).drop (line ++ [newline]).length = rest := by
    have split : line ++ newline :: rest = (line ++ [newline]) ++ rest := by simp
    rw [split, List.drop_left]
  rw [fgets, if_neg nonempty]
  simp only [front, upToNewline_line inside, behind]

/-- `fgets` makes progress. -/
theorem fgets_shorter {size : Nat} (room : 1 < size) {stream line rest : List UInt8}
    (read : fgets size stream = some (line, rest)) : rest.length < stream.length := by
  rw [fgets] at read
  split at read
  · cases read
  · rename_i nonempty
    cases read
    obtain ⟨byte, more, rfl⟩ := List.exists_cons_of_ne_nil nonempty
    obtain ⟨count, same⟩ : ∃ count, size - 1 = count + 1 := ⟨size - 2, by omega⟩
    have some : 0 < (upToNewline ((byte :: more).take (size - 1))).length := by
      rw [same, List.take_succ_cons, upToNewline]
      split
      · exact Nat.one_pos
      · exact Nat.succ_pos _
    rw [List.length_drop]
    simp only [List.length_cons]
    omega

/-! ## `sscanf` -/

/-- A directive of a format. -/
inductive Directive where
  /-- White space: any amount of it, also none. -/
  | space
  /-- Any other character. -/
  | literal (byte : UInt8)
  /-- `%d` or `%x`, or `%*d` whose value is not stored. -/
  | integer (radix : Radix) (stored : Bool)
  deriving DecidableEq

/-- The characters of a format that stand for themselves. -/
def literals (text : String) : List Directive :=
  text.toList.map fun char => .literal (UInt8.ofNat char.toNat)

/-- What `sscanf` returns, and the values it has stored. -/
structure Scanned where
  ret : Int
  values : List Int

/-- A matching failure, or the end of the format: the number of values. -/
def Scanned.stop (values : List Int) : Scanned := { ret := values.length, values }

@[simp]
theorem Scanned.values_stop (values : List Int) : (Scanned.stop values).values = values := rfl

@[simp]
theorem Scanned.ret_stop_eq_zero_iff {values : List Int} :
    (Scanned.stop values).ret = 0 ↔ values = [] := by
  rw [Scanned.stop, Int.natCast_eq_zero, List.length_eq_zero_iff]

/-- An input failure: `EOF` unless something has been stored. -/
def Scanned.inputFailure (values : List Int) : Scanned :=
  { ret := if values = [] then -1 else values.length, values }

/-- The sign of a number: whether it is negative. -/
def takeSign : List UInt8 → Bool × List UInt8
  | [] => (false, [])
  | byte :: rest =>
      if byte = 0x2D then (true, rest)
      else if byte = 0x2B then (false, rest)
      else (false, byte :: rest)

/-- The `0x` a hexadecimal number may begin with. -/
def skipRadix (radix : Radix) : List UInt8 → List UInt8
  | first :: second :: rest =>
      if radix = .hexadecimal ∧ first = 0x30 ∧ (second = 0x78 ∨ second = 0x58) then rest
      else first :: second :: rest
  | short => short

/-- A number, which has at least one digit, and the text behind it. -/
def takeInteger (radix : Radix) (text : List UInt8) : Option (Int × List UInt8) :=
  let (negative, text) := takeSign text
  let text := skipRadix radix text
  let digits := text.takeWhile (isDigit radix)
  if digits = [] then none
  else
    let value : Int := number radix digits
    some (if negative then -value else value, text.dropWhile (isDigit radix))

/-- `sscanf` from some directive on, with the values stored so far. -/
def scanFrom : List Directive → List UInt8 → List Int → Scanned
  | [], _, values => .stop values
  | .space :: format, text, values => scanFrom format (text.dropWhile isSpace) values
  | .literal _ :: _, [], values => .inputFailure values
  | .literal byte :: format, head :: text, values =>
      if head = byte then scanFrom format text values else .stop values
  | .integer radix stored :: format, text, values =>
      let text := text.dropWhile isSpace
      if text = [] then .inputFailure values
      else
        match takeInteger radix text with
        | none => .stop values
        | some (value, text) => scanFrom format text (if stored then values ++ [value] else values)

/-- `sscanf` -/
def sscanf (format : List Directive) (text : List UInt8) : Scanned := scanFrom format text []

/-! ## Texts for a format -/

/-- The text can not be taken for more digits of a number before it. -/
def Ends (radix : Radix) (text : List UInt8) : Prop :=
  ∀ byte ∈ text.head?, isDigit radix byte = false ∧
    (radix = .hexadecimal → byte ≠ 0x78 ∧ byte ≠ 0x58)

/-- The text spells the format with certain values: blanks where there is white
space in the format, and unsigned numbers for its integers, possibly behind
blanks.  Anything may follow. -/
inductive Spells : List Directive → List UInt8 → List Int → Prop
  | done (rest : List UInt8) : Spells [] rest []
  | space {format : List Directive} {text : List UInt8} {values : List Int}
      (blanks : List UInt8) (blank : ∀ byte ∈ blanks, isSpace byte = true)
      (ends : ∀ byte ∈ text.head?, isSpace byte = false) (next : Spells format text values) :
      Spells (.space :: format) (blanks ++ text) values
  | literal {format : List Directive} {text : List UInt8} {values : List Int} (byte : UInt8)
      (next : Spells format text values) :
      Spells (.literal byte :: format) (byte :: text) values
  | integer {format : List Directive} {text : List UInt8} {values : List Int} {radix : Radix}
      (stored : Bool) (blanks digits : List UInt8) (blank : ∀ byte ∈ blanks, isSpace byte = true)
      (nonempty : digits ≠ []) (each : ∀ byte ∈ digits, isDigit radix byte = true)
      (ends : Ends radix text) (next : Spells format text values) :
      Spells (.integer radix stored :: format) (blanks ++ (digits ++ text))
        (if stored then number radix digits :: values else values)

/-- The characters of a text. -/
def word (text : String) : List UInt8 := text.toList.map fun char => UInt8.ofNat char.toNat

theorem Spells.literals {format : List Directive} {rest : List UInt8} {values : List Int}
    (text : String) (next : Spells format rest values) :
    Spells (Stdio.literals text ++ format) (word text ++ rest) values := by
  rw [Stdio.literals, word]
  induction text.toList with
  | nil => exact next
  | cons char text ih => exact .literal _ ih

/-- Blanks and a key that does not begin with one. -/
theorem Spells.key {format : List Directive} {rest : List UInt8} {values : List Int}
    (blanks key : String) (blank : (word blanks).all isSpace = true)
    (begins : (word key).head?.any (fun byte => !isSpace byte) = true)
    (next : Spells format rest values) :
    Spells (.space :: (Stdio.literals key ++ format)) (word blanks ++ (word key ++ rest))
      values := by
  apply Spells.space _ (List.all_eq_true.mp blank)
  · cases spelled : word key with
    | nil =>
        rw [spelled] at begins
        cases begins
    | cons first others =>
        rw [spelled] at begins
        rintro byte ⟨⟩
        simpa using begins
  · exact next.literals key

/-- A number as it is printed, possibly behind blanks. -/
structure Numeral (radix : Radix) where
  blanks : List UInt8
  digits : List UInt8
  blank : ∀ byte ∈ blanks, isSpace byte = true
  nonempty : digits ≠ []
  each : ∀ byte ∈ digits, isDigit radix byte = true

namespace Numeral

variable {radix : Radix}

def text (numeral : Numeral radix) : List UInt8 := numeral.blanks ++ numeral.digits

def value (numeral : Numeral radix) : Nat := number radix numeral.digits

theorem spells (numeral : Numeral radix) (stored : Bool) {format : List Directive}
    {rest : List UInt8} {values : List Int} (ends : Ends radix rest)
    (next : Spells format rest values) :
    Spells (.integer radix stored :: format) (numeral.text ++ rest)
      (if stored then (numeral.value : Int) :: values else values) := by
  rw [text, List.append_assoc]
  exact .integer stored _ _ numeral.blank numeral.nonempty numeral.each ends next

end Numeral

theorem dropWhile_blanks {blanks text : List UInt8} (blank : ∀ byte ∈ blanks, isSpace byte = true)
    (ends : ∀ byte ∈ text.head?, isSpace byte = false) :
    (blanks ++ text).dropWhile isSpace = text := by
  rw [List.dropWhile_append_of_pos blank]
  cases text with
  | nil => rfl
  | cons byte rest =>
      have other := ends byte rfl
      rw [List.dropWhile_cons_of_neg (by rw [other]; decide)]

/-- Digits come behind blanks and signs in the character set. -/
theorem isDigit_le {radix : Radix} {byte : UInt8} (digit : isDigit radix byte = true) :
    0x30 ≤ byte.toNat := by
  have small : digitValue byte < 16 := by
    have bound : radix.base ≤ 16 := by cases radix <;> decide
    exact Nat.lt_of_lt_of_le (of_decide_eq_true digit) bound
  by_contra below
  have value : digitValue byte = 16 := by
    simp only [digitValue, UInt8.le_iff_toNat_le, UInt8.reduceToNat]
    rw [if_neg (by omega), if_neg (by omega), if_neg (by omega)]
  omega

theorem isSpace_eq_false_of_isDigit {radix : Radix} {byte : UInt8}
    (digit : isDigit radix byte = true) : isSpace byte = false := by
  have least := isDigit_le digit
  simp only [isSpace, Bool.decide_or, Bool.or_eq_false_iff, decide_eq_false_iff_not,
    UInt8.le_iff_toNat_le, ← UInt8.toNat_inj, UInt8.reduceToNat]
  omega

/-- A number without a sign. -/
theorem takeSign_of_isDigit {radix : Radix} {byte : UInt8} (digit : isDigit radix byte = true)
    (rest : List UInt8) : takeSign (byte :: rest) = (false, byte :: rest) := by
  have least := isDigit_le digit
  have notMinus : byte ≠ 0x2D := by
    rintro rfl
    exact absurd least (by decide)
  have notPlus : byte ≠ 0x2B := by
    rintro rfl
    exact absurd least (by decide)
  rw [takeSign, if_neg notMinus, if_neg notPlus]

/-- Digits do not begin with `0x`, also together with the text behind them. -/
theorem skipRadix_digits {radix : Radix} {digits text : List UInt8} (nonempty : digits ≠ [])
    (each : ∀ byte ∈ digits, isDigit radix byte = true) (ends : Ends radix text) :
    skipRadix radix (digits ++ text) = digits ++ text := by
  have plain {first second : UInt8} {rest : List UInt8}
      (other : radix = .hexadecimal → second ≠ 0x78 ∧ second ≠ 0x58) :
      skipRadix radix (first :: second :: rest) = first :: second :: rest := by
    rw [skipRadix, if_neg]
    rintro ⟨hexadecimal, -, cross⟩
    exact cross.elim (other hexadecimal).1 (other hexadecimal).2
  obtain ⟨first, rest, rfl⟩ := List.exists_cons_of_ne_nil nonempty
  cases rest with
  | nil =>
      cases text with
      | nil => rfl
      | cons second text => exact plain (ends second rfl).2
  | cons second rest =>
      apply plain
      intro _
      have digit := each second (by simp)
      constructor
      · rintro rfl
        cases radix <;> exact absurd digit (by decide)
      · rintro rfl
        cases radix <;> exact absurd digit (by decide)

theorem takeInteger_digits {radix : Radix} {digits text : List UInt8} (nonempty : digits ≠ [])
    (each : ∀ byte ∈ digits, isDigit radix byte = true) (ends : Ends radix text) :
    takeInteger radix (digits ++ text) = some ((number radix digits : Int), text) := by
  have stops : text.takeWhile (isDigit radix) = [] ∧ text.dropWhile (isDigit radix) = text := by
    cases text with
    | nil => exact ⟨rfl, rfl⟩
    | cons byte rest =>
        have other : ¬ isDigit radix byte = true := by
          rw [(ends byte rfl).1]
          decide
        exact ⟨List.takeWhile_cons_of_neg other, List.dropWhile_cons_of_neg other⟩
  have sign : takeSign (digits ++ text) = (false, digits ++ text) := by
    obtain ⟨first, rest, rfl⟩ := List.exists_cons_of_ne_nil nonempty
    exact takeSign_of_isDigit (each first List.mem_cons_self) _
  rw [takeInteger, sign]
  simp only [skipRadix_digits nonempty each ends, List.takeWhile_append_of_pos each,
    List.dropWhile_append_of_pos each, stops, List.append_nil, if_neg nonempty,
    Bool.false_eq_true, if_false]

/-- Scanning a text for a format stores its values. -/
theorem scanFrom_of_spells {format : List Directive} {text : List UInt8} {values : List Int}
    (spells : Spells format text values) (before : List Int) :
    scanFrom format text before = .stop (before ++ values) := by
  induction spells generalizing before with
  | done rest => rw [List.append_nil, scanFrom]
  | space blanks blank ends next ih => rw [scanFrom, dropWhile_blanks blank ends, ih]
  | literal byte next ih => rw [scanFrom, if_pos rfl, ih]
  | @integer format text values radix stored blanks digits blank nonempty each ends next ih =>
      have first : ∀ byte ∈ (digits ++ text).head?, isSpace byte = false := by
        obtain ⟨digit, rest, rfl⟩ := List.exists_cons_of_ne_nil nonempty
        rintro byte ⟨⟩
        exact isSpace_eq_false_of_isDigit (each digit List.mem_cons_self)
      have some : digits ++ text ≠ [] := by
        rw [Ne, List.append_eq_nil_iff, not_and_or]
        exact Or.inl nonempty
      rw [scanFrom]
      simp only [dropWhile_blanks blank first, if_neg some, takeInteger_digits nonempty each ends]
      rw [ih]
      cases stored with
      | false => rfl
      | true => simp

/-- Scanning a text for a format stores its values. -/
theorem sscanf_of_spells {format : List Directive} {text : List UInt8} {values : List Int}
    (spells : Spells format text values) : sscanf format text = .stop values :=
  scanFrom_of_spells spells []

/-- Two characters that differ from the first two of a format are not scanned. -/
theorem sscanf_of_ne {first second : UInt8} {format : List Directive} {line : List UInt8}
    (ends : first ≠ newline ∧ second ≠ newline) (other : ¬ [first, second] <+: line) :
    sscanf (.literal first :: .literal second :: format) (line ++ [newline]) = .stop [] := by
  rw [sscanf]
  rcases line with _ | ⟨one, line⟩
  · rw [List.nil_append, scanFrom, if_neg (Ne.symm ends.1)]
  · rw [List.cons_append, scanFrom]
    split
    · rename_i same
      subst same
      rcases line with _ | ⟨two, line⟩
      · rw [List.nil_append, scanFrom, if_neg (Ne.symm ends.2)]
      · rw [List.cons_append, scanFrom, if_neg]
        rintro rfl
        exact other ⟨line, rfl⟩
    · rfl

/-! ## `sprintf` -/

/-- The decimal digits of a number. -/
def decimalDigits (n : Nat) : List UInt8 :=
  (Nat.toDigits 10 n).map fun char => UInt8.ofNat char.toNat

/-- The field `%0*d` for a width and a value. -/
def zeroPadded (width : Nat) (value : Int) : List UInt8 :=
  let sign : List UInt8 := if value < 0 then [0x2D] else []
  let digits := decimalDigits value.natAbs
  sign ++ List.replicate (width - sign.length - digits.length) 0x30 ++ digits

/-- The digit for a value below ten. -/
def digitByte (digit : Nat) : UInt8 := UInt8.ofNat (0x30 + digit)

/-- The three digits of a number below a thousand. -/
def threeDigits (n : Nat) : List UInt8 :=
  [digitByte (n / 100), digitByte (n / 10 % 10), digitByte (n % 10)]

theorem digitByte_eq {digit : Nat} (small : digit < 10) :
    UInt8.ofNat digit.digitChar.toNat = digitByte digit := by
  have each : ∀ digit : Fin 10, UInt8.ofNat digit.val.digitChar.toNat = digitByte digit.val := by
    decide
  exact each ⟨digit, small⟩

theorem decimalDigits_of_lt {n : Nat} (small : n < 10) : decimalDigits n = [digitByte n] := by
  rw [decimalDigits, Nat.toDigits_of_lt_base small, List.map_singleton, digitByte_eq small]

theorem decimalDigits_of_le {n : Nat} (large : 10 ≤ n) :
    decimalDigits n = decimalDigits (n / 10) ++ [digitByte (n % 10)] := by
  rw [decimalDigits, Nat.toDigits_of_base_le (by decide) large, List.map_append,
    List.map_singleton, digitByte_eq (Nat.mod_lt _ (by decide)), decimalDigits]

/-- `%03d` shows a number below a thousand with three digits. -/
theorem zeroPadded_three {n : Nat} (small : n < 1000) : zeroPadded 3 n = threeDigits n := by
  have natAbs : (n : Int).natAbs = n := rfl
  have sign : ¬ (n : Int) < 0 := by omega
  rw [zeroPadded, if_neg sign, natAbs]
  by_cases one : n < 10
  · rw [decimalDigits_of_lt one, threeDigits, show n / 100 = 0 by omega,
      show n / 10 % 10 = 0 by omega, Nat.mod_eq_of_lt one]
    rfl
  · rw [decimalDigits_of_le (Nat.not_lt.mp one)]
    by_cases two : n < 100
    · rw [decimalDigits_of_lt (by omega), threeDigits, show n / 100 = 0 by omega,
        show n / 10 % 10 = n / 10 by omega]
      rfl
    · rw [decimalDigits_of_le (by omega), decimalDigits_of_lt (by omega), threeDigits,
        show n / 10 / 10 = n / 100 by omega]
      rfl

end Stdio
