import Puppy.Cli.Entry
import Puppy.Order.Comparator

/-!
# Sorting a listing

The comparison functions of `puppy-dir.c` and `sort_dir_entries`.  A name is
split at its last dot, dash and plus into a name part and a number.  Results are
`none` where C leaves the behaviour undefined: a number that `atoi` can not
represent and a signed subtraction that overflows.  Whether `char` is signed
depends on the target.
-/

namespace Puppy.Cli

open Sorting

/-! ## Characters and numbers -/

/-- The character `.` -/
def dotChar : UInt8 := 46

/-- The character `-` -/
def dashChar : UInt8 := 45

/-- The character `+` -/
def plusChar : UInt8 := 43

/-- Whether `char` is signed. -/
inductive CharKind where
  | signed
  | unsigned
  deriving DecidableEq, Repr

/-- `(int) *a` -/
def charValue : CharKind → UInt8 → Int
  | .signed, byte => Int.bmod byte.toNat (2 ^ 8)
  | .unsigned, byte => byte.toNat

def isdigit (byte : UInt8) : Bool := 48 ≤ byte ∧ byte ≤ 57

def isspace (byte : UInt8) : Bool := byte = 32 ∨ 9 ≤ byte ∧ byte ≤ 13

/-- The value of a signed expression of `bits` bits; `none` on overflow. -/
def checked (bits : Nat) (value : Int) : Option Int :=
  if -2 ^ (bits - 1) ≤ value ∧ value < 2 ^ (bits - 1) then some value else none

/-- Conversion of a `long` to `int`. -/
def longToInt (value : Int) : Int := Int.bmod value (2 ^ 32)

/-- The number written in decimal digits. -/
def decimal (digits : List UInt8) : Nat :=
  digits.foldl (fun value digit => 10 * value + (digit.toNat - 48)) 0

/-- `atoi`; `none` where the value can not be represented. -/
def atoi (string : List UInt8) : Option Int :=
  let text := string.dropWhile isspace
  if text.head? = some dashChar then
    checked 32 (-(decimal (text.tail.takeWhile isdigit) : Int))
  else if text.head? = some plusChar then
    checked 32 (decimal (text.tail.takeWhile isdigit))
  else checked 32 (decimal (text.takeWhile isdigit))

/-- `strrchr`, as the distance from the start of the string. -/
def strrchr : List UInt8 → UInt8 → Option Nat
  | [], _ => none
  | byte :: rest, char =>
      match strrchr rest char with
      | some i => some (i + 1)
      | none => if byte = char then some 0 else none

/-! ## Names -/

/-- What `extract_parts` stores. -/
structure Parts where
  nameLen : Nat
  number : Option Int

/-- The branch of `extract_parts` for a dash in front of the dot: the number
counts if nothing else is between the two. -/
def numberBetween (name : List UInt8) (dash dot : Nat) : Option Int :=
  let ptr := dash + 1 + (((name.take dot).drop (dash + 1)).takeWhile isdigit).length
  if ptr = dot then atoi (name.drop (dash + 1)) else some 0

def extractParts (aName : CString) : Parts :=
  match strrchr aName.bytes dotChar with
  | none => { nameLen := aName.length, number := some 0 }
  | some dot =>
      match (strrchr aName.bytes plusChar).filter (· < dot) with
      | some plus => { nameLen := plus, number := some 0 }
      | none =>
          match (strrchr aName.bytes dashChar).filter (· < dot) with
          | some dash => { nameLen := dash, number := numberBetween aName.bytes dash dot }
          | none => { nameLen := dot, number := some 0 }

/-- `strcmp_len`: strings are compared up to the shorter of the two lengths. -/
def strcmpLen (char : CharKind) : List UInt8 → Nat → List UInt8 → Nat → Int
  | x :: a, aLen + 1, y :: b, bLen + 1 =>
      let cmp := charValue char x - charValue char y
      if cmp = 0 then strcmpLen char a aLen b bLen else cmp
  | _, _, _, _ => 0

/-! ## Comparison functions -/

/-- `enum compare_by_name_and` -/
inductive CompareByNameAnd where
  | number
  | time
  deriving DecidableEq, Repr

/-- The end of `compare_by_name_and`, for names that compare equal. -/
def compareSecondary (aSecondary : CompareByNameAnd) : Comparator Entry := fun a b =>
  match aSecondary with
  | .number =>
      (extractParts a.name).number.bind fun aNum =>
        (extractParts b.name).number.bind fun bNum => checked 32 (aNum - bNum)
  | .time => (checked 64 (a.time - b.time)).map longToInt

def compareByNameAnd (char : CharKind) (aSecondary : CompareByNameAnd) : Comparator Entry :=
  fun a b =>
    let nameCmp :=
      strcmpLen char a.name.bytes (extractParts a.name).nameLen
        b.name.bytes (extractParts b.name).nameLen
    if nameCmp ≠ 0 then some nameCmp else compareSecondary aSecondary a b

def compareByName (char : CharKind) : Comparator Entry := compareByNameAnd char .number

def compareByNameTime (char : CharKind) : Comparator Entry := compareByNameAnd char .time

/-- The difference of two 64-bit fields as an `int`. -/
def compareByField (field : Entry → Int) : Comparator Entry := fun a b =>
  (checked 64 (field a - field b)).map longToInt

def compareByTime : Comparator Entry := compareByField Entry.time

def compareBySize : Comparator Entry := compareByField Entry.size

/-! ## sort_dir_entries -/

/-- `enum sort_field` -/
inductive SortField where
  | unsorted
  | byName
  | byTime
  | bySize
  | byNameTime
  deriving DecidableEq, Repr

/-- `comparator` behind the `switch` -/
def SortField.comparator (char : CharKind) : SortField → Option (Comparator Entry)
  | .byName => some (compareByName char)
  | .byTime => some compareByTime
  | .bySize => some compareBySize
  | .byNameTime => some (compareByNameTime char)
  | .unsorted => none

/-- `sort_dir_entries`, with the library's `qsort`. -/
def sortDirEntries (char : CharKind) (qsort : Comparator Entry → List Entry → List Entry)
    (aEntries : List Entry) (aField : SortField) : List Entry :=
  match aField.comparator char with
  | some comparator => qsort comparator aEntries
  | none => aEntries

end Puppy.Cli
