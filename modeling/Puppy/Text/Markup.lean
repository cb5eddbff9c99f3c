import Mathlib.Data.List.TakeWhile

/-!
# Reading markup

A reader for texts of elements with quoted attributes, over byte lists: a
literal that must come next, an attribute value up to the closing quote, and
items one behind the other until something ends them.  Each reads back what was
written for it, whatever follows.
-/

namespace Markup

universe u v

/-- The character `"` -/
def quote : UInt8 := 0x22

/-- A text that must come next, and what is behind it. -/
def expect : List UInt8 → List UInt8 → Option (List UInt8)
  | [], text => some text
  | _ :: _, [] => none
  | byte :: literal, head :: text => if head = byte then expect literal text else none

theorem expect_append (literal rest : List UInt8) :
    expect literal (literal ++ rest) = some rest := by
  induction literal with
  | nil => rfl
  | cons byte literal ih => rw [List.cons_append, expect, if_pos rfl, ih]

/-- Texts that part are told apart. -/
theorem expect_of_parts (front : List UInt8) {first second : UInt8} (differ : first ≠ second)
    (literal text : List UInt8) :
    expect (front ++ first :: literal) (front ++ second :: text) = none := by
  induction front with
  | nil => exact if_neg (Ne.symm differ)
  | cons byte front ih => rw [List.cons_append, List.cons_append, expect, if_pos rfl, ih]

/-- The value of an attribute behind its key, which ends with the opening
quote. -/
def valued (key text : List UInt8) : Option (List UInt8 × List UInt8) :=
  (expect key text).bind fun text =>
    let value := text.takeWhile (· ≠ quote)
    (expect [quote] (text.drop value.length)).map fun rest => (value, rest)

theorem valued_append (key : List UInt8) {value : List UInt8} (inside : quote ∉ value)
    (rest : List UInt8) :
    valued key (key ++ (value ++ quote :: rest)) = some (value, rest) := by
  have each : ∀ byte ∈ value, decide (byte ≠ quote) = true := by
    intro byte member
    rw [decide_eq_true_iff]
    rintro rfl
    exact inside member
  have read : (value ++ quote :: rest).takeWhile (· ≠ quote) = value := by
    rw [List.takeWhile_append_of_pos each, List.takeWhile_cons_of_neg (by simp), List.append_nil]
  rw [valued, expect_append, Option.bind_some]
  simp only [read, List.drop_left]
  rfl

variable {α : Type u} {β : Type v}

/-- Items one behind the other, until the text is ended. -/
def many (ended : List UInt8 → Option (List UInt8))
    (item : List UInt8 → Option (α × List UInt8)) :
    Nat → List UInt8 → Option (List α × List UInt8)
  | 0, _ => none
  | fuel + 1, text =>
      match ended text with
      | some rest => some ([], rest)
      | none =>
          (item text).bind fun first =>
            (many ended item fuel first.2).map fun others => (first.1 :: others.1, others.2)

/-- What was written item by item is read back item by item. -/
theorem many_flatMap {ended : List UInt8 → Option (List UInt8)}
    {item : List UInt8 → Option (α × List UInt8)} {write : β → List UInt8} {value : β → α}
    {items : List β}
    (reads : ∀ one ∈ items, ∀ rest, item (write one ++ rest) = some (value one, rest))
    (goes : ∀ one ∈ items, ∀ rest, ended (write one ++ rest) = none)
    {last rest : List UInt8} (stops : ended last = some rest) {fuel : Nat}
    (enough : items.length < fuel) :
    many ended item fuel (items.flatMap write ++ last) = some (items.map value, rest) := by
  induction items generalizing fuel with
  | nil =>
      obtain ⟨fuel, rfl⟩ := Nat.exists_eq_succ_of_ne_zero (Nat.ne_zero_of_lt enough)
      rw [List.flatMap_nil, List.nil_append, many, stops]
      rfl
  | cons one items ih =>
      obtain ⟨fuel, rfl⟩ := Nat.exists_eq_succ_of_ne_zero (Nat.ne_zero_of_lt enough)
      have others := ih (fun other member => reads other (List.mem_cons_of_mem _ member))
        (fun other member => goes other (List.mem_cons_of_mem _ member))
        (Nat.lt_of_succ_lt_succ enough)
      rw [List.flatMap_cons, List.append_assoc, many, goes one List.mem_cons_self]
      simp only [reads one List.mem_cons_self, Option.bind_some, others, Option.map_some,
        List.map_cons]

/-- As many items as the text has room for. -/
def manyOf (ended : List UInt8 → Option (List UInt8))
    (item : List UInt8 → Option (α × List UInt8)) (text : List UInt8) :
    Option (List α × List UInt8) :=
  many ended item (text.length + 1) text

theorem length_le_flatMap {write : β → List UInt8} {items : List β}
    (nonempty : ∀ one ∈ items, write one ≠ []) : items.length ≤ (items.flatMap write).length := by
  induction items with
  | nil => exact Nat.le_refl 0
  | cons one items ih =>
      have others := ih fun other member => nonempty other (List.mem_cons_of_mem _ member)
      have first := List.length_pos_iff.mpr (nonempty one List.mem_cons_self)
      rw [List.flatMap_cons, List.length_append, List.length_cons]
      omega

theorem manyOf_flatMap {ended : List UInt8 → Option (List UInt8)}
    {item : List UInt8 → Option (α × List UInt8)} {write : β → List UInt8} {value : β → α}
    {items : List β} (nonempty : ∀ one ∈ items, write one ≠ [])
    (reads : ∀ one ∈ items, ∀ rest, item (write one ++ rest) = some (value one, rest))
    (goes : ∀ one ∈ items, ∀ rest, ended (write one ++ rest) = none)
    {last rest : List UInt8} (stops : ended last = some rest) :
    manyOf ended item (items.flatMap write ++ last) = some (items.map value, rest) := by
  apply many_flatMap reads goes stops
  have short := length_le_flatMap nonempty
  rw [List.length_append]
  omega

/-- The end of the text. -/
def atEnd (text : List UInt8) : Option (List UInt8) := if text = [] then some [] else none

theorem atEnd_append {text : List UInt8} (nonempty : text ≠ []) (rest : List UInt8) :
    atEnd (text ++ rest) = none :=
  if_neg (List.append_ne_nil_of_left_ne_nil nonempty rest)

end Markup
