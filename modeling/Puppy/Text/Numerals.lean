import Puppy.Text.Stdio

/-!
# Printed numbers

What `%llu`, `%d` and `%0*d` print of a number is read back by `sscanf`, with
leading zeros and with a sign.
-/

namespace Stdio

theorem digitByte_spec {digit : Nat} (small : digit < 10) :
    isDigit .decimal (digitByte digit) = true ∧ digitValue (digitByte digit) = digit := by
  have each : ∀ digit : Fin 10, isDigit .decimal (digitByte digit.val) = true ∧
      digitValue (digitByte digit.val) = digit.val := by
    decide
  exact each ⟨digit, small⟩

theorem number_concat (radix : Radix) (digits : List UInt8) (digit : UInt8) :
    number radix (digits ++ [digit]) = radix.base * number radix digits + digitValue digit := by
  rw [number, List.foldl_append]
  rfl

/-- The digits of a number, without a leading zero. -/
theorem decimalDigits_spec (n : Nat) :
    decimalDigits n ≠ [] ∧ (∀ byte ∈ decimalDigits n, isDigit .decimal byte = true) ∧
      number .decimal (decimalDigits n) = n := by
  induction n using Nat.strongRecOn with
  | ind n ih =>
      rcases Nat.lt_or_ge n 10 with small | large
      · obtain ⟨digit, value⟩ := digitByte_spec small
        rw [decimalDigits_of_lt small]
        refine ⟨List.cons_ne_nil _ _, ?_, ?_⟩
        · intro byte member
          rw [List.mem_singleton.mp member]
          exact digit
        · have one : number .decimal [digitByte n] = 10 * 0 + digitValue (digitByte n) := rfl
          rw [one, value]
          omega
      · obtain ⟨_, digits, value⟩ := ih (n / 10) (by omega)
        obtain ⟨last, lastValue⟩ := digitByte_spec (Nat.mod_lt n (by decide : 0 < 10))
        rw [decimalDigits_of_le large]
        refine ⟨List.append_ne_nil_of_right_ne_nil _ (List.cons_ne_nil _ _), ?_, ?_⟩
        · intro byte member
          rw [List.mem_append, List.mem_singleton] at member
          rcases member with front | rfl
          · exact digits byte front
          · exact last
        · rw [number_concat, value, lastValue, Radix.base]
          omega

/-- Leading zeros do not count. -/
theorem number_replicate_zero (count : Nat) (digits : List UInt8) :
    number .decimal (List.replicate count 0x30 ++ digits) = number .decimal digits := by
  induction count with
  | zero => rfl
  | succ count ih =>
      have first : number .decimal (List.replicate (count + 1) 0x30 ++ digits) =
          number .decimal (List.replicate count 0x30 ++ digits) := by
        rw [List.replicate_succ, List.cons_append]
        rfl
      rw [first, ih]

/-- A printed number: a sign and digits. -/
theorem zeroPadded_spec (width : Nat) (value : Int) :
    ∃ digits, digits ≠ [] ∧ (∀ byte ∈ digits, isDigit .decimal byte = true) ∧
      number .decimal digits = value.natAbs ∧
      zeroPadded width value = (if value < 0 then [0x2D] else []) ++ digits := by
  obtain ⟨nonempty, each, number⟩ := decimalDigits_spec value.natAbs
  refine ⟨List.replicate (width - (if value < 0 then [0x2D] else [] : List UInt8).length -
      (decimalDigits value.natAbs).length) 0x30 ++ decimalDigits value.natAbs, ?_, ?_, ?_, ?_⟩
  · exact List.append_ne_nil_of_right_ne_nil _ nonempty
  · intro byte member
    rw [List.mem_append] at member
    rcases member with zero | digit
    · rw [List.eq_of_mem_replicate zero]
      rfl
    · exact each byte digit
  · rw [number_replicate_zero, number]
  · rw [zeroPadded]
    exact List.append_assoc _ _ _

/-- A printed number is read back, whatever its width and its sign. -/
theorem takeInteger_zeroPadded (width : Nat) (value : Int) {rest : List UInt8}
    (ends : Ends .decimal rest) :
    takeInteger .decimal (zeroPadded width value ++ rest) = some (value, rest) := by
  obtain ⟨digits, nonempty, each, number, shown⟩ := zeroPadded_spec width value
  have read := takeInteger_digits nonempty each ends
  have plain : takeSign (digits ++ rest) = (false, digits ++ rest) := by
    obtain ⟨first, others, rfl⟩ := List.exists_cons_of_ne_nil nonempty
    exact takeSign_of_isDigit (each first List.mem_cons_self) _
  rw [number] at read
  rw [shown]
  by_cases negative : value < 0
  · -- the sign is taken off, and what is behind it is read as before
    have minus : takeSign (0x2D :: (digits ++ rest)) = (true, digits ++ rest) := by
      rw [takeSign, if_pos rfl]
    rw [takeInteger, plain] at read
    rw [if_pos negative, List.singleton_append, List.cons_append, takeInteger, minus]
    simp only [Bool.false_eq_true, if_false, if_true] at read ⊢
    split at read
    · cases read
    · rename_i some
      obtain ⟨magnitude, left⟩ := Prod.mk.inj (Option.some.inj read)
      rw [if_neg some, magnitude, left]
      congr 2
      omega
  · rw [if_neg negative, List.nil_append, read]
    congr 2
    omega

/-- No blank comes in front of a printed number. -/
theorem isSpace_zeroPadded (width : Nat) (value : Int) (rest : List UInt8) :
    ∀ byte ∈ (zeroPadded width value ++ rest).head?, isSpace byte = false := by
  obtain ⟨digits, nonempty, each, _, shown⟩ := zeroPadded_spec width value
  obtain ⟨first, others, rfl⟩ := List.exists_cons_of_ne_nil nonempty
  rw [shown]
  split
  · rintro byte ⟨⟩
    rfl
  · rintro byte ⟨⟩
    exact isSpace_eq_false_of_isDigit (each first List.mem_cons_self)

/-- `sscanf` stores a printed number. -/
theorem scanFrom_zeroPadded (width : Nat) (value : Int) {format : List Directive}
    {rest : List UInt8} (ends : Ends .decimal rest) (values : List Int) :
    scanFrom (.integer .decimal true :: format) (zeroPadded width value ++ rest) values =
      scanFrom format rest (values ++ [value]) := by
  have read := takeInteger_zeroPadded width value ends
  have begins : (zeroPadded width value ++ rest).dropWhile isSpace =
      zeroPadded width value ++ rest :=
    @dropWhile_blanks [] _ (List.forall_mem_nil _) (isSpace_zeroPadded width value rest)
  have some : zeroPadded width value ++ rest ≠ [] := by
    intro empty
    rw [empty] at read
    cases read
  rw [scanFrom]
  simp only [begins, if_neg some, read, if_true]

/-- A literal that begins with something else ends a number. -/
theorem ends_word {text : String} (other : (word text).head?.any (isDigit .decimal) = false)
    (nonempty : word text ≠ []) (rest : List UInt8) : Ends .decimal (word text ++ rest) := by
  obtain ⟨first, others, shown⟩ := List.exists_cons_of_ne_nil nonempty
  rw [shown] at other ⊢
  rintro byte ⟨⟩
  exact ⟨other, fun radix => Radix.noConfusion radix⟩

/-- A literal of a format is found in the text. -/
theorem scanFrom_literals (text : String) (format : List Directive) (rest : List UInt8)
    (values : List Int) :
    scanFrom (literals text ++ format) (word text ++ rest) values =
      scanFrom format rest values := by
  rw [literals, word]
  induction text.toList with
  | nil => rfl
  | cons char chars ih =>
      rw [List.map_cons, List.map_cons, List.cons_append, List.cons_append, scanFrom, if_pos rfl,
        ih]

end Stdio
