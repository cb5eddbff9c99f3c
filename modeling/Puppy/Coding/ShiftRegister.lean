import Mathlib.Data.List.Basic

/-!
# Shift registers with feedback

A register of any width is shifted toward its low end, and a fixed pattern is
xored in whenever a one falls out.  Taking the bits of a string in at the low
end, one for each shift, computes a cyclic redundancy check over the string.

All of it is linear over xor.  A pattern with its highest bit set makes a shift
injective, so a register never forgets a short burst; a pattern with an odd
number of ones makes it keep the parity of everything it took in.
-/

namespace Coding

variable {w : Nat}

/-! ## Shifting -/

/-- Shift out the lowest bit, and xor the pattern in if it was a one. -/
def shift (pattern register : BitVec w) : BitVec w :=
  if register.getLsbD 0 then register >>> 1 ^^^ pattern else register >>> 1

/-- A number of shifts. -/
def shifts (pattern : BitVec w) : Nat → BitVec w → BitVec w
  | 0, register => register
  | count + 1, register => shifts pattern count (shift pattern register)

theorem shift_of_clear (pattern : BitVec w) {register : BitVec w}
    (clear : register.getLsbD 0 = false) : shift pattern register = register >>> 1 := by
  rw [shift, clear, if_neg Bool.false_ne_true]

@[simp]
theorem shift_zero (pattern : BitVec w) : shift pattern 0#w = 0#w := by
  rw [shift_of_clear pattern BitVec.getLsbD_zero, BitVec.zero_ushiftRight]

theorem shift_xor (pattern first second : BitVec w) :
    shift pattern (first ^^^ second) = shift pattern first ^^^ shift pattern second := by
  simp only [shift, BitVec.getLsbD_xor, BitVec.ushiftRight_xor_distrib]
  apply BitVec.eq_of_getLsbD_eq
  intro i _
  cases first.getLsbD 0 <;> cases second.getLsbD 0 <;> simp
  all_goals cases pattern.getLsbD i <;> simp

@[simp]
theorem shifts_zero (pattern : BitVec w) (count : Nat) : shifts pattern count 0#w = 0#w := by
  induction count with
  | zero => rfl
  | succ count ih => rw [shifts, shift_zero, ih]

theorem shifts_xor (pattern : BitVec w) (count : Nat) (first second : BitVec w) :
    shifts pattern count (first ^^^ second) =
      shifts pattern count first ^^^ shifts pattern count second := by
  induction count generalizing first second with
  | zero => rfl
  | succ count ih => rw [shifts, shift_xor, ih, shifts, shifts]

/-- A register whose low bits are clear only moves down. -/
theorem shifts_of_clear (pattern : BitVec w) {count : Nat} :
    ∀ {register : BitVec w}, (∀ i < count, register.getLsbD i = false) →
      shifts pattern count register = register >>> count := by
  induction count with
  | zero =>
      intro register _
      rw [shifts, BitVec.ushiftRight_zero]
  | succ count ih =>
      intro register clear
      rw [shifts, shift_of_clear pattern (clear 0 (Nat.zero_lt_succ count)), ih]
      · rw [← BitVec.shiftRight_add, Nat.add_comm]
      · intro i below
        rw [BitVec.getLsbD_ushiftRight, Nat.add_comm]
        exact clear (i + 1) (Nat.succ_lt_succ below)

/-- The low end decides what is xored in; the rest only moves down. -/
theorem shifts_low_xor_high (pattern : BitVec w) (count : Nat) (register : BitVec w) :
    shifts pattern count register =
      shifts pattern count ((register.setWidth count).setWidth w) ^^^ register >>> count := by
  have low (i : Nat) : ((register.setWidth count).setWidth w).getLsbD i =
      (decide (i < w) && (decide (i < count) && register.getLsbD i)) := by
    rw [BitVec.getLsbD_setWidth, BitVec.getLsbD_setWidth]
  have clear : ∀ i < count,
      (register ^^^ (register.setWidth count).setWidth w).getLsbD i = false := by
    intro i below
    rw [BitVec.getLsbD_xor, low, decide_eq_true below, Bool.true_and]
    rcases Nat.lt_or_ge i w with inside | past
    · rw [decide_eq_true inside, Bool.true_and, Bool.xor_self]
    · rw [BitVec.getLsbD_of_ge register i past, Bool.and_false, Bool.xor_false]
  have moved : (register ^^^ (register.setWidth count).setWidth w) >>> count =
      register >>> count := by
    apply BitVec.eq_of_getLsbD_eq
    intro i _
    rw [BitVec.getLsbD_ushiftRight, BitVec.getLsbD_xor, low, BitVec.getLsbD_ushiftRight,
      decide_eq_false (Nat.not_lt.mpr (Nat.le_add_right count i)), Bool.false_and,
      Bool.and_false, Bool.xor_false]
  have split : register = (register.setWidth count).setWidth w ^^^
      (register ^^^ (register.setWidth count).setWidth w) := by
    rw [BitVec.xor_comm register, ← BitVec.xor_assoc, BitVec.xor_self, BitVec.zero_xor]
  conv => lhs; rw [split]
  rw [shifts_xor, shifts_of_clear pattern clear, moved]

/-- With the highest bit in the pattern, only the zero register shifts to zero. -/
theorem eq_zero_of_shift {pattern register : BitVec w}
    (highest : pattern.getLsbD (w - 1) = true) (zero : shift pattern register = 0#w) :
    register = 0#w := by
  have nonempty : w - 1 < w := by
    by_contra empty
    rw [BitVec.getLsbD_of_ge pattern (w - 1) (Nat.not_lt.mp empty)] at highest
    exact Bool.false_ne_true highest
  cases low : register.getLsbD 0 with
  | true =>
      rw [shift, low, if_pos rfl] at zero
      have top := congrArg (fun value => value.getLsbD (w - 1)) zero
      simp only [BitVec.getLsbD_xor, BitVec.getLsbD_ushiftRight, highest,
        BitVec.getLsbD_zero] at top
      rw [BitVec.getLsbD_of_ge register (1 + (w - 1)) (by omega)] at top
      exact absurd top (by decide)
  | false =>
      rw [shift_of_clear pattern low] at zero
      apply BitVec.eq_of_getLsbD_eq
      intro i _
      rw [BitVec.getLsbD_zero]
      cases i with
      | zero => exact low
      | succ i =>
          have bit := congrArg (fun value => value.getLsbD i) zero
          simp only [BitVec.getLsbD_ushiftRight, BitVec.getLsbD_zero] at bit
          rw [Nat.add_comm, bit]

theorem eq_zero_of_shifts {pattern : BitVec w} (highest : pattern.getLsbD (w - 1) = true)
    {count : Nat} : ∀ {register : BitVec w}, shifts pattern count register = 0#w →
      register = 0#w := by
  induction count with
  | zero =>
      intro register zero
      exact zero
  | succ count ih =>
      intro register zero
      exact eq_zero_of_shift highest (ih zero)

/-! ## Taking bits in -/

/-- One bit as a register. -/
def lowest (bit : Bool) : BitVec w := (BitVec.ofBool bit).setWidth w

/-- A bit string as a register, its first bit lowest. -/
def word (bits : List Bool) : BitVec w := (BitVec.ofBoolListLE bits).setWidth w

/-- The register after the bits of a string, the first one first. -/
def take (pattern : BitVec w) (register : BitVec w) : List Bool → BitVec w
  | [] => register
  | bit :: bits => take pattern (shift pattern (register ^^^ lowest bit)) bits

theorem getLsbD_lowest (bit : Bool) (i : Nat) :
    (lowest bit : BitVec w).getLsbD i = (decide (i < w) && (decide (i = 0) && bit)) := by
  rw [lowest, BitVec.getLsbD_setWidth, BitVec.getLsbD_ofBool]

theorem getLsbD_word (bits : List Bool) (i : Nat) :
    (word bits : BitVec w).getLsbD i = (decide (i < w) && bits.getD i false) := by
  rw [word, BitVec.getLsbD_setWidth, BitVec.getLsbD_ofBoolListLE]

@[simp]
theorem lowest_false : (lowest false : BitVec w) = 0#w := by
  apply BitVec.eq_of_getLsbD_eq
  intro i _
  simp [getLsbD_lowest]

theorem lowest_xor (first second : Bool) :
    (lowest (first ^^ second) : BitVec w) = lowest first ^^^ lowest second := by
  apply BitVec.eq_of_getLsbD_eq
  intro i _
  rw [BitVec.getLsbD_xor, getLsbD_lowest, getLsbD_lowest, getLsbD_lowest]
  cases decide (i < w) <;> cases decide (i = 0) <;> rfl

theorem take_append (pattern : BitVec w) (first second : List Bool) :
    ∀ register : BitVec w, take pattern register (first ++ second) =
      take pattern (take pattern register first) second := by
  induction first with
  | nil =>
      intro register
      rfl
  | cons bit first ih =>
      intro register
      exact ih _

/-- Zero bits are plain shifts. -/
theorem take_replicate_false (pattern : BitVec w) (count : Nat) :
    ∀ register : BitVec w,
      take pattern register (List.replicate count false) = shifts pattern count register := by
  induction count with
  | zero =>
      intro register
      rfl
  | succ count ih =>
      intro register
      rw [List.replicate_succ, take, lowest_false, BitVec.xor_zero, ih, shifts]

/-- The check of a difference is the difference of the checks. -/
theorem take_zipWith_xor (pattern : BitVec w) (first : List Bool) :
    ∀ {second : List Bool} (left right : BitVec w), first.length = second.length →
      take pattern (left ^^^ right) (List.zipWith xor first second) =
        take pattern left first ^^^ take pattern right second := by
  induction first with
  | nil =>
      intro second left right same
      cases second with
      | nil => rfl
      | cons bit second => cases same
  | cons bit first ih =>
      intro second left right same
      cases second with
      | nil => cases same
      | cons other second =>
          have regroup : left ^^^ right ^^^ lowest (bit ^^ other) =
              (left ^^^ lowest bit) ^^^ (right ^^^ lowest other) := by
            rw [lowest_xor]
            ac_rfl
          rw [List.zipWith_cons_cons, take, regroup, shift_xor, ih _ _ (Nat.succ.inj same)]
          rfl

/-- A string no longer than the register may be xored in at once. -/
theorem take_eq_shifts (pattern : BitVec w) (bits : List Bool) :
    ∀ register : BitVec w, bits.length ≤ w →
      take pattern register bits = shifts pattern bits.length (register ^^^ word bits) := by
  induction bits with
  | nil =>
      intro register _
      have empty : (word [] : BitVec w) = 0#w := by
        apply BitVec.eq_of_getLsbD_eq
        intro i _
        simp [getLsbD_word]
      rw [empty, BitVec.xor_zero]
      rfl
  | cons bit bits ih =>
      intro register room
      -- the word behind its first bit has a clear low bit, so it only moves down
      have clear : (word (false :: bits) : BitVec w).getLsbD 0 = false := by
        simp [getLsbD_word]
      have split : (word (bit :: bits) : BitVec w) = lowest bit ^^^ word (false :: bits) := by
        apply BitVec.eq_of_getLsbD_eq
        intro i _
        rw [BitVec.getLsbD_xor, getLsbD_lowest, getLsbD_word, getLsbD_word]
        cases i <;> cases bit <;> simp
      have moved : (word (false :: bits) : BitVec w) >>> 1 = word bits := by
        apply BitVec.eq_of_getLsbD_eq
        intro i inside
        rw [BitVec.getLsbD_ushiftRight, getLsbD_word, getLsbD_word, Nat.add_comm 1 i,
          List.getD_cons_succ, decide_eq_true inside, Bool.true_and]
        rcases Nat.lt_or_ge i bits.length with here | past
        · have below : i + 1 < w := Nat.lt_of_lt_of_le (Nat.succ_lt_succ here) room
          rw [decide_eq_true below, Bool.true_and]
        · rw [List.getD_eq_getElem?_getD, List.getElem?_eq_none past, Option.getD_none,
            Bool.and_false]
      rw [take, ih _ (Nat.le_of_succ_le room), List.length_cons, shifts, split,
        ← BitVec.xor_assoc, shift_xor pattern (register ^^^ lowest bit), shift_of_clear _ clear,
        moved]

/-! ## Bursts -/

/-- A burst no longer than the register leaves a trace that no zeros behind it
remove. -/
theorem take_burst_ne_zero {pattern : BitVec w} (highest : pattern.getLsbD (w - 1) = true)
    (before after : Nat) {burst : List Bool} (short : burst.length ≤ w) (hit : true ∈ burst) :
    take pattern 0#w (List.replicate before false ++ burst ++ List.replicate after false) ≠
      0#w := by
  have quiet : take pattern 0#w (List.replicate before false) = 0#w := by
    rw [take_replicate_false, shifts_zero]
  rw [take_append, take_append, quiet, take_eq_shifts _ _ _ short, BitVec.zero_xor,
    take_replicate_false]
  intro zero
  have cleared : (word burst : BitVec w) = 0#w :=
    eq_zero_of_shifts highest (eq_zero_of_shifts highest zero)
  obtain ⟨i, inside, one⟩ := List.mem_iff_getElem.mp hit
  have bit := congrArg (fun value => value.getLsbD i) cleared
  have below : i < w := Nat.lt_of_lt_of_le inside short
  simp only [getLsbD_word, BitVec.getLsbD_zero, decide_eq_true below, Bool.true_and,
    List.getD_eq_getElem?_getD, List.getElem?_eq_getElem inside, Option.getD_some, one] at bit
  exact absurd bit (by decide)

/-- The same for a string whose ones all lie within one width of the register. -/
theorem take_window_ne_zero {pattern : BitVec w} (highest : pattern.getLsbD (w - 1) = true)
    {bits : List Bool} {start : Nat} (hit : true ∈ bits)
    (window : ∀ i, bits[i]? = some true → start ≤ i ∧ i < start + w) :
    take pattern 0#w bits ≠ 0#w := by
  have quiet (offset : Nat) {part : List Bool}
      (outside : ∀ i < part.length, part[i]? = bits[offset + i]? ∧
        (offset + i < start ∨ start + w ≤ offset + i)) :
      part = List.replicate part.length false := by
    rw [List.eq_replicate_iff]
    refine ⟨rfl, ?_⟩
    intro bit member
    obtain ⟨i, inside, rfl⟩ := List.mem_iff_getElem.mp member
    have parts := outside i inside
    rw [List.getElem?_eq_getElem inside] at parts
    cases value : part[i] with
    | false => rfl
    | true =>
        rw [value] at parts
        have bounds := window _ parts.1.symm
        omega
  have before : bits.take start = List.replicate (bits.take start).length false := by
    apply quiet 0
    intro i inside
    rw [List.length_take] at inside
    have below : i < start := by omega
    exact ⟨by rw [List.getElem?_take_of_lt below, Nat.zero_add], by omega⟩
  have after : bits.drop (start + w) =
      List.replicate (bits.drop (start + w)).length false := by
    apply quiet (start + w)
    intro i _
    exact ⟨List.getElem?_drop, by omega⟩
  have split : bits = bits.take start ++ (bits.drop start).take w ++ bits.drop (start + w) := by
    rw [List.append_assoc, ← List.drop_drop, List.take_append_drop, List.take_append_drop]
  rw [split, before, after]
  apply take_burst_ne_zero highest
  · rw [List.length_take]
    exact Nat.min_le_left _ _
  · rw [split, before, after, List.append_assoc, List.mem_append, List.mem_append] at hit
    rcases hit with early | inside | late
    · cases List.eq_of_mem_replicate early
    · exact inside
    · cases List.eq_of_mem_replicate late

/-! ## Parity -/

/-- Whether an odd number of the first `count` bits are ones. -/
def oddBelow (bit : Nat → Bool) : Nat → Bool
  | 0 => false
  | count + 1 => bit count ^^ oddBelow bit count

/-- Whether a register holds an odd number of ones. -/
def parity (register : BitVec w) : Bool := oddBelow register.getLsbD w

theorem oddBelow_xor (first second : Nat → Bool) (count : Nat) :
    oddBelow (fun i => first i ^^ second i) count =
      (oddBelow first count ^^ oddBelow second count) := by
  induction count with
  | zero => rfl
  | succ count ih =>
      rw [oddBelow, ih, oddBelow, oddBelow, Bool.xor_assoc, Bool.xor_assoc,
        Bool.xor_left_comm (second count)]

/-- The first bit may be counted first. -/
theorem oddBelow_succ (bit : Nat → Bool) (count : Nat) :
    oddBelow bit (count + 1) = (bit 0 ^^ oddBelow (fun i => bit (i + 1)) count) := by
  induction count with
  | zero => rfl
  | succ count ih =>
      rw [oddBelow, ih, oddBelow, Bool.xor_left_comm]

theorem parity_xor (first second : BitVec w) :
    parity (first ^^^ second) = (parity first ^^ parity second) := by
  rw [parity, parity, parity, ← oddBelow_xor]
  congr 1
  funext i
  exact BitVec.getLsbD_xor

/-- What falls out of the register is missing from its parity. -/
theorem parity_ushiftRight (register : BitVec w) :
    parity (register >>> 1) = (register.getLsbD 0 ^^ parity register) := by
  have past : register.getLsbD w = false := BitVec.getLsbD_of_ge register w (Nat.le_refl w)
  have counted := oddBelow_succ register.getLsbD w
  rw [oddBelow, past, Bool.false_xor] at counted
  rw [parity, parity, counted, ← Bool.xor_assoc, Bool.xor_self, Bool.false_xor]
  congr 1
  funext i
  rw [BitVec.getLsbD_ushiftRight, Nat.add_comm]

theorem parity_lowest (nonempty : 0 < w) (bit : Bool) :
    parity (lowest bit : BitVec w) = bit := by
  obtain ⟨count, rfl⟩ := Nat.exists_eq_succ_of_ne_zero (Nat.ne_of_gt nonempty)
  have rest : oddBelow (fun _ => false) count = false := by
    induction count with
    | zero => rfl
    | succ count ih => rw [oddBelow, ih (Nat.zero_lt_succ count), Bool.false_xor]
  rw [parity, oddBelow_succ, getLsbD_lowest]
  have high : (fun i => (lowest bit : BitVec (count + 1)).getLsbD (i + 1)) = fun _ => false := by
    funext i
    simp [getLsbD_lowest]
  rw [high, rest]
  simp

/-- A pattern with an odd number of ones makes up for the bit that falls out. -/
theorem parity_shift {pattern : BitVec w} (odd : parity pattern = true) (register : BitVec w) :
    parity (shift pattern register) = parity register := by
  cases low : register.getLsbD 0 with
  | true =>
      rw [shift, low, if_pos rfl, parity_xor, parity_ushiftRight, low, odd]
      simp
  | false => rw [shift_of_clear pattern low, parity_ushiftRight, low, Bool.false_xor]

/-- The parity of the register is that of all the bits it took in. -/
theorem parity_take {pattern : BitVec w} (nonempty : 0 < w) (odd : parity pattern = true)
    (bits : List Bool) : ∀ register : BitVec w,
      parity (take pattern register bits) =
        (parity register ^^ decide (bits.count true % 2 = 1)) := by
  induction bits with
  | nil =>
      intro register
      simp [take]
  | cons bit bits ih =>
      intro register
      rw [take, ih, parity_shift odd, parity_xor, parity_lowest nonempty, List.count_cons,
        Bool.xor_assoc]
      congr 1
      cases bit with
      | false => simp
      | true =>
          rcases Nat.mod_two_eq_zero_or_one (bits.count true) with even | uneven
          · simp [even, Nat.add_mod]
          · simp [uneven, Nat.add_mod]

/-- An odd number of ones leaves a register that is not zero. -/
theorem take_odd_ne_zero {pattern : BitVec w} (nonempty : 0 < w) (odd : parity pattern = true)
    {bits : List Bool} (uneven : bits.count true % 2 = 1) : take pattern 0#w bits ≠ 0#w := by
  intro zero
  have zeroParity : parity 0#w = false := by
    have doubled := parity_xor 0#w 0#w
    rw [BitVec.xor_self, Bool.xor_self] at doubled
    exact doubled
  have counted := parity_take nonempty odd bits 0#w
  rw [zero, zeroParity, Bool.false_xor, uneven] at counted
  exact absurd counted (by decide)

end Coding
