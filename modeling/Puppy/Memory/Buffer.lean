import Puppy.Memory.Cells
import Puppy.Transition.Loop
import Mathlib.Algebra.Ring.Nat

/-!
# The growable buffer

`buffer.c` over an arbitrary element type.  The memory behind `data` is
unbounded and only its first `allocatedEls` cells are allocated: `realloc` keeps
what is stored and makes further cells usable.  A cell holds what `malloc` or
`realloc` happened to deliver until something is stored in it, so the memory a
buffer starts with is an argument.  Element counts and sizes are `int`s; where a
byte count does not fit, the allocation fails, and every use of the missing
memory ends the program, which is `none`.
-/

open Transition

universe u

variable {α : Type u}

/-- `struct buffer` -/
structure Buffer (α : Type u) where
  elSize : Nat
  curEls : Nat
  allocatedEls : Nat
  data : Memory α

namespace Buffer

/-- `malloc` or `realloc` of that many bytes, counted in an `int`, succeeds. -/
def Allocates (els elSize : Nat) : Prop := els * elSize < 2 ^ 31

instance (els elSize : Nat) : Decidable (Allocates els elSize) :=
  inferInstanceAs (Decidable (_ < _))

/-- `buffer_init` -/
def init (aEls : Int) (aElSize : Nat) (heap : Memory α) : Option (Buffer α) :=
  let aEls := if aEls < 1 then 1 else aEls.toNat
  if Allocates aEls aElSize then
    some { elSize := aElSize, curEls := 0, allocatedEls := aEls, data := heap }
  else none

/-- One pass of the loop in `buffer_add`. -/
def growBody : Body (Buffer α) (Option (Buffer α)) := fun buffer =>
  if buffer.curEls ≥ buffer.allocatedEls then
    let allocatedEls := buffer.allocatedEls * 2
    if Allocates allocatedEls buffer.elSize then .again { buffer with allocatedEls }
    else .leave none
  else .leave (some buffer)

/-- `buffer_add`: the cell the returned pointer points to, and the buffer with
`value` stored there unless it is `NULL`.  Doubling a positive number
`curEls + 1` times passes `curEls`. -/
def add (value : Option α) (buffer : Buffer α) : Option (Nat × Buffer α) :=
  match run growBody (buffer.curEls + 1) buffer with
  | .leave (some buffer) =>
      let data := match value with
        | some value => Memory.store buffer.data buffer.curEls [value]
        | none => buffer.data
      some (buffer.curEls, { buffer with data, curEls := buffer.curEls + 1 })
  | _ => none

/-- Store through a pointer into the buffer. -/
def set (ptr : Nat) (value : α) (buffer : Buffer α) : Buffer α :=
  { buffer with data := Memory.store buffer.data ptr [value] }

/-- `buffer_dup_values` -/
def dupValues (buffer : Buffer α) : List α := Memory.load buffer.data 0 buffer.curEls

/-! ## Growth -/

/-- Doubling from `first` elements on, `n` of them can be allocated. -/
def Fits (elSize first n : Nat) : Prop :=
  ∃ doublings, n ≤ first * 2 ^ doublings ∧ Allocates (first * 2 ^ doublings) elSize

theorem Fits.le {elSize first m n : Nat} (fits : Fits elSize first n) (le : m ≤ n) :
    Fits elSize first m := by
  obtain ⟨doublings, room, allocates⟩ := fits
  exact ⟨doublings, Nat.le_trans le room, allocates⟩

/-- What every operation keeps: the allocation came about by doubling and holds
the elements. -/
structure Grown (first : Nat) (buffer : Buffer α) : Prop where
  doubled : ∃ doublings, buffer.allocatedEls = first * 2 ^ doublings
  allocates : Allocates buffer.allocatedEls buffer.elSize
  inside : buffer.curEls ≤ buffer.allocatedEls

theorem Grown.allocatedEls_pos {first : Nat} {buffer : Buffer α} (grown : Grown first buffer)
    (positive : 0 < first) : 0 < buffer.allocatedEls := by
  obtain ⟨doublings, doubled⟩ := grown.doubled
  rw [doubled]
  exact Nat.mul_pos positive (Nat.two_pow_pos doublings)

theorem Grown.fits {first : Nat} {buffer : Buffer α} (grown : Grown first buffer) :
    Fits buffer.elSize first buffer.curEls := by
  obtain ⟨doublings, doubled⟩ := grown.doubled
  exact ⟨doublings, doubled ▸ grown.inside, doubled ▸ grown.allocates⟩

/-- The number of elements `buffer_init` allocates. -/
def initialEls (aEls : Int) : Nat := if aEls < 1 then 1 else aEls.toNat

theorem initialEls_pos (aEls : Int) : 0 < initialEls aEls := by
  rw [initialEls]
  split
  · exact Nat.one_pos
  · omega

/-- `buffer_init` makes an empty buffer, or fails because its elements cannot be
allocated. -/
theorem init_cases (aEls : Int) (elSize : Nat) (heap : Memory α) :
    (∃ buffer, init aEls elSize heap = some buffer ∧ Grown (initialEls aEls) buffer ∧
        buffer.elSize = elSize ∧ buffer.curEls = 0 ∧ buffer.data = heap) ∨
      init aEls elSize heap = none ∧ ¬ Fits elSize (initialEls aEls) 0 := by
  by_cases allocates : Allocates (initialEls aEls) elSize
  · refine Or.inl ⟨_, if_pos allocates, ⟨⟨0, ?_⟩, allocates, Nat.zero_le _⟩, rfl, rfl,
      rfl⟩
    rw [Nat.pow_zero, Nat.mul_one]
    rfl
  · refine Or.inr ⟨if_neg allocates, ?_⟩
    rintro ⟨doublings, -, larger⟩
    apply allocates
    have grows : initialEls aEls ≤ initialEls aEls * 2 ^ doublings :=
      Nat.le_mul_of_pos_right _ (Nat.two_pow_pos doublings)
    exact Nat.lt_of_le_of_lt (Nat.mul_le_mul_right _ grows) larger

/-- A new buffer. -/
theorem init_of_allocates (first elSize : Nat) (positive : 0 < first)
    (allocates : Allocates first elSize) (heap : Memory α) :
    ∃ buffer, init first elSize heap = some buffer ∧ Grown first buffer ∧
      buffer.elSize = elSize ∧ buffer.curEls = 0 ∧ buffer.data = heap := by
  have aEls : initialEls first = first := by
    rw [initialEls, if_neg (by omega), Int.toNat_natCast]
  rcases init_cases first elSize heap with made | ⟨-, full⟩
  · rwa [aEls] at made
  · rw [aEls] at full
    refine absurd ⟨0, Nat.zero_le _, ?_⟩ full
    rwa [Nat.pow_zero, Nat.mul_one]

/-- A full buffer whose doubling fails has no room for another element. -/
private theorem not_fits_of_full {first : Nat} {buffer : Buffer α} (grown : Grown first buffer)
    (full : buffer.allocatedEls ≤ buffer.curEls)
    (fails : ¬ Allocates (buffer.allocatedEls * 2) buffer.elSize) :
    ¬ Fits buffer.elSize first (buffer.curEls + 1) := by
  rintro ⟨doublings, room, allocates⟩
  obtain ⟨before, doubled⟩ := grown.doubled
  have more : before < doublings := by
    by_contra notMore
    have power : 2 ^ doublings ≤ 2 ^ before :=
      Nat.pow_le_pow_right (by decide) (Nat.not_lt.mp notMore)
    have := Nat.mul_le_mul_left first power
    omega
  have power : 2 ^ (before + 1) ≤ 2 ^ doublings := Nat.pow_le_pow_right (by decide) more
  have larger : buffer.allocatedEls * 2 ≤ first * 2 ^ doublings := by
    calc
      buffer.allocatedEls * 2 = first * 2 ^ (before + 1) := by
        rw [doubled, Nat.pow_succ, Nat.mul_assoc]
      _ ≤ first * 2 ^ doublings := Nat.mul_le_mul_left first power
  exact fails (Nat.lt_of_le_of_lt (Nat.mul_le_mul_right _ larger) allocates)

/-- The loop in `buffer_add` doubles at most once. -/
theorem run_growBody {first : Nat} (positive : 0 < first) {buffer : Buffer α}
    (grown : Grown first buffer) :
    (∃ allocatedEls,
        run growBody (buffer.curEls + 1) buffer = .leave (some { buffer with allocatedEls }) ∧
        Grown first { buffer with curEls := buffer.curEls + 1, allocatedEls }) ∨
      run growBody (buffer.curEls + 1) buffer = .leave none ∧
        ¬ Fits buffer.elSize first (buffer.curEls + 1) := by
  by_cases full : buffer.curEls ≥ buffer.allocatedEls
  · by_cases allocates : Allocates (buffer.allocatedEls * 2) buffer.elSize
    · -- after one doubling the test fails
      obtain ⟨before, doubled⟩ := grown.doubled
      have some := grown.allocatedEls_pos positive
      have inside := grown.inside
      obtain ⟨passes, count⟩ := Nat.exists_eq_succ_of_ne_zero (n := buffer.curEls) (by omega)
      have doubles : growBody buffer =
          .again { buffer with allocatedEls := buffer.allocatedEls * 2 } := by
        simp only [growBody]
        rw [if_pos full, if_pos allocates]
      have stops : growBody { buffer with allocatedEls := buffer.allocatedEls * 2 } =
          .leave (Option.some { buffer with allocatedEls := buffer.allocatedEls * 2 }) := by
        simp only [growBody]
        rw [if_neg (by omega)]
      refine Or.inl ⟨buffer.allocatedEls * 2, ?_, ⟨before + 1, ?_⟩, allocates, ?_⟩
      · rw [run_succ_of_again doubles]
        simp only [count]
        exact run_succ_of_leave (count ▸ stops) passes
      · simp only
        rw [doubled, Nat.pow_succ, Nat.mul_assoc]
      · simp only
        omega
    · have fails : growBody buffer = .leave none := by
        simp only [growBody]
        rw [if_pos full, if_neg allocates]
      exact Or.inr ⟨run_succ_of_leave fails _, not_fits_of_full grown full allocates⟩
  · have stops : growBody buffer = .leave (some buffer) := if_neg full
    exact Or.inl ⟨buffer.allocatedEls, run_succ_of_leave stops _, grown.doubled, grown.allocates,
      Nat.not_le.mp full⟩

/-- `buffer_add` makes one more cell usable and stores the value in it, or fails
because that many elements cannot be allocated. -/
theorem add_cases {first : Nat} (positive : 0 < first) {buffer : Buffer α}
    (grown : Grown first buffer) (value : Option α) :
    (∃ next, add value buffer = some (buffer.curEls, next) ∧ Grown first next ∧
        next.elSize = buffer.elSize ∧ next.curEls = buffer.curEls + 1 ∧
        next.data = Memory.store buffer.data buffer.curEls value.toList) ∨
      add value buffer = none ∧ ¬ Fits buffer.elSize first (buffer.curEls + 1) := by
  rw [add]
  rcases run_growBody positive grown with ⟨allocatedEls, left, next⟩ | ⟨left, full⟩
  · rw [left]
    refine Or.inl ⟨_, rfl, ⟨next.doubled, next.allocates, next.inside⟩, rfl, rfl, ?_⟩
    cases value with
    | none => exact (Memory.store_nil _ _).symm
    | some value => rfl
  · rw [left]
    exact Or.inr ⟨rfl, full⟩

/-- `buffer_add` of `NULL` stores nothing. -/
theorem add_none_cases {first : Nat} (positive : 0 < first) {buffer : Buffer α}
    (grown : Grown first buffer) :
    (∃ next, add none buffer = some (buffer.curEls, next) ∧ Grown first next ∧
        next.elSize = buffer.elSize ∧ next.curEls = buffer.curEls + 1 ∧
        next.data = buffer.data) ∨
      add none buffer = none ∧ ¬ Fits buffer.elSize first (buffer.curEls + 1) := by
  have cases := add_cases positive grown none
  rwa [Option.toList_none, Memory.store_nil] at cases

/-! ## The stored elements -/

/-- The last element comes behind the elements before it. -/
theorem dupValues_of_count {buffer : Buffer α} {n : Nat} (count : buffer.curEls = n + 1) :
    buffer.dupValues = Memory.load buffer.data 0 n ++ [buffer.data n] := by
  rw [dupValues, count, Memory.load_append, Nat.zero_add]
  rfl

/-- A value stored behind the last element is the new last element. -/
theorem dupValues_of_store {buffer next : Buffer α} {value : α}
    (count : next.curEls = buffer.curEls + 1)
    (data : next.data = Memory.store buffer.data buffer.curEls [value]) :
    next.dupValues = buffer.dupValues ++ [value] := by
  have here : Memory.store buffer.data buffer.curEls [value] buffer.curEls = value := by
    simp [Memory.store]
  have before : Memory.load (Memory.store buffer.data buffer.curEls [value]) 0 buffer.curEls =
      buffer.dupValues :=
    Memory.load_store_disjoint _ _ (Or.inl (Nat.le_of_eq (Nat.zero_add _)))
  rw [dupValues_of_count count, data, here, before]

theorem dupValues_set {buffer : Buffer α} {n : Nat} (count : buffer.curEls = n + 1) (value : α) :
    (buffer.set n value).dupValues = Memory.load buffer.data 0 n ++ [value] := by
  let before : Buffer α := { buffer with curEls := n }
  have stored : (buffer.set n value).dupValues = before.dupValues ++ [value] :=
    dupValues_of_store count rfl
  exact stored

/-! ## Sequences of calls -/

/-- A call of `buffer_add`: with a value, or with `NULL` and the value that is
stored through the returned pointer. -/
inductive Call (α : Type u) where
  | value (stored : α)
  | null (stored : α)

namespace Call

def stored : Call α → α
  | value stored => stored
  | null stored => stored

/-- The cell the call stores to, and the buffer behind it. -/
def perform : Call α → Buffer α → Option (Nat × Buffer α)
  | value stored, buffer => add (some stored) buffer
  | null stored, buffer =>
      (add none buffer).map fun added => (added.1, added.2.set added.1 stored)

/-- A call appends its value behind what is stored, or that many elements
cannot be allocated. -/
theorem perform_cases {first : Nat} (positive : 0 < first) {buffer : Buffer α}
    (grown : Grown first buffer) (call : Call α) :
    (∃ next, call.perform buffer = some (buffer.curEls, next) ∧ Grown first next ∧
        next.elSize = buffer.elSize ∧ next.curEls = buffer.curEls + 1 ∧
        next.dupValues = buffer.dupValues ++ [call.stored]) ∨
      call.perform buffer = none ∧ ¬ Fits buffer.elSize first (buffer.curEls + 1) := by
  cases call with
  | value stored =>
      rcases add_cases positive grown (some stored) with
        ⟨next, added, nextGrown, size, count, data⟩ | failed
      · exact Or.inl ⟨next, added, nextGrown, size, count, dupValues_of_store count data⟩
      · exact Or.inr failed
  | null stored =>
      simp only [perform]
      rcases add_cases positive grown none with
        ⟨next, added, nextGrown, size, count, data⟩ | ⟨failed, full⟩
      · rw [added]
        rw [Option.toList_none, Memory.store_nil] at data
        have kept : Grown first (next.set buffer.curEls stored) :=
          ⟨nextGrown.doubled, nextGrown.allocates, nextGrown.inside⟩
        refine Or.inl ⟨_, rfl, kept, size, count, dupValues_of_store count ?_⟩
        rw [set, data]
        rfl
      · rw [failed]
        exact Or.inr ⟨rfl, full⟩

end Call

/-- A sequence of calls on one buffer. -/
def performAll (calls : List (Call α)) (buffer : Buffer α) : Option (Buffer α) :=
  calls.foldlM (fun buffer call => (call.perform buffer).map Prod.snd) buffer

/-- Initialise a buffer and perform the calls on it. -/
def fill (aEls : Int) (elSize : Nat) (heap : Memory α) (calls : List (Call α)) :
    Option (Buffer α) :=
  (init aEls elSize heap).bind (performAll calls)

/-- A sequence of calls appends its values in order, or that many elements
cannot be allocated. -/
theorem performAll_cases {first : Nat} (positive : 0 < first) (calls : List (Call α)) :
    ∀ {buffer : Buffer α}, Grown first buffer →
      (∃ last, performAll calls buffer = some last ∧ Grown first last ∧
          last.elSize = buffer.elSize ∧ last.curEls = buffer.curEls + calls.length ∧
          last.dupValues = buffer.dupValues ++ calls.map Call.stored) ∨
        performAll calls buffer = none ∧
          ¬ Fits buffer.elSize first (buffer.curEls + calls.length) := by
  induction calls with
  | nil =>
      intro buffer grown
      exact Or.inl ⟨buffer, rfl, grown, rfl, rfl, (List.append_nil _).symm⟩
  | cons call rest ih =>
      intro buffer grown
      have passed (next : Buffer α) (performed : call.perform buffer = some (buffer.curEls, next)) :
          performAll (call :: rest) buffer = performAll rest next := by
        simp [performAll, performed]
      rcases call.perform_cases positive grown with
        ⟨next, performed, nextGrown, size, count, values⟩ | ⟨failed, full⟩
      · have total : buffer.curEls + (call :: rest).length = next.curEls + rest.length := by
          rw [count, List.length_cons]
          omega
        rw [passed next performed, total, ← size]
        rcases ih nextGrown with
          ⟨last, reached, lastGrown, lastSize, lastCount, lastValues⟩ | failed
        · refine Or.inl ⟨last, reached, lastGrown, lastSize, lastCount, ?_⟩
          rw [lastValues, values, List.map_cons, List.append_assoc, List.singleton_append]
        · exact Or.inr failed
      · refine Or.inr ⟨by simp [performAll, failed], fun fits => full (fits.le ?_)⟩
        rw [List.length_cons]
        omega

/-- Either all calls append their values to a new buffer, or that many elements
cannot be allocated. -/
theorem fill_cases (aEls : Int) (elSize : Nat) (heap : Memory α) (calls : List (Call α)) :
    (∃ last, fill aEls elSize heap calls = some last ∧ Grown (initialEls aEls) last ∧
        last.elSize = elSize ∧ last.curEls = calls.length ∧
        last.dupValues = calls.map Call.stored) ∨
      fill aEls elSize heap calls = none ∧ ¬ Fits elSize (initialEls aEls) calls.length := by
  rw [fill]
  rcases init_cases aEls elSize heap with ⟨buffer, made, grown, rfl, count, _⟩ | ⟨failed, full⟩
  · have empty : buffer.dupValues = [] := by
      rw [dupValues, count, Memory.load_zero]
    have performed := performAll_cases (initialEls_pos aEls) calls grown
    rw [count, empty, Nat.zero_add, List.nil_append] at performed
    rw [made]
    exact performed
  · rw [failed]
    exact Or.inr ⟨rfl, fun fits => full (fits.le (Nat.zero_le _))⟩

/-- The loop in `buffer_add` always ends. -/
theorem leaves_growBody {first : Nat} (positive : 0 < first) {buffer : Buffer α}
    (grown : Grown first buffer) : ∃ result, Leaves growBody buffer result := by
  rcases run_growBody positive grown with ⟨_, left, _⟩ | ⟨left, _⟩
  · exact ⟨_, _, left⟩
  · exact ⟨_, _, left⟩

/-- A call stores inside the allocation. -/
theorem perform_inside {first : Nat} (positive : 0 < first) {buffer : Buffer α}
    (grown : Grown first buffer) {call : Call α} {ptr : Nat} {next : Buffer α}
    (performed : call.perform buffer = some (ptr, next)) : ptr < next.allocatedEls := by
  rcases call.perform_cases positive grown with ⟨other, same, nextGrown, _, count, _⟩ | ⟨failed, _⟩
  · rw [performed] at same
    cases same
    have inside := nextGrown.inside
    omega
  · rw [performed] at failed
    cases failed

/-- The buffer is a list of the values it was given: whatever the capacity it
starts with and the calls made, as long as the doubled capacities can be
allocated, the loop in `buffer_add` ends, the elements and every further store
lie inside the allocation, and `buffer_dup_values` returns the values in the
order of the calls. -/
theorem fill_faithful (aEls : Int) (elSize : Nat) (heap : Memory α) (calls : List (Call α)) :
    ((fill aEls elSize heap calls).isSome ↔
        Fits elSize (initialEls aEls) calls.length) ∧
      ∀ buffer ∈ fill aEls elSize heap calls,
        buffer.curEls ≤ buffer.allocatedEls ∧ 1 ≤ buffer.allocatedEls ∧
        Allocates buffer.allocatedEls elSize ∧
        buffer.dupValues = calls.map Call.stored ∧
        (∃ result, Leaves growBody buffer result) ∧
        ∀ call ptr next, Call.perform call buffer = some (ptr, next) →
          (ptr + 1) * elSize ≤ next.allocatedEls * elSize := by
  have positive := initialEls_pos aEls
  rcases fill_cases aEls elSize heap calls with
    ⟨last, filled, grown, rfl, count, values⟩ | ⟨failed, full⟩
  · rw [filled]
    have fits := grown.fits
    rw [count] at fits
    refine ⟨iff_of_true rfl fits, ?_⟩
    rintro buffer ⟨⟩
    refine ⟨grown.inside, grown.allocatedEls_pos positive, grown.allocates, values,
      leaves_growBody positive grown, ?_⟩
    intro call ptr next performed
    exact Nat.mul_le_mul_right _ (perform_inside positive grown performed)
  · rw [failed]
    constructor
    · exact iff_of_false Bool.false_ne_true full
    · rintro buffer ⟨⟩

end Buffer
