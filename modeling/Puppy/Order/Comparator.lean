import Mathlib.Data.Set.Defs
import Mathlib.Order.Lattice
import Mathlib.Data.Int.Order.Basic

/-!
# Comparison functions

A comparison function answers with a number whose sign says which argument
comes first; `none` says that it does not answer.  Sorting needs one that is a
total preorder on the elements to sort.  When the sign tells a strict order,
that is a property of the order alone: whatever is in order stays so on one
side or the other of a third element.
-/

namespace Sorting

universe u v

variable {α : Type u}

/-- A comparison function; `none` where it is undefined. -/
abbrev Comparator (α : Type u) := α → α → Option Int

/-- The first argument need not come behind the second one. -/
def Comparator.AtMost (compare : Comparator α) (a b : α) : Prop :=
  ∃ r ∈ compare a b, r ≤ 0

instance (compare : Comparator α) (a b : α) : Decidable (compare.AtMost a b) :=
  inferInstanceAs (Decidable (∃ r ∈ compare a b, r ≤ 0))

/-- A total preorder on a set of elements. -/
structure ConsistentOn (compare : Comparator α) (s : Set α) : Prop where
  opposite : ∀ a ∈ s, ∀ b ∈ s, ∃ r q, compare a b = some r ∧ compare b a = some q ∧
    r.sign = -q.sign
  trans : ∀ a ∈ s, ∀ b ∈ s, ∀ c ∈ s,
    compare.AtMost a b → compare.AtMost b c → compare.AtMost a c

theorem ConsistentOn.total {compare : Comparator α} {s : Set α}
    (consistent : ConsistentOn compare s) {a b : α} (inA : a ∈ s) (inB : b ∈ s) :
    compare.AtMost a b ∨ compare.AtMost b a := by
  obtain ⟨r, q, first, second, opposite⟩ := consistent.opposite a inA b inB
  rcases Int.le_total r 0 with small | large
  · exact Or.inl ⟨r, first, small⟩
  · right
    refine ⟨q, second, ?_⟩
    have sign : 0 ≤ r.sign := Int.sign_nonneg_iff.mpr large
    rw [opposite] at sign
    exact Int.sign_nonpos_iff.mp (by omega)

/-! ## Answers that tell an order -/

/-- The sign of the answer tells a strict order. -/
def Tells (compare : Comparator α) (before : α → α → Prop) (a b : α) : Prop :=
  ∃ r, compare a b = some r ∧ (r < 0 ↔ before a b) ∧ (0 < r ↔ before b a)

theorem Tells.atMost_iff {compare : Comparator α} {before : α → α → Prop} {a b : α}
    (tells : Tells compare before a b) : compare.AtMost a b ↔ ¬ before b a := by
  obtain ⟨r, answer, _, greater⟩ := tells
  rw [← greater, Int.not_lt]
  constructor
  · rintro ⟨q, other, small⟩
    rw [answer] at other
    cases other
    exact small
  · intro small
    exact ⟨r, answer, small⟩

/-- Elements in order are still told apart by any third one. -/
def SplitOn (before : α → α → Prop) (s : Set α) : Prop :=
  ∀ a ∈ s, ∀ b ∈ s, ∀ c ∈ s, before a c → before a b ∨ before b c

/-- A comparison function that tells an order is consistent exactly when the
order splits. -/
theorem consistentOn_iff_splitOn {compare : Comparator α} {before : α → α → Prop} {s : Set α}
    (tells : ∀ a ∈ s, ∀ b ∈ s, Tells compare before a b) :
    ConsistentOn compare s ↔ SplitOn before s := by
  constructor
  · intro consistent a inA b inB c inC ordered
    by_contra neither
    obtain ⟨notLeft, notRight⟩ := not_or.mp neither
    have left : compare.AtMost b a := (tells b inB a inA).atMost_iff.mpr notLeft
    have right : compare.AtMost c b := (tells c inC b inB).atMost_iff.mpr notRight
    have both : compare.AtMost c a := consistent.trans c inC b inB a inA right left
    exact (tells c inC a inA).atMost_iff.mp both ordered
  · intro split
    constructor
    · intro a inA b inB
      obtain ⟨r, first, less, greater⟩ := tells a inA b inB
      obtain ⟨q, second, lessBack, greaterBack⟩ := tells b inB a inA
      refine ⟨r, q, first, second, ?_⟩
      rcases Int.lt_trichotomy r 0 with negative | rfl | positive
      · have back : 0 < q := greaterBack.mpr (less.mp negative)
        rw [Int.sign_eq_neg_one_of_neg negative, Int.sign_eq_one_of_pos back]
      · have zero : q = 0 := by
          apply Int.le_antisymm
          · exact Int.not_lt.mp fun positive =>
              Int.lt_irrefl 0 (less.mpr (greaterBack.mp positive))
          · exact Int.not_lt.mp fun negative =>
              Int.lt_irrefl 0 (greater.mpr (lessBack.mp negative))
        rw [zero]
        rfl
      · have back : q < 0 := lessBack.mpr (greater.mp positive)
        rw [Int.sign_eq_one_of_pos positive, Int.sign_eq_neg_one_of_neg back]
        rfl
    · intro a inA b inB c inC first second
      rw [(tells a inA b inB).atMost_iff] at first
      rw [(tells b inB c inC).atMost_iff] at second
      rw [(tells a inA c inC).atMost_iff]
      intro ordered
      rcases split c inC b inB a inA ordered with early | late
      · exact second early
      · exact first late

/-- The order of a key. -/
def KeyBefore {κ : Type v} [LT κ] (key : α → κ) (a b : α) : Prop := key a < key b

theorem splitOn_keyBefore {κ : Type v} [LinearOrder κ] (key : α → κ) (s : Set α) :
    SplitOn (KeyBefore key) s := by
  intro a _ b _ c _ ordered
  rcases lt_or_ge (key a) (key b) with before | behind
  · exact Or.inl before
  · exact Or.inr (lt_of_le_of_lt behind ordered)

/-! ## Sorting -/

/-- A sorting function: with a comparison function that is consistent on the
elements of a list, it puts the list in order. -/
def Sorts (sort : Comparator α → List α → List α) : Prop :=
  ∀ compare list, ConsistentOn compare {a | a ∈ list} →
    (sort compare list).Perm list ∧ (sort compare list).Pairwise compare.AtMost

/-- A list in the order of a key. -/
def OrderedBy {κ : Type v} [LE κ] (key : α → κ) (list : List α) : Prop :=
  list.Pairwise fun a b => key a ≤ key b

/-- With a comparison function that tells the order of a key, a list is sorted
by that key. -/
theorem Sorts.orderedBy {κ : Type v} [LinearOrder κ] {sort : Comparator α → List α → List α}
    (sorts : Sorts sort) {compare : Comparator α} {key : α → κ} {list : List α}
    (tells : ∀ a ∈ list, ∀ b ∈ list, Tells compare (KeyBefore key) a b) :
    (sort compare list).Perm list ∧ OrderedBy key (sort compare list) := by
  have consistent : ConsistentOn compare {a | a ∈ list} :=
    (consistentOn_iff_splitOn tells).mpr (splitOn_keyBefore key _)
  obtain ⟨perm, ordered⟩ := sorts compare list consistent
  refine ⟨perm, ordered.imp_of_mem ?_⟩
  intro a b inA inB atMost
  have tellsHere := tells a (perm.mem_iff.mp inA) b (perm.mem_iff.mp inB)
  exact not_lt.mp (tellsHere.atMost_iff.mp atMost)

/-- Merge sort. -/
def mergeSort (compare : Comparator α) (list : List α) : List α :=
  (list.attach.mergeSort fun a b => decide (compare.AtMost a.1 b.1)).map Subtype.val

/-- Whatever the comparison function answers, elements are only moved. -/
theorem perm_mergeSort (compare : Comparator α) (list : List α) :
    (mergeSort compare list).Perm list := by
  have perm := (List.mergeSort_perm list.attach
    fun a b => decide (compare.AtMost a.1 b.1)).map Subtype.val
  rw [List.attach_map_subtype_val] at perm
  exact perm

/-- On elements it is consistent on, a comparison function is a total preorder
of their subtype. -/
theorem sorts_mergeSort : Sorts (mergeSort (α := α)) := by
  intro compare list consistent
  have trans : ∀ a b c : {a // a ∈ list}, decide (compare.AtMost a.1 b.1) = true →
      decide (compare.AtMost b.1 c.1) = true → decide (compare.AtMost a.1 c.1) = true := by
    intro a b c first second
    exact decide_eq_true (consistent.trans a a.2 b b.2 c c.2 (of_decide_eq_true first)
      (of_decide_eq_true second))
  have total : ∀ a b : {a // a ∈ list},
      (decide (compare.AtMost a.1 b.1) || decide (compare.AtMost b.1 a.1)) = true := by
    intro a b
    rw [Bool.or_eq_true, decide_eq_true_iff, decide_eq_true_iff]
    exact consistent.total a.2 b.2
  constructor
  · exact perm_mergeSort compare list
  · rw [mergeSort, List.pairwise_map]
    exact (List.pairwise_mergeSort trans total list.attach).imp fun atMost =>
      of_decide_eq_true atMost

end Sorting
