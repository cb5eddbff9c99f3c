import Puppy.Order.Comparator

/-!
# Words compared at their first difference

Two words are compared at the first position where they differ; where one is a
prefix of the other there is none, and a key decides.  A word can agree in this
way with two words that differ from each other, and the order splits exactly
when the keys make up for it.
-/

namespace Sorting

universe u v w

variable {α : Type u}

/-- The first word has the smaller letter at the first difference. -/
inductive Below [LT α] : List α → List α → Prop
  | here {x y : α} {first second : List α} (less : x < y) : Below (x :: first) (y :: second)
  | there {x : α} {first second : List α} (below : Below first second) :
      Below (x :: first) (x :: second)

/-- Two words do not differ anywhere: one is a prefix of the other. -/
def Agree (first second : List α) : Prop := first <+: second ∨ second <+: first

theorem Agree.symm {first second : List α} (agree : Agree first second) : Agree second first :=
  Or.symm agree

theorem agree_cons_iff {x y : α} {first second : List α} :
    Agree (x :: first) (y :: second) ↔ x = y ∧ Agree first second := by
  rw [Agree, Agree, List.cons_prefix_cons, List.cons_prefix_cons, eq_comm, ← and_or_left]

theorem not_below_nil [LT α] (second : List α) : ¬ Below [] second := by
  intro below
  cases below

theorem not_below_to_nil [LT α] (first : List α) : ¬ Below first [] := by
  intro below
  cases below

section Words

variable [LinearOrder α] {a b c : List α}

theorem Below.cons_iff {x y : α} {first second : List α} :
    Below (x :: first) (y :: second) ↔ x < y ∨ x = y ∧ Below first second := by
  constructor
  · intro below
    cases below with
    | here less => exact Or.inl less
    | there below => exact Or.inr ⟨rfl, below⟩
  · rintro (less | ⟨rfl, below⟩)
    · exact .here less
    · exact .there below

/-- Words that agree are not in order. -/
theorem Below.not_agree (below : Below a b) : ¬ Agree a b := by
  induction below with
  | here less =>
      rw [agree_cons_iff]
      rintro ⟨same, _⟩
      exact absurd same (ne_of_lt less)
  | there _ ih =>
      rw [agree_cons_iff]
      rintro ⟨_, agree⟩
      exact ih agree

theorem below_trichotomy (a b : List α) : Below a b ∨ Agree a b ∨ Below b a := by
  induction a generalizing b with
  | nil => exact Or.inr (Or.inl (Or.inl List.nil_prefix))
  | cons x a ih =>
      cases b with
      | nil => exact Or.inr (Or.inl (Or.inr List.nil_prefix))
      | cons y b =>
          rcases lt_trichotomy x y with less | rfl | more
          · exact Or.inl (.here less)
          · rcases ih b with below | agree | above
            · exact Or.inl (.there below)
            · exact Or.inr (Or.inl (agree_cons_iff.mpr ⟨rfl, agree⟩))
            · exact Or.inr (Or.inr (.there above))
          · exact Or.inr (Or.inr (.here more))

/-- A third word is told apart from one of two that are in order, or ends before
they differ. -/
theorem Below.split (below : Below a b) (c : List α) :
    Below a c ∨ Below c b ∨ c <+: a ∧ c <+: b := by
  induction below generalizing c with
  | @here x y first second less =>
      cases c with
      | nil => exact Or.inr (Or.inr ⟨List.nil_prefix, List.nil_prefix⟩)
      | cons z c =>
          rcases lt_or_ge x z with early | late
          · exact Or.inl (.here early)
          · exact Or.inr (Or.inl (.here (lt_of_le_of_lt late less)))
  | @there x first second _ ih =>
      cases c with
      | nil => exact Or.inr (Or.inr ⟨List.nil_prefix, List.nil_prefix⟩)
      | cons z c =>
          rcases lt_trichotomy x z with early | rfl | late
          · exact Or.inl (.here early)
          · rcases ih c with left | right | ⟨ofFirst, ofSecond⟩
            · exact Or.inl (.there left)
            · exact Or.inr (Or.inl (.there right))
            · exact Or.inr (Or.inr ⟨List.cons_prefix_cons.mpr ⟨rfl, ofFirst⟩,
                List.cons_prefix_cons.mpr ⟨rfl, ofSecond⟩⟩)
          · exact Or.inr (Or.inl (.here late))

end Words

section Keys

variable {ι : Type w} {κ : Type v} [LinearOrder α] [LinearOrder κ]

/-- The order of words, with a key where they agree. -/
def WordKeyBefore (word : ι → List α) (key : ι → κ) (a b : ι) : Prop :=
  Below (word a) (word b) ∨ Agree (word a) (word b) ∧ key a < key b

theorem wordKeyBefore_iff_below {word : ι → List α} {key : ι → κ} {a b : ι}
    (differ : ¬ Agree (word a) (word b)) :
    WordKeyBefore word key a b ↔ Below (word a) (word b) := by
  constructor
  · rintro (below | ⟨agree, _⟩)
    · exact below
    · exact absurd agree differ
  · exact Or.inl

theorem wordKeyBefore_iff_key {word : ι → List α} {key : ι → κ} {a b : ι}
    (agree : Agree (word a) (word b)) : WordKeyBefore word key a b ↔ key a < key b := by
  constructor
  · rintro (below | ⟨_, less⟩)
    · exact absurd agree below.not_agree
    · exact less
  · intro less
    exact Or.inr ⟨agree, less⟩

/-- Where two words differ behind the end of a third one, its key is not between
the keys of the two. -/
def KeyedApart (word : ι → List α) (key : ι → κ) (s : Set ι) : Prop :=
  ∀ a ∈ s, ∀ b ∈ s, ∀ c ∈ s, Below (word a) (word c) → word b <+: word a → word b <+: word c →
    key a < key b ∨ key b < key c

/-- Elements whose words are in order are told apart by a third one. -/
theorem KeyedApart.split_of_below {word : ι → List α} {key : ι → κ} {s : Set ι}
    (apart : KeyedApart word key s) {a b c : ι} (inA : a ∈ s) (inB : b ∈ s) (inC : c ∈ s)
    (below : Below (word a) (word c)) :
    WordKeyBefore word key a b ∨ WordKeyBefore word key b c := by
  rcases below.split (word b) with left | right | ⟨ofA, ofC⟩
  · exact Or.inl (Or.inl left)
  · exact Or.inr (Or.inl right)
  · rcases apart a inA b inB c inC below ofA ofC with less | more
    · exact Or.inl (Or.inr ⟨Or.inr ofA, less⟩)
    · exact Or.inr (Or.inr ⟨Or.inl ofC, more⟩)

/-- Elements in the order of their keys are told apart by a third one. -/
theorem KeyedApart.split_of_agree {word : ι → List α} {key : ι → κ} {s : Set ι}
    (apart : KeyedApart word key s) {a b c : ι} (inA : a ∈ s) (inB : b ∈ s) (inC : c ∈ s)
    (agree : Agree (word a) (word c)) (less : key a < key c) :
    WordKeyBefore word key a b ∨ WordKeyBefore word key b c := by
  rcases below_trichotomy (word a) (word b) with belowB | agreeA | aboveB
  · exact Or.inl (Or.inl belowB)
  · rcases below_trichotomy (word b) (word c) with belowC | agreeC | aboveC
    · exact Or.inr (Or.inl belowC)
    · rcases lt_or_ge (key a) (key b) with early | late
      · exact Or.inl (Or.inr ⟨agreeA, early⟩)
      · exact Or.inr (Or.inr ⟨agreeC, lt_of_le_of_lt late less⟩)
    · rcases aboveC.split (word a) with wrong | right | ⟨ofC, ofB⟩
      · exact absurd agree.symm wrong.not_agree
      · exact Or.inl (Or.inl right)
      · rcases apart c inC a inA b inB aboveC ofC ofB with wrong | early
        · exact absurd wrong (lt_asymm less)
        · exact Or.inl (Or.inr ⟨agreeA, early⟩)
  · rcases aboveB.split (word c) with left | wrong | ⟨ofB, ofA⟩
    · exact Or.inr (Or.inl left)
    · exact absurd agree.symm wrong.not_agree
    · rcases apart b inB c inC a inA aboveB ofB ofA with late | wrong
      · exact Or.inr (Or.inr ⟨Or.inr ofB, late⟩)
      · exact absurd wrong (lt_asymm less)

/-- The order of words and keys splits exactly when the keys are apart. -/
theorem splitOn_wordKeyBefore_iff (word : ι → List α) (key : ι → κ) (s : Set ι) :
    SplitOn (WordKeyBefore word key) s ↔ KeyedApart word key s := by
  constructor
  · intro split a inA b inB c inC below ofA ofC
    rcases split a inA b inB c inC (Or.inl below) with (belowB | ⟨_, less⟩) | belowC | ⟨_, less⟩
    · exact absurd (Or.inr ofA) belowB.not_agree
    · exact Or.inl less
    · exact absurd (Or.inl ofC) belowC.not_agree
    · exact Or.inr less
  · rintro apart a inA b inB c inC (below | ⟨agree, less⟩)
    · exact apart.split_of_below inA inB inC below
    · exact apart.split_of_agree inA inB inC agree less

end Keys

end Sorting
