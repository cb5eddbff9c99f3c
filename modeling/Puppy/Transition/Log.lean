import Mathlib.Data.List.Basic

/-!
# Rules about logs

A rule says which entry may come behind which earlier ones.  A log obeys it when
every entry of it may come where it stands.  The file supplies the rules by
which a log is taken apart.
-/

namespace Transition

universe u

variable {α : Type u}

/-- Every entry of the log is allowed behind the entries before it. -/
def Obeys (rule : List α → α → Prop) (log : List α) : Prop :=
  ∀ before entry after, log = before ++ entry :: after → rule before entry

namespace Obeys

variable {rule : List α → α → Prop} {entry : α} {log more : List α}

@[simp]
theorem nil : Obeys rule [] := by
  intro before entry after split
  simp at split

@[simp]
theorem cons :
    Obeys rule (entry :: log) ↔
      rule [] entry ∧ Obeys (fun before => rule (entry :: before)) log := by
  constructor
  · intro obeys
    constructor
    · exact obeys [] entry log rfl
    · intro before other after split
      exact obeys (entry :: before) other after (by rw [split, List.cons_append])
  · rintro ⟨first, rest⟩ before other after split
    cases before with
    | nil =>
        cases split
        exact first
    | cons head before =>
        cases split
        exact rest before other after rfl

theorem append :
    Obeys rule (log ++ more) ↔
      Obeys rule log ∧ Obeys (fun before => rule (log ++ before)) more := by
  induction log generalizing rule with
  | nil => simp
  | cons first rest ih => simp only [List.cons_append, cons, ih, and_assoc]

/-- Entries that are always allowed. -/
theorem of_forall (always : ∀ entry ∈ log, ∀ before, rule before entry) : Obeys rule log := by
  rintro before entry after rfl
  exact always entry (by simp) before

end Obeys

end Transition
