import Mathlib.Logic.Basic

/-!
# Loops as bodies

A `while` loop whose exits carry a value is presented by its body: one pass
either goes round again from a new state or leaves with a result.  Running a
body for a bounded number of passes is executable, and an unbounded run is the
family of its bounded prefixes.  The file supplies the rules every proof about
such a loop uses: splitting a run, invariants, termination by a measure, and
simulation of one body by another.
-/

namespace Transition

universe u v w x

/-- The outcome of one pass through a loop body. -/
inductive Pass (σ : Type u) (ρ : Type v) where
  | again (state : σ)
  | leave (result : ρ)

/-- A loop body: one pass from a loop state. -/
abbrev Body (σ : Type u) (ρ : Type v) := σ → Pass σ ρ

variable {σ : Type u} {ρ : Type v}

/-- Run at most `n` passes of `body`, stopping at the first exit. -/
def run (body : Body σ ρ) : Nat → σ → Pass σ ρ
  | 0, state => .again state
  | n + 1, state =>
      match body state with
      | .again next => run body n next
      | .leave result => .leave result

/-- The state a run is in or was left in, when its exits carry one. -/
def Pass.view : Pass σ (ρ × σ) → σ
  | .again state => state
  | .leave result => result.2

/-- The value a run was left with, when its exits carry a state as well. -/
def Pass.returned : Pass σ (ρ × σ) → Option ρ
  | .again _ => none
  | .leave result => some result.1

@[simp]
theorem run_zero (body : Body σ ρ) (state : σ) : run body 0 state = .again state :=
  rfl

theorem run_succ_of_again {body : Body σ ρ} {state next : σ}
    (pass : body state = .again next) (n : Nat) :
    run body (n + 1) state = run body n next := by
  simp only [run, pass]

theorem run_succ_of_leave {body : Body σ ρ} {state : σ} {result : ρ}
    (pass : body state = .leave result) (n : Nat) :
    run body (n + 1) state = .leave result := by
  simp only [run, pass]

/-- Running `m` passes and then `n` more is running `m + n` passes. -/
theorem run_add_of_again {body : Body σ ρ} {m : Nat} {state middle : σ}
    (first : run body m state = .again middle) (n : Nat) :
    run body (m + n) state = run body n middle := by
  induction m generalizing state with
  | zero =>
      cases first
      rw [Nat.zero_add]
  | succ m ih =>
      rw [Nat.succ_add]
      cases pass : body state with
      | again next =>
          rw [run_succ_of_again pass] at first ⊢
          exact ih first
      | leave result =>
          rw [run_succ_of_leave pass] at first
          contradiction

/-- An exit is never revised by allowing more passes. -/
theorem run_add_of_leave {body : Body σ ρ} {m : Nat} {state : σ} {result : ρ}
    (first : run body m state = .leave result) (n : Nat) :
    run body (m + n) state = .leave result := by
  induction m generalizing state with
  | zero => cases first
  | succ m ih =>
      rw [Nat.succ_add]
      cases pass : body state with
      | again next =>
          rw [run_succ_of_again pass] at first ⊢
          exact ih first
      | leave other =>
          rw [run_succ_of_leave pass] at first ⊢
          exact first

/-- Bounded runs that exit agree, whatever their bounds. -/
theorem run_leave_unique {body : Body σ ρ} {m n : Nat} {state : σ}
    {first second : ρ} (firstRun : run body m state = .leave first)
    (secondRun : run body n state = .leave second) : first = second := by
  have lifted := run_add_of_leave firstRun n
  rw [Nat.add_comm, run_add_of_leave secondRun m] at lifted
  cases lifted
  rfl

/-- A run leaves exactly when it reaches a state from which one pass leaves. -/
theorem run_eq_leave_exists_last {body : Body σ ρ} {n : Nat} {state : σ}
    {result : ρ} (exit : run body n state = .leave result) :
    ∃ m last, m < n ∧ run body m state = .again last ∧
      body last = .leave result := by
  induction n generalizing state with
  | zero => cases exit
  | succ n ih =>
      cases pass : body state with
      | again next =>
          rw [run_succ_of_again pass] at exit
          obtain ⟨m, last, bound, reached, left⟩ := ih exit
          refine ⟨m + 1, last, by omega, ?_, left⟩
          rw [run_succ_of_again pass]
          exact reached
      | leave other =>
          rw [run_succ_of_leave pass] at exit
          cases exit
          exact ⟨0, state, Nat.succ_pos n, rfl, pass⟩

/-! ## Invariants -/

/-- The outcome of a pass satisfies an invariant if it goes round, and a
postcondition if it leaves. -/
def Pass.Holds (invariant : σ → Prop) (post : ρ → Prop) : Pass σ ρ → Prop
  | .again state => invariant state
  | .leave result => post result

/-- What every single pass keeps, a whole run keeps. -/
theorem run_kept {body : Body σ ρ} {holds : Pass σ ρ → Prop}
    (kept : ∀ state, holds (.again state) → holds (body state)) (n : Nat) {state : σ}
    (initial : holds (.again state)) : holds (run body n state) := by
  induction n generalizing state with
  | zero => exact initial
  | succ n ih =>
      have outcome := kept state initial
      cases pass : body state with
      | again next =>
          rw [pass] at outcome
          rw [run_succ_of_again pass]
          exact ih outcome
      | leave result =>
          rw [pass] at outcome
          rw [run_succ_of_leave pass]
          exact outcome

/-- What every single pass establishes from the invariant, a whole run
establishes. -/
theorem run_holds {body : Body σ ρ} {invariant : σ → Prop} {post : ρ → Prop}
    (step : ∀ state, invariant state → (body state).Holds invariant post) (n : Nat)
    {state : σ} (initial : invariant state) : (run body n state).Holds invariant post :=
  run_kept step n initial

/-- What the first pass establishes and every later one keeps holds in the end. -/
theorem run_succ_holds {body : Body σ ρ} {invariant : σ → Prop} {post : ρ → Prop}
    (step : ∀ state, invariant state → (body state).Holds invariant post) (n : Nat)
    {state : σ} (first : (body state).Holds invariant post) :
    (run body (n + 1) state).Holds invariant post := by
  cases pass : body state with
  | again next =>
      rw [pass] at first
      rw [run_succ_of_again pass]
      exact run_holds step n first
  | leave result =>
      rw [pass] at first
      rw [run_succ_of_leave pass]
      exact first

/-- Total correctness: when every pass from the invariant either leaves with
the postcondition or goes round with a smaller measure, the run leaves. -/
theorem run_leaves_of_measure (body : Body σ ρ) (invariant : σ → Prop)
    (post : ρ → Prop) (measure : σ → Nat)
    (progress : ∀ state, invariant state →
      (∃ result, body state = .leave result ∧ post result) ∨
      ∃ next, body state = .again next ∧ invariant next ∧
        measure next < measure state)
    {state : σ} (initial : invariant state) :
    ∃ n result, n ≤ measure state + 1 ∧ run body n state = .leave result ∧
      post result := by
  generalize bound : measure state = k
  induction k using Nat.strongRecOn generalizing state with
  | ind k ih =>
      rcases progress state initial with ⟨result, left, holds⟩ | ⟨next, pass, kept, smaller⟩
      · exact ⟨1, result, by omega, run_succ_of_leave left 0, holds⟩
      · obtain ⟨n, result, fuel, exit, holds⟩ := ih (measure next) (bound ▸ smaller) kept rfl
        refine ⟨n + 1, result, by omega, ?_, holds⟩
        rw [run_succ_of_again pass]
        exact exit

/-! ## Leaving -/

/-- Given enough passes, the loop leaves with a result. -/
def Leaves (body : Body σ ρ) (state : σ) (result : ρ) : Prop :=
  ∃ n, run body n state = .leave result

theorem Leaves.unique {body : Body σ ρ} {state : σ} {first second : ρ}
    (left : Leaves body state first) (right : Leaves body state second) : first = second := by
  obtain ⟨_, firstRun⟩ := left
  obtain ⟨_, secondRun⟩ := right
  exact run_leave_unique firstRun secondRun

theorem leaves_of_leave {body : Body σ ρ} {state : σ} {result : ρ}
    (pass : body state = .leave result) : Leaves body state result :=
  ⟨1, run_succ_of_leave pass 0⟩

theorem leaves_of_again {body : Body σ ρ} {state next : σ} {result : ρ}
    (pass : body state = .again next) (leaves : Leaves body next result) :
    Leaves body state result := by
  obtain ⟨n, left⟩ := leaves
  exact ⟨n + 1, (run_succ_of_again pass n).trans left⟩

/-- What is left behind a pass was left from where the pass led. -/
theorem Leaves.of_again {body : Body σ ρ} {state next : σ} {result : ρ}
    (leaves : Leaves body state result) (pass : body state = .again next) :
    Leaves body next result := by
  obtain ⟨n, left⟩ := leaves
  cases n with
  | zero => cases left
  | succ n => exact ⟨n, (run_succ_of_again pass n).symm.trans left⟩

theorem Leaves.of_leave {body : Body σ ρ} {state : σ} {result last : ρ}
    (leaves : Leaves body state result) (pass : body state = .leave last) : result = last :=
  leaves.unique (leaves_of_leave pass)

/-- A run that has returned a value has left with it. -/
theorem exists_returned_and_iff {body : Body σ (ρ × σ)} {state : σ} {value : ρ}
    (post : σ → Prop) :
    (∃ n, (run body n state).returned = some value ∧ post (run body n state).view) ↔
      ∃ last, Leaves body state (value, last) ∧ post last := by
  constructor
  · rintro ⟨n, returned, holds⟩
    cases exit : run body n state with
    | again next =>
        rw [exit] at returned
        cases returned
    | leave result =>
        rw [exit] at returned holds
        cases returned
        exact ⟨result.2, ⟨n, exit⟩, holds⟩
  · rintro ⟨last, ⟨n, exit⟩, holds⟩
    exact ⟨n, by rw [exit]; rfl, by rw [exit]; exact holds⟩

theorem exists_returned_iff {body : Body σ (ρ × σ)} {state : σ} {value : ρ} :
    (∃ n, (run body n state).returned = some value) ↔
      ∃ last, Leaves body state (value, last) := by
  have both : (∃ n, (run body n state).returned = some value ∧ True) ↔
      ∃ last, Leaves body state (value, last) ∧ True :=
    exists_returned_and_iff fun _ => True
  simpa only [and_true] using both

/-- `while (condition) body`, with what is left when the condition fails. -/
def whileLoop (condition : σ → Prop) [DecidablePred condition] (exit : σ → ρ)
    (body : Body σ ρ) : Body σ ρ := fun state =>
  if condition state then body state else .leave (exit state)

/-- `do body while (condition)` -/
def doWhile (condition : σ → Prop) [DecidablePred condition] (exit : σ → ρ)
    (body : Body σ ρ) : Body σ ρ := fun state =>
  match body state with
  | .again next => if condition next then .again next else .leave (exit next)
  | .leave result => .leave result

section While

variable {condition : σ → Prop} [DecidablePred condition] {exit : σ → ρ} {body : Body σ ρ}
  {state next : σ} {result : ρ}

theorem whileLoop_of_condition (holds : condition state) :
    whileLoop condition exit body state = body state :=
  if_pos holds

theorem whileLoop_of_not_condition (fails : ¬ condition state) :
    whileLoop condition exit body state = .leave (exit state) :=
  if_neg fails

theorem doWhile_of_leave (pass : body state = .leave result) :
    doWhile condition exit body state = .leave result := by
  simp only [doWhile, pass]

theorem doWhile_of_again (pass : body state = .again next) (holds : condition next) :
    doWhile condition exit body state = .again next := by
  simp only [doWhile, pass, if_pos holds]

theorem doWhile_of_again_exit (pass : body state = .again next) (fails : ¬ condition next) :
    doWhile condition exit body state = .leave (exit next) := by
  simp only [doWhile, pass, if_neg fails]

/-- Once the condition holds, it can as well be tested behind the body. -/
theorem leaves_whileLoop_iff (entered : condition state) :
    Leaves (whileLoop condition exit body) state result ↔
      Leaves (doWhile condition exit body) state result := by
  constructor
  · rintro ⟨n, left⟩
    induction n generalizing state with
    | zero => cases left
    | succ n ih =>
        have enters : whileLoop condition exit body state = body state :=
          whileLoop_of_condition entered
        cases pass : body state with
        | leave other =>
            rw [run_succ_of_leave (enters.trans pass)] at left
            cases left
            exact leaves_of_leave (doWhile_of_leave pass)
        | again next =>
            rw [run_succ_of_again (enters.trans pass)] at left
            by_cases goes : condition next
            · exact leaves_of_again (doWhile_of_again pass goes) (ih goes left)
            · cases n with
              | zero => cases left
              | succ n =>
                  rw [run_succ_of_leave (whileLoop_of_not_condition goes)] at left
                  cases left
                  exact leaves_of_leave (doWhile_of_again_exit pass goes)
  · rintro ⟨n, left⟩
    induction n generalizing state with
    | zero => cases left
    | succ n ih =>
        have enters : whileLoop condition exit body state = body state :=
          whileLoop_of_condition entered
        cases pass : body state with
        | leave other =>
            rw [run_succ_of_leave (doWhile_of_leave pass)] at left
            cases left
            exact leaves_of_leave (enters.trans pass)
        | again next =>
            by_cases goes : condition next
            · rw [run_succ_of_again (doWhile_of_again pass goes)] at left
              exact leaves_of_again (enters.trans pass) (ih goes left)
            · rw [run_succ_of_leave (doWhile_of_again_exit pass goes)] at left
              cases left
              exact leaves_of_again (enters.trans pass)
                (leaves_of_leave (whileLoop_of_not_condition goes))

end While

/-! ## Simulation -/

/-- The outcome of a pass seen through a view of its states and results. -/
def Pass.map {τ : Type w} {ω : Type x} (states : σ → τ) (results : ρ → ω) :
    Pass σ ρ → Pass τ ω
  | .again state => .again (states state)
  | .leave result => .leave (results result)

/-- A body that is another one seen through a view runs like it. -/
theorem run_map {τ : Type w} {ω : Type x} {states : σ → τ} {results : ρ → ω}
    {first : Body σ ρ} {second : Body τ ω}
    (viewed : ∀ state, second (states state) = (first state).map states results)
    (n : Nat) (state : σ) :
    run second n (states state) = (run first n state).map states results := by
  induction n generalizing state with
  | zero => rfl
  | succ n ih =>
      have passes := viewed state
      cases pass : first state with
      | again next =>
          rw [pass] at passes
          rw [run_succ_of_again pass, run_succ_of_again passes]
          exact ih next
      | leave result =>
          rw [pass] at passes
          rw [run_succ_of_leave pass, run_succ_of_leave passes]
          rfl

/-- Two passes match when both go round in related states, both leave with
related results, or the first one gives up. -/
inductive Pass.Related {τ : Type w} {ω : Type x} (states : σ → τ → Prop)
    (results : ρ → ω → Prop) (givenUp : ρ → Pass τ ω → Prop) :
    Pass σ ρ → Pass τ ω → Prop
  | again {left : σ} {right : τ} : states left right →
      Related states results givenUp (.again left) (.again right)
  | leave {left : ρ} {right : ω} : results left right →
      Related states results givenUp (.leave left) (.leave right)
  | giveUp {left : ρ} {right : Pass τ ω} : givenUp left right →
      Related states results givenUp (.leave left) right

/-- What matches closely matches loosely. -/
theorem Pass.Related.imp {τ : Type w} {ω : Type x} {states states' : σ → τ → Prop}
    {results results' : ρ → ω → Prop} {givenUp givenUp' : ρ → Pass τ ω → Prop}
    (weakerStates : ∀ left right, states left right → states' left right)
    (weakerResults : ∀ left right, results left right → results' left right)
    (weakerGivenUp : ∀ left right, givenUp left right → givenUp' left right)
    {first : Pass σ ρ} {second : Pass τ ω}
    (related : Pass.Related states results givenUp first second) :
    Pass.Related states' results' givenUp' first second := by
  cases related with
  | again related => exact .again (weakerStates _ _ related)
  | leave related => exact .leave (weakerResults _ _ related)
  | giveUp given => exact .giveUp (weakerGivenUp _ _ given)

/-- Bodies that match pass by pass have matching runs, when giving up stays
justified while the second loop goes on. -/
theorem run_related {τ : Type w} {ω : Type x} {states : σ → τ → Prop}
    {results : ρ → ω → Prop} {givenUp : ρ → Pass τ ω → Prop} {first : Body σ ρ}
    {second : Body τ ω}
    (matching : ∀ left right, states left right →
      Pass.Related states results givenUp (first left) (second right))
    (kept : ∀ left right, givenUp left (.again right) → givenUp left (second right))
    (n : Nat) {left : σ} {right : τ} (initial : states left right) :
    Pass.Related states results givenUp (run first n left) (run second n right) := by
  induction n generalizing left right with
  | zero => exact .again initial
  | succ n ih =>
      have passes := matching left right initial
      cases secondPass : second right with
      | again nextRight =>
          rw [run_succ_of_again secondPass]
          cases firstPass : first left with
          | again nextLeft =>
              rw [firstPass, secondPass] at passes
              rw [run_succ_of_again firstPass]
              cases passes with
              | again related => exact ih related
          | leave result =>
              rw [firstPass, secondPass] at passes
              rw [run_succ_of_leave firstPass]
              cases passes with
              | giveUp given => exact .giveUp (run_kept (kept result) n given)
      | leave other =>
          rw [run_succ_of_leave secondPass]
          cases firstPass : first left with
          | again nextLeft =>
              rw [firstPass, secondPass] at passes
              cases passes
          | leave result =>
              rw [firstPass, secondPass] at passes
              rw [run_succ_of_leave firstPass]
              cases passes with
              | leave related => exact .leave related
              | giveUp given => exact .giveUp given

section Leaving

variable {τ : Type w} {ω : Type x} {states : σ → τ → Prop} {results : ρ → ω → Prop}
  {givenUp : ρ → Pass τ ω → Prop} {first : Body σ ρ} {second : Body τ ω}

/-- A loop that matches one that leaves, leaves as well. -/
theorem exists_leaves_of_related
    (matching : ∀ left right, states left right →
      Pass.Related states results givenUp (first left) (second right))
    (kept : ∀ left right, givenUp left (.again right) → givenUp left (second right))
    {left : σ} {right : τ} (initial : states left right) {other : ω}
    (leaves : Leaves second right other) :
    ∃ result, Leaves first left result ∧
      (results result other ∨ givenUp result (.leave other)) := by
  obtain ⟨n, exit⟩ := leaves
  have related := run_related matching kept n initial
  rw [exit] at related
  cases exits : run first n left with
  | again state =>
      rw [exits] at related
      cases related
  | leave result =>
      rw [exits] at related
      refine ⟨result, ⟨n, exits⟩, ?_⟩
      cases related with
      | leave ends => exact Or.inl ends
      | giveUp given => exact Or.inr given

/-- A loop that matches another one leaves with it or gives up. -/
theorem leaves_cases_of_related
    (matching : ∀ left right, states left right →
      Pass.Related states results givenUp (first left) (second right))
    (kept : ∀ left right, givenUp left (.again right) → givenUp left (second right))
    {left : σ} {right : τ} (initial : states left right) {result : ρ}
    (leaves : Leaves first left result) :
    (∃ other, Leaves second right other ∧ results result other) ∨
      ∃ n, givenUp result (run second n right) := by
  obtain ⟨n, exit⟩ := leaves
  have related := run_related matching kept n initial
  rw [exit] at related
  cases exits : run second n right with
  | again state =>
      rw [exits] at related
      cases related with
      | giveUp given => exact Or.inr ⟨n, exits ▸ given⟩
  | leave other =>
      rw [exits] at related
      cases related with
      | leave ends => exact Or.inl ⟨other, ⟨n, exits⟩, ends⟩
      | giveUp given => exact Or.inr ⟨n, exits ▸ given⟩

end Leaving

end Transition
