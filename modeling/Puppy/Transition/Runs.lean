import Mathlib.Logic.Basic

/-!
# Runs of a system of processes

A system moves from state to state by labelled events, one at a time, in
whatever order the scheduler picks.  A run may be restricted to events that are
allowed in the state they happen in.  The file supplies the rules used about
such runs: invariants, and building a run event by event.
-/

namespace Transition

universe u v

variable {σ : Type u} {ε : Type v}

/-- `last` is reached from `first` by moves all of which are allowed. -/
inductive Runs (moves : σ → ε → σ → Prop) (allowed : σ → ε → Prop) (first : σ) : σ → Prop
  | refl : Runs moves allowed first first
  | step {middle last : σ} {event : ε} (before : Runs moves allowed first middle)
      (move : moves middle event last) (permitted : allowed middle event) :
      Runs moves allowed first last

/-- Every event is allowed. -/
def anyEvent (_ : σ) (_ : ε) : Prop := True

namespace Runs

variable {moves : σ → ε → σ → Prop} {allowed : σ → ε → Prop} {first middle last : σ}

/-- What holds at the start and is kept by every allowed move holds throughout. -/
theorem invariant {holds : σ → Prop} (run : Runs moves allowed first last)
    (initial : holds first)
    (kept : ∀ state event next, moves state event next → allowed state event →
      holds state → holds next) : holds last := by
  induction run with
  | refl => exact initial
  | step _ move permitted ih => exact kept _ _ _ move permitted ih

/-- A run can be followed by another. -/
theorem trans (before : Runs moves allowed first middle) (after : Runs moves allowed middle last) :
    Runs moves allowed first last := by
  induction after with
  | refl => exact before
  | step _ move permitted ih => exact ih.step move permitted

/-- One more event of an unrestricted run. -/
theorem next {event : ε} (before : Runs moves anyEvent first middle)
    (move : moves middle event last) : Runs moves anyEvent first last :=
  .step before move trivial

end Runs

end Transition
