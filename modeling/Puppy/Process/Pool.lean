import Puppy.Process.Script
import Puppy.Transition.Runs
import Mathlib.Logic.Function.Basic

/-!
# Scripts that share a kernel

Any number of processes run a script each.  The kernel answers their calls one at
a time in whatever order the scheduler picks, may work on a call before it
answers it, and may end a process at any moment.  When every script follows a
discipline, and a view of the kernel by stages is kept wherever the disciplines
move, the view holds in every state the pool reaches.
-/

namespace Process

open Transition

universe u v w x y z

/-- A run that was restricted is a run. -/
theorem runs_any {σ : Type u} {ε : Type v} {moves : σ → ε → σ → Prop} {allowed : σ → ε → Prop}
    {first last : σ} (run : Runs moves allowed first last) : Runs moves anyEvent first last := by
  induction run with
  | refl => exact .refl
  | step _ move _ ih => exact ih.next move

/-- What a kernel does about a process. -/
structure KernelSpec (κ : Type u) (ι : Type z) (Call : Type v) (Answer : Call → Type w) where
  /-- It answers a call. -/
  Serves : κ → ι → (request : Call) → Answer request → κ → Prop
  /-- It works on a call that it has yet to answer. -/
  Prepares : κ → ι → Call → κ → Prop
  /-- It ends the process. -/
  Ends : κ → ι → κ → Prop

/-- The kernel and the scripts of the processes that have not ended, each with
results of its own type. -/
structure Pool (κ : Type u) {ι : Type z} (Call : Type v) (Answer : Call → Type w)
    (α : ι → Type x) where
  kernel : κ
  code : (i : ι) → Option (Script Call Answer (α i))

namespace Pool

/-- What happens to one process. -/
inductive Event (ι : Type z) (Call : Type v) where
  | answered (i : ι) (request : Call)
  | prepared (i : ι) (request : Call)
  | ended (i : ι)

variable {κ : Type u} {ι : Type z} [DecidableEq ι] {Call : Type v} {Answer : Call → Type w}
  {α : ι → Type x}

/-- One step of one process. -/
inductive Steps (kernel : KernelSpec κ ι Call Answer) :
    Pool κ Call Answer α → Event ι Call → Pool κ Call Answer α → Prop
  | answered {pool : Pool κ Call Answer α} {i : ι} {request : Call}
      {next : Answer request → Script Call Answer (α i)} {answer : Answer request} {after : κ}
      (pending : pool.code i = some (.call request next))
      (serves : kernel.Serves pool.kernel i request answer after) :
      Steps kernel pool (.answered i request)
        { kernel := after, code := Function.update pool.code i (some (next answer)) }
  | prepared {pool : Pool κ Call Answer α} {i : ι} {request : Call}
      {next : Answer request → Script Call Answer (α i)} {after : κ}
      (pending : pool.code i = some (.call request next))
      (prepares : kernel.Prepares pool.kernel i request after) :
      Steps kernel pool (.prepared i request) { pool with kernel := after }
  | ended {pool : Pool κ Call Answer α} {i : ι} {after : κ}
      (ends : kernel.Ends pool.kernel i after) :
      Steps kernel pool (.ended i)
        { kernel := after, code := Function.update pool.code i none }

variable {Stage : Type y}

/-- A view of the kernel by the stages of its processes is kept by every step
that the disciplines of the processes describe. -/
structure Keeps (kernel : KernelSpec κ ι Call Answer)
    (discipline : ι → Discipline Call Answer Stage) (allowed : κ → Event ι Call → Prop)
    (view : κ → (ι → Stage) → Prop) : Prop where
  answered : ∀ {before after : κ} {stage : ι → Stage} {i : ι} {request : Call}
    {answer : Answer request}, view before stage → (discipline i).Permits (stage i) request →
    allowed before (.answered i request) → kernel.Serves before i request answer after →
    ∃ last, (discipline i).Moves (stage i) request answer last ∧
      view after (Function.update stage i last)
  prepared : ∀ {before after : κ} {stage : ι → Stage} {i : ι} {request : Call},
    view before stage → (discipline i).Permits (stage i) request →
    allowed before (.prepared i request) → kernel.Prepares before i request after →
    ∃ last, (discipline i).Prepares (stage i) request last ∧
      view after (Function.update stage i last)
  ended : ∀ {before after : κ} {stage : ι → Stage} {i : ι}, view before stage →
    allowed before (.ended i) → kernel.Ends before i after →
    ∃ last, view after (Function.update stage i last)

/-- Every process that has not ended follows its discipline from a stage on, and
the view of the kernel by these stages holds. -/
def Tracked (discipline : ι → Discipline Call Answer Stage) (post : (i : ι) → α i → Stage → Prop)
    (view : κ → (ι → Stage) → Prop) (pool : Pool κ Call Answer α) (stage : ι → Stage) : Prop :=
  view pool.kernel stage ∧
    ∀ i script, pool.code i = some script → Follows (discipline i) (post i) script (stage i)

variable {kernel : KernelSpec κ ι Call Answer} {discipline : ι → Discipline Call Answer Stage}
  {allowed : κ → Event ι Call → Prop} {view : κ → (ι → Stage) → Prop}
  {post : (i : ι) → α i → Stage → Prop}

/-- The other processes are where they were. -/
private theorem follows_update {code : (i : ι) → Option (Script Call Answer (α i))}
    {stage : ι → Stage} {i : ι} {now : Option (Script Call Answer (α i))} {last : Stage}
    (others : ∀ j script, code j = some script →
      Follows (discipline j) (post j) script (stage j))
    (here : ∀ script, now = some script → Follows (discipline i) (post i) script last)
    (j : ι) (script : Script Call Answer (α j))
    (running : Function.update code i now j = some script) :
    Follows (discipline j) (post j) script (Function.update stage i last j) := by
  by_cases self : j = i
  · subst self
    rw [Function.update_self] at running ⊢
    exact here script running
  · rw [Function.update_of_ne self] at running ⊢
    exact others j script running

/-- One step keeps track of the stages. -/
theorem Tracked.step (keeps : Keeps kernel discipline allowed view)
    {pool next : Pool κ Call Answer α} {event : Event ι Call} {stage : ι → Stage}
    (tracked : Tracked discipline post view pool stage) (step : Steps kernel pool event next)
    (permitted : allowed pool.kernel event) :
    ∃ stages, Tracked discipline post view next stages := by
  obtain ⟨viewed, follows⟩ := tracked
  cases step with
  | @answered i request script answer after pending serves =>
      have here := follows i _ pending
      obtain ⟨last, moves, kept⟩ := keeps.answered viewed here.1 permitted serves
      refine ⟨_, kept, ?_⟩
      apply follows_update follows
      rintro _ ⟨⟩
      exact here.2 answer last moves
  | @prepared i request script after pending prepares =>
      have here := follows i _ pending
      obtain ⟨last, moves, kept⟩ := keeps.prepared viewed here.1 permitted prepares
      refine ⟨_, kept, ?_⟩
      intro j other running
      by_cases self : j = i
      · subst self
        cases pending.symm.trans running
        rw [Function.update_self]
        exact here.prepared moves
      · rw [Function.update_of_ne self]
        exact follows j other running
  | ended ends =>
      obtain ⟨last, kept⟩ := keeps.ended viewed permitted ends
      refine ⟨_, kept, ?_⟩
      apply follows_update follows
      rintro _ ⟨⟩

/-- A whole run keeps track of the stages. -/
theorem Tracked.run (keeps : Keeps kernel discipline allowed view)
    {first last : Pool κ Call Answer α}
    (run : Runs (Steps kernel) (fun pool event => allowed pool.kernel event) first last)
    {stage : ι → Stage} (tracked : Tracked discipline post view first stage) :
    ∃ stages, Tracked discipline post view last stages := by
  apply run.invariant ⟨stage, tracked⟩
  rintro before event after step permitted ⟨stages, tracks⟩
  exact tracks.step keeps step permitted

/-- A process goes on as its script is confined, whatever the kernel and the other
processes do. -/
theorem follows_of_run {kind : Call → Prop} {i : ι} {goal : α i → Unit → Prop}
    {first last : Pool κ Call Answer α} (run : Runs (Steps kernel) anyEvent first last)
    (starts : ∀ script, first.code i = some script →
      Follows (Discipline.only kind) goal script ()) :
    ∀ script, last.code i = some script → Follows (Discipline.only kind) goal script () := by
  induction run with
  | refl => exact starts
  | @step before event after _ step _ follows =>
      have moved {j : ι} {now : Option (Script Call Answer (α j))}
          (here : ∀ same : j = i, ∀ script, same ▸ now = some script →
            Follows (Discipline.only kind) goal script ()) :
          ∀ script, Function.update before.code j now i = some script →
            Follows (Discipline.only kind) goal script () := by
        intro script running
        by_cases self : j = i
        · subst self
          rw [Function.update_self] at running
          exact here rfl script running
        · rw [Function.update_of_ne (Ne.symm self)] at running
          exact follows script running
      cases step with
      | answered waits _ =>
          apply moved
          rintro rfl script ⟨⟩
          exact (follows _ waits).2 _ () trivial
      | prepared => exact follows
      | ended _ =>
          apply moved
          rintro rfl script ⟨⟩

end Pool

end Process
