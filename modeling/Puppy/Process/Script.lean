import Mathlib.Logic.Basic

/-!
# Programs that make calls

A script is a program seen from outside: it makes calls, one at a time, and goes
on with their answers until it is done.  What a program may call and what it
knows from the answers is a discipline, a transition system of stages.  The
judgement `Follows` says of a script that it keeps to a discipline whatever is
answered, and comes with a rule for each way scripts are put together.
-/

namespace Process

universe u v w x y

/-- A program that makes calls and goes on with their answers. -/
inductive Script (Call : Type u) (Answer : Call → Type v) (α : Type w) where
  | done (result : α)
  | call (request : Call) (next : Answer request → Script Call Answer α)

namespace Script

variable {Call : Type u} {Answer : Call → Type v} {α : Type w} {β : Type x}

/-- Go on with the result of a script. -/
def bind (script : Script Call Answer α) (rest : α → Script Call Answer β) :
    Script Call Answer β :=
  match script with
  | .done result => rest result
  | .call request next => .call request fun answer => (next answer).bind rest

/-- The script of one call. -/
def make (request : Call) : Script Call Answer (Answer request) :=
  .call request .done

instance : Monad (Script Call Answer) where
  pure := .done
  bind := Script.bind

@[simp]
theorem pure_eq_done (result : α) : (pure result : Script Call Answer α) = .done result :=
  rfl

@[simp]
theorem bind_eq_bind {α β : Type w} (script : Script Call Answer α)
    (rest : α → Script Call Answer β) : (script >>= rest) = script.bind rest :=
  rfl

@[simp]
theorem done_bind (result : α) (rest : α → Script Call Answer β) :
    (done result).bind rest = rest result :=
  rfl

@[simp]
theorem make_bind (request : Call) (rest : Answer request → Script Call Answer β) :
    (make request).bind rest = .call request rest :=
  rfl

/-! ## Calls that are made -/

/-- Whatever is answered, the script makes only calls of this kind. -/
def Makes (kind : Call → Prop) : Script Call Answer α → Prop
  | .done _ => True
  | .call request next => kind request ∧ ∀ answer, (next answer).Makes kind

theorem Makes.bind {kind : Call → Prop} {script : Script Call Answer α}
    {rest : α → Script Call Answer β} (first : script.Makes kind)
    (others : ∀ result, (rest result).Makes kind) : (script.bind rest).Makes kind := by
  induction script with
  | done result => exact others result
  | call request next ih => exact ⟨first.1, fun answer => ih answer (first.2 answer)⟩

theorem Makes.mono {kind other : Call → Prop} {script : Script Call Answer α}
    (makes : script.Makes kind) (weaker : ∀ request, kind request → other request) :
    script.Makes other := by
  induction script with
  | done result => trivial
  | call request next ih =>
      exact ⟨weaker request makes.1, fun answer => ih answer (makes.2 answer)⟩

end Script

/-! ## Disciplines -/

/-- The stages a program goes through.  A call that takes some time may move it
to another stage before it is answered; it remains permitted there, and what can
happen then could have happened from the start. -/
structure Discipline (Call : Type u) (Answer : Call → Type v) (Stage : Type w) where
  /-- The calls a program may make in a stage. -/
  Permits : Stage → Call → Prop
  /-- A call that is not answered yet. -/
  Prepares : Stage → Call → Stage → Prop
  /-- A call with its answer. -/
  Moves : Stage → (request : Call) → Answer request → Stage → Prop
  permits_of_prepares : ∀ {stage request after}, Prepares stage request after →
    Permits stage request → Permits after request
  moves_of_prepares : ∀ {stage request after answer last}, Prepares stage request after →
    Moves after request answer last → Moves stage request answer last

section Follows

variable {Call : Type u} {Answer : Call → Type v} {Stage : Type w} {α : Type x} {β : Type y}
  {discipline : Discipline Call Answer Stage}

/-- From a stage on a script makes only the calls that are permitted, and comes
to its result in a stage as described. -/
def Follows (discipline : Discipline Call Answer Stage) (post : α → Stage → Prop) :
    Script Call Answer α → Stage → Prop
  | .done result, stage => post result stage
  | .call request next, stage =>
      discipline.Permits stage request ∧
        ∀ answer after, discipline.Moves stage request answer after →
          Follows discipline post (next answer) after

variable {post : α → Stage → Prop}

theorem Follows.mono {weaker : α → Stage → Prop} {script : Script Call Answer α} :
    ∀ {stage : Stage}, Follows discipline post script stage →
      (∀ result last, post result last → weaker result last) →
      Follows discipline weaker script stage := by
  induction script with
  | done result =>
      intro stage follows implies
      exact implies result stage follows
  | call request next ih =>
      intro stage follows implies
      refine ⟨follows.1, ?_⟩
      intro answer after moves
      exact ih answer (follows.2 answer after moves) implies

/-- Scripts are followed one after the other. -/
theorem Follows.bind {goal : β → Stage → Prop} {script : Script Call Answer α}
    {rest : α → Script Call Answer β} :
    ∀ {stage : Stage}, Follows discipline post script stage →
      (∀ result last, post result last → Follows discipline goal (rest result) last) →
      Follows discipline goal (script.bind rest) stage := by
  induction script with
  | done result =>
      intro stage follows continues
      exact continues result stage follows
  | call request next ih =>
      intro stage follows continues
      refine ⟨follows.1, ?_⟩
      intro answer after moves
      exact ih answer (follows.2 answer after moves) continues

/-- Calls that leave the stage as it is may be made in any number. -/
theorem Script.Makes.follows {kind : Call → Prop} {script : Script Call Answer α} {stage : Stage}
    (makes : script.Makes kind)
    (permitted : ∀ request, kind request → discipline.Permits stage request)
    (stays : ∀ request answer after, kind request →
      discipline.Moves stage request answer after → after = stage) :
    Follows discipline (fun _ last => last = stage) script stage := by
  induction script with
  | done result => rfl
  | call request next ih =>
      refine ⟨permitted request makes.1, ?_⟩
      intro answer after moves
      rw [stays request answer after makes.1 moves]
      exact ih answer (makes.2 answer)

/-- The discipline of a single stage, which says of each call whether it may be
made. -/
def Discipline.only (kind : Call → Prop) : Discipline Call Answer Unit where
  Permits _ request := kind request
  Prepares _ _ _ := True
  Moves _ _ _ _ := True
  permits_of_prepares _ permits := permits
  moves_of_prepares _ _ := trivial

/-- What a script makes of calls, whatever it returns. -/
theorem Script.Makes.only {kind : Call → Prop} {goal : α → Unit → Prop}
    {script : Script Call Answer α} (makes : script.Makes kind)
    (returns : ∀ result, goal result ()) : Follows (Discipline.only kind) goal script () := by
  apply (makes.follows (fun _ permitted => permitted) fun _ _ _ _ _ => rfl).mono
  intro result _ _
  exact returns result

/-- A call that is waiting for its answer is still followed. -/
theorem Follows.prepared {request : Call} {next : Answer request → Script Call Answer α}
    {stage after : Stage} (follows : Follows discipline post (.call request next) stage)
    (prepares : discipline.Prepares stage request after) :
    Follows discipline post (.call request next) after := by
  constructor
  · exact discipline.permits_of_prepares prepares follows.1
  · intro answer last moves
    exact follows.2 answer last (discipline.moves_of_prepares prepares moves)

end Follows

end Process
