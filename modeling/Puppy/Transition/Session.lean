import Puppy.Transition.Loop
import Mathlib.Data.List.Forall2

/-!
# Sessions

A session is a list of requests served one behind the other.  What a session
means is given by a function that serves a single request in a state; what a
program does with it is a relation between states of its own.  The file supplies
the rule by which a relation that follows the function on every single request
follows it over a session.
-/

namespace Transition

universe u v w x y

variable {ι : Type u} {α : Type v} {β : Type w} {γ : Type x} {ω : Type y}

/-- Serve all requests of a session. -/
def serveAll (serve : ι → α → β × α) : List ι → α → List β × α
  | [], state => ([], state)
  | request :: requests, state =>
      let served := serve request state
      let rest := serveAll serve requests served.2
      (served.1 :: rest.1, rest.2)

@[simp]
theorem serveAll_nil (serve : ι → α → β × α) (state : α) :
    serveAll serve [] state = ([], state) :=
  rfl

@[simp]
theorem serveAll_cons (serve : ι → α → β × α) (request : ι) (requests : List ι) (state : α) :
    serveAll serve (request :: requests) state =
      ((serve request state).1 :: (serveAll serve requests (serve request state).2).1,
        (serveAll serve requests (serve request state).2).2) :=
  rfl

/-- Every request gets its answer. -/
theorem length_serveAll (serve : ι → α → β × α) (requests : List ι) (state : α) :
    (serveAll serve requests state).1.length = requests.length := by
  induction requests generalizing state with
  | nil => rfl
  | cons request requests ih => rw [serveAll_cons, List.length_cons, ih, List.length_cons]

/-- Requests may be prepared one by one. -/
theorem serveAll_map {κ : Type u} (serve : ι → α → β × α) (prepare : κ → ι) (requests : List κ)
    (state : α) :
    serveAll (fun request => serve (prepare request)) requests state =
      serveAll serve (requests.map prepare) state := by
  induction requests generalizing state with
  | nil => rfl
  | cons request requests ih =>
      rw [serveAll_cons, List.map_cons, serveAll_cons, ih]

/-- What every request leaves alone is left alone by a session. -/
theorem serveAll_view {κ : Sort*} (serve : ι → α → β × α) (view : α → κ) {requests : List ι}
    (kept : ∀ request ∈ requests, ∀ state, view (serve request state).2 = view state)
    (state : α) : view (serveAll serve requests state).2 = view state := by
  induction requests generalizing state with
  | nil => rfl
  | cons request requests ih =>
      rw [serveAll_cons, ih fun other member => kept other (List.mem_cons_of_mem _ member)]
      exact kept request List.mem_cons_self state

/-- A session of a program, with what each request shows. -/
inductive Served (step : γ → ι → ω → γ → Prop) : γ → List ι → List ω → γ → Prop
  | nil {state : γ} : Served step state [] [] state
  | cons {state next last : γ} {request : ι} {requests : List ι} {seen : ω} {others : List ω}
      (first : step state request seen next) (rest : Served step next requests others last) :
      Served step state (request :: requests) (seen :: others) last

/-- A session can be followed by another. -/
theorem Served.append {step : γ → ι → ω → γ → Prop} {state next last : γ}
    {requests others : List ι} {seen more : List ω} (first : Served step state requests seen next)
    (second : Served step next others more last) :
    Served step state (requests ++ others) (seen ++ more) last := by
  induction first with
  | nil => exact second
  | cons step _ ih => exact .cons step (ih second)

/-- Every admissible request is served, and what it shows agrees with what the
function gives. -/
def Refines (step : γ → ι → ω → γ → Prop) (serve : ι → α → β × α) (admissible : ι → Prop)
    (related : α → γ → Prop) (agree : β → ω → Prop) : Prop :=
  ∀ (request : ι) (meaning : α) (state : γ), admissible request → related meaning state →
    ∃ seen next, step state request seen next ∧ agree (serve request meaning).1 seen ∧
      related (serve request meaning).2 next

/-- A relation that follows the function on every request follows it over every
session. -/
theorem Refines.served {step : γ → ι → ω → γ → Prop} {serve : ι → α → β × α}
    {admissible : ι → Prop} {related : α → γ → Prop} {agree : β → ω → Prop}
    (refines : Refines step serve admissible related agree) {requests : List ι}
    (all : ∀ request ∈ requests, admissible request) {meaning : α} {state : γ}
    (initial : related meaning state) :
    ∃ seen last, Served step state requests seen last ∧
      List.Forall₂ agree (serveAll serve requests meaning).1 seen ∧
      related (serveAll serve requests meaning).2 last := by
  induction requests generalizing meaning state with
  | nil => exact ⟨[], state, .nil, .nil, initial⟩
  | cons request requests ih =>
      obtain ⟨seen, next, first, agrees, kept⟩ :=
        refines request meaning state (all request List.mem_cons_self) initial
      obtain ⟨others, last, rest, agreeing, final⟩ :=
        ih (fun other member => all other (List.mem_cons_of_mem _ member)) kept
      exact ⟨seen :: others, last, .cons first rest, .cons agrees agreeing, final⟩

/-! ## Calls that come back -/

/-- What a call returns when it is given enough passes, if it ever returns. -/
noncomputable def eventual {σ : Type u} {ρ : Type v} (call : Nat → Pass σ ρ) : Option ρ := by
  classical
  exact if returns : ∃ result fuel, call fuel = .leave result then some returns.choose else none

/-- A call that returns the same value whenever it returns, returns it. -/
theorem eventual_eq {σ : Type u} {ρ : Type v} {call : Nat → Pass σ ρ}
    (unique : ∀ {m n first second}, call m = .leave first → call n = .leave second →
      first = second)
    {fuel : Nat} {result : ρ} (left : call fuel = .leave result) : eventual call = some result := by
  have returns : ∃ result fuel, call fuel = .leave result := ⟨result, fuel, left⟩
  obtain ⟨other, chosen⟩ := returns.choose_spec
  rw [eventual, dif_pos returns, unique chosen left]

end Transition
