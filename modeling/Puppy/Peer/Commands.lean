import Puppy.Peer.Job
import Puppy.Peer.Shelf

/-!
# The single-reply commands against a file server

A command is refused for its paths, or it is performed by the device and reads
the reply that comes first.  Replies left over from before are read instead of
the reply to the request, and so it stays: the queue never gets shorter.
-/

namespace Puppy.Peer

open Transition
open Puppy.Wire Puppy.Usb Puppy.Control Puppy.Listing
open Puppy.Transfer (pathA)

universe u

variable {σ : Type u} {δ : Type u}

/-- What a command makes of a device on which replies are waiting. -/
def exchange (disk : Disk δ) (command : Command) (mail : List Answer × δ) :
    Outcome × (List Answer × δ) :=
  match refusal command with
  | some outcome => (outcome, mail)
  | none =>
      let performed := disk.perform command mail.2
      match mail.1 with
      | [] => (performed.1.outcome command, ([], performed.2))
      | first :: rest => (first.outcome command, (rest ++ [performed.1], performed.2))

/-! ## One command -/

/-- The commands with paths are one family of calls. -/
theorem call_of_path {command : Command} {request : PathRequest}
    (sends : pathRequest command = some request) (env : Env σ) (req reply : Memory UInt8)
    (state : σ) :
    command.call env req reply state =
      concludeRequest env (request.send env req state) reply command.success command.report
        command.unhandled := by
  cases command with
  | hddDel | hddRename | hddMkdir =>
      cases sends
      rfl
  | turbo | reset | ready | cancel | hddSize => cases sends

/-- A command whose paths do not fit leaves the surroundings alone. -/
theorem call_of_refusal {command : Command} (short : ShortPaths command) {outcome : Outcome}
    (refused : refusal command = some outcome) (env : Env σ) (req reply : Memory UInt8)
    (state : σ) :
    Outcome.ofCompleted (command.call env req reply state) = outcome ∧
      (command.call env req reply state).state = state := by
  unfold refusal at refused
  cases sends : pathRequest command with
  | none =>
      rw [sends] at refused
      cases refused
  | some request =>
      rw [sends] at refused
      simp only at refused
      by_cases tooLong : request.size ≥ MAXIMUM_PACKET_SIZE
      · rw [if_pos tooLong] at refused
        have long : request.computedSize ≥ MAXIMUM_PACKET_SIZE := by
          rw [PathRequest.computedSize_of_short (short request sends)]
          omega
        rw [call_of_path sends, PathRequest.send_of_tooLong long]
        exact ⟨Option.some.inj refused, rfl⟩
      · rw [if_neg tooLong] at refused
        cases refused

theorem size_lt_of_fits {command : Command} {request : PathRequest}
    (fits : refusal command = none) (sends : pathRequest command = some request) :
    request.size < MAXIMUM_PACKET_SIZE := by
  unfold refusal at fits
  rw [sends] at fits
  simp only at fits
  by_contra small
  rw [if_pos (Nat.le_of_not_lt small)] at fits
  cases fits

/-- What is not refused has short paths. -/
theorem shortPaths_of_fits {command : Command} (fits : refusal command = none) :
    ShortPaths command := by
  intro request sends path member
  have small := size_lt_of_fits fits sends
  have inside : path.length < request.size := by
    cases request with
    | hddRename src dst =>
        rw [PathRequest.paths, List.mem_cons, List.mem_singleton] at member
        rcases member with rfl | rfl <;> simp only [PathRequest.size] <;> omega
    | hddDir other | hddFileSend dir other | hddDel other | hddCreateDir other =>
        rw [PathRequest.paths, List.mem_singleton] at member
        subst member
        simp only [PathRequest.size]
        omega
  unfold MAXIMUM_PACKET_SIZE at small
  omega

/-- A command that is not refused sends a message. -/
theorem message_of_fits {command : Command} (fits : refusal command = none)
    (req : Memory UInt8) : ∃ message, command.message req = some message := by
  cases sends : pathRequest command with
  | none =>
      cases command with
      | turbo | reset | ready | cancel | hddSize => exact ⟨_, rfl⟩
      | hddDel | hddRename | hddMkdir => cases sends
  | some request =>
      have small := size_lt_of_fits fits sends
      have built := (message_of_path sends req).2
      rw [PathRequest.computedSize_of_short (shortPaths_of_fits fits request sends),
        if_neg (by omega)] at built
      exact ⟨_, built⟩

section Call

variable (disk : Disk δ) (amount : Nat → Nat) (host : Host)

/-- A command that is not refused is performed, and reads what is first on the
line behind its own reply. -/
theorem call_sent {command : Command} (fits : refusal command = none) (req reply : Memory UInt8)
    (queue : List (List UInt8)) (server : Server δ) :
    let performed := disk.perform command server.disk
    ∃ sent : Nat, command.call (Link.env (fileServer disk amount) host) req reply
        (line queue server) =
      conclude (Link.env (fileServer disk amount) host) sent [] reply
        (line (queue ++ [performed.1.message]) (resting performed.2 server.calls))
        command.success command.report command.unhandled := by
  intro performed
  obtain ⟨message, sent⟩ := message_of_fits fits req
  have written := usbBulkWrite_line disk amount host
    (understood_message (shortPaths_of_fits fits) sent) queue server
  rcases Command.call_cases (Link.env (fileServer disk amount) host) req reply
      (line queue server) command with ⟨unsent, _⟩ | ⟨other, same, course⟩
  · rw [sent] at unsent
    cases unsent
  · cases sent.symm.trans same
    have attended : server.attend disk (.command command) =
        ([performed.1.message], resting performed.2 server.calls) :=
      rfl
    rw [written, attended] at course
    exact ⟨_, course⟩

/-- A command on a line with replies that are waiting. -/
theorem call_line {command : Command} (short : ShortPaths command) (req reply : Memory UInt8)
    (waiting : List Answer) (state : δ) (calls : Nat) :
    let completed := command.call (Link.env (fileServer disk amount) host) req reply
      (line (waiting.map Answer.message) (resting state calls))
    let served := exchange disk command (waiting, state)
    Outcome.ofCompleted completed = served.1 ∧
      completed.state = line (served.2.1.map Answer.message) (resting served.2.2 calls) := by
  intro completed served
  cases refused : refusal command with
  | some outcome =>
      have result : served = (outcome, (waiting, state)) := by
        simp only [served, exchange, refused]
      rw [result]
      exact call_of_refusal short refused _ req reply _
  | none =>
      obtain ⟨sent, course⟩ := call_sent disk amount host refused req reply
        (waiting.map Answer.message) (resting state calls)
      let performed := disk.perform command state
      cases waiting with
      | nil =>
          have result : served = (performed.1.outcome command, ([], performed.2)) := by
            simp only [served, exchange, refused, performed]
          rw [result]
          simp only [completed, course]
          exact conclude_queued _ host performed.1 command (Int.natCast_nonneg _) reply rfl
      | cons first rest =>
          have result : served =
              (first.outcome command, (rest ++ [performed.1], performed.2)) := by
            simp only [served, exchange, refused, performed]
          have queued : (first :: rest).map Answer.message ++ [performed.1.message] =
              first.message :: (rest ++ [performed.1]).map Answer.message := by
            rw [List.map_append, List.map_cons, List.cons_append]
            rfl
          rw [result]
          simp only [completed, course]
          exact conclude_queued _ host first command (Int.natCast_nonneg _) reply queued

end Call

/-! ## A session of commands -/

/-- A command as a call of the library. -/
def Asks (env : Env σ) (globals : Globals σ) (errand : Command × Scratch) (outcome : Outcome)
    (next : Globals σ) : Prop :=
  Performs env globals ⟨.command errand.1, errand.2⟩ (.command outcome) next

/-- These replies are waiting, and nothing else is under way. -/
def Waiting (mail : List Answer × δ) (globals : Globals (Link (Server δ))) : Prop :=
  ∃ calls, globals.outside = line (mail.1.map Answer.message) (resting mail.2 calls)

/-- The library follows the exchange of requests and replies. -/
theorem asks_refines (disk : Disk δ) (amount : Nat → Nat) (host : Host) :
    Refines (Asks (Link.env (fileServer disk amount) host))
      (fun errand => exchange disk errand.1) (fun errand => ShortPaths errand.1) Waiting Eq := by
  rintro ⟨command, scratch⟩ ⟨waiting, state⟩ globals short ⟨calls, outside⟩
  obtain ⟨outcome, left⟩ :=
    call_line disk amount host short scratch.req globals.reply waiting state calls
  rw [← outside] at outcome left
  exact ⟨_, _, .command rfl, outcome.symm, calls, left⟩

/-- What the commands of a session read: first the replies that were waiting,
then those to the first commands. -/
theorem serveAll_exchange (disk : Disk δ) {commands : List Command}
    (fit : ∀ command ∈ commands, refusal command = none) (waiting : List Answer) (state : δ) :
    let answers := serveAll disk.perform commands state
    serveAll (exchange disk) commands (waiting, state) =
      (List.zipWith Answer.outcome (waiting ++ answers.1) commands,
        ((waiting ++ answers.1).drop commands.length, answers.2)) := by
  induction commands generalizing waiting state with
  | nil => simp
  | cons command commands ih =>
      have here := fit command List.mem_cons_self
      have later := ih fun other member => fit other (List.mem_cons_of_mem _ member)
      cases waiting with
      | nil =>
          have first : exchange disk command ([], state) =
              ((disk.perform command state).1.outcome command,
                ([], (disk.perform command state).2)) := by
            simp only [exchange, here]
          simp only [serveAll_cons, first, later]
          simp
      | cons answer rest =>
          have first : exchange disk command (answer :: rest, state) =
              (answer.outcome command,
                (rest ++ [(disk.perform command state).1], (disk.perform command state).2)) := by
            simp only [exchange, here]
          simp only [serveAll_cons, first, later]
          simp

/-- Replies that are waiting are never caught up with: each command reads the
reply that has waited longest, and at the end as many are waiting as before. -/
theorem commands_lag (disk : Disk δ) (amount : Nat → Nat) (host : Host)
    {errands : List (Command × Scratch)}
    (fit : ∀ errand ∈ errands, refusal errand.1 = none) {waiting : List Answer} {state : δ}
    {globals : Globals (Link (Server δ))} (before : Waiting (waiting, state) globals) :
    let commands := errands.map Prod.fst
    let answers := serveAll disk.perform commands state
    let arrived := waiting ++ answers.1
    ∃ last, Served (Asks (Link.env (fileServer disk amount) host)) globals errands
        (List.zipWith Answer.outcome arrived commands) last ∧
      Waiting (arrived.drop commands.length, answers.2) last ∧
      (arrived.drop commands.length).length = waiting.length := by
  intro commands answers arrived
  have short : ∀ errand ∈ errands, ShortPaths errand.1 := fun errand member =>
    shortPaths_of_fits (fit errand member)
  have each : ∀ command ∈ commands, refusal command = none := by
    intro command member
    obtain ⟨errand, listed, rfl⟩ := List.mem_map.mp member
    exact fit errand listed
  obtain ⟨seen, last, served, same, left⟩ :=
    (asks_refines disk amount host).served short before
  rw [serveAll_map, serveAll_exchange disk each] at same left
  rw [List.forall₂_eq_eq_eq] at same
  subst same
  refine ⟨last, served, left, ?_⟩
  rw [List.length_drop, List.length_append, length_serveAll]
  omega

/-- Nothing in the memory of a call. -/
def Scratch.zero : Scratch := ⟨fun _ => 0, heapOf 0⟩

/-- The globals of a program that has not done anything. -/
def Globals.fresh (outside : σ) : Globals σ := ⟨fun _ => 0, fun _ => 0, 0, outside⟩

theorem atRest_fresh (state : δ) : AtRest state (Globals.fresh (line [] (resting state 0))) :=
  ⟨rfl, 0, rfl⟩

/-- Behind a left `SUCCESS` the deletion of a file that is not there succeeds,
and its failure is reported for the next command. -/
theorem commands_lag_shelf :
    ∃ last, Served (Asks (Link.env (fileServer shelfDisk fun _ => 1) Host.epoch))
        (Globals.fresh (line [Answer.success.message] (resting ([] : Shelf) 0)))
        [(.hddDel pathA, .zero), (.ready, .zero)]
        [⟨0, [], []⟩, (Answer.failure 4).outcome .ready] last ∧
      Waiting ([.success], []) last ∧ [Answer.success].length = 1 := by
  apply commands_lag shelfDisk (fun _ => 1) Host.epoch
    (@fun errand member => ?_) (show Waiting ([.success], []) _ from ⟨0, rfl⟩)
  rw [List.mem_cons, List.mem_singleton] at member
  rcases member with rfl | rfl
  · rfl
  · rfl

end Puppy.Peer
