import Puppy.Peer.Job

/-!
# Listings from a file server

The packets of a directory are received one behind each `SUCCESS`, all of them
and nothing else, and leave the handle without an error.
-/

namespace Puppy.Peer

open Transition
open Puppy.Wire Puppy.Usb Puppy.Control Puppy.Listing Puppy.Transfer

universe u

variable {σ : Type u} {δ : Type u}

/-! ## The handle -/

/-- A listing that is received keeps the handle free of errors. -/
theorem error_of_feeds {env : Env σ} {state final : σ} {messages : List DirMessage}
    (feeds : Feeds env state messages final) :
    ∀ (loop : DirLoop σ) (result : Option (List DirEntry) × DirLoop σ), loop.Goes →
      loop.outside = state → Leaves (dirBody env) loop result → result.2.error = 0 := by
  induction feeds with
  | last delivered whole atEnd =>
      intro loop result goes outside leaves
      have enters : dirBody env loop = dirTurn env loop := whileLoop_of_condition goes
      obtain ⟨carries, _, _⟩ := getTfPacket_of_whole delivered whole atEnd (by decide) loop.reply
      have turn := dirTurn_cases env loop
      rw [← enters, outside] at turn
      generalize getTfPacket env loop.reply _ = got at carries turn
      have rest := leaves.of_again (turn.of_end carries)
      have exits : dirBody env { loop.accept got with finished := true } =
          .leave (dirExit { loop.accept got with finished := true }) := by
        apply whileLoop_of_not_condition
        rintro ⟨⟨⟩, _⟩
      rw [rest.of_leave exits, dirExit_error]
      exact goes.2
  | @dir state after final message messages delivered rest ih =>
      intro loop result goes outside leaves
      have enters : dirBody env loop = dirTurn env loop := whileLoop_of_condition goes
      obtain ⟨carries, left, _⟩ :=
        getTfPacket_of_whole delivered message.whole message.dir (by decide) loop.reply
      have turn := dirTurn_cases env loop
      rw [← enters, outside] at turn
      generalize getTfPacket env loop.reply state = got at carries left turn
      rcases turn.of_dir carries with ⟨buffer, _, pass⟩ | ⟨_, pass⟩
      · exact ih
          { loop.accept got with
            buffer := some buffer
            outside := (sendSuccess env got.state).state } result goes (by rw [left])
          (leaves.of_again pass)
      · rw [leaves.of_leave pass]
        exact goes.2

/-! ## The packets -/

section Line

variable (disk : Disk δ) (amount : Nat → Nat) (host : Host)

/-- What is declared whole is there. -/
theorem whole_nonempty {data : List UInt8} (whole : Whole data) : data ≠ [] := by
  rintro rfl
  exact absurd whole.header (by decide)

/-- A directory that is sent is received packet by packet. -/
theorem feeds_playing (state : δ) (calls : Nat) {messages : List DirMessage}
    (bounded : ∀ message ∈ messages, message.data.length ≤ MAXIMUM_PACKET_SIZE) :
    Feeds (Link.env (fileServer disk amount) host)
      (playing (messages.map DirMessage.data ++ [wireImage dirEnd]) state calls) messages
      (line [] (resting state calls)) := by
  induction messages with
  | nil =>
      refine .last (delivers_playing disk amount host [] state calls ?_ ?_) ⟨?_, ?_⟩ ?_
      · decide +kernel
      · decide +kernel
      · decide +kernel
      · decide +kernel
      · decide +kernel
  | cons message messages ih =>
      refine .dir (delivers_playing disk amount host _ state calls (whole_nonempty message.whole)
        (bounded message List.mem_cons_self)) ?_
      rw [sendSuccess_playing]
      exact ih fun other member => bounded other (List.mem_cons_of_mem _ member)

theorem feeds_directory (state : δ) (calls : Nat) (directory : Directory) :
    Feeds (Link.env (fileServer disk amount) host) (playing directory.script state calls)
      directory.messages (line [] (resting state calls)) :=
  feeds_playing disk amount host state calls directory.bounded

/-! ## The call -/

/-- The request of a listing is served, whatever is on the line. -/
theorem sendCmdHddDir_asks {path : CString} (accepts : DirAccepts path) (req : Memory UInt8)
    (queue : List (List UInt8)) (server : Server δ) :
    0 ≤ (sendCmdHddDir (Link.env (fileServer disk amount) host) req path (line queue server)).ret ∧
      (sendCmdHddDir (Link.env (fileServer disk amount) host) req path (line queue server)).state =
        line (queue ++ (server.attend disk (.list path)).1)
          (server.attend disk (.list path)).2 := by
  have fits : (PathRequest.hddDir path).size < MAXIMUM_PACKET_SIZE := accepts
  have short : (PathRequest.hddDir path).Short := by
    intro other member
    rw [List.mem_singleton.mp member]
    unfold DirAccepts PACKET_HEAD_SIZE MAXIMUM_PACKET_SIZE at accepts
    omega
  have understood : Understood (wireImage (hddDirPacket req path)) (.list path) :=
    understood_path short fits req rfl
  have written := usbBulkWrite_line disk amount host understood queue server
  rw [sendCmdHddDir_of_accepts accepts, sendPacket, sendTfPacket, written]
  exact ⟨Int.natCast_nonneg _, rfl⟩

/-- The request of a listing brings its first packet. -/
theorem sendCmdHddDir_line {path : CString} (accepts : DirAccepts path) (req : Memory UInt8)
    (state : δ) (calls : Nat) :
    0 ≤ (sendCmdHddDir (Link.env (fileServer disk amount) host) req path
        (line [] (resting state calls))).ret ∧
      (sendCmdHddDir (Link.env (fileServer disk amount) host) req path
        (line [] (resting state calls))).state =
          playing (disk.list path state).script state calls :=
  sendCmdHddDir_asks disk amount host accepts req [] (resting state calls)

/-- A listing shows the records of the directory. -/
theorem performs_list {path : CString} (accepts : DirAccepts path) (scratch : Scratch)
    {state : δ} {globals : Globals (Link (Server δ))} (rest : AtRest state globals) :
    ∃ seen next, Performs (Link.env (fileServer disk amount) host) globals
        ⟨.list path, scratch⟩ seen next ∧
      Agrees (Link.env (fileServer disk amount) host)
        (.list (listing (disk.list path state).messages)) seen ∧
      AtRest state next := by
  obtain ⟨packet, reply, _, _⟩ := globals
  obtain ⟨rfl, calls, rfl⟩ := rest
  obtain ⟨sent, playing⟩ := sendCmdHddDir_line disk amount host accepts scratch.req state calls
  have feeds := feeds_directory disk amount host state calls (disk.list path state)
  have fits := (disk.list path state).fits
  have related := forall₂_listing (Link.env (fileServer disk amount) host)
    (disk.list path state).messages
  have shown := forall₂_decoded related scratch.heap
  rw [related.length_eq] at fits
  have left : ∀ fuel, puppyHddDir (Link.env (fileServer disk amount) host) fuel scratch.heap 0
      path scratch.req reply (line [] (resting state calls)) =
        run (dirBody (Link.env (fileServer disk amount) host)) fuel
          (dirInitial 0 reply scratch.heap
            (sendCmdHddDir (Link.env (fileServer disk amount) host) scratch.req path
              (line [] (resting state calls)))) :=
    fun _ => rfl
  generalize sendCmdHddDir (Link.env (fileServer disk amount) host) scratch.req path
    (line [] (resting state calls)) = asked at sent playing left
  have goes : (dirInitial 0 reply scratch.heap asked).Goes :=
    (goes_dirInitial_iff _ _ _ _).mpr ⟨sent, rfl⟩
  have entered := (outside_dirInitial 0 reply scratch.heap asked).trans playing
  obtain ⟨buffer, buffered, filled⟩ :=
    dirInitial_invariant (Link.env (fileServer disk amount) host) 0 reply scratch.heap asked
  obtain ⟨last, leaves, ended⟩ :=
    leaves_of_feeds feeds _ [] buffer goes entered buffered filled fits
  have quiet := error_of_feeds feeds _ _ goes entered leaves
  obtain ⟨fuel, returned⟩ := leaves
  refine ⟨_, _, .list ((left fuel).trans returned), .list ?_ ?_, quiet, calls, ended⟩
  · rw [List.nil_append, List.length_append, ← shown.length_eq]
    rfl
  · rw [List.nil_append, shown.length_eq, List.take_left]
    exact shown

end Line

end Puppy.Peer
