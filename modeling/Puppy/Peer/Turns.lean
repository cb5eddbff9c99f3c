import Puppy.Peer.Commands
import Puppy.Listing.Replies
import Puppy.Transfer.GetHistory
import Puppy.Transfer.PutStream

/-!
# Talking in turns

What the library does to its surroundings, whatever they are: a device of any
kind, transfers that fail, reads that are short.  It opens with at most one
message and then takes turns, in each of which it reads a packet and writes at
most one message, or two while it receives a file.  Every message is whole, has
a right check and means something.
-/

namespace Puppy.Peer

open Transition
open Puppy.Wire Puppy.Usb Puppy.Control Puppy.Listing
open Puppy.Transfer hiding Turn

universe u v w

variable {σ : Type u}

/-- A message a device can take: it is as long as it declares, comes from inside
a packet buffer, has a right check, and goes on with a transfer or asks for
something. -/
structure Sound (message : List UInt8) : Prop where
  nonempty : message ≠ []
  sized : messageSize message = message.length
  inside : message.length < MAXIMUM_PACKET_SIZE
  checked : packetCrc (arrived message) = getCrc (arrived message)
  meant : InTransfer (packetCmd (arrived message)) ∨
    ∃ asked, demand (arrived message) = some asked

/-! ## Turns -/

/-- What is done to a file of the host. -/
inductive Local (env : Env σ) (state : σ) : σ → Prop
  | open64 : Local env state (env.open64 state).2
  | fstat64 : Local env state (env.fstat64 state).2
  | read (count : Nat) : Local env state (env.read count state).2
  | write (bytes : List UInt8) : Local env state (env.write bytes state).2

/-- At most some number of messages is written, and nothing is read from the
device. -/
inductive Writes (env : Env σ) : Nat → σ → σ → Prop
  | nil {most : Nat} {state : σ} : Writes env most state state
  | message {most : Nat} {state final : σ} {message : List UInt8} (sound : Sound message)
      (rest : Writes env most (usbBulkWrite env message state).state final) :
      Writes env (most + 1) state final
  | host {most : Nat} {state after final : σ} (step : Local env state after)
      (rest : Writes env most after final) : Writes env most state final

/-- A packet is read, and then at most some number of messages is written. -/
def TakesTurn (env : Env σ) (most : Nat) (state final : σ) : Prop :=
  ∃ buffer, Writes env most (usbBulkRead env buffer MAXIMUM_PACKET_SIZE state).state final

/-- At most one message comes first, and then turns. -/
inductive TalksInTurns (env : Env σ) (most : Nat) (state : σ) : σ → Prop
  | opening {asked : σ} (writes : Writes env 1 state asked) : TalksInTurns env most state asked
  | turn {before after : σ} (earlier : TalksInTurns env most state before)
      (turn : TakesTurn env most before after) : TalksInTurns env most state after

namespace Writes

theorem mono {env : Env σ} {fewer more : Nat} {state final : σ}
    (writes : Writes env fewer state final) (le : fewer ≤ more) : Writes env more state final := by
  induction writes generalizing more with
  | nil => exact .nil
  | message sound rest ih =>
      obtain ⟨more, rfl⟩ := Nat.exists_eq_add_of_le' (Nat.lt_of_lt_of_le (Nat.succ_pos _) le)
      exact .message sound (ih (Nat.le_of_succ_le_succ le))
  | host step rest ih => exact .host step (ih le)

theorem trans {env : Env σ} {first second : Nat} {state between final : σ}
    (before : Writes env first state between) (behind : Writes env second between final) :
    Writes env (first + second) state final := by
  induction before with
  | nil => exact behind.mono (Nat.le_add_left _ _)
  | message sound rest ih =>
      rw [Nat.add_right_comm]
      exact .message sound (ih behind)
  | host step rest ih => exact .host step (ih behind)

/-- A single message. -/
theorem single {env : Env σ} {state : σ} {message : List UInt8} (sound : Sound message) :
    Writes env 1 state (usbBulkWrite env message state).state :=
  .message sound .nil

end Writes

/-! ## The messages -/

theorem sound_of_understood {message : List UInt8} {asked : Demand}
    (understood : Understood message asked) (inside : message.length < MAXIMUM_PACKET_SIZE) :
    Sound message where
  nonempty := understood.nonempty
  sized := understood.sized
  inside
  checked := understood.checked
  meant := Or.inr ⟨asked, understood.asks⟩

theorem byteCount_lt {packet : Memory UInt8} (sendable : Sendable packet) :
    byteCount packet < MAXIMUM_PACKET_SIZE := by
  have bound := sendable.bound
  unfold byteCount roundUpEven
  unfold MAXIMUM_PACKET_SIZE at bound ⊢
  omega

/-- A packet of a file. -/
theorem sound_of_file {packet : Memory UInt8} (sendable : Sendable packet)
    (file : InTransfer (packetCmd packet)) : Sound (wireImage packet) := by
  obtain ⟨nonempty, sized⟩ := whole_wireImage sendable
  obtain ⟨_, cmd, checked, _⟩ := arrived_wireImage sendable
  exact
    { nonempty, sized, checked
      inside := by
        rw [wireImage_length]
        exact byteCount_lt sendable
      meant := by
        rw [cmd]
        exact Or.inl file }

theorem sound_success : Sound successPacket where
  nonempty := by decide
  sized := by decide +kernel
  inside := by decide
  checked := by decide +kernel
  meant := Or.inl (by decide +kernel)

theorem sound_cancel : Sound cancelPacket :=
  sound_of_understood understood_cancel (by decide)

/-- A request with paths. -/
theorem sound_path {request : PathRequest} (short : request.Short)
    (fits : request.size < MAXIMUM_PACKET_SIZE) (req : Memory UInt8) {asked : Demand}
    (means : Demand.ofPath request = some asked) : Sound (wireImage (request.packet req)) := by
  apply sound_of_understood (understood_path short fits req means)
  rw [wireImage_length, byteCount, (PathRequest.header_packet short fits req).1]
  unfold MAXIMUM_PACKET_SIZE at fits ⊢
  unfold roundUpEven
  omega

theorem inside_fixed (req : Memory UInt8) (cmd : UInt32) :
    (wireImage (putFixedHeader req 8 cmd)).length < MAXIMUM_PACKET_SIZE := by
  rw [wireImage_length, byteCount, (Answer.header_putFixedHeader req 8 cmd).1]
  decide

/-- The request of a command. -/
theorem sound_message {command : Command} (short : ShortPaths command) {req : Memory UInt8}
    {message : List UInt8} (sent : command.message req = some message) : Sound message := by
  apply sound_of_understood (understood_message short sent)
  cases sends : pathRequest command with
  | none =>
      cases command with
      | cancel =>
          cases sent
          decide
      | reset | ready | hddSize =>
          cases sent
          exact inside_fixed req _
      | turbo turboOn =>
          cases sent
          rw [wireImage_length, byteCount, turboPacket, putU32,
            packetLength_store _ _ (Nat.le_refl _), (Answer.header_putFixedHeader req 12 _).1]
          decide
      | hddDel | hddRename | hddMkdir => cases sends
  | some request =>
      have small := short request sends
      obtain ⟨means, built⟩ := message_of_path sends req
      rw [sent, PathRequest.computedSize_of_short small] at built
      by_cases tooLong : (request.size : Int) ≥ MAXIMUM_PACKET_SIZE
      · rw [if_pos tooLong] at built
        cases built
      · rw [if_neg tooLong] at built
        rw [Option.some.inj built]
        exact (sound_path small (by omega) req means).inside

/-! ## The functions of `usb_io.c` -/

section Functions

variable (env : Env σ)

/-- Behind its packet `get_tf_packet` writes what it reports to have replied. -/
theorem writes_getTfPacket (buffer : Memory UInt8) (state : σ) :
    Writes env (getTfPacket env buffer state).replies.length
      (usbBulkRead env buffer MAXIMUM_PACKET_SIZE state).state
      (getTfPacket env buffer state).state := by
  unfold getTfPacket acceptPacket
  generalize usbBulkRead env buffer MAXIMUM_PACKET_SIZE state = input
  simp only
  split
  · exact .nil
  · split
    · exact .nil
    · by_cases early : getU32Raw input.buffer 4 = DATA_HDD_FILE_DATA
      · rw [if_pos early, if_pos early]
        split <;> exact .single sound_success
      · rw [if_neg early, if_neg early]
        split <;> exact .nil

theorem writes_getTfPacket_one (buffer : Memory UInt8) (state : σ) :
    Writes env 1 (usbBulkRead env buffer MAXIMUM_PACKET_SIZE state).state
      (getTfPacket env buffer state).state := by
  have writes := writes_getTfPacket env buffer state
  rcases getTfPacket_replies env buffer state with none | one
  · rw [none] at writes
    exact writes.mono (Nat.zero_le 1)
  · rwa [one] at writes

/-- Behind a packet without file data nothing is written. -/
theorem writes_getTfPacket_quiet {buffer : Memory UInt8} {state : σ}
    (accepted : 0 < (getTfPacket env buffer state).ret) {cmd : UInt32}
    (carried : packetCmd (getTfPacket env buffer state).packet = cmd)
    (quiet : cmd ≠ DATA_HDD_FILE_DATA) :
    Writes env 0 (usbBulkRead env buffer MAXIMUM_PACKET_SIZE state).state
      (getTfPacket env buffer state).state := by
  have writes := writes_getTfPacket env buffer state
  rwa [(getTfPacket_of_pos accepted).2, carried, if_neg quiet] at writes

/-- A request with paths is one message, or none. -/
theorem writes_request {request : PathRequest} (short : request.Short) {asked : Demand}
    (means : Demand.ofPath request = some asked) (req : Memory UInt8) (state : σ) :
    Writes env 1 state (request.send env req state).state := by
  by_cases tooLong : request.computedSize ≥ MAXIMUM_PACKET_SIZE
  · rw [PathRequest.send_of_tooLong tooLong]
    exact .nil
  · have fits := tooLong
    rw [PathRequest.computedSize_of_short short] at fits
    rw [PathRequest.send_of_fits tooLong]
    exact .single (sound_path short (by omega) req means)

end Functions

/-! ## The loops -/

section Loops

variable {env : Env σ}

/-- A loop each pass of which is a turn. -/
theorem talks_run {α : Type v} {ρ : Type w} {body : Body α ρ} {outside : α → σ} {left : ρ → σ}
    {most : Nat} {state : σ}
    (passes : ∀ loop, (body loop).Holds
      (fun next => TakesTurn env most (outside loop) (outside next))
      (fun result => TakesTurn env most (outside loop) (left result) ∨
        left result = outside loop))
    (fuel : Nat) {loop : α} (opened : TalksInTurns env most state (outside loop)) :
    (run body fuel loop).Holds (fun next => TalksInTurns env most state (outside next))
      (fun result => TalksInTurns env most state (left result)) := by
  have step : ∀ loop, TalksInTurns env most state (outside loop) →
      (body loop).Holds (fun next => TalksInTurns env most state (outside next))
        (fun result => TalksInTurns env most state (left result)) := by
    intro loop talks
    have pass := passes loop
    cases outcome : body loop with
    | again next =>
        rw [outcome] at pass
        exact .turn talks pass
    | leave result =>
        rw [outcome] at pass
        rcases pass with turn | same
        · exact .turn talks turn
        · exact (congrArg (TalksInTurns env most state) same).mpr talks
  exact run_holds step fuel opened

/-- A pass of a listing. -/
theorem takesTurn_dirBody (loop : DirLoop σ) :
    (dirBody env loop).Holds (fun next => TakesTurn env 1 loop.outside next.outside)
      (fun result => TakesTurn env 1 loop.outside result.2.outside ∨
        result.2.outside = loop.outside) := by
  by_cases goes : loop.Goes
  · have enters : dirBody env loop = dirTurn env loop := whileLoop_of_condition goes
    have turn := dirTurn_cases env loop
    have writes := writes_getTfPacket_one env loop.reply loop.outside
    rw [enters]
    generalize dirTurn env loop = pass at turn
    cases turn with
    | decoded carries stored =>
        have quiet := writes_getTfPacket_quiet env carries.1 carries.2 (by decide)
        exact ⟨loop.reply, quiet.trans (.single sound_success)⟩
    | exhausted carries full => exact Or.inl ⟨loop.reply, writes⟩
    | finished carries => exact ⟨loop.reply, writes⟩
    | refused messages accepted notDir notEnd => exact ⟨loop.reply, writes⟩
    | failed failed =>
        refine Or.inl ⟨loop.reply, ?_⟩
        rw [dirExit_outside]
        exact writes
  · have exits : dirBody env loop = .leave (dirExit loop) := whileLoop_of_not_condition goes
    rw [exits]
    exact Or.inr (dirExit_outside loop)

/-- The packets of a file that is sent. -/
theorem writes_send {packet : Memory UInt8} (sendable : Sendable packet)
    (file : InTransfer (packetCmd packet)) (loop : PutLoop σ) :
    Writes env 1 loop.outside (loop.send env packet).1.outside :=
  .single (sound_of_file sendable file)

theorem sendable_dataPacket {w : Nat} (room : w ≤ 65518) (packet : Memory UInt8)
    (count : UInt64) :
    Sendable (dataPacket packet w count) ∧
      packetCmd (dataPacket packet w count) = DATA_HDD_FILE_DATA := by
  have header := header_putU32_putU16 packet (UInt16.ofInt (PACKET_HEAD_SIZE + 8 + w))
    DATA_HDD_FILE_DATA
  have size : (UInt16.ofInt (PACKET_HEAD_SIZE + 8 + w)).toNat = 16 + w :=
    toNat_ofInt_u16 (n := 16 + w) (by omega)
  have length : (packetLength (dataPacket packet w count)).toNat = 16 + w := by
    rw [dataPacket, putU64, packetLength_store _ _ (Nat.le_refl _), header.1, size]
  refine ⟨⟨?_, ?_⟩, ?_⟩
  · rw [length]
    exact Nat.le_trans (by decide) (Nat.le_add_right 16 w)
  · rw [length]
    unfold MAXIMUM_PACKET_SIZE
    omega
  · rw [dataPacket, putU64, packetCmd_store _ _ (Nat.le_refl _), header.2]

variable (env) in
/-- What the state machine of an upload writes behind a `SUCCESS`. -/
theorem writes_putSuccess (src : SourceFile) (path : CString) (loop : PutLoop σ) :
    (putSuccess env src path loop).Holds (fun next => Writes env 1 loop.outside next.outside)
      (fun result => Writes env 1 loop.outside result.2.outside) := by
  unfold putSuccess
  cases loop.state with
  | start =>
      obtain ⟨length, cmd⟩ := startPacket_header env src path loop.packet
      simp only [putStart_eq]
      refine writes_send ⟨?_, ?_⟩ ?_ loop
      · rw [length]
        decide
      · rw [length]
        decide
      · rw [cmd]
        decide
  | data =>
      simp only
      cases answered : env.read (min 65518 (src.contents.length - loop.position)) loop.outside with
      | mk read outside =>
          have step : Local env loop.outside outside := by
            have read : Local env loop.outside _ :=
              .read (min 65518 (src.contents.length - loop.position))
            rwa [answered] at read
          cases read with
          | none =>
              rw [putData_of_error answered]
              exact .host step .nil
          | some n =>
              have bound := n.isLt
              have kept := trimmed_le n
              obtain ⟨sendable, cmd⟩ := sendable_dataPacket (show trimmed n ≤ 65518 by omega)
                (Memory.store loop.packet (dataOffset + 8)
                  ((src.contents.drop loop.position).take n)) loop.byteCount
              have sent : Writes env 1 loop.outside
                  ((loop.filled src n outside).send env
                    (loop.filled src n outside).packet).1.outside :=
                .host step (writes_send sendable (by rw [cmd]; decide) (loop.filled src n outside))
              rw [putData_of_read answered]
              simp only
              split
              · exact .host step .nil
              · split
                · exact sent
                · exact sent
  | fileEnd =>
      obtain ⟨length, cmd⟩ := endPacket_header loop.packet
      simp only [putEnd_eq]
      refine writes_send ⟨?_, ?_⟩ ?_ loop
      · rw [length]
        decide
      · rw [length]
        decide
      · rw [cmd]
        decide
  | finished => exact .nil

/-- A pass of an upload. -/
theorem takesTurn_putBody (src : SourceFile) (path : CString) (loop : PutLoop σ) :
    (putBody env src path loop).Holds (fun next => TakesTurn env 1 loop.outside next.outside)
      (fun result => TakesTurn env 1 loop.outside result.2.outside ∨
        result.2.outside = loop.outside) := by
  have writes := writes_getTfPacket_one env loop.reply loop.outside
  unfold putBody
  simp only
  by_cases accepted : 0 < (getTfPacket env loop.reply loop.outside).ret
  · rw [if_pos accepted]
    by_cases success : packetCmd (loop.accept (getTfPacket env loop.reply loop.outside)).reply =
        SUCCESS
    · have quiet := writes_getTfPacket_quiet env accepted success (by decide)
      have behind := writes_putSuccess env src path
        (loop.accept (getTfPacket env loop.reply loop.outside))
      rw [if_pos success]
      cases outcome : putSuccess env src path _ with
      | again next =>
          rw [outcome] at behind
          exact ⟨loop.reply, quiet.trans behind⟩
      | leave result =>
          rw [outcome] at behind
          exact Or.inl ⟨loop.reply, quiet.trans behind⟩
    · rw [if_neg success]
      split
      · exact Or.inl ⟨loop.reply, writes⟩
      · exact ⟨loop.reply, writes⟩
  · rw [if_neg accepted]
    exact Or.inl ⟨loop.reply, writes⟩

/-- The answers of the state machine of a download. -/
theorem writes_answer (reply : Reply) (turn : Transfer.Turn σ) :
    Writes env 1 turn.loop.outside (turn.answer env reply).loop.outside := by
  cases reply with
  | success => exact .single sound_success
  | cancel => exact .single sound_cancel

theorem writes_abort (messages : List Diagnostic) (turn : Transfer.Turn σ) :
    Writes env 1 turn.loop.outside (turn.abort env messages).loop.outside :=
  writes_answer .cancel (turn.print messages)

theorem writes_getStart (turn : Transfer.Turn σ) :
    Writes env 1 turn.loop.outside (getStart env turn).loop.outside := by
  unfold getStart
  cases turn.loop.state with
  | start => exact .single sound_success
  | data | abort => exact writes_abort _ turn

/-- A write to the destination, and a `CANCEL` when it falls short. -/
theorem writes_getData (r : Int) (turn : Transfer.Turn σ) :
    Writes env 1 turn.loop.outside (getData env r turn).loop.outside := by
  have written (turn : Transfer.Turn σ) : Local env turn.loop.outside
      (writePayload env turn).2.loop.outside := by
    have step : Local env turn.loop.outside _ :=
      .write (Memory.load turn.loop.reply (dataOffset + 8) (dataLen turn.loop.reply).toNat)
    unfold writePayload
    simp only
    generalize env.write _ _ = answered at step ⊢
    obtain ⟨_ | n, outside⟩ := answered
    · exact step
    · exact step
  unfold getData
  cases turn.loop.state with
  | start | abort => exact writes_abort _ turn
  | data =>
      simp only
      have printed (messages : List Diagnostic) := written (turn.print messages)
      split
      · split
        · exact .host (printed _) (writes_abort _ _)
        · exact .host (printed _) .nil
      · split
        · exact .host (written turn) (writes_abort _ _)
        · exact .host (written turn) .nil

/-- A pass of a download, in which `get_tf_packet` and the state machine both
may answer. -/
theorem takesTurn_getBody (loop : GetLoop σ) :
    (getBody env loop).Holds (fun next => TakesTurn env 2 loop.outside next.outside)
      (fun result => TakesTurn env 2 loop.outside result.2.outside ∨
        result.2.outside = loop.outside) := by
  have writes := writes_getTfPacket_one env loop.reply loop.outside
  have alone : TakesTurn env 2 loop.outside (getTfPacket env loop.reply loop.outside).state :=
    ⟨loop.reply, writes.mono one_le_two⟩
  have answered {after : σ} (answer : Writes env 1 (received env loop).loop.outside after) :
      TakesTurn env 2 loop.outside after :=
    ⟨loop.reply, writes.trans answer⟩
  unfold getBody
  simp only
  split
  · split
    · exact answered (writes_getStart (received env loop))
    · split
      · exact answered (writes_getData _ (received env loop))
      · split
        · exact Or.inl (answered (writes_answer .success (received env loop)))
        · split
          · exact answered (writes_abort _ (received env loop))
          · split
            · exact Or.inl alone
            · exact alone
  · exact Or.inl alone

end Loops

/-! ## The calls -/

/-- No length of a path wraps. -/
def Job.Short : Job → Prop
  | .command called => ShortPaths called
  | .list path | .put _ path | .get path => path.length ≤ 65534

/-- How many messages a job writes at most behind each packet it reads. -/
def Job.most : Job → Nat
  | .command _ | .list _ | .put _ _ => 1
  | .get _ => 2

/-- The surroundings after at most some number of passes of a call. -/
def Call.surroundings (env : Env σ) (fuel : Nat) (globals : Globals σ) (call : Call) : σ :=
  match call.job with
  | .command called =>
      (called.call env call.scratch.req globals.reply globals.outside).state
  | .list path =>
      (puppyHddDir env fuel call.scratch.heap globals.error path call.scratch.req globals.reply
        globals.outside).view.outside
  | .put src path =>
      (puppyHddFilePut env fuel src path (globals.buffers call.scratch.req)
        globals.outside).view.outside
  | .get path =>
      (puppyHddFileGet env fuel path (globals.buffers call.scratch.req)
        globals.outside).view.outside

section Calls

variable {env : Env σ}

theorem short_single {request : PathRequest} {path : CString} (paths : request.paths = [path])
    (short : path.length ≤ 65534) : request.Short := by
  intro other member
  rw [paths, List.mem_singleton] at member
  rwa [member]

theorem view_of_holds {α : Type v} {ρ : Type w} {outside : α → σ} {most : Nat} {state : σ}
    {pass : Pass α (ρ × α)}
    (holds : pass.Holds (fun next => TalksInTurns env most state (outside next))
      (fun result => TalksInTurns env most state (outside result.2))) :
    TalksInTurns env most state (outside pass.view) := by
  cases pass with
  | again next => exact holds
  | leave result => exact holds

/-- Behind a request the commands read a packet. -/
theorem talks_conclude {state asked : σ} (opening : Writes env 1 state asked) (sent : Int)
    (stderr : List Diagnostic) (reply : Memory UInt8) (success : UInt32)
    (report : Memory UInt8 → List Report) (unhandled : Int) :
    TalksInTurns env 1 state
      (conclude env sent stderr reply asked success report unhandled).state := by
  have turn : TakesTurn env 1 asked (getTfPacket env reply asked).state :=
    ⟨reply, writes_getTfPacket_one env reply asked⟩
  unfold conclude
  by_cases failed : sent < 0
  · rw [if_pos failed]
    exact .opening opening
  · rw [if_neg failed]
    simp only
    split
    · exact .turn (.opening opening) turn
    · split
      · exact .turn (.opening opening) turn
      · split <;> exact .turn (.opening opening) turn

theorem talks_command {command : Command} (short : ShortPaths command) (req reply : Memory UInt8)
    (state : σ) : TalksInTurns env 1 state (command.call env req reply state).state := by
  cases sends : pathRequest command with
  | none =>
      rcases Command.call_cases env req reply state command with
        ⟨unsent, _⟩ | ⟨bytes, sent, course⟩
      · cases command with
        | turbo | reset | ready | cancel | hddSize => cases unsent
        | hddDel | hddRename | hddMkdir => cases sends
      · rw [course]
        exact talks_conclude (.single (sound_message short sent)) _ _ _ _ _ _
  | some request =>
      have means := (message_of_path sends req).1
      rw [call_of_path sends]
      exact talks_conclude (writes_request env (short request sends) means req state) _ _ _ _ _ _

theorem talks_list {path : CString} (short : path.length ≤ 65534) (fuel : Nat) (scratch : Scratch)
    (globals : Globals σ) :
    TalksInTurns env 1 globals.outside
      (puppyHddDir env fuel scratch.heap globals.error path scratch.req globals.reply
        globals.outside).view.outside := by
  have opening : Writes env 1 globals.outside
      (sendCmdHddDir env scratch.req path globals.outside).state :=
    writes_request env (short_single rfl short : (PathRequest.hddDir path).Short) rfl scratch.req _
  rw [← outside_dirInitial globals.error globals.reply scratch.heap] at opening
  unfold puppyHddDir
  generalize dirInitial globals.error _ _ _ = loop at opening ⊢
  exact view_of_holds (talks_run takesTurn_dirBody fuel (.opening opening))

/-- The request of a transfer. -/
theorem writes_sendCmdHddFileSend (env : Env σ) {dir : UInt8} {path : CString}
    (short : path.length ≤ 65534) {asked : Demand}
    (means : Demand.ofPath (.hddFileSend dir path) = some asked)
    (req : Memory UInt8) (state : σ) :
    Writes env 1 state (sendCmdHddFileSend env req dir path state).state :=
  writes_request env (short_single rfl short : (PathRequest.hddFileSend dir path).Short) means
    req state

/-- The upload loop is entered with the surroundings of the request. -/
theorem writes_putRequested {state outside : σ} {request : Requested σ}
    (asked : Writes env 1 state request.state) (buffers : Buffers) :
    ((putInitial buffers outside).requested request).Holds
      (fun loop => Writes env 1 state loop.outside)
      (fun result => Writes env 1 state result.2.outside) := by
  unfold PutLoop.requested
  split <;> exact asked

theorem writes_putPrologue (env : Env σ) {path : CString} (short : path.length ≤ 65534)
    (src : SourceFile) (buffers : Buffers) (state : σ) :
    (putPrologue env src path buffers state).Holds (fun loop => Writes env 1 state loop.outside)
      (fun result => Writes env 1 state result.2.outside) := by
  have opened : Local env state (env.open64 state).2 := .open64
  have asked := writes_sendCmdHddFileSend env short
    (rfl : Demand.ofPath (.hddFileSend PUT path) = _)
    buffers.req
  unfold putPrologue
  generalize env.open64 state = answered at opened ⊢
  obtain ⟨_ | errno, afterOpen⟩ := answered
  · have examined : Local env afterOpen (env.fstat64 afterOpen).2 := .fstat64
    simp only
    generalize env.fstat64 afterOpen = answered at examined ⊢
    obtain ⟨_ | errno, afterFstat⟩ := answered
    · simp only
      split
      · exact .host opened (.host examined .nil)
      · have started : Writes env 1 state _ := .host opened (.host examined (asked afterFstat))
        generalize sendCmdHddFileSend env buffers.req PUT path afterFstat = request at started ⊢
        exact writes_putRequested started buffers
    · exact .host opened (.host examined .nil)
  · exact .host opened .nil

theorem talks_put {path : CString} (short : path.length ≤ 65534) (fuel : Nat) (src : SourceFile)
    (buffers : Buffers) (state : σ) :
    TalksInTurns env 1 state
      (puppyHddFilePut env fuel src path buffers state).view.outside := by
  have prologue := writes_putPrologue env short src buffers state
  unfold puppyHddFilePut
  cases entered : putPrologue env src path buffers state with
  | again loop =>
      rw [entered] at prologue
      exact view_of_holds (talks_run (takesTurn_putBody src path) fuel (.opening prologue))
  | leave result =>
      rw [entered] at prologue
      exact .opening prologue

/-- The download loop is entered with the surroundings of the request. -/
theorem writes_getRequested {state outside : σ} {request : Requested σ}
    (asked : Writes env 1 state request.state) (buffers : Buffers) :
    ((getInitial buffers outside).requested request).Holds
      (fun loop => Writes env 1 state loop.outside)
      (fun result => Writes env 1 state result.2.outside) := by
  unfold GetLoop.requested
  split <;> exact asked

theorem writes_getPrologue (env : Env σ) {path : CString} (short : path.length ≤ 65534)
    (buffers : Buffers) (state : σ) :
    (getPrologue env path buffers state).Holds (fun loop => Writes env 1 state loop.outside)
      (fun result => Writes env 1 state result.2.outside) := by
  have opened : Local env state (env.open64 state).2 := .open64
  have asked := writes_sendCmdHddFileSend env short
    (rfl : Demand.ofPath (.hddFileSend GET path) = _)
    buffers.req
  unfold getPrologue
  generalize env.open64 state = answered at opened ⊢
  obtain ⟨_ | errno, afterOpen⟩ := answered
  · have started : Writes env 1 state _ := .host opened (asked afterOpen)
    simp only
    generalize sendCmdHddFileSend env buffers.req GET path afterOpen = request at started ⊢
    exact writes_getRequested started buffers
  · exact .host opened .nil

theorem talks_get {path : CString} (short : path.length ≤ 65534) (fuel : Nat)
    (buffers : Buffers) (state : σ) :
    TalksInTurns env 2 state
      (puppyHddFileGet env fuel path buffers state).view.outside := by
  have prologue := writes_getPrologue env short buffers state
  unfold puppyHddFileGet
  cases entered : getPrologue env path buffers state with
  | again loop =>
      rw [entered] at prologue
      exact view_of_holds (talks_run takesTurn_getBody fuel (.opening prologue))
  | leave result =>
      rw [entered] at prologue
      exact .opening prologue

end Calls

/-- Whatever the device does and whatever fails, every call talks in turns, at
every point of its run. -/
theorem talksInTurns (env : Env σ) (fuel : Nat) (globals : Globals σ) {call : Call}
    (short : call.job.Short) :
    TalksInTurns env call.job.most globals.outside (call.surroundings env fuel globals) := by
  obtain ⟨job, scratch⟩ := call
  cases job with
  | command command => exact talks_command short scratch.req globals.reply globals.outside
  | list path => exact talks_list short fuel scratch globals
  | put src path => exact talks_put short fuel src (globals.buffers scratch.req) globals.outside
  | get path => exact talks_get short fuel (globals.buffers scratch.req) globals.outside

/-- A shelf with three bytes. -/
def threeBytes : Shelf := [(pathA, ⟨⟨0, 0, 0, 0⟩, [1, 2, 3]⟩)]

/-- Five passes of a download from a shelf. -/
theorem talksInTurns_shelf :
    TalksInTurns (Link.env (fileServer shelfDisk fun _ => 1) Host.epoch) 2
      (line [] (resting threeBytes 0))
      (Call.surroundings (Link.env (fileServer shelfDisk fun _ => 1) Host.epoch) 5
        (Globals.fresh (line [] (resting threeBytes 0))) ⟨.get pathA, .zero⟩) :=
  @talksInTurns _ (Link.env (fileServer shelfDisk fun _ => 1) Host.epoch) 5
    (Globals.fresh (line [] (resting threeBytes 0))) ⟨.get pathA, .zero⟩
    (by decide : pathA.length ≤ 65534)

end Puppy.Peer
