import Puppy.Peer.Turns
import Puppy.Transfer.PutComplete

/-!
# In step with the device

On a link to a device that answers a message with at most one, a message is on
its way at a time: whoever has spoken waits for the other.  That holds at every
point of every call but a download, which may answer a packet twice.  An upload
then returns, unless the device keeps sending file data, which
`get_tf_packet` would go on to acknowledge.
-/

namespace Puppy.Peer

open Transition
open Puppy.Wire Puppy.Usb Puppy.Control Puppy.Listing
open Puppy.Transfer hiding Turn

universe u

variable {τ : Type u}

/-- A message that fits the packet buffer. -/
def FitsBuffer (message : List UInt8) : Prop :=
  message ≠ [] ∧ message.length ≤ MAXIMUM_PACKET_SIZE

/-- At most some number of messages is on the way to the host, such ones as are
allowed, and none to the device. -/
structure Calm (allowed : List UInt8 → Prop) (n : Nat) (link : Link τ) : Prop where
  idle : link.pending = []
  few : link.queue.length ≤ n
  each : ∀ message ∈ link.queue, allowed message

/-- A device answers a message with at most one, such as are allowed. -/
structure AnswersOnce (allowed : List UInt8 → Prop) (device : Device τ) : Prop where
  once : ∀ message state, (device.respond message state).1.length ≤ 1
  each : ∀ message state, ∀ reply ∈ (device.respond message state).1, allowed reply

/-- What the allowed messages have in common here. -/
def AllFit (allowed : List UInt8 → Prop) : Prop := ∀ message, allowed message → FitsBuffer message

/-- A message that is not taken for file data. -/
def Plain (message : List UInt8) : Prop :=
  FitsBuffer message ∧
    getU32Raw (Memory.store (fun _ => 0) 0 message) 4 ≠ DATA_HDD_FILE_DATA

theorem allFit_plain : AllFit Plain := fun _ plain => plain.1

/-- A device that answers everything with `SUCCESS`. -/
def content : Device Unit where
  respond _ device := ([Answer.success.message], device)
  read count device := (some (Fin.last count), device)

theorem answersOnce_content : AnswersOnce Plain content where
  once _ _ := Nat.le_refl 1
  each _ _ reply member := by
    rw [List.mem_singleton.mp member]
    refine ⟨⟨?_, ?_⟩, ?_⟩
    · decide +kernel
    · decide +kernel
    · decide +kernel

theorem calm_blank : Calm Plain 0 (⟨[], [], ()⟩ : Link Unit) :=
  ⟨rfl, Nat.le_refl 0, List.forall_mem_nil _⟩

section Link

variable {allowed : List UInt8 → Prop} {device : Device τ} {host : Host} {n : Nat} {link : Link τ}

theorem Calm.mono (calm : Calm allowed n link) {more : Nat} (le : n ≤ more) :
    Calm allowed more link :=
  ⟨calm.idle, Nat.le_trans calm.few le, calm.each⟩

/-! ## Reading and writing -/

/-- With nothing on the way, a read finds nothing. -/
theorem usbBulkRead_of_empty (empty : link.queue = []) (buffer : Memory UInt8) :
    usbBulkRead (Link.env device host) buffer MAXIMUM_PACKET_SIZE link =
      { retrieved := 0, buffer, state := link } := by
  have pass : bulkReadBody (Link.env device host) MAXIMUM_PACKET_SIZE
      { retrieved := 0, buffer, state := link } =
        .leave { retrieved := 0, buffer, state := link } := by
    simp only [bulkReadBody, Link.env, Link.deliver, empty]
  rw [usbBulkRead, run_succ_of_leave pass]
  rfl

/-- The only message on the way is delivered. -/
theorem delivers_only (fit : AllFit allowed) (calm : Calm allowed 1 link) {message : List UInt8}
    {rest : List (List UInt8)} (queued : link.queue = message :: rest) :
    Delivers (Link.env device host) link message { link with queue := [] } := by
  have few := calm.few
  rw [queued, List.length_cons] at few
  have alone : rest = [] := List.eq_nil_of_length_eq_zero (by omega)
  subst alone
  have fits := fit message (calm.each message (by rw [queued]; exact List.mem_cons_self))
  exact delivers_link fits.1 queued fits.2 (Or.inr rfl)

/-- A read leaves nothing on the way. -/
theorem calm_read (fit : AllFit allowed) (calm : Calm allowed 1 link) (buffer : Memory UInt8) :
    Calm allowed 0
      (usbBulkRead (Link.env device host) buffer MAXIMUM_PACKET_SIZE link).state := by
  cases queued : link.queue with
  | nil =>
      rw [usbBulkRead_of_empty queued]
      exact ⟨calm.idle, by rw [queued]; exact Nat.le_refl 0, calm.each⟩
  | cons message rest =>
      rw [delivers_only fit calm queued buffer]
      exact ⟨calm.idle, Nat.le_refl 0, List.forall_mem_nil _⟩

/-- A message brings at most one. -/
theorem calm_write (answers : AnswersOnce allowed device) (calm : Calm allowed n link)
    {message : List UInt8} (sound : Sound message) :
    Calm allowed (n + 1) (usbBulkWrite (Link.env device host) message link).state := by
  rw [usbBulkWrite_link sound.nonempty sound.sized calm.idle]
  refine ⟨rfl, ?_, ?_⟩
  · have once := answers.once message link.device
    have few := calm.few
    rw [Link.taken, List.length_append]
    omega
  · intro other member
    rw [Link.taken, List.mem_append] at member
    rcases member with waiting | answer
    · exact calm.each other waiting
    · exact answers.each message link.device other answer

/-- The files of the host are apart from the link. -/
theorem calm_local (calm : Calm allowed n link) {after : Link τ}
    (step : Local (Link.env device host) link after) : Calm allowed n after := by
  cases step with
  | open64 | fstat64 | write => exact calm
  | read => exact ⟨calm.idle, calm.few, calm.each⟩

theorem calm_writes (answers : AnswersOnce allowed device) {most : Nat} {final : Link τ}
    (writes : Writes (Link.env device host) most link final) :
    ∀ {n : Nat}, Calm allowed n link → Calm allowed (n + most) final := by
  induction writes with
  | nil => exact fun calm => calm.mono (Nat.le_add_right _ _)
  | message sound rest ih =>
      intro n calm
      have behind := ih (calm_write answers calm sound)
      rwa [Nat.add_right_comm] at behind
  | host step rest ih => exact fun calm => ih (calm_local calm step)

/-! ## Calls -/

/-- Whoever takes turns keeps the link calm. -/
theorem calm_talks (fit : AllFit allowed) (answers : AnswersOnce allowed device)
    (calm : Calm allowed 0 link) {final : Link τ}
    (talks : TalksInTurns (Link.env device host) 1 link final) : Calm allowed 1 final := by
  induction talks with
  | opening writes => simpa using calm_writes answers writes calm
  | turn earlier turn before =>
      obtain ⟨buffer, writes⟩ := turn
      simpa using calm_writes answers writes (calm_read fit before buffer)

variable (host) in
/-- In every call but a download at most one message is on its way at a time. -/
theorem calm_surroundings (fit : AllFit allowed) (answers : AnswersOnce allowed device)
    {call : Call} (short : call.job.Short) (single : call.job.most = 1)
    {globals : Globals (Link τ)} (calm : Calm allowed 0 globals.outside) (fuel : Nat) :
    Calm allowed 1 (call.surroundings (Link.env device host) fuel globals) := by
  have talks := talksInTurns (Link.env device host) fuel globals short
  rw [single] at talks
  exact calm_talks fit answers calm talks

end Link

/-- Two passes into an upload. -/
theorem calm_surroundings_content :
    Calm Plain 1 (Call.surroundings (Link.env content Host.epoch) 2
      (Globals.fresh (⟨[], [], ()⟩ : Link Unit)) ⟨.put fiveBytes pathA, .zero⟩) :=
  @calm_surroundings _ Plain content Host.epoch allFit_plain answersOnce_content
    ⟨.put fiveBytes pathA, .zero⟩ (by decide : pathA.length ≤ 65534) rfl _ calm_blank 2

/-! ## Uploads return -/

section Upload

variable {device : Device τ} (host : Host)

/-- A plain message is not acknowledged by `get_tf_packet`. -/
theorem getTfPacket_plain {link after : Link τ} {message : List UInt8} (plain : Plain message)
    (delivered : Delivers (Link.env device host) link message after) (buffer : Memory UInt8) :
    (getTfPacket (Link.env device host) buffer link).state = after := by
  rw [getTfPacket_of_delivers delivered]
  unfold acceptPacket
  simp only
  split
  · rfl
  · split
    · rfl
    · rename_i long
      have whole : 8 ≤ message.length := by
        unfold PACKET_HEAD_SIZE at long
        omega
      have same : getU32Raw (Memory.store buffer 0 message) 4 =
          getU32Raw (Memory.store (fun _ => 0) 0 message) 4 := by
        have byte (address : Nat) (below : address < 8) :
            Memory.store buffer 0 message address =
              Memory.store (fun _ => 0) 0 message address :=
          Memory.store_agree _ _ (Nat.zero_le _) (by omega)
        simp only [getU32Raw]
        rw [byte 4 (by decide), byte (4 + 1) (by decide), byte (4 + 2) (by decide),
          byte (4 + 3) (by decide)]
      rw [same]
      split <;> exact if_neg plain.2

/-- What is left to do of an upload. -/
def PutLoop.work (src : SourceFile) {σ : Type u} (loop : PutLoop σ) : Nat :=
  match loop.state with
  | .start => src.contents.length + 3
  | .data => src.contents.length - loop.position + 2
  | .fileEnd => 1
  | .finished => 0

/-- The file grows less: the next packet was sent, or there was none and nothing
is on the way. -/
def Advances (src : SourceFile) (before next : PutLoop (Link τ)) : Prop :=
  (Calm Plain 1 next.outside ∧ PutLoop.work src next < PutLoop.work src before) ∨
    (Calm Plain 0 next.outside ∧ PutLoop.work src next ≤ PutLoop.work src before)

/-- The work behind a read of some bytes. -/
theorem work_filled (src : SourceFile) {σ : Type u} {loop : PutLoop σ} (data : loop.state = .data)
    (n : Nat) (outside : σ) :
    PutLoop.work src (loop.filled src n outside) ≤
      src.contents.length - (loop.position + trimmed n) + 2 := by
  unfold PutLoop.work PutLoop.filled
  simp only [data]
  split
  · rename_i state
    split at state <;> cases state
  · exact Nat.le_refl _
  · omega
  · exact Nat.zero_le _

/-- Behind a `SUCCESS` an upload advances or ends. -/
theorem putSuccess_advances (answers : AnswersOnce Plain device) (src : SourceFile)
    (path : CString) {loop : PutLoop (Link τ)} (calm : Calm Plain 0 loop.outside) :
    (putSuccess (Link.env device host) src path loop).Holds (Advances src loop)
      (fun _ => True) := by
  have writes := writes_putSuccess (Link.env device host) src path loop
  unfold putSuccess at writes ⊢
  cases stage : loop.state with
  | start =>
      simp only [stage, putStart_eq] at writes ⊢
      refine Or.inl ⟨by simpa using calm_writes answers writes calm, ?_⟩
      simp only [PutLoop.work, stage]
      omega
  | data =>
      simp only [stage] at writes ⊢
      have work : PutLoop.work src loop = src.contents.length - loop.position + 2 := by
        simp only [PutLoop.work, stage]
      cases answered : (Link.env device host).read
          (min 65518 (src.contents.length - loop.position)) loop.outside with
      | mk read outside =>
          have step : Local (Link.env device host) loop.outside _ :=
            .read (min 65518 (src.contents.length - loop.position))
          rw [answered] at step
          have quiet : Calm Plain 0 outside := calm_local calm step
          cases read with
          | none =>
              rw [putData_of_error answered]
              refine Or.inr ⟨quiet, ?_⟩
              rw [work]
              simp only [PutLoop.work]
              omega
          | some n =>
              have bound := n.isLt
              have kept := trimmed_le n
              have filled := work_filled src stage n outside
              rw [putData_of_read answered] at writes ⊢
              simp only at writes ⊢
              by_cases empty : trimmed n = 0
              · rw [if_pos empty]
                refine Or.inr ⟨quiet, ?_⟩
                omega
              · rw [if_neg empty] at writes ⊢
                split
                · trivial
                · rename_i whole
                  rw [if_neg whole] at writes
                  refine Or.inl ⟨by simpa using calm_writes answers writes calm, ?_⟩
                  have same : PutLoop.work src ((loop.filled src n outside).send
                      (Link.env device host) (loop.filled src n outside).packet).1 =
                        PutLoop.work src (loop.filled src n outside) := rfl
                  rw [same]
                  omega
  | fileEnd =>
      simp only [stage, putEnd_eq] at writes ⊢
      refine Or.inl ⟨by simpa using calm_writes answers writes calm, ?_⟩
      simp only [PutLoop.work, stage]
      omega
  | finished => trivial

theorem work_le {σ : Type u} (src : SourceFile) (loop : PutLoop σ) :
    PutLoop.work src loop ≤ src.contents.length + 3 := by
  unfold PutLoop.work
  split <;> omega

/-- Every pass of an upload leaves, or there is less to do or on the way. -/
theorem putBody_advances (answers : AnswersOnce Plain device) (src : SourceFile)
    (path : CString) {loop : PutLoop (Link τ)} (calm : Calm Plain 1 loop.outside) :
    (∃ result, putBody (Link.env device host) src path loop = .leave result) ∨
      ∃ next, putBody (Link.env device host) src path loop = .again next ∧
        Calm Plain 1 next.outside ∧
        2 * PutLoop.work src next + next.outside.queue.length <
          2 * PutLoop.work src loop + loop.outside.queue.length := by
  unfold putBody
  simp only
  by_cases accepted : 0 < (getTfPacket (Link.env device host) loop.reply loop.outside).ret
  · rw [if_pos accepted]
    cases queued : loop.outside.queue with
    | nil =>
        rw [getTfPacket, usbBulkRead_of_empty queued, acceptPacket_pos_iff] at accepted
        exact absurd accepted.1 (show ¬ PACKET_HEAD_SIZE ≤ 0 by decide)
    | cons message rest =>
        have plain := calm.each message (by rw [queued]; exact List.mem_cons_self)
        have arrives : Delivers (Link.env device host) loop.outside message
            { loop.outside with queue := [] } :=
          delivers_only allFit_plain calm queued
        have after := getTfPacket_plain host plain arrives loop.reply
        generalize getTfPacket (Link.env device host) loop.reply loop.outside = got at after
        have quiet : Calm Plain 0 (loop.accept got).outside := by
          have same : (loop.accept got).outside = { loop.outside with queue := [] } := after
          rw [same]
          exact ⟨calm.idle, Nat.le_refl 0, List.forall_mem_nil _⟩
        by_cases success : packetCmd (loop.accept got).reply = SUCCESS
        · rw [if_pos success]
          have advances := putSuccess_advances host answers src path quiet
          cases outcome : putSuccess (Link.env device host) src path (loop.accept got) with
          | leave result => exact Or.inl ⟨result, rfl⟩
          | again next =>
              rw [outcome] at advances
              have same : PutLoop.work src (loop.accept got) = PutLoop.work src loop := rfl
              refine Or.inr ⟨next, rfl, ?_⟩
              rw [List.length_cons]
              rcases advances with ⟨less, fewer⟩ | ⟨none, atMost⟩
              · have few := less.few
                exact ⟨less, by omega⟩
              · have few := none.few
                exact ⟨none.mono zero_le_one, by omega⟩
        · rw [if_neg success]
          split
          · exact Or.inl ⟨_, rfl⟩
          · have few := quiet.few
            refine Or.inr ⟨_, rfl, quiet.mono zero_le_one, ?_⟩
            rw [List.length_cons]
            have same : PutLoop.work src ((loop.accept got).print [.unhandledPacket none]) =
              PutLoop.work src loop := rfl
            have outside : ((loop.accept got).print [.unhandledPacket none]).outside =
              (loop.accept got).outside := rfl
            rw [same, outside]
            omega
  · rw [if_neg accepted]
    exact Or.inl ⟨_, rfl⟩

/-- Against a device that answers once and sends no file data an upload returns,
at the latest when every byte had a packet of its own. -/
theorem puppyHddFilePut_returns (answers : AnswersOnce Plain device) (src : SourceFile)
    {path : CString} (short : path.length ≤ 65534) (buffers : Buffers) {link : Link τ}
    (calm : Calm Plain 0 link) :
    ∃ fuel ≤ 2 * src.contents.length + 8, ∃ result,
      puppyHddFilePut (Link.env device host) fuel src path buffers link = .leave result := by
  have prologue := writes_putPrologue (Link.env device host) short src buffers link
  unfold puppyHddFilePut
  cases entered : putPrologue (Link.env device host) src path buffers link with
  | leave result => exact ⟨0, Nat.zero_le _, result, rfl⟩
  | again loop =>
      rw [entered] at prologue
      have started : Calm Plain 1 loop.outside := by
        simpa using calm_writes answers prologue calm
      obtain ⟨n, result, bound, left, _⟩ := run_leaves_of_measure
        (putBody (Link.env device host) src path) (fun loop => Calm Plain 1 loop.outside)
        (fun _ => True) (fun loop => 2 * PutLoop.work src loop + loop.outside.queue.length)
        (fun loop calm => by simpa using putBody_advances host answers src path calm) started
      have work := work_le src loop
      have few := started.few
      exact ⟨n, by omega, result, left⟩

end Upload

theorem puppyHddFilePut_returns_content :
    ∃ fuel ≤ 18, ∃ result, puppyHddFilePut (Link.env content Host.epoch) fuel fiveBytes pathA
      zeroBuffers ⟨[], [], ()⟩ = .leave result :=
  puppyHddFilePut_returns Host.epoch answersOnce_content fiveBytes
    (show pathA.length ≤ 65534 by decide) zeroBuffers calm_blank

end Puppy.Peer
