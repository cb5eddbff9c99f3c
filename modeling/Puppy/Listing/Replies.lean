import Puppy.Listing.Terminator
import Puppy.Usb.Codec
import Puppy.Usb.Request

/-!
# A listing and the replies to its request

`puppy_hdd_dir` sends its request before it looks at `p->error`.  Against a
device that sends the packets of a listing one by one, each later one behind a
`SUCCESS`, it takes all of them off the link when it enters its loop, and leaves
the first of them behind when an earlier error keeps it out of the loop.
-/

namespace Puppy.Listing

open Transition
open Puppy.Wire Puppy.Usb

universe u

variable {τ : Type u}

/-- A packet that a device can send as one message. -/
structure Sendable (packet : Memory UInt8) : Prop where
  header : PACKET_HEAD_SIZE ≤ (packetLength packet).toNat
  bound : (packetLength packet).toNat < MAXIMUM_PACKET_SIZE

/-- The device answers a message with the packets of a listing, each later one
behind a `SUCCESS`, and then with `DATA_HDD_DIR_END`. -/
inductive Lists (device : Device τ) : List UInt8 → τ → List (Memory UInt8) → τ → Prop
  | last {message : List UInt8} {state final : τ} {packet : Memory UInt8}
      (answer : device.respond message state = ([wireImage packet], final))
      (sendable : Sendable packet) (atEnd : packetCmd packet = DATA_HDD_DIR_END) :
      Lists device message state [] final
  | dir {message : List UInt8} {state next final : τ} {packet : Memory UInt8}
      {packets : List (Memory UInt8)}
      (answer : device.respond message state = ([wireImage packet], next))
      (sendable : Sendable packet) (dir : packetCmd packet = DATA_HDD_DIR)
      (rest : Lists device successPacket next packets final) :
      Lists device message state (packet :: packets) final

/-- A link on which nothing is under way. -/
def idleLink (device : τ) : Link τ where
  pending := []
  queue := []
  device

/-- The path fits into the request. -/
def DirAccepts (path : CString) : Prop :=
  PACKET_HEAD_SIZE + (path.length + 1) < MAXIMUM_PACKET_SIZE

instance (path : CString) : Decidable (DirAccepts path) :=
  inferInstanceAs (Decidable (_ < _))

/-- Nothing is under way on the link, and the device has sent all its replies to
the request, if there was one. -/
structure Settled (path : CString) (final : τ) (link : Link τ) : Prop where
  pending : link.pending = []
  queue : link.queue = []
  device : DirAccepts path → link.device = final

/-! ## The request -/

/-- The size of the request, for a path whose length is an `int`. -/
theorem hddDirSize_of_short {path : CString} (short : path.length + 1 < 2 ^ 31) :
    hddDirSize path = (path.length + 9 : Nat) := by
  rw [hddDirSize, toInt_of_lt short, PACKET_HEAD_SIZE]
  omega

theorem hddDirSize_ge_iff {path : CString} (short : path.length + 1 < 2 ^ 31) :
    hddDirSize path ≥ MAXIMUM_PACKET_SIZE ↔ ¬ DirAccepts path := by
  rw [hddDirSize_of_short short]
  unfold DirAccepts PACKET_HEAD_SIZE
  omega

/-- The request for a path that fits is a message of its own. -/
theorem sendable_hddDirPacket {path : CString} (accepts : DirAccepts path)
    (req : Memory UInt8) : Sendable (hddDirPacket req path) := by
  unfold DirAccepts PACKET_HEAD_SIZE at accepts
  have fits : path.length + 9 < MAXIMUM_PACKET_SIZE := by omega
  have size : hddDirSize path = (path.length + 9 : Nat) := by
    unfold MAXIMUM_PACKET_SIZE at fits
    exact hddDirSize_of_short (by omega)
  have length : (packetLength (hddDirPacket req path)).toNat = roundUpEven (path.length + 9) := by
    rw [hddDirPacket, CString.copyTo, packetLength_store _ _ (Nat.le_refl _), size]
    exact packetLength_putRequestHeader fits _ _
  obtain ⟨header, bound⟩ := bounds_roundUpEven (by unfold PACKET_HEAD_SIZE; omega) fits
  rw [← length] at header bound
  exact ⟨header, bound⟩

/-- A path that fits is sent with one packet. -/
theorem sendCmdHddDir_of_accepts {path : CString} (accepts : DirAccepts path) (env : Env τ)
    (req : Memory UInt8) (state : τ) :
    sendCmdHddDir env req path state = sendPacket env (hddDirPacket req path) state := by
  have short : path.length + 1 < 2 ^ 31 := by
    unfold DirAccepts PACKET_HEAD_SIZE MAXIMUM_PACKET_SIZE at accepts
    omega
  have fits : ¬ hddDirSize path ≥ MAXIMUM_PACKET_SIZE := by
    rw [hddDirSize_ge_iff short, not_not]
    exact accepts
  exact sendRequest_of_fits fits

/-- A path that does not fit is not sent. -/
theorem sendCmdHddDir_of_tooLong {path : CString} (short : path.length + 1 < 2 ^ 31)
    (tooLong : ¬ DirAccepts path) (env : Env τ) (req : Memory UInt8) (state : τ) :
    sendCmdHddDir env req path state =
      { ret := -1, sends := [], stderr := [.pathTooLong], state } :=
  sendRequest_of_tooLong ((hddDirSize_ge_iff short).mpr tooLong)

variable {device : Device τ} {host : Host}

variable (device host) in
/-- A request that fits reaches the device. -/
theorem sendCmdHddDir_link {path : CString} (accepts : DirAccepts path) (req : Memory UInt8)
    (link : Link τ) (idle : link.pending = []) :
    0 ≤ (sendCmdHddDir (Link.env device host) req path link).ret ∧
      (sendCmdHddDir (Link.env device host) req path link).state =
        link.taken device (wireImage (hddDirPacket req path)) := by
  rw [sendCmdHddDir_of_accepts accepts, sendPacket,
    sendTfPacket_link device host (sendable_hddDirPacket accepts req).header idle]
  exact ⟨Int.natCast_nonneg _, rfl⟩

/-! ## The loop -/

/-- A link on which one packet waits. -/
def waitingLink (packet : Memory UInt8) (device : τ) : Link τ where
  pending := []
  queue := [wireImage packet]
  device

theorem taken_idleLink {message : List UInt8} {state next : τ} {packet : Memory UInt8}
    (answer : device.respond message state = ([wireImage packet], next)) :
    (idleLink state).taken device message = waitingLink packet next := by
  simp [Link.taken, idleLink, waitingLink, answer]

variable (device host) in
/-- A waiting packet is received and leaves the link idle. -/
theorem getTfPacket_waitingLink {packet : Memory UInt8} (sendable : Sendable packet)
    {cmd : UInt32} (carried : packetCmd packet = cmd) (quiet : cmd ≠ DATA_HDD_FILE_DATA)
    (buffer : Memory UInt8) (next : τ) :
    (arrivalOf (getTfPacket (Link.env device host) buffer (waitingLink packet next))).carries cmd ∧
      (getTfPacket (Link.env device host) buffer (waitingLink packet next)).state =
        idleLink next := by
  have delivered : Delivers (Link.env device host) (waitingLink packet next) (wireImage packet)
      (idleLink next) :=
    delivers_link_single device host sendable.header sendable.bound rfl
  obtain ⟨ret, _, arrived, _, _, _, _, state⟩ :=
    getTfPacket_of_delivers_wireImage packet sendable.header sendable.bound delivered buffer
  rw [carried, if_neg quiet] at state
  have positive : 0 < byteCount packet := by
    have header : 8 ≤ (packetLength packet).toNat := sendable.header
    have := le_roundUpEven (packetLength packet).toNat
    rw [byteCount]
    omega
  refine ⟨⟨?_, arrived.trans carried⟩, state⟩
  rw [arrivalOf, ret]
  exact Int.natCast_pos.mpr positive

theorem dirExit_outside {σ : Type u} (loop : DirLoop σ) :
    (dirExit loop).2.outside = loop.outside := by
  unfold dirExit
  split <;> rfl

variable (device host) in
/-- The terminator ends the listing with an idle link. -/
theorem leaves_of_end {packet : Memory UInt8} (sendable : Sendable packet)
    (atEnd : packetCmd packet = DATA_HDD_DIR_END) {final : τ} {loop : DirLoop (Link τ)}
    (goes : loop.Goes) (outside : loop.outside = waitingLink packet final) :
    ∃ result, Leaves (dirBody (Link.env device host)) loop result ∧
      result.2.outside = idleLink final := by
  have enters : dirBody (Link.env device host) loop = dirTurn (Link.env device host) loop :=
    whileLoop_of_condition goes
  obtain ⟨carries, after⟩ := getTfPacket_waitingLink device host sendable
    atEnd (by decide) loop.reply final
  have turn := dirTurn_cases (Link.env device host) loop
  rw [← enters, outside] at turn
  generalize getTfPacket (Link.env device host) loop.reply (waitingLink packet final) = got
    at carries after turn
  have pass := turn.of_end carries
  refine ⟨_, leaves_of_again pass (leaves_of_leave (whileLoop_of_not_condition ?_)), ?_⟩
  · intro goes
    cases goes.1
  · rw [dirExit_outside]
    exact after

/-- The first reply. -/
theorem Lists.waits {message : List UInt8} {state final : τ} {packets : List (Memory UInt8)}
    (lists : Lists device message state packets final) :
    ∃ packet next, (idleLink state).taken device message = waitingLink packet next := by
  cases lists with
  | last answer _ _ => exact ⟨_, _, taken_idleLink answer⟩
  | dir answer _ _ _ => exact ⟨_, _, taken_idleLink answer⟩

/-- From where the device has answered a message, the loop receives all packets
of the listing, or runs out of memory. -/
theorem leaves_of_lists {message : List UInt8} {state final : τ} {packets : List (Memory UInt8)}
    (lists : Lists device message state packets final) :
    ∀ loop : DirLoop (Link τ), loop.Goes →
      loop.outside = (idleLink state).taken device message →
      ∃ result, Leaves (dirBody (Link.env device host)) loop result ∧
        (result.1.isSome → result.2.outside = idleLink final) := by
  induction lists with
  | last answer sendable atEnd =>
      intro loop goes outside
      rw [taken_idleLink answer] at outside
      obtain ⟨result, leaves, idle⟩ := leaves_of_end device host sendable atEnd goes outside
      exact ⟨result, leaves, fun _ => idle⟩
  | @dir message state next final packet packets answer sendable dir rest ih =>
      intro loop goes outside
      rw [taken_idleLink answer] at outside
      have enters : dirBody (Link.env device host) loop = dirTurn (Link.env device host) loop :=
        whileLoop_of_condition goes
      obtain ⟨carries, after⟩ := getTfPacket_waitingLink device host
        sendable dir (by decide) loop.reply next
      have turn := dirTurn_cases (Link.env device host) loop
      rw [← enters, outside] at turn
      generalize getTfPacket (Link.env device host) loop.reply (waitingLink packet next) = got
        at carries after turn
      rcases turn.of_dir carries with ⟨buffer, _, pass⟩ | ⟨_, pass⟩
      · have acknowledged : (sendSuccess (Link.env device host) got.state).state =
            (idleLink next).taken device successPacket := by
          rw [after]
          exact sendSuccess_link device host rfl
        obtain ⟨result, leaves, idle⟩ := ih
          { loop.accept got with
            buffer := some buffer
            outside := (sendSuccess (Link.env device host) got.state).state } goes acknowledged
        exact ⟨result, leaves_of_again pass leaves, idle⟩
      · exact ⟨_, leaves_of_leave pass, fun isSome => by cases isSome⟩

/-! ## The call -/

section Initial

variable {σ : Type u} (error : Int) (reply : Memory UInt8) (heap : Memory DirEntry)
  (request : Requested σ)

theorem outside_dirInitial : (dirInitial error reply heap request).outside = request.state := rfl

/-- The loop is entered exactly behind a request that was sent, without an
earlier error. -/
theorem goes_dirInitial_iff :
    (dirInitial error reply heap request).Goes ↔ 0 ≤ request.ret ∧ error = 0 := by
  have initial : (dirInitial error reply heap request).Goes ↔
      (if request.ret < 0 then EPROTO else error) = 0 := and_iff_right rfl
  rw [initial]
  by_cases refused : request.ret < 0
  · rw [if_pos refused]
    exact iff_of_false EPROTO_ne_zero fun sent => absurd refused (Int.not_lt.mpr sent.1)
  · rw [if_neg refused, and_iff_right (Int.not_lt.mp refused)]

variable {error reply heap request} in
/-- A listing that does not enter its loop returns the memory of the terminator
alone, with the link as the request has left it and an error. -/
theorem run_dirBody_of_not_goes (env : Env σ)
    (skips : ¬ (dirInitial error reply heap request).Goes) :
    ∃ last, last.error ≠ 0 ∧ last.outside = request.state ∧
      ∀ fuel, run (dirBody env) (fuel + 1) (dirInitial error reply heap request) =
        .leave (some [heap 0], last) := by
  have exits : dirBody env (dirInitial error reply heap request) =
      .leave (dirExit (dirInitial error reply heap request)) :=
    whileLoop_of_not_condition skips
  obtain ⟨buffer, buffered, filled⟩ := dirInitial_invariant env error reply heap request
  have kept := dirExit_error (dirInitial error reply heap request)
  have outside := dirExit_outside (dirInitial error reply heap request)
  rcases filled.exit buffered with ⟨last, exit, _⟩ | ⟨_, full⟩
  · rw [exit] at exits kept outside
    refine ⟨last, ?_, outside, fun fuel => run_succ_of_leave exits fuel⟩
    rw [kept]
    intro zero
    exact skips ⟨rfl, zero⟩
  · have one : EntriesFit 1 := entriesFit_iff.mpr (by decide)
    exact absurd one full

end Initial

/-- Behind a path that does not fit no packet is read. -/
theorem not_goes_of_tooLong {path : CString} (short : path.length + 1 < 2 ^ 31)
    (tooLong : ¬ DirAccepts path) (env : Env τ) (error : Int) (reply : Memory UInt8)
    (heap : Memory DirEntry) (req : Memory UInt8) (state : τ) :
    ¬ (dirInitial error reply heap (sendCmdHddDir env req path state)).Goes := by
  rw [goes_dirInitial_iff, sendCmdHddDir_of_tooLong short tooLong]
  exact fun goes => absurd goes.1 (by simp)

/-- Behind an error of an earlier call the first reply stays on the link. -/
theorem not_settled_of_error (host : Host) (heap : Memory DirEntry) {error : Int}
    (failed : error ≠ 0) {path : CString} (accepts : DirAccepts path) (req reply : Memory UInt8)
    {state final : τ} {packets : List (Memory UInt8)}
    (lists : Lists device (wireImage (hddDirPacket req path)) state packets final) :
    ¬ ∃ fuel array last,
      puppyHddDir (Link.env device host) fuel heap error path req reply (idleLink state) =
        .leave (array, last) ∧
      (array.isSome → Settled path final last.outside) := by
  rintro ⟨fuel, array, last, left, settled⟩
  obtain ⟨sent, outside⟩ := sendCmdHddDir_link device host accepts req (idleLink state) rfl
  obtain ⟨packet, next, waits⟩ := lists.waits
  have skips : ¬ (dirInitial error reply heap
      (sendCmdHddDir (Link.env device host) req path (idleLink state))).Goes :=
    fun goes => failed ((goes_dirInitial_iff _ _ _ _).mp goes).2
  obtain ⟨last', _, same, returns⟩ := run_dirBody_of_not_goes (Link.env device host) skips
  rw [puppyHddDir] at left
  have unique := run_leave_unique left (returns 0)
  cases unique
  have queue := (settled rfl).queue
  rw [same, outside, waits] at queue
  cases queue

/-- A listing returns with every reply to its request consumed exactly when
`p->error` was `0`, or no request was sent. -/
theorem puppyHddDir_settled_iff (host : Host) (heap : Memory DirEntry) (error : Int)
    (path : CString) (short : path.length + 1 < 2 ^ 31) (req reply : Memory UInt8)
    {state final : τ} {packets : List (Memory UInt8)}
    (lists : Lists device (wireImage (hddDirPacket req path)) state packets final) :
    (∃ fuel array last,
      puppyHddDir (Link.env device host) fuel heap error path req reply (idleLink state) =
        .leave (array, last) ∧
      (array.isSome → Settled path final last.outside)) ↔
    (error = 0 ∨ ¬ DirAccepts path) := by
  constructor
  · rintro ⟨fuel, array, last, left, settled⟩
    by_contra neither
    rw [not_or, not_not] at neither
    obtain ⟨failed, accepts⟩ := neither
    exact not_settled_of_error host heap failed accepts req reply lists
      ⟨fuel, array, last, left, settled⟩
  · intro fine
    by_cases accepts : DirAccepts path
    · have clear : error = 0 := fine.resolve_right (not_not.mpr accepts)
      obtain ⟨sent, outside⟩ := sendCmdHddDir_link device host accepts req (idleLink state) rfl
      obtain ⟨⟨array, last⟩, ⟨fuel, left⟩, idle⟩ := leaves_of_lists lists
        (dirInitial error reply heap
          (sendCmdHddDir (Link.env device host) req path (idleLink state)))
        ((goes_dirInitial_iff _ _ _ _).mpr ⟨sent, clear⟩)
        ((outside_dirInitial _ _ _ _).trans outside)
      refine ⟨fuel, array, last, left, fun isSome => ?_⟩
      rw [idle isSome]
      exact ⟨rfl, rfl, fun _ => rfl⟩
    · obtain ⟨last, _, same, returns⟩ := run_dirBody_of_not_goes (Link.env device host)
        (not_goes_of_tooLong short accepts (Link.env device host) error reply heap req
          (idleLink state))
      refine ⟨1, _, last, returns 0, fun _ => ?_⟩
      rw [same, sendCmdHddDir_of_tooLong short accepts]
      exact ⟨rfl, rfl, fun fits => absurd fits accepts⟩

/-- A `DATA_HDD_DIR_END` packet. -/
def endPacket : Memory UInt8 :=
  Memory.store (fun _ => 0) 0 [0x00, 0x08, 0x00, 0x00, 0x00, 0x00, 0x10, 0x04]

theorem sendable_endPacket : Sendable endPacket := ⟨by decide, by decide⟩

/-- A device that sends a directory packet by packet. -/
def directory : Device (List (Memory UInt8)) where
  respond _ packets :=
    match packets with
    | [] => ([wireImage endPacket], [])
    | packet :: rest => ([wireImage packet], rest)
  read _ packets := (none, packets)

theorem lists_directory {packets : List (Memory UInt8)}
    (dirs : ∀ packet ∈ packets, Sendable packet ∧ packetCmd packet = DATA_HDD_DIR)
    (message : List UInt8) : Lists directory message packets packets [] := by
  induction packets generalizing message with
  | nil => exact .last rfl sendable_endPacket (by decide)
  | cons packet rest ih =>
      have head := dirs packet List.mem_cons_self
      exact .dir rfl head.1 head.2
        (ih (fun other member => dirs other (List.mem_cons_of_mem _ member)) successPacket)

/-- Three records in two packets. -/
theorem lists_twoPackets (message : List UInt8) :
    Lists directory message [onePacket, twoPacket] [onePacket, twoPacket] [] := by
  apply lists_directory
  intro packet member
  rw [List.mem_cons, List.mem_singleton] at member
  rcases member with rfl | rfl
  · exact ⟨⟨by decide +kernel, by decide +kernel⟩, by decide +kernel⟩
  · exact ⟨⟨by decide +kernel, by decide +kernel⟩, by decide +kernel⟩

/-- The root of the disk. -/
def rootDirectory : CString where
  bytes := [0x5C]
  noNul := by decide +kernel

theorem puppyHddDir_settled_iff_twoPackets :
    (∃ fuel array last,
      puppyHddDir (Link.env directory Host.epoch) fuel (heapOf 0xFF) 0 rootDirectory (fun _ => 0)
        (fun _ => 0) (idleLink [onePacket, twoPacket]) = .leave (array, last) ∧
      (array.isSome → Settled rootDirectory [] last.outside)) ↔
    ((0 : Int) = 0 ∨ ¬ DirAccepts rootDirectory) :=
  puppyHddDir_settled_iff Host.epoch (heapOf 0xFF) 0 rootDirectory (by decide) _ _
    (lists_twoPackets _)

/-- With `p->error` set, the first packet of a listing is left behind. -/
theorem not_settled_twoPackets :
    ¬ ∃ fuel array last,
      puppyHddDir (Link.env directory Host.epoch) fuel (heapOf 0xFF) EPROTO rootDirectory
        (fun _ => 0) (fun _ => 0) (idleLink [onePacket, twoPacket]) = .leave (array, last) ∧
      (array.isSome → Settled rootDirectory [] last.outside) :=
  not_settled_of_error Host.epoch (heapOf 0xFF) EPROTO_ne_zero (by decide) _ _
    (lists_twoPackets _)

end Puppy.Listing
