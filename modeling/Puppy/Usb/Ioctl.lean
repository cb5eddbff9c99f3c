import Puppy.Transition.Log
import Puppy.Usb.Link

/-!
# The bulk calls behind a transfer

The two loops of `usb_io.c` are run in surroundings that keep a log of the bulk
`ioctl` calls.  A write hands over the buffer piece by piece, from where the
accepted bytes end; a read stores what is delivered, and ends with a message
exactly when the last chunk tells it that there is nothing more.
-/

namespace Puppy.Usb

open Transition
open Puppy.Wire

universe u

variable {σ : Type u}

/-- A bulk `ioctl` with its answer, `none` for one that failed. -/
inductive Ioctl where
  | out (chunk : List UInt8) (ret : Option Nat)
  | input (len : Nat) (data : Option (List UInt8))

namespace Ioctl

/-- The bytes the device took. -/
def taken : Ioctl → List UInt8
  | .out chunk ret => chunk.take (ret.getD 0)
  | .input _ _ => []

/-- The bytes the device gave. -/
def given : Ioctl → List UInt8
  | .out _ _ => []
  | .input _ data => data.getD []

/-- The result is neither negative nor zero. -/
def Progress : Ioctl → Prop
  | .out _ ret => ∃ n, ret = some n ∧ 0 < n
  | .input _ data => ∃ bytes, data = some bytes ∧ bytes ≠ []

end Ioctl

/-- All bytes taken in the course of a log. -/
def accepted (calls : List Ioctl) : List UInt8 := calls.flatMap Ioctl.taken

/-- All bytes given in the course of a log. -/
def delivered (calls : List Ioctl) : List UInt8 := calls.flatMap Ioctl.given

@[simp]
theorem accepted_concat (calls : List Ioctl) (call : Ioctl) :
    accepted (calls ++ [call]) = accepted calls ++ call.taken := by
  simp [accepted]

@[simp]
theorem delivered_concat (calls : List Ioctl) (call : Ioctl) :
    delivered (calls ++ [call]) = delivered calls ++ call.given := by
  simp [delivered]

/-- Surroundings that also keep a log of the bulk calls. -/
def traceIoctls (env : Env σ) : Env (σ × List Ioctl) where
  bulkOut chunk state :=
    let out := env.bulkOut chunk state.1
    (out.1, out.2, state.2 ++ [.out chunk (out.1.map Fin.val)])
  bulkIn len state :=
    let got := env.bulkIn len state.1
    (got.1, got.2, state.2 ++ [.input len (got.1.map Subtype.val)])
  open64 state := ((env.open64 state.1).1, (env.open64 state.1).2, state.2)
  fstat64 state := ((env.fstat64 state.1).1, (env.fstat64 state.1).2, state.2)
  read count state := ((env.read count state.1).1, (env.read count state.1).2, state.2)
  write bytes state := ((env.write bytes state.1).1, (env.write bytes state.1).2, state.2)
  localtime := env.localtime
  mktime := env.mktime
  ignoreCrc := env.ignoreCrc

/-! ## The log changes nothing -/

/-- Without the log. -/
def BulkOut.forget (loop : BulkOut (σ × List Ioctl)) : BulkOut σ :=
  { sent := loop.sent, state := loop.state.1 }

/-- Without the log. -/
def BulkIn.forget (loop : BulkIn (σ × List Ioctl)) : BulkIn σ :=
  { retrieved := loop.retrieved, buffer := loop.buffer, state := loop.state.1 }

theorem usbBulkWrite_traceIoctls (env : Env σ) (bytes : List UInt8)
    (state : σ × List Ioctl) :
    (usbBulkWrite (traceIoctls env) bytes state).forget = usbBulkWrite env bytes state.1 := by
  have viewed : ∀ loop, bulkWriteBody env bytes (BulkOut.forget loop) =
      (bulkWriteBody (traceIoctls env) bytes loop).map BulkOut.forget BulkOut.forget := by
    rintro ⟨sent, before, calls⟩
    change bulkWriteBody env bytes { sent, state := before } = _
    simp only [bulkWriteBody, traceIoctls]
    generalize env.bulkOut _ before = answer
    rcases answer with ⟨_ | ret, after⟩
    · rfl
    · simp only
      split <;> rfl
  rw [usbBulkWrite, usbBulkWrite, ← loopValue_map BulkOut.forget, ← run_map viewed]
  rfl

theorem usbBulkRead_traceIoctls (env : Env σ) (buffer : Memory UInt8) (size : Nat)
    (state : σ × List Ioctl) :
    (usbBulkRead (traceIoctls env) buffer size state).forget =
      usbBulkRead env buffer size state.1 := by
  have viewed : ∀ loop, bulkReadBody env size (BulkIn.forget loop) =
      (bulkReadBody (traceIoctls env) size loop).map BulkIn.forget BulkIn.forget := by
    rintro ⟨retrieved, memory, before, calls⟩
    change bulkReadBody env size { retrieved, buffer := memory, state := before } = _
    simp only [bulkReadBody, traceIoctls]
    generalize env.bulkIn _ before = answer
    rcases answer with ⟨_ | data, after⟩
    · rfl
    · simp only
      split <;> rfl
  rw [usbBulkRead, usbBulkRead, ← loopValue_map BulkIn.forget, ← run_map viewed]
  rfl

/-- The calls of `usb_bulk_write`. -/
def writeIoctls (env : Env σ) (bytes : List UInt8) (state : σ) : List Ioctl :=
  (usbBulkWrite (traceIoctls env) bytes (state, [])).state.2

/-- The calls of `usb_bulk_read`. -/
def readIoctls (env : Env σ) (buffer : Memory UInt8) (size : Nat) (state : σ) : List Ioctl :=
  (usbBulkRead (traceIoctls env) buffer size (state, [])).state.2

/-! ## Writing -/

/-- A request for a piece of the buffer that begins where the accepted bytes
end, and is not too long. -/
def WritesFrom (bytes : List UInt8) (before : List Ioctl) : Ioctl → Prop
  | .out chunk _ => chunk.length ≤ MAX_WRITE ∧ accepted before ++ chunk <+: bytes
  | .input _ _ => False

/-- What the log of a write says about the bytes sent. -/
structure WriteLog (bytes : List UInt8) (sent : Nat) (calls : List Ioctl) : Prop where
  requests : Obeys (WritesFrom bytes) calls
  accepted : accepted calls = bytes.take sent
  bound : sent ≤ bytes.length

theorem WriteLog.nil (bytes : List UInt8) : WriteLog bytes 0 [] where
  requests := Obeys.nil
  accepted := rfl
  bound := Nat.zero_le _

/-- Whatever is answered to the next request, the log stays right. -/
theorem WriteLog.call {bytes : List UInt8} {sent : Nat} {calls : List Ioctl}
    (log : WriteLog bytes sent calls) (ret : Option Nat)
    (most : ret.getD 0 ≤
      ((bytes.drop sent).take (writeLen (bytes.length - sent))).length) :
    WriteLog bytes (sent + ret.getD 0)
      (calls ++ [.out ((bytes.drop sent).take (writeLen (bytes.length - sent))) ret]) := by
  have limit := writeLen_le_max (bytes.length - sent)
  have inside := log.bound
  constructor
  · rw [Obeys.append]
    refine ⟨log.requests, ?_⟩
    simp only [Obeys.cons, List.append_nil, Obeys.nil, and_true, WritesFrom]
    constructor
    · rw [List.length_take]
      omega
    · rw [log.accepted, ← List.take_add]
      exact List.take_prefix _ _
  · rw [List.length_take] at most
    rw [accepted_concat, log.accepted, Ioctl.taken, List.take_take, List.take_add,
      Nat.min_eq_left (by omega)]
  · rw [List.length_take, List.length_drop] at most
    omega

/-- In the middle of a write, every call so far has made progress. -/
structure Writing (bytes : List UInt8) (loop : BulkOut (σ × List Ioctl)) : Prop where
  log : WriteLog bytes loop.sent loop.state.2
  unfinished : loop.sent < bytes.length
  progress : ∀ call ∈ loop.state.2, call.Progress

/-- After a write, some call has made no progress or all bytes are sent. -/
structure Written (bytes : List UInt8) (loop : BulkOut (σ × List Ioctl)) : Prop where
  log : WriteLog bytes loop.sent loop.state.2
  whole : loop.sent = bytes.length ↔ ∀ call ∈ loop.state.2, call.Progress

theorem bulkWriteBody_writing (env : Env σ) {bytes : List UInt8}
    {loop : BulkOut (σ × List Ioctl)} (writing : Writing bytes loop) :
    (bulkWriteBody (traceIoctls env) bytes loop).Holds (Writing bytes) (Written bytes) := by
  obtain ⟨sent, before, calls⟩ := loop
  obtain ⟨log, unfinished, progress⟩ := writing
  have everyCall (chunk : List UInt8) (ret : Option Nat) :
      (∀ call ∈ calls ++ [.out chunk ret], call.Progress) ↔ ∃ n, ret = some n ∧ 0 < n := by
    rw [List.forall_mem_append, List.forall_mem_singleton]
    exact and_iff_right progress
  simp only at log unfinished
  simp only [bulkWriteBody, traceIoctls]
  generalize env.bulkOut _ before = answer
  rcases answer with ⟨_ | ret, after⟩
  · constructor
    · exact log.call none (Nat.zero_le _)
    · rw [everyCall]
      constructor
      · intro whole
        exact absurd whole (Nat.ne_of_lt unfinished)
      · rintro ⟨n, failed, _⟩
        cases failed
  · have answered := log.call (some ret.val) (Nat.le_of_lt_succ ret.isLt)
    have bound : sent + ret.val ≤ bytes.length := answered.bound
    have positive : (∃ n, some ret.val = some n ∧ 0 < n) ↔ 0 < ret.val := by simp
    simp only [Option.map_some]
    split
    · rename_i goes
      exact ⟨answered, goes.2, (everyCall _ _).mpr (positive.mpr goes.1)⟩
    · rename_i stops
      constructor
      · exact answered
      · rw [everyCall, positive]
        simp only
        omega

/-- A whole write leaves the log right. -/
theorem usbBulkWrite_written (env : Env σ) {bytes : List UInt8} (nonempty : bytes ≠ [])
    (state : σ) : Written bytes (usbBulkWrite (traceIoctls env) bytes (state, [])) := by
  have initial : Writing bytes
      ({ sent := 0, state := (state, []) } : BulkOut (σ × List Ioctl)) :=
    ⟨WriteLog.nil bytes, List.length_pos_iff.mpr nonempty, List.forall_mem_nil _⟩
  have outcome := run_holds (fun _ writing => bulkWriteBody_writing env writing)
    (bytes.length + 1) initial
  rw [(usbBulkWrite_exits (traceIoctls env) bytes (state, [])).1] at outcome
  exact outcome

/-- Whatever the calls return, `usb_bulk_write` ends, asks for nothing but
pieces of the buffer in their order, reports exactly the bytes that were taken,
and reports all of them exactly when every call made progress. -/
theorem usbBulkWrite_ioctls (env : Env σ) {bytes : List UInt8} (nonempty : bytes ≠ [])
    (state : σ) :
    let sent := (usbBulkWrite env bytes state).sent
    let calls := writeIoctls env bytes state
    Leaves (bulkWriteBody env bytes) { sent := 0, state } (usbBulkWrite env bytes state) ∧
      Obeys (WritesFrom bytes) calls ∧ accepted calls = bytes.take sent ∧
      sent ≤ bytes.length ∧
      (sent = bytes.length ↔ ∀ call ∈ calls, call.Progress) := by
  intro sent calls
  obtain ⟨log, whole⟩ := usbBulkWrite_written env nonempty state
  have same : (usbBulkWrite (traceIoctls env) bytes (state, [])).sent = sent :=
    congrArg BulkOut.sent (usbBulkWrite_traceIoctls env bytes (state, []))
  rw [same] at log whole
  exact ⟨⟨_, (usbBulkWrite_exits env bytes state).1⟩, log.requests, log.accepted, log.bound, whole⟩

theorem usbBulkWrite_ioctls_three :
    let link : Link Unit := { pending := [], queue := [], device := () }
    let sent := (usbBulkWrite Link.muteEnv [5, 0, 7] link).sent
    let calls := writeIoctls Link.muteEnv [5, 0, 7] link
    Leaves (bulkWriteBody Link.muteEnv [5, 0, 7]) { sent := 0, state := link }
        (usbBulkWrite Link.muteEnv [5, 0, 7] link) ∧
      Obeys (WritesFrom [5, 0, 7]) calls ∧ accepted calls = List.take sent [5, 0, 7] ∧
      sent ≤ 3 ∧ (sent = 3 ↔ ∀ call ∈ calls, call.Progress) :=
  usbBulkWrite_ioctls Link.muteEnv (List.cons_ne_nil 5 [0, 7])
    { pending := [], queue := [], device := () }

/-! ## Reading -/

/-- The buffer holds the bytes delivered so far behind its beginning. -/
structure Reading (buffer : Memory UInt8) (loop : BulkIn (σ × List Ioctl)) : Prop where
  retrieved : loop.retrieved = (delivered loop.state.2).length
  buffer : loop.buffer = Memory.store buffer 0 (delivered loop.state.2)

theorem bulkReadBody_reading (env : Env σ) (size : Nat) {buffer : Memory UInt8}
    {loop : BulkIn (σ × List Ioctl)} (reading : Reading buffer loop) :
    (bulkReadBody (traceIoctls env) size loop).Holds (Reading buffer) (Reading buffer) := by
  obtain ⟨retrieved, memory, before, calls⟩ := loop
  obtain ⟨count, stored⟩ := reading
  simp only at count stored
  have joined (bytes : List UInt8) : Memory.store memory retrieved bytes =
      Memory.store buffer 0 (delivered calls ++ bytes) := by
    rw [stored, count, Memory.store_front_append]
  simp only [bulkReadBody, traceIoctls]
  generalize env.bulkIn _ before = answer
  rcases answer with ⟨_ | data, after⟩
  · constructor
    · simp [count, Ioctl.given]
    · simp [stored, Ioctl.given]
  · have answered : Reading buffer
        { retrieved := retrieved + data.val.length
          buffer := Memory.store memory retrieved data.val
          state := (after, calls ++ [.input (min (size - retrieved) MAX_READ)
            (Option.map Subtype.val (some data))]) } := by
      constructor
      · simp [count, Ioctl.given]
      · simp [joined, Ioctl.given]
    simp only
    split
    · exact answered
    · exact answered

/-- Whatever arrives, `usb_bulk_read` ends, stores the bytes that were
delivered, in their order, and no more than it has room for. -/
theorem usbBulkRead_ioctls (env : Env σ) (buffer : Memory UInt8) (size : Nat) (state : σ) :
    let read := usbBulkRead env buffer size state
    let arrived := delivered (readIoctls env buffer size state)
    Leaves (bulkReadBody env size) { retrieved := 0, buffer, state } read ∧
      read.retrieved ≤ size ∧ read.retrieved = arrived.length ∧
      read.buffer = Memory.store buffer 0 arrived := by
  intro read arrived
  have initial : Reading buffer
      ({ retrieved := 0, buffer, state := (state, []) } : BulkIn (σ × List Ioctl)) :=
    ⟨rfl, (Memory.store_nil buffer 0).symm⟩
  have outcome := run_holds (fun _ reading => bulkReadBody_reading env size reading)
    (size + 1) initial
  rw [(usbBulkRead_exits (traceIoctls env) buffer size (state, [])).1] at outcome
  obtain ⟨count, stored⟩ := outcome
  have same := usbBulkRead_traceIoctls env buffer size (state, [])
  obtain ⟨exits, bound⟩ := usbBulkRead_exits env buffer size state
  refine ⟨⟨_, exits⟩, bound, ?_, ?_⟩
  · exact (congrArg BulkIn.retrieved same).symm.trans count
  · exact (congrArg BulkIn.buffer same).symm.trans stored

section Framing

variable {τ : Type u} {device : Device τ} {host : Host}

/-- What has been retrieved stays retrieved. -/
theorem bulkReadBody_grows (env : Env σ) (size : Nat) {least : Nat} {loop : BulkIn σ}
    (more : least < loop.retrieved) :
    (bulkReadBody env size loop).Holds (fun next => least < next.retrieved)
      (fun last => least < last.retrieved) := by
  simp only [bulkReadBody]
  split
  · exact more
  · split
    · exact Nat.lt_of_lt_of_le more (Nat.le_add_right _ _)
    · exact Nat.lt_of_lt_of_le more (Nat.le_add_right _ _)

/-- With room left and a message waiting, one more pass reads from it. -/
theorem bulkReadBody_swallows {size retrieved : Nat} (buffer : Memory UInt8) {link : Link τ}
    {next : List UInt8} {rest : List (List UInt8)} (queued : link.queue = next :: rest)
    (nonempty : next ≠ []) (room : retrieved < size) :
    (bulkReadBody (Link.env device host) size { retrieved, buffer, state := link }).Holds
      (fun later => retrieved < later.retrieved) (fun last => retrieved < last.retrieved) := by
  have some : 0 < (next.take (min (size - retrieved) MAX_READ)).length := by
    have positive : 0 < next.length := List.length_pos_iff.mpr nonempty
    have chunk : 0 < MAX_READ := by decide
    rw [List.length_take]
    omega
  simp only [bulkReadBody, Link.env, Link.deliver, queued]
  split
  · exact Nat.lt_add_of_pos_right some
  · exact Nat.lt_add_of_pos_right some

variable (device host) in
/-- A message that ends with a full chunk is read together with bytes of the
message behind it. -/
theorem usbBulkRead_swallows {message next : List UInt8} {rest : List (List UInt8)}
    {link : Link τ} {size : Nat} (queued : link.queue = message :: next :: rest)
    (nonempty : message ≠ []) (follows : next ≠ []) (room : message.length < size)
    (multiple : message.length % MAX_READ = 0) (buffer : Memory UInt8) :
    message.length < (usbBulkRead (Link.env device host) buffer size link).retrieved := by
  obtain ⟨n, passes, reached⟩ := run_bulkReadBody_link device host size (next :: rest)
    message.length buffer 0 message link nonempty queued (by omega) (Nat.le_refl _)
  simp only [Nat.zero_add] at reached
  rw [if_pos ⟨multiple, room⟩] at reached
  have whole := run_add_of_again reached (size - n + 1)
  rw [show n + (size - n + 1) = size + 1 by omega,
    (usbBulkRead_exits (Link.env device host) buffer size link).1] at whole
  have behind : ({ link with queue := next :: rest } : Link τ).queue = next :: rest := rfl
  have beyond := run_succ_holds (fun _ more => bulkReadBody_grows (Link.env device host) size more)
    (size - n) (bulkReadBody_swallows (Memory.store buffer 0 message) behind follows room)
  rw [← whole] at beyond
  exact beyond

/-- A read from a device that works message by message ends.  It returns the
message at the head of the queue, and leaves those behind it alone, exactly when
the message does not end with a full chunk or is the last one.  What it stores
is in any case what was delivered, and fits. -/
theorem usbBulkRead_frames {message : List UInt8} {rest : List (List UInt8)} {link : Link τ}
    (queued : link.queue = message :: rest) (nonempty : ∀ waiting ∈ link.queue, waiting ≠ [])
    (bound : message.length ≤ MAXIMUM_PACKET_SIZE) (buffer : Memory UInt8) :
    let env := Link.env device host
    let read := usbBulkRead env buffer MAXIMUM_PACKET_SIZE link
    let arrived := delivered (readIoctls env buffer MAXIMUM_PACKET_SIZE link)
    Leaves (bulkReadBody env MAXIMUM_PACKET_SIZE) { retrieved := 0, buffer, state := link } read ∧
      ((Memory.load read.buffer 0 read.retrieved = message ∧
          read.state = { link with queue := rest }) ↔
        message.length % MAX_READ ≠ 0 ∨ rest = []) ∧
      read.retrieved ≤ MAXIMUM_PACKET_SIZE ∧ read.retrieved = arrived.length ∧
      read.buffer = Memory.store buffer 0 arrived := by
  intro env read arrived
  obtain ⟨exits, most, count, stored⟩ :=
    usbBulkRead_ioctls env buffer MAXIMUM_PACKET_SIZE link
  refine ⟨exits, ?_, most, count, stored⟩
  have first : message ≠ [] := nonempty message (by rw [queued]; exact List.mem_cons_self)
  constructor
  · rintro ⟨exact, -⟩
    by_contra swallowed
    obtain ⟨multiple, behind⟩ := not_or.mp swallowed
    obtain ⟨next, others, rfl⟩ := List.exists_cons_of_ne_nil behind
    have follows : next ≠ [] := nonempty next (by simp [queued])
    have room : message.length < MAXIMUM_PACKET_SIZE := by
      apply Nat.lt_of_le_of_ne bound
      intro full
      rw [full] at multiple
      exact multiple (by decide)
    have more := usbBulkRead_swallows device host queued first follows room
      (not_not.mp multiple) buffer
    have length := congrArg List.length exact
    rw [Memory.load_length] at length
    exact absurd length (Nat.ne_of_gt more)
  · intro framed
    have whole : read = _ := delivers_link first queued bound framed buffer
    rw [whole]
    exact ⟨Memory.load_store_self buffer 0 message, rfl⟩

theorem usbBulkRead_frames_two :
    let read := usbBulkRead Link.muteEnv (fun _ => 0xFF) MAXIMUM_PACKET_SIZE
      { pending := [], queue := [[3, 1, 4], [1, 5]], device := () }
    Memory.load read.buffer 0 read.retrieved = [3, 1, 4] ∧
      read.state = { pending := [], queue := [[1, 5]], device := () } :=
  (usbBulkRead_frames rfl (by decide) (by decide) (fun _ => 0xFF)).2.1.mpr (Or.inl (by decide))

end Framing

end Puppy.Usb
