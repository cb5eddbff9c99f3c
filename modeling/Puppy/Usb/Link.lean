import Puppy.Usb.Packet

/-!
# A device that exchanges whole messages

`Link` is an environment for `Env` whose far side works message by message.
Outgoing chunks are collected until as many bytes are there as the header
declares, rounded up to even; the device then answers with messages of its own.
Incoming messages wait in a queue: a read delivers what is left of the first
one, at most as much as it asked for, never crosses into the next message, and
fails when nothing is queued.  The two transfer theorems say that the chunking
loops move a message across such a link unchanged.
-/

namespace Puppy.Usb

open Transition
open Puppy.Wire Puppy.Time

universe u

variable {τ : Type u}

/-- A link with the device behind it. -/
structure Link (τ : Type u) where
  /-- The bytes of the host's current message that have arrived. -/
  pending : List UInt8
  /-- The messages waiting for the host, the first one possibly begun. -/
  queue : List (List UInt8)
  device : τ

/-- How a device reacts: to a complete message with messages of its own, and to
`read` calls on the source file with byte counts. -/
structure Device (τ : Type u) where
  respond : List UInt8 → τ → List (List UInt8) × τ
  read : (count : Nat) → τ → Option (Fin (count + 1)) × τ

/-- The calendar functions and the options of the host. -/
structure Host where
  localtime : Int → Tm
  mktime : Tm → Int
  ignoreCrc : Bool

/-- A host in a zone where every time is the epoch. -/
def Host.epoch : Host := ⟨fun _ => ⟨0, 0, 0, 1, 0, 70⟩, fun _ => 0, false⟩

/-- The number of bytes on the wire of the message that begins with `bytes`. -/
def messageSize (bytes : List UInt8) : Nat :=
  roundUpEven ((bytes.getD 1 0).toNat * 2 ^ 8 + (bytes.getD 0 0).toNat)

namespace Link

/-- Take a chunk, and hand the message to the device once it is complete. -/
def accept (device : Device τ) (chunk : List UInt8) (link : Link τ) : Link τ :=
  let bytes := link.pending ++ chunk
  if bytes.length < messageSize bytes then { link with pending := bytes }
  else
    { pending := []
      queue := link.queue ++ (device.respond bytes link.device).1
      device := (device.respond bytes link.device).2 }

/-- Deliver at most `len` bytes of the first message. -/
def deliver (len : Nat) (link : Link τ) :
    Option { data : List UInt8 // data.length ≤ len } × Link τ :=
  match link.queue with
  | [] => (none, link)
  | message :: rest =>
      (some ⟨message.take len, List.length_take_le len message⟩,
        { link with queue :=
            if message.length ≤ len then rest else message.drop len :: rest })

/-- The surroundings a link provides: bulk writes are taken in full, local
files open and accept every write. -/
def env (device : Device τ) (host : Host) : Env (Link τ) where
  bulkOut chunk link := (some ⟨chunk.length, Nat.lt_succ_self _⟩, accept device chunk link)
  bulkIn := deliver
  open64 link := (none, link)
  fstat64 link := (none, link)
  read count link :=
    ((device.read count link.device).1,
      { link with device := (device.read count link.device).2 })
  write bytes link := (some ⟨bytes.length, Nat.lt_succ_self _⟩, link)
  localtime := host.localtime
  mktime := host.mktime
  ignoreCrc := host.ignoreCrc

end Link

/-- A device that never answers: only what is queued already is delivered. -/
def mute : Device Unit where
  respond _ device := ([], device)
  read _ device := (none, device)

/-- A link to `mute`. -/
def Link.muteEnv : Env (Link Unit) := Link.env mute Host.epoch

variable {device : Device τ} {host : Host}

/-! ## Sending a message -/

/-- A message is as long as two bytes can say. -/
theorem messageSize_le (bytes : List UInt8) : messageSize bytes ≤ 65536 := by
  have low := UInt8.toNat_lt (bytes.getD 0 0)
  have high := UInt8.toNat_lt (bytes.getD 1 0)
  simp only [messageSize, roundUpEven]
  omega

theorem messageSize_take {message : List UInt8} {n : Nat} (two : 2 ≤ n) :
    messageSize (message.take n) = messageSize message := by
  have at0 : (message.take n).getD 0 0 = message.getD 0 0 := by
    simp [List.getD_eq_getElem?_getD, show 0 < n by omega]
  have at1 : (message.take n).getD 1 0 = message.getD 1 0 := by
    simp [List.getD_eq_getElem?_getD, show 1 < n by omega]
  rw [messageSize, messageSize, at0, at1]

/-- A packet on the wire is one message. -/
theorem messageSize_wireImage {packet : Memory UInt8}
    (nonempty : 0 < (packetLength packet).toNat) :
    messageSize (wireImage packet) = (wireImage packet).length := by
  have raw := congrArg UInt16.toNat (getU16Raw_store_wireImage nonempty fun _ => 0)
  rw [getU16Raw_toNat] at raw
  simp only [Memory.store, Nat.zero_le, if_true, Nat.sub_zero, Nat.zero_add] at raw
  rw [messageSize, raw, wireImage_length, byteCount]

/-- The link once the device has a whole message. -/
def Link.taken (device : Device τ) (message : List UInt8) (link : Link τ) : Link τ :=
  { pending := []
    queue := link.queue ++ (device.respond message link.device).1
    device := (device.respond message link.device).2 }

variable (device host) in
/-- A pass in the middle of a message leaves it pending; the last one hands it
to the device. -/
private theorem bulkWriteBody_link {message : List UInt8}
    (sized : messageSize message = message.length) {sent : Nat} {link : Link τ}
    (below : sent < message.length) (pending : link.pending = message.take sent) :
    bulkWriteBody (Link.env device host) message { sent, state := link } =
      if sent + MAX_WRITE < message.length then
        .again
          { sent := sent + MAX_WRITE
            state := { link with pending := message.take (sent + MAX_WRITE) } }
      else .leave { sent := message.length, state := link.taken device message } := by
  let chunk := (message.drop sent).take MAX_WRITE
  have chunkLength : chunk.length = min MAX_WRITE (message.length - sent) := by
    simp [chunk]
  have joined : link.pending ++ chunk = message.take (sent + MAX_WRITE) := by
    rw [pending, List.take_add]
  have joinedLength : (message.take (sent + MAX_WRITE)).length =
      min (sent + MAX_WRITE) message.length := List.length_take
  have short : message.length < 2 ^ 32 := by
    have bound := messageSize_le message
    omega
  simp only [bulkWriteBody, Link.env, take_writeLen short]
  by_cases unfinished : sent + MAX_WRITE < message.length
  · have full : chunk.length = MAX_WRITE := by omega
    have accepted : Link.accept device chunk link =
        { link with pending := message.take (sent + MAX_WRITE) } := by
      have begun : 2 ≤ sent + MAX_WRITE := by
        rw [MAX_WRITE]
        omega
      simp only [Link.accept, joined, messageSize_take begun, sized]
      rw [if_pos (by omega)]
    simp only [chunk] at full accepted
    rw [accepted, full, if_pos unfinished, if_pos ⟨by decide, unfinished⟩]
  · have exact : sent + chunk.length = message.length := by omega
    have accepted : Link.accept device chunk link = link.taken device message := by
      simp only [Link.accept, joined, List.take_of_length_le (Nat.not_lt.mp unfinished), sized]
      rw [if_neg (Nat.lt_irrefl _)]
      rfl
    simp only [chunk] at exact accepted
    rw [accepted, exact, if_neg unfinished, if_neg (fun more => Nat.lt_irrefl _ more.2)]

/-- From any point inside a message, the rest of `usb_bulk_write` completes it. -/
private theorem run_bulkWriteBody_link {message : List UInt8}
    (sized : messageSize message = message.length) (fuel : Nat) :
    ∀ (sent : Nat) (link : Link τ), sent < message.length → message.length < sent + fuel →
      link.pending = message.take sent →
      run (bulkWriteBody (Link.env device host) message) fuel { sent, state := link } =
        .leave { sent := message.length, state := link.taken device message } := by
  induction fuel with
  | zero =>
      intro sent link below enough
      omega
  | succ fuel ih =>
      intro sent link below enough pending
      have pass := bulkWriteBody_link device host sized below pending
      have positive : 0 < MAX_WRITE := by decide
      split at pass
      · rename_i unfinished
        rw [run_succ_of_again pass]
        exact ih _ _ unfinished (by omega) rfl
      · rw [run_succ_of_leave pass]

/-- A whole message written to an idle link reaches the device in one piece. -/
theorem usbBulkWrite_link {message : List UInt8} (nonempty : message ≠ [])
    (sized : messageSize message = message.length) {link : Link τ}
    (idle : link.pending = []) :
    usbBulkWrite (Link.env device host) message link =
      { sent := message.length, state := link.taken device message } := by
  rw [usbBulkWrite, run_bulkWriteBody_link sized _ 0 link
    (List.length_pos_iff.mpr nonempty) (by omega) (by simpa using idle)]
  rfl

/-! ## Receiving a message -/

/-- A pass without a queued message ends the read. -/
private theorem bulkReadBody_link_nil {size : Nat} {input : BulkIn (Link τ)}
    (empty : input.state.queue = []) :
    bulkReadBody (Link.env device host) size input = .leave input := by
  simp only [bulkReadBody, Link.env, Link.deliver, empty]

variable (device host) in
/-- A pass that reaches the end of the message. -/
private theorem bulkReadBody_link_of_le {size retrieved : Nat} (buffer : Memory UInt8)
    {message : List UInt8} {rest : List (List UInt8)} {link : Link τ}
    (queued : link.queue = message :: rest)
    (whole : message.length ≤ min (size - retrieved) MAX_READ) :
    let next : BulkIn (Link τ) :=
      { retrieved := retrieved + message.length
        buffer := Memory.store buffer retrieved message
        state := { link with queue := rest } }
    bulkReadBody (Link.env device host) size { retrieved, buffer, state := link } =
      if 0 < message.length ∧ retrieved + message.length < size ∧
          message.length = min (size - retrieved) MAX_READ
      then .again next else .leave next := by
  simp only [bulkReadBody, Link.env, Link.deliver, queued]
  rw [List.take_of_length_le whole, if_pos whole]

/-- A pass in the middle of the message reads a full chunk. -/
private theorem bulkReadBody_link_of_lt {size retrieved : Nat} {buffer : Memory UInt8}
    {message : List UInt8} {rest : List (List UInt8)} {link : Link τ}
    (queued : link.queue = message :: rest) (fits : retrieved + message.length ≤ size)
    (more : MAX_READ < message.length) :
    bulkReadBody (Link.env device host) size { retrieved, buffer, state := link } =
      .again
        { retrieved := retrieved + MAX_READ
          buffer := Memory.store buffer retrieved (message.take MAX_READ)
          state := { link with queue := message.drop MAX_READ :: rest } } := by
  have full : min (size - retrieved) MAX_READ = MAX_READ := by omega
  have chunkLength : (message.take MAX_READ).length = MAX_READ := by
    rw [List.length_take]
    omega
  have goesOn : 0 < MAX_READ ∧ retrieved + MAX_READ < size ∧ True :=
    ⟨by decide, by omega, trivial⟩
  simp only [bulkReadBody, Link.env, Link.deliver, queued, full, chunkLength]
  rw [if_neg (Nat.not_le.mpr more), if_pos goesOn]

variable (device host) in
/-- From any point inside a message, `usb_bulk_read` gets to its end.  It stops
there unless the last chunk was a full one and the buffer has room left. -/
theorem run_bulkReadBody_link (size : Nat) (rest : List (List UInt8)) (fuel : Nat) :
    ∀ (buffer : Memory UInt8) (retrieved : Nat) (message : List UInt8) (link : Link τ),
      message ≠ [] → link.queue = message :: rest → retrieved + message.length ≤ size →
      message.length ≤ fuel →
      let done : BulkIn (Link τ) :=
        { retrieved := retrieved + message.length
          buffer := Memory.store buffer retrieved message
          state := { link with queue := rest } }
      ∃ n ≤ message.length,
        run (bulkReadBody (Link.env device host) size) n { retrieved, buffer, state := link } =
          if message.length % MAX_READ = 0 ∧ retrieved + message.length < size
          then .again done else .leave done := by
  induction fuel with
  | zero =>
      intro buffer retrieved message link nonempty _ _ enough
      exact absurd (List.eq_nil_of_length_eq_zero (Nat.le_zero.mp enough)) nonempty
  | succ fuel ih =>
      intro buffer retrieved message link nonempty queued fits enough
      have positive : 0 < message.length := List.length_pos_iff.mpr nonempty
      have positiveChunk : 0 < MAX_READ := by decide
      by_cases whole : message.length ≤ MAX_READ
      · have inside : message.length ≤ min (size - retrieved) MAX_READ := by omega
        have pass := bulkReadBody_link_of_le device host buffer queued inside
        have goesOn : (0 < message.length ∧ retrieved + message.length < size ∧
              message.length = min (size - retrieved) MAX_READ) ↔
            message.length % MAX_READ = 0 ∧ retrieved + message.length < size := by
          constructor
          · rintro ⟨_, room, full⟩
            have exact : message.length = MAX_READ := by omega
            exact ⟨by rw [exact, Nat.mod_self], room⟩
          · rintro ⟨multiple, room⟩
            have least := Nat.le_of_dvd positive (Nat.dvd_of_mod_eq_zero multiple)
            exact ⟨positive, room, by omega⟩
        simp only [goesOn] at pass
        refine ⟨1, positive, ?_⟩
        split at pass
        · rename_i goes
          rw [run_succ_of_again pass, run_zero, if_pos goes]
        · rename_i stops
          rw [run_succ_of_leave pass, if_neg stops]
      · have more : MAX_READ < message.length := Nat.not_le.mp whole
        have left : (message.drop MAX_READ).length = message.length - MAX_READ :=
          List.length_drop
        have total : retrieved + MAX_READ + (message.length - MAX_READ) =
            retrieved + message.length := by omega
        have joined : Memory.store (Memory.store buffer retrieved (message.take MAX_READ))
            (retrieved + MAX_READ) (message.drop MAX_READ) =
              Memory.store buffer retrieved message := by
          have parts := Memory.store_store_append buffer retrieved (message.take MAX_READ)
            (message.drop MAX_READ)
          rw [List.length_take, Nat.min_eq_left (Nat.le_of_lt more),
            List.take_append_drop] at parts
          exact parts
        obtain ⟨n, bound, reached⟩ := ih (Memory.store buffer retrieved (message.take MAX_READ))
          (retrieved + MAX_READ) (message.drop MAX_READ)
          { link with queue := message.drop MAX_READ :: rest }
          (List.length_pos_iff.mp (by omega)) rfl (by omega) (by omega)
        refine ⟨n + 1, by omega, ?_⟩
        rw [run_succ_of_again (bulkReadBody_link_of_lt queued fits more), reached, left, total,
          joined, ← Nat.mod_eq_sub_mod (Nat.le_of_lt more)]

/-- A message at the head of the queue is read whole, unless its length is a
multiple of the chunk size and another message waits behind it. -/
theorem delivers_link {message : List UInt8} {rest : List (List UInt8)} {link : Link τ}
    (nonempty : message ≠ []) (queued : link.queue = message :: rest)
    (bound : message.length ≤ MAXIMUM_PACKET_SIZE)
    (framed : message.length % MAX_READ ≠ 0 ∨ rest = []) :
    Delivers (Link.env device host) link message
      { link with queue := rest } := by
  intro buffer
  obtain ⟨n, passes, reached⟩ := run_bulkReadBody_link device host MAXIMUM_PACKET_SIZE rest
    message.length buffer 0 message link nonempty queued (by simpa using bound) (Nat.le_refl _)
  simp only [Nat.zero_add] at reached
  split at reached
  · rename_i more
    -- a full chunk: the next request finds nothing queued
    have empty : rest = [] := framed.resolve_left (fun cut => cut more.1)
    have exit := (run_add_of_again reached 1).trans
      (run_succ_of_leave (bulkReadBody_link_nil empty) 0)
    exact (run_eq_leave_loopValue exit (n := MAXIMUM_PACKET_SIZE + 1) (by omega)).2
  · exact (run_eq_leave_loopValue reached (n := MAXIMUM_PACKET_SIZE + 1) (by omega)).2

end Puppy.Usb
