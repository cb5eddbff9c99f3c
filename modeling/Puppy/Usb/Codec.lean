import Puppy.Usb.Link

/-!
# What a received packet says about the transfer

The packet codec is a round trip: what `send_tf_packet` hands to the bulk pipe
is read back by `get_tf_packet` as the same packet with its check filled in.
For bytes that did not come from `send_tf_packet` the declared length decides
how much of the received packet is received data at all.
-/

namespace Puppy.Usb

open Puppy.Wire Puppy.Time

universe u

variable {σ : Type u}

/-! ## Round trip -/

/-- The header and the check of a packet that went over the wire. -/
theorem getTfPacket_of_delivers_wireImage {env : Env σ} {state after : σ}
    (packet : Memory UInt8) (header : PACKET_HEAD_SIZE ≤ (packetLength packet).toNat)
    (bound : (packetLength packet).toNat < MAXIMUM_PACKET_SIZE)
    (delivered : Delivers env state (wireImage packet) after) (buffer : Memory UInt8) :
    let got := getTfPacket env buffer state
    got.ret = byteCount packet ∧
      packetLength got.packet = packetLength packet ∧
      packetCmd got.packet = packetCmd packet ∧
      packetCrc got.packet = getCrc packet ∧
      getCrc got.packet = getCrc packet ∧
      got.stderr = [] ∧
      (∀ address < byteCount packet,
        got.packet address = putU16 packet 2 (getCrc packet) address) ∧
      got.state =
        (if packetCmd packet = DATA_HDD_FILE_DATA then (sendSuccess env after).state
          else after) := by
  have headerNat : 8 ≤ (packetLength packet).toNat := header
  let input : BulkIn σ :=
    { retrieved := (wireImage packet).length
      buffer := Memory.store buffer 0 (wireImage packet)
      state := after }
  have length : packetLength (swapInPacket input.buffer) = packetLength packet :=
    packetLength_swapInPacket_wireImage (by omega) buffer
  have cmd := packetCmd_swapInPacket_wireImage header bound buffer
  have crc := packetCrc_swapInPacket_wireImage header bound buffer
  have check := getCrc_swapInPacket_wireImage header bound buffer
  have arrived : ¬ ((wireImage packet).length : Int) < PACKET_HEAD_SIZE := by
    rw [wireImage_length, byteCount]
    have := le_roundUpEven (packetLength packet).toNat
    omega
  have raw : getU32Raw input.buffer 4 = packetCmd packet := by
    rw [← cmd]
    exact (packetCmd_swapInPacket (by rw [length]; exact header)).symm
  have quiet : ¬ (env.ignoreCrc = false ∧
      packetCrc (swapInPacket (Memory.store buffer 0 (wireImage packet))) ≠
        getCrc (swapInPacket (Memory.store buffer 0 (wireImage packet)))) :=
    fun mismatch => mismatch.2 (by rw [crc, check])
  have accepted : acceptPacket env input =
      { ret := (wireImage packet).length
        packet := swapInPacket input.buffer
        replies := if packetCmd packet = DATA_HDD_FILE_DATA then [.success] else []
        stderr := []
        state := if packetCmd packet = DATA_HDD_FILE_DATA then (sendSuccess env after).state
          else after } := by
    unfold acceptPacket
    simp only [raw]
    rw [if_neg (Int.not_lt.mpr (Int.natCast_nonneg _)), if_neg arrived]
    simp only [input, length]
    rw [if_neg (Nat.not_lt.mpr header), if_neg quiet]
  intro got
  have gotEq : got = acceptPacket env input := getTfPacket_of_delivers delivered buffer
  rw [gotEq, accepted]
  refine ⟨by simp, length, cmd, crc, check, rfl, ?_, rfl⟩
  intro address inside
  exact swapInPacket_wireImage bound buffer inside

/-- Packet codec round trip: `send_tf_packet` hands the bytes `wireImage packet` to
the bulk pipe, and these, delivered as one message, come back as the same packet
with the check over bytes `4` to `L - 1` in its `crc` field, and the receiver's
comparison succeeds. -/
theorem getTfPacket_wireImage (env : Env σ) (before state after : σ)
    (packet buffer : Memory UInt8) (L : Nat) (declared : (packetLength packet).toNat = L)
    (least : 8 ≤ L) (most : L ≤ 65534)
    (delivered : Delivers env state (wireImage packet) after) :
    let handed := usbBulkWrite env (wireImage packet) before
    let got := getTfPacket env buffer state
    (sendTfPacket env packet before).ret = handed.sent ∧
      (sendTfPacket env packet before).state = handed.state ∧
      got.ret = roundUpEven L ∧
      Memory.load got.packet 0 L =
        Memory.load (putU16 packet 2 (crc16Ansi packet 4 (L - 4))) 0 L ∧
      packetCrc got.packet = getCrc got.packet ∧
      got.stderr = [] := by
  subst declared
  intro handed got
  have parts := getTfPacket_of_delivers_wireImage packet least
    (by simp only [MAXIMUM_PACKET_SIZE]; omega) delivered buffer
  obtain ⟨ret, _, _, crc, check, quiet, bytes, _⟩ := parts
  refine ⟨rfl, rfl, ret, ?_, by rw [crc, check], quiet⟩
  rw [← getCrc_of_header least, Memory.load_eq_load_iff]
  intro offset below
  apply bytes
  have := le_roundUpEven (packetLength packet).toNat
  rw [byteCount]
  omega

/-- A `CMD_READY` packet with one odd byte of data. -/
def oddPacket : Memory UInt8 :=
  Memory.store (fun _ => 0) 0 [0x00, 0x09, 0x00, 0x00, 0x00, 0x00, 0x01, 0x00, 0x2a]

/-- A device that sends back what it gets. -/
def echo : Device Unit where
  respond message state := ([message], state)
  read _ state := (none, state)

/-- The packet is sent over a link and comes back. -/
theorem getTfPacket_wireImage_oddPacket :
    let env := Link.env echo Host.epoch
    let idle : Link Unit := { pending := [], queue := [], device := () }
    let handed := usbBulkWrite env (wireImage oddPacket) idle
    let got := getTfPacket env (fun _ => 0xFF) (sendTfPacket env oddPacket idle).state
    (sendTfPacket env oddPacket idle).ret = handed.sent ∧
      (sendTfPacket env oddPacket idle).state = handed.state ∧
      got.ret = roundUpEven 9 ∧
      Memory.load got.packet 0 9 =
        Memory.load (putU16 oddPacket 2 (crc16Ansi oddPacket 4 (9 - 4))) 0 9 ∧
      packetCrc got.packet = getCrc got.packet ∧
      got.stderr = [] :=
  getTfPacket_wireImage (Link.env echo Host.epoch) { pending := [], queue := [], device := () } _
    { pending := [], queue := [], device := () } oddPacket
    (fun _ => 0xFF) 9 (by decide) (by decide) (by decide)
    (delivers_link (by decide) (by decide +kernel) (by decide) (Or.inr rfl))

/-! ## Across a link -/

section Link

variable {τ : Type u} (device : Device τ) (host : Host)

/-- A packet handed over on an idle link reaches the device as one message. -/
theorem sendTfPacket_link {packet : Memory UInt8}
    (header : PACKET_HEAD_SIZE ≤ (packetLength packet).toNat) {link : Link τ}
    (idle : link.pending = []) :
    sendTfPacket (Link.env device host) packet link =
      { ret := byteCount packet
        packet := sealPacket packet
        state := link.taken device (wireImage packet) } := by
  have positive : 0 < (packetLength packet).toNat := Nat.lt_of_lt_of_le (by decide) header
  have nonempty : wireImage packet ≠ [] := by
    rw [← List.length_pos_iff, wireImage_length]
    exact Nat.lt_of_lt_of_le positive (le_roundUpEven _)
  rw [sendTfPacket, usbBulkWrite_link nonempty (messageSize_wireImage positive) idle,
    wireImage_length]

/-- A `SUCCESS` on an idle link reaches the device. -/
theorem sendSuccess_link {link : Link τ} (idle : link.pending = []) :
    (sendSuccess (Link.env device host) link).state = link.taken device successPacket := by
  rw [sendSuccess, usbBulkWrite_link (by decide) (by decide) idle]

/-- The only queued message is received whole. -/
theorem delivers_link_single {packet : Memory UInt8}
    (header : PACKET_HEAD_SIZE ≤ (packetLength packet).toNat)
    (bound : (packetLength packet).toNat < MAXIMUM_PACKET_SIZE) {link : Link τ}
    (queued : link.queue = [wireImage packet]) :
    Delivers (Link.env device host) link (wireImage packet)
      { link with queue := [] } := by
  refine delivers_link ?_ queued ?_ (Or.inr rfl)
  · rw [← List.length_pos_iff, wireImage_length]
    exact Nat.lt_of_lt_of_le (Nat.lt_of_lt_of_le (by decide) header) (le_roundUpEven _)
  · rw [wireImage_length]
    simp only [byteCount, roundUpEven, MAXIMUM_PACKET_SIZE] at bound ⊢
    omega

end Link

/-! ## What the buffer held before -/

/-- Whatever the packet buffer held before, an accepted packet reads the same
over its declared length. -/
def StaleFree (env : Env σ) (state : σ) : Prop :=
  ∀ first second : Memory UInt8,
    let fromFirst := (getTfPacket env first state)
    let fromSecond := (getTfPacket env second state)
    0 < fromFirst.ret → 0 < fromSecond.ret →
      Memory.load fromFirst.packet 0 (packetLength fromFirst.packet).toNat =
        Memory.load fromSecond.packet 0 (packetLength fromSecond.packet).toNat

/-- The length a received message declares. -/
def declaredLength (data : List UInt8) : Nat :=
  (data.getD 1 0).toNat * 2 ^ 8 + (data.getD 0 0).toNat

/-- The bytes that have to arrive for a declared length: the swapped pairs, up
to the size of the packet buffer. -/
def neededBytes (length : Nat) : Nat := min (roundUpEven length) MAXIMUM_PACKET_SIZE

theorem declaredLength_lt (data : List UInt8) : declaredLength data < 2 ^ 16 := by
  have high := (data.getD 1 0).toNat_lt
  have low := (data.getD 0 0).toNat_lt
  simp only [declaredLength]
  omega

private theorem getU16Raw_store (data : List UInt8) (two : 2 ≤ data.length)
    (buffer : Memory UInt8) :
    (getU16Raw (Memory.store buffer 0 data) 0).toNat = declaredLength data := by
  rw [getU16Raw_toNat, declaredLength]
  simp [Memory.store, List.getElem?_eq_getElem (show 1 < data.length by omega),
    List.getElem?_eq_getElem (show 0 < data.length by omega)]

/-- A received byte string is accepted on the strength of its header alone. -/
theorem getTfPacket_pos_iff_of_delivers {env : Env σ} {state after : σ} {data : List UInt8}
    (delivered : Delivers env state data after) (buffer : Memory UInt8) :
    0 < (getTfPacket env buffer state).ret ↔
      PACKET_HEAD_SIZE ≤ data.length ∧ PACKET_HEAD_SIZE ≤ declaredLength data := by
  rw [getTfPacket_of_delivers delivered, acceptPacket_pos_iff, packetLength_swapInPacket]
  refine and_congr_right fun header => ?_
  rw [getU16Raw_store data (by simp only [PACKET_HEAD_SIZE] at header; omega)]

/-- The packet an accepted byte string leaves behind, byte by byte. -/
theorem getTfPacket_packet_of_delivers {env : Env σ} {state after : σ} {data : List UInt8}
    (delivered : Delivers env state data after) {buffer : Memory UInt8}
    (accepted : 0 < (getTfPacket env buffer state).ret) :
    (packetLength (getTfPacket env buffer state).packet).toNat = declaredLength data ∧
      (getTfPacket env buffer state).packet =
        Memory.exchange (Memory.store buffer 0 data) (neededBytes (declaredLength data) / 2) := by
  have header := ((getTfPacket_pos_iff_of_delivers delivered buffer).mp accepted).1
  simp only [PACKET_HEAD_SIZE] at header
  rw [getTfPacket_of_delivers delivered] at accepted ⊢
  have packet := (acceptPacket_of_pos accepted).2.2.2.1
  have length := getU16Raw_store data (by omega) buffer
  rw [packet]
  constructor
  · rw [packetLength_swapInPacket, length]
  · rw [swapInPacket_eq_exchange, swapInSize, length, neededBytes]

/-- Where a byte of the declared range comes from on the wire. -/
private theorem exchange_source {length address : Nat} (inside : address < length)
    (bound : length < 2 ^ 16) (memory : Memory UInt8) :
    ∃ source < neededBytes length,
      Memory.exchange memory (neededBytes length / 2) address = memory source ∧
        ∀ other : Memory UInt8,
          Memory.exchange other (neededBytes length / 2) address = other source := by
  unfold neededBytes roundUpEven MAXIMUM_PACKET_SIZE
  by_cases swapped : address < 2 * (min ((length + 1) / 2 * 2) 0xFFFF / 2)
  · have source := Memory.neighbour_lt_iff.mpr swapped
    exact ⟨Memory.neighbour address, by omega, Memory.exchange_inside _ swapped,
      fun _ => Memory.exchange_inside _ swapped⟩
  · exact ⟨address, by omega, Memory.exchange_outside _ (by omega),
      fun _ => Memory.exchange_outside _ (by omega)⟩

/-- The last byte that has to arrive shows up inside the declared range. -/
private theorem exchange_last (length : Nat) (positive : 0 < length)
    (bound : length < 2 ^ 16) :
    ∃ address < length, ∀ memory : Memory UInt8,
      Memory.exchange memory (neededBytes length / 2) address =
        memory (neededBytes length - 1) := by
  unfold neededBytes roundUpEven MAXIMUM_PACKET_SIZE
  by_cases even : min ((length + 1) / 2 * 2) 0xFFFF % 2 = 0
  · refine ⟨min ((length + 1) / 2 * 2) 0xFFFF - 2, by omega, fun memory => ?_⟩
    rw [Memory.exchange_inside _ (by omega)]
    congr 1
    unfold Memory.neighbour
    rw [if_pos (by omega)]
    omega
  · exact ⟨min ((length + 1) / 2 * 2) 0xFFFF - 1, by omega,
      fun memory => Memory.exchange_outside _ (by omega)⟩

/-- No stale byte can show exactly when the packet is rejected or every byte
needed for its declared length arrived. -/
theorem staleFree_iff (env : Env σ) (state after : σ) (data : List UInt8)
    (delivered : Delivers env state data after) :
    StaleFree env state ↔
      (PACKET_HEAD_SIZE ≤ data.length → PACKET_HEAD_SIZE ≤ declaredLength data →
        neededBytes (declaredLength data) ≤ data.length) := by
  have bound := declaredLength_lt data
  constructor
  · intro staleFree arrived declared
    have declaredNat : 8 ≤ declaredLength data := declared
    obtain ⟨address, inside, shown⟩ := exchange_last (declaredLength data)
      (by omega) bound
    by_contra short
    have accepted : ∀ buffer, 0 < (getTfPacket env buffer state).ret := fun buffer =>
      (getTfPacket_pos_iff_of_delivers delivered buffer).mpr ⟨arrived, declared⟩
    have same := staleFree (fun _ => 0) (fun _ => 1) (accepted _) (accepted _)
    have zeros := getTfPacket_packet_of_delivers delivered (accepted fun _ => 0)
    have ones := getTfPacket_packet_of_delivers delivered (accepted fun _ => 1)
    rw [zeros.1, ones.1, zeros.2, ones.2, Memory.load_eq_load_iff] at same
    have differ := same address inside
    rw [Nat.zero_add, shown, shown, Memory.store_above _ (by omega),
      Memory.store_above _ (by omega)] at differ
    exact absurd differ (by decide)
  · intro complete first second fromFirst fromSecond firstAccepted secondAccepted
    obtain ⟨arrived, declared⟩ :=
      (getTfPacket_pos_iff_of_delivers delivered first).mp firstAccepted
    have enough := complete arrived declared
    have firstPacket := getTfPacket_packet_of_delivers delivered firstAccepted
    have secondPacket := getTfPacket_packet_of_delivers delivered secondAccepted
    simp only [fromFirst, fromSecond]
    rw [firstPacket.1, secondPacket.1, firstPacket.2, secondPacket.2, Memory.load_eq_load_iff]
    intro offset below
    rw [Nat.zero_add]
    obtain ⟨source, needed, fromSource, fromOther⟩ :=
      exchange_source below bound (Memory.store first 0 data)
    rw [fromSource, fromOther]
    exact Memory.store_agree first second (Nat.zero_le _) (by omega)

/-- A `DATA_HDD_FILE_DATA` packet that declares four bytes of file data and
comes with none. -/
def shortMessage : List UInt8 :=
  [0x14, 0x00, 0x00, 0x00, 0x00, 0x00, 0x0a, 0x10, 0x00, 0x00, 0x00, 0x00, 0x00, 0x00, 0x00, 0x00]

theorem staleFree_iff_shortMessage :
    StaleFree Link.muteEnv { pending := [], queue := [shortMessage], device := () } ↔
      (PACKET_HEAD_SIZE ≤ shortMessage.length →
        PACKET_HEAD_SIZE ≤ declaredLength shortMessage →
        neededBytes (declaredLength shortMessage) ≤ shortMessage.length) :=
  staleFree_iff Link.muteEnv _ { pending := [], queue := [], device := () } shortMessage
    (delivers_link (by decide) rfl (by decide) (Or.inr rfl))

/-- On a short packet the old buffer contents are read as file data. -/
theorem not_staleFree_shortMessage :
    ¬ StaleFree Link.muteEnv { pending := [], queue := [shortMessage], device := () } := by
  intro staleFree
  have same := staleFree (fun _ => 0) (fun _ => 1) (by decide +kernel) (by decide +kernel)
  exact absurd same (by decide +kernel)

/-! ## What is acknowledged early -/

/-- A whole header arrived that announces file data and declares less than
itself. -/
def TruncatedData (input : BulkIn σ) : Prop :=
  PACKET_HEAD_SIZE ≤ input.retrieved ∧ getU32Raw input.buffer 4 = DATA_HDD_FILE_DATA ∧
    (getU16Raw input.buffer 0).toNat < PACKET_HEAD_SIZE

/-- The raw header alone decides about the early `SUCCESS`. -/
theorem success_mem_acceptPacket (env : Env σ) (input : BulkIn σ) :
    Reply.success ∈ (acceptPacket env input).replies ↔
      PACKET_HEAD_SIZE ≤ input.retrieved ∧ getU32Raw input.buffer 4 = DATA_HDD_FILE_DATA := by
  unfold acceptPacket
  simp only
  rw [if_neg (Int.not_lt.mpr (Int.natCast_nonneg _))]
  by_cases short : (input.retrieved : Int) < PACKET_HEAD_SIZE
  · rw [if_pos short]
    constructor
    · rintro ⟨⟩
    · rintro ⟨arrived, _⟩
      omega
  · rw [if_neg short]
    have arrived : PACKET_HEAD_SIZE ≤ input.retrieved := by omega
    rw [and_iff_right arrived]
    by_cases early : getU32Raw input.buffer 4 = DATA_HDD_FILE_DATA
    · rw [if_pos early]
      split <;> exact iff_of_true List.mem_cons_self early
    · rw [if_neg early]
      split <;> exact iff_of_false List.not_mem_nil early

/-- A packet that is not reported is rejected with `-1`. -/
theorem acceptPacket_ret_of_not_pos {env : Env σ} {input : BulkIn σ}
    (rejected : ¬ 0 < (acceptPacket env input).ret) : (acceptPacket env input).ret = -1 := by
  rw [acceptPacket_pos_iff, packetLength_swapInPacket] at rejected
  unfold acceptPacket
  simp only
  rw [if_neg (Int.not_lt.mpr (Int.natCast_nonneg _))]
  split
  · rfl
  · rename_i arrived
    rw [packetLength_swapInPacket,
      if_pos (Nat.not_le.mp fun declared => rejected ⟨by omega, declared⟩)]

/-- Such a packet is rejected. -/
theorem TruncatedData.not_pos {env : Env σ} {input : BulkIn σ} (truncated : TruncatedData input) :
    ¬ 0 < (acceptPacket env input).ret := by
  rw [acceptPacket_pos_iff, packetLength_swapInPacket]
  rintro ⟨_, declared⟩
  exact Nat.not_le.mpr truncated.2.2 declared

/-- `SUCCESS` is sent for the accepted file data packets and, as soon as it is
seen, for a file data header that is then rejected for its length. -/
theorem success_mem_getTfPacket_iff (env : Env σ) (buffer : Memory UInt8) (state : σ) :
    let input := usbBulkRead env buffer MAXIMUM_PACKET_SIZE state
    let received := getTfPacket env buffer state
    (Reply.success ∈ received.replies ↔
      (0 < received.ret ∧ packetCmd received.packet = DATA_HDD_FILE_DATA) ∨
        TruncatedData input) ∧
    (TruncatedData input → received.ret = -1) := by
  simp only [getTfPacket]
  refine ⟨?_, fun truncated => acceptPacket_ret_of_not_pos truncated.not_pos⟩
  rw [success_mem_acceptPacket]
  constructor
  · rintro ⟨arrived, raw⟩
    by_cases accepted :
        0 < (acceptPacket env (usbBulkRead env buffer MAXIMUM_PACKET_SIZE state)).ret
    · have parts := acceptPacket_of_pos accepted
      refine Or.inl ⟨accepted, ?_⟩
      rw [parts.2.2.2.1, packetCmd_swapInPacket parts.2.1]
      exact raw
    · refine Or.inr ⟨arrived, raw, ?_⟩
      rw [acceptPacket_pos_iff, packetLength_swapInPacket] at accepted
      exact Nat.not_le.mp fun declared => accepted ⟨arrived, declared⟩
  · rintro (⟨accepted, cmd⟩ | truncated)
    · have parts := acceptPacket_of_pos accepted
      rw [parts.2.2.2.1, packetCmd_swapInPacket parts.2.1] at cmd
      exact ⟨parts.1, cmd⟩
    · exact ⟨truncated.1, truncated.2.1⟩

/-- A `DATA_HDD_FILE_DATA` header that declares four bytes. -/
def truncatedMessage : List UInt8 := [0x04, 0x00, 0x00, 0x00, 0x00, 0x00, 0x0a, 0x10]

/-- A rejected packet is acknowledged. -/
theorem not_success_only_of_accepted :
    ¬ ∀ (env : Env (Link Unit)) (buffer : Memory UInt8) (state : Link Unit),
      Reply.success ∈ (getTfPacket env buffer state).replies ↔
        0 < (getTfPacket env buffer state).ret ∧
          packetCmd (getTfPacket env buffer state).packet = DATA_HDD_FILE_DATA := by
  intro agree
  have sent := (agree Link.muteEnv (fun _ => 0)
    { pending := [], queue := [truncatedMessage], device := () }).mp (by decide +kernel)
  exact absurd sent.1 (by decide +kernel)

end Puppy.Usb
