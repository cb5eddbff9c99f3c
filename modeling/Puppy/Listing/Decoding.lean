import Puppy.Listing.Records
import Puppy.Listing.Replies
import Mathlib.Data.List.Forall2

/-!
# What a listing returns

The records of the packets of a listing, read off the bytes as they arrive, and
the entries `puppy_hdd_dir` returns for them: one for each record, in the order
of their arrival, whatever the surroundings do with the `SUCCESS` that is sent
behind each packet.
-/

namespace Puppy.Listing

open Transition
open Puppy.Wire Puppy.Usb Puppy.Time

universe u

variable {σ : Type u}

/-! ## Messages -/

/-- The bytes of a message in memory order. -/
def memoryOrder (data : List UInt8) : Memory UInt8 :=
  fun address => data.getD (Memory.neighbour address) 0

/-- All the bytes a packet declares have arrived. -/
structure Whole (data : List UInt8) : Prop where
  header : PACKET_HEAD_SIZE ≤ declaredLength data
  arrived : neededBytes (declaredLength data) ≤ data.length

/-- A number that stands in memory with its most significant byte first. -/
def bigEndian (bytes : List UInt8) : Nat := bytes.foldl (fun n byte => n * 2 ^ 8 + byte.toNat) 0

/-- A record as the device sends it. -/
structure Record where
  stamp : TfDatetime
  filetype : UInt8
  size : Nat
  name : CString

/-- The record at an index of a packet. -/
def recordAt (packet : Memory UInt8) (i : Nat) : Record where
  stamp := getTfDatetime packet (typefileOffset i)
  filetype := packet (typefileOffset i + 5)
  size := bigEndian (Memory.load packet (typefileOffset i + 6) 8)
  name := CString.ofMemory packet (typefileOffset i + 14) NAME_SIZE

/-- A `DATA_HDD_DIR` packet that has arrived whole: a number of records, and
perhaps the front of another. -/
structure DirMessage where
  data : List UInt8
  records : Nat
  excess : Nat
  declared : declaredLength data = PACKET_HEAD_SIZE + TYPEFILE_SIZE * records + excess
  incomplete : excess < TYPEFILE_SIZE
  arrived : neededBytes (declaredLength data) ≤ data.length
  dir : packetCmd (memoryOrder data) = DATA_HDD_DIR
  named : ∀ i < records, NameEnds (memoryOrder data) i
  sized : ∀ i < records, (recordAt (memoryOrder data) i).size < 2 ^ 63

/-- What the surroundings go through while a listing is received: each
`DATA_HDD_DIR` packet is read and one `SUCCESS` sent, until `DATA_HDD_DIR_END`
is read. -/
inductive Feeds (env : Env σ) : σ → List DirMessage → σ → Prop
  | last {state after : σ} {data : List UInt8} (delivered : Delivers env state data after)
      (whole : Whole data) (atEnd : packetCmd (memoryOrder data) = DATA_HDD_DIR_END) :
      Feeds env state [] after
  | dir {state after final : σ} {message : DirMessage} {messages : List DirMessage}
      (delivered : Delivers env state message.data after)
      (rest : Feeds env (sendSuccess env after).state messages final) :
      Feeds env state (message :: messages) final

/-- The records of a listing, in the order of their arrival. -/
def listing (messages : List DirMessage) : List Record :=
  messages.flatMap fun message =>
    (List.range message.records).map (recordAt (memoryOrder message.data))

/-- An entry shows a record. -/
structure Shows (env : Env σ) (record : Record) (entry : DirEntry) : Prop where
  ftype : entry.ftype =
    if record.filetype = 1 then PUPPY_DIR
    else if record.filetype = 2 then PUPPY_FILE
    else PUPPY_UNKNOWN
  size : entry.size = record.size
  time : entry.time = tfdtToTime env.mktime record.stamp
  name : CString.ofMemory entry.name 0 NAME_SIZE = record.name

/-! ## Arrival -/

theorem DirMessage.whole (message : DirMessage) : Whole message.data where
  header := by
    rw [message.declared]
    omega
  arrived := message.arrived

theorem packetLength_memoryOrder (data : List UInt8) :
    (packetLength (memoryOrder data)).toNat = declaredLength data := by
  rw [packetLength, getU16_toNat, declaredLength]
  rfl

theorem DirMessage.header (message : DirMessage) :
    PACKET_HEAD_SIZE ≤ (packetLength (memoryOrder message.data)).toNat := by
  rw [packetLength_memoryOrder]
  exact message.whole.header

/-- A message that arrived whole is accepted, and stands in memory in memory
order as far as its bytes were swapped. -/
theorem getTfPacket_of_whole {env : Env σ} {state after : σ} {data : List UInt8}
    (delivered : Delivers env state data after) (whole : Whole data) {cmd : UInt32}
    (carried : packetCmd (memoryOrder data) = cmd) (quiet : cmd ≠ DATA_HDD_FILE_DATA)
    (buffer : Memory UInt8) :
    (arrivalOf (getTfPacket env buffer state)).carries cmd ∧
      (getTfPacket env buffer state).state = after ∧
      ∀ address < 2 * (neededBytes (declaredLength data) / 2),
        (getTfPacket env buffer state).packet address = memoryOrder data address := by
  have header : 8 ≤ declaredLength data := whole.header
  have arrived := whole.arrived
  have needed : 8 ≤ neededBytes (declaredLength data) := by
    unfold neededBytes roundUpEven MAXIMUM_PACKET_SIZE
    omega
  have accepted : 0 < (getTfPacket env buffer state).ret :=
    (getTfPacket_pos_iff_of_delivers delivered buffer).mpr
      ⟨by unfold PACKET_HEAD_SIZE; omega, header⟩
  have packet := (getTfPacket_packet_of_delivers delivered accepted).2
  have bytes : ∀ address < 2 * (neededBytes (declaredLength data) / 2),
      (getTfPacket env buffer state).packet address = memoryOrder data address := by
    intro address inside
    have swapped := Memory.neighbour_lt_iff.mpr inside
    have within : Memory.neighbour address < data.length := by omega
    have stored : Memory.store buffer 0 data (0 + Memory.neighbour address) =
        data[Memory.neighbour address] := Memory.store_inside buffer within
    rw [Nat.zero_add] at stored
    rw [packet, Memory.exchange_inside _ inside, stored, memoryOrder,
      List.getD_eq_getElem?_getD, List.getElem?_eq_getElem within, Option.getD_some]
  have command : packetCmd (getTfPacket env buffer state).packet = cmd := by
    rw [← carried]
    apply getU32_congr
    intro i below
    apply bytes
    omega
  refine ⟨⟨accepted, command⟩, ?_, bytes⟩
  rw [getTfPacket_of_delivers delivered] at accepted command ⊢
  have left := (acceptPacket_of_pos accepted).2.2.2.1
  rw [left] at command
  exact acceptPacket_state_of_pos accepted (by rw [command]; exact quiet)

theorem dirCount_memoryOrder (message : DirMessage) :
    (dirCount (memoryOrder message.data)).toNat = message.records := by
  have declared := message.declared
  have incomplete := message.incomplete
  rw [dirCount_toNat message.header, packetLength_memoryOrder, declared]
  unfold TYPEFILE_SIZE at *
  omega

/-- The records of a packet in memory are those of its message. -/
theorem typefiles_of_bytes {message : DirMessage} {packet : Memory UInt8}
    (bytes : ∀ address < 2 * (neededBytes (declaredLength message.data) / 2),
      packet address = memoryOrder message.data address) :
    typefiles packet = typefiles (memoryOrder message.data) := by
  have count := dirCount_memoryOrder message
  apply typefiles_congr message.header
  · rw [count]
    exact message.named
  · intro address below
    apply bytes
    have declared := message.declared
    have bound := declaredLength_lt message.data
    rw [recordsEnd, count] at below
    unfold typefileOffset dataOffset TYPEFILE_SIZE at below
    unfold PACKET_HEAD_SIZE TYPEFILE_SIZE at declared
    unfold neededBytes roundUpEven MAXIMUM_PACKET_SIZE
    omega

/-! ## Entries -/

theorem toNat_getU64 (memory : Memory UInt8) (addr : Nat) :
    (getU64 memory addr).toNat = bigEndian (Memory.load memory addr 8) := by
  have loaded : Memory.load memory addr 8 =
      [memory addr, memory (addr + 1), memory (addr + 2), memory (addr + 3), memory (addr + 4),
        memory (addr + 5), memory (addr + 6), memory (addr + 7)] := rfl
  rw [getU64_toNat, loaded]
  simp only [bigEndian, List.foldl_cons, List.foldl_nil]
  omega

theorem toLongLong_of_lt {n : UInt64} (small : n.toNat < 2 ^ 63) : toLongLong n = n.toNat :=
  Int.bmod_eq_of_le (by omega) (by omega)

theorem size_decodeEntry (env : Env σ) {record : Typefile} (entry : DirEntry) {n : Nat}
    (value : record.size.toNat = n) (small : n < 2 ^ 63) :
    (decodeEntry env record entry).size = n := by
  rw [decodeEntry, toLongLong_of_lt (by omega), value]

/-- A name that ends in its field is read as far as that. -/
theorem name_recordAt (message : DirMessage) {i : Nat} (below : i < message.records) :
    (getTypefile (memoryOrder message.data) i).name =
      (recordAt (memoryOrder message.data) i).name := by
  have inside := typefile_inside message.header ((dirCount_memoryOrder message).symm ▸ below)
  obtain ⟨nul, short, found⟩ := message.named i below
  apply CString.eq_iff_bytes.mpr
  exact CString.scan_congr short (Nat.lt_of_lt_of_le short (le_nameLimit inside)) found
    fun _ _ => rfl

/-- A record of a message is shown by the entry decoded from it. -/
theorem shows_decodeEntry (env : Env σ) (message : DirMessage) {i : Nat}
    (below : i < message.records) (entry : DirEntry) :
    Shows env (recordAt (memoryOrder message.data) i)
      (decodeEntry env (getTypefile (memoryOrder message.data) i) entry) := by
  have inside := typefile_inside message.header ((dirCount_memoryOrder message).symm ▸ below)
  have ends := message.named i below
  have sized := message.sized i below
  constructor
  · rfl
  · exact size_decodeEntry env entry (toNat_getU64 _ _) sized
  · rfl
  · have copied : (decodeEntry env (getTypefile (memoryOrder message.data) i) entry).name =
        CString.copyTo entry.name 0 (getTypefile (memoryOrder message.data) i).name := rfl
    rw [copied, CString.ofMemory_copyTo _ _ _ ((name_length_lt_iff inside).mpr ends)]
    exact name_recordAt message below

/-- What is shown of each record, is shown of all. -/
theorem forall₂_decoded {env : Env σ} {specs : List Record} {records : List Typefile}
    (related : List.Forall₂
      (fun spec record => ∀ entry, Shows env spec (decodeEntry env record entry))
      specs records) :
    ∀ heap : Memory DirEntry, List.Forall₂ (Shows env) specs (decoded env heap records) := by
  induction related with
  | nil =>
      intro heap
      exact .nil
  | cons head _ ih =>
      intro heap
      rw [decoded, List.mapIdx_cons]
      exact .cons (head _) (ih fun i => heap (i + 1))

theorem forall₂_listing (env : Env σ) (messages : List DirMessage) :
    List.Forall₂ (fun spec record => ∀ entry, Shows env spec (decodeEntry env record entry))
      (listing messages)
      (messages.flatMap fun message => typefiles (memoryOrder message.data)) := by
  induction messages with
  | nil => exact .nil
  | cons message messages ih =>
      rw [listing, List.flatMap_cons, List.flatMap_cons]
      apply List.rel_append _ ih
      rw [typefiles, dirCount_memoryOrder, List.forall₂_map_left_iff, List.forall₂_map_right_iff,
        List.forall₂_same]
      intro i member
      exact shows_decodeEntry env message (List.mem_range.mp member)

/-! ## The loop -/

/-- The listing ends the loop when its terminator has been read. -/
theorem leaves_of_last {env : Env σ} {heap : Memory DirEntry} {state after : σ}
    {data : List UInt8} (delivered : Delivers env state data after) (whole : Whole data)
    (atEnd : packetCmd (memoryOrder data) = DATA_HDD_DIR_END) {loop : DirLoop σ} (goes : loop.Goes)
    (outside : loop.outside = state) {buffer : Buffer DirEntry} {records : List Typefile}
    (buffered : loop.buffer = some buffer) (filled : Filled env heap records buffer)
    (fits : EntriesFit (records.length + 1)) :
    ∃ last, Leaves (dirBody env) loop
        (some (decoded env heap records ++ [heap records.length]), last) ∧
      last.outside = after := by
  have enters : dirBody env loop = dirTurn env loop := whileLoop_of_condition goes
  obtain ⟨carries, left, _⟩ := getTfPacket_of_whole delivered whole atEnd (by decide) loop.reply
  have turn := dirTurn_cases env loop
  rw [← enters, outside] at turn
  generalize getTfPacket env loop.reply state = got at carries left turn
  have pass := turn.of_end carries
  have exits : dirBody env { loop.accept got with finished := true } =
      .leave (dirExit { loop.accept got with finished := true }) := by
    apply whileLoop_of_not_condition
    rintro ⟨⟨⟩, _⟩
  have outside := dirExit_outside { loop.accept got with finished := true }
  have still : ({ loop.accept got with finished := true } : DirLoop σ).buffer = some buffer :=
    buffered
  rcases filled.exit still with ⟨last, exit, _⟩ | ⟨_, full⟩
  · rw [exit] at exits outside
    exact ⟨last, leaves_of_again pass (leaves_of_leave exits), outside.trans left⟩
  · exact absurd fits full

/-- From any point inside a listing, the loop receives the rest and leaves with
all entries. -/
theorem leaves_of_feeds {env : Env σ} {heap : Memory DirEntry} {state final : σ}
    {messages : List DirMessage} (feeds : Feeds env state messages final) :
    ∀ (loop : DirLoop σ) (records : List Typefile) (buffer : Buffer DirEntry), loop.Goes →
      loop.outside = state → loop.buffer = some buffer → Filled env heap records buffer →
      EntriesFit ((records ++
        messages.flatMap fun message => typefiles (memoryOrder message.data)).length + 1) →
      ∃ last, Leaves (dirBody env) loop
        (some (decoded env heap (records ++
            messages.flatMap fun message => typefiles (memoryOrder message.data)) ++
          [heap (records ++
            messages.flatMap fun message => typefiles (memoryOrder message.data)).length]), last) ∧
        last.outside = final := by
  induction feeds with
  | last delivered whole atEnd =>
      intro loop records buffer goes outside buffered filled fits
      rw [List.flatMap_nil, List.append_nil] at fits ⊢
      exact leaves_of_last delivered whole atEnd goes outside buffered filled fits
  | @dir state after final message messages delivered rest ih =>
      intro loop records buffer goes outside buffered filled fits
      rw [List.flatMap_cons, ← List.append_assoc] at fits ⊢
      have enters : dirBody env loop = dirTurn env loop := whileLoop_of_condition goes
      obtain ⟨carries, left, bytes⟩ :=
        getTfPacket_of_whole delivered message.whole message.dir (by decide) loop.reply
      have turn := dirTurn_cases env loop
      rw [← enters, outside] at turn
      generalize getTfPacket env loop.reply state = got at carries left bytes turn
      have same : typefiles got.packet = typefiles (memoryOrder message.data) :=
        typefiles_of_bytes bytes
      have extended := filled.foldlM (typefiles got.packet)
      rcases turn.of_dir carries with ⟨buffer, stored, pass⟩ | ⟨full, pass⟩
      · rcases extended with ⟨next, folded, grown⟩ | ⟨full, _⟩
        · rw [buffered, Option.bind_some, decodeDir, folded] at stored
          cases stored
          rw [same] at grown
          obtain ⟨last, leaves, ended⟩ := ih
            { loop.accept got with
              buffer := some _
              outside := (sendSuccess env got.state).state } _ _ goes
            (by rw [left]) rfl grown fits
          exact ⟨last, leaves_of_again pass leaves, ended⟩
        · rw [buffered, Option.bind_some, decodeDir, full] at stored
          cases stored
      · rcases extended with ⟨next, folded, _⟩ | ⟨_, many⟩
        · rw [buffered, Option.bind_some, decodeDir, folded] at full
          cases full
        · rw [same] at many
          refine absurd (fits.le ?_) many
          rw [List.length_append, List.length_append]
          omega

/-! ## The call -/

/-- A listing that is received whole is decoded without loss, duplication or
reordering: one `SUCCESS` for each of its packets, and an array that begins with
an entry for each of its records. -/
theorem puppyHddDir_listing (env : Env σ) (heap : Memory DirEntry) {path : CString}
    (accepts : DirAccepts path) (req reply : Memory UInt8) (outside : σ)
    {messages : List DirMessage} {final : σ}
    (feeds : Feeds env (sendCmdHddDir env req path outside).state messages final)
    (fits : EntriesFit ((listing messages).length + 1)) :
    ∃ fuel array last, puppyHddDir env fuel heap 0 path req reply outside =
        .leave (some array, last) ∧
      last.outside = final ∧ array.length = (listing messages).length + 1 ∧
      List.Forall₂ (Shows env) (listing messages) (array.take (listing messages).length) := by
  have related := forall₂_decoded (forall₂_listing env messages) heap
  have length := related.length_eq
  have count : (listing messages).length =
      (messages.flatMap fun message => typefiles (memoryOrder message.data)).length :=
    (forall₂_listing env messages).length_eq
  have sent : 0 ≤ (sendCmdHddDir env req path outside).ret := by
    rw [sendCmdHddDir_of_accepts accepts]
    exact sendTfPacket_ret_nonneg env _ _
  obtain ⟨buffer, buffered, filled⟩ :=
    dirInitial_invariant env 0 reply heap (sendCmdHddDir env req path outside)
  rw [count] at fits
  obtain ⟨last, ⟨fuel, left⟩, ended⟩ := leaves_of_feeds feeds _ [] buffer
    ((goes_dirInitial_iff _ _ _ _).mpr ⟨sent, rfl⟩) (outside_dirInitial _ _ _ _) buffered filled
    fits
  rw [List.nil_append] at left
  refine ⟨fuel, _, last, left, ended, ?_, ?_⟩
  · rw [List.length_append, ← length]
    rfl
  · rw [length, List.take_left]
    exact related

/-- The message that carries `onePacket`. -/
def oneMessage : DirMessage where
  data := wireImage onePacket
  records := 1
  excess := 0
  declared := by decide +kernel
  incomplete := by decide
  arrived := by decide +kernel
  dir := by decide +kernel
  named := by decide +kernel
  sized := by decide +kernel

/-- The message that carries `twoPacket`, with ten bytes of a third record. -/
def twoMessage : DirMessage where
  data := wireImage twoPacket
  records := 2
  excess := 10
  declared := by decide +kernel
  incomplete := by decide
  arrived := by decide +kernel
  dir := by decide +kernel
  named := by decide +kernel
  sized := by decide +kernel

/-- To a device that never answers, a message makes no difference. -/
theorem taken_mute {link : Link Unit} (idle : link.pending = []) (message : List UInt8) :
    link.taken mute message = link := by
  obtain ⟨pending, queue, device⟩ := link
  subst idle
  simp [Link.taken, mute]

/-- A link on which a listing of those messages waits. -/
def listed (messages : List DirMessage) : Link Unit where
  pending := []
  queue := messages.map DirMessage.data ++ [wireImage endPacket]
  device := ()

theorem sendSuccess_listed (messages : List DirMessage) :
    (sendSuccess Link.muteEnv (listed messages)).state = listed messages :=
  (sendSuccess_link mute Host.epoch rfl).trans (taken_mute rfl _)

/-- Messages that do not fill their last read are received one by one. -/
theorem feeds_listed {messages : List DirMessage}
    (framed : ∀ message ∈ messages, message.data.length ≤ MAXIMUM_PACKET_SIZE ∧
      message.data.length % MAX_READ ≠ 0) :
    Feeds Link.muteEnv (listed messages) messages { pending := [], queue := [], device := () } := by
  induction messages with
  | nil =>
      have delivered : Delivers Link.muteEnv (listed []) (wireImage endPacket)
          { pending := [], queue := [], device := () } :=
        delivers_link_single mute Host.epoch sendable_endPacket.header sendable_endPacket.bound rfl
      exact .last delivered ⟨by decide +kernel, by decide +kernel⟩ (by decide +kernel)
  | cons message rest ih =>
      obtain ⟨bound, open_⟩ := framed message List.mem_cons_self
      have nonempty : message.data ≠ [] := by
        rintro empty
        rw [empty] at open_
        exact open_ rfl
      have delivered : Delivers Link.muteEnv (listed (message :: rest)) message.data
          (listed rest) :=
        delivers_link nonempty rfl bound (Or.inl open_)
      apply Feeds.dir delivered
      rw [sendSuccess_listed]
      exact ih fun other member => framed other (List.mem_cons_of_mem _ member)

/-- Three records in two packets are decoded in their order. -/
theorem puppyHddDir_listing_twoMessages :
    ∃ fuel array last, puppyHddDir Link.muteEnv fuel (heapOf 0xFF) 0 CString.empty (fun _ => 0)
        (fun _ => 0) (listed [oneMessage, twoMessage]) = .leave (some array, last) ∧
      last.outside = { pending := [], queue := [], device := () } ∧ array.length = 4 ∧
      List.Forall₂ (Shows Link.muteEnv) (listing [oneMessage, twoMessage]) (array.take 3) := by
  have accepts : DirAccepts CString.empty := by decide
  have sent : (sendCmdHddDir Link.muteEnv (fun _ => 0) CString.empty
      (listed [oneMessage, twoMessage])).state = listed [oneMessage, twoMessage] :=
    (sendCmdHddDir_link mute Host.epoch accepts (fun _ => 0) _ rfl).2.trans (taken_mute rfl _)
  have feeds : Feeds Link.muteEnv (listed [oneMessage, twoMessage]) [oneMessage, twoMessage]
      { pending := [], queue := [], device := () } := by
    apply feeds_listed
    intro message member
    rw [List.mem_cons, List.mem_singleton] at member
    rcases member with rfl | rfl
    · exact ⟨by decide +kernel, by decide +kernel⟩
    · exact ⟨by decide +kernel, by decide +kernel⟩
  rw [← sent] at feeds
  exact puppyHddDir_listing Link.muteEnv (heapOf 0xFF) accepts (fun _ => 0) (fun _ => 0) _ feeds
    (entriesFit_iff.mpr (by decide))

end Puppy.Listing
