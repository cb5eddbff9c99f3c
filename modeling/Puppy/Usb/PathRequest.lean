import Puppy.Usb.Request
import Mathlib.Data.List.TakeWhile

/-!
# The layout of the requests that carry paths

The five requests with paths are one family: a header, then a data area made of
an optional direction, lengths where the command has them, and the
NUL-terminated strings.  As long as no length wraps, the packet each
`send_cmd_hdd_` function builds is this data area behind its header, and a
receiver that reads the fields one after the other gets the arguments back.
-/

namespace Puppy.Usb

open Puppy.Wire

universe u

variable {σ : Type u}

/-- A request that carries paths, with the arguments of its function. -/
inductive PathRequest where
  | hddDir (path : CString)
  | hddFileSend (dir : UInt8) (path : CString)
  | hddDel (path : CString)
  | hddRename (src dst : CString)
  | hddCreateDir (path : CString)
  deriving DecidableEq

namespace PathRequest

/-- Call the function of a request. -/
def send (env : Env σ) (req : Memory UInt8) (state : σ) : PathRequest → Requested σ
  | hddDir path => sendCmdHddDir env req path state
  | hddFileSend dir path => sendCmdHddFileSend env req dir path state
  | hddDel path => sendCmdHddDel env req path state
  | hddRename src dst => sendCmdHddRename env req src dst state
  | hddCreateDir path => sendCmdHddCreateDir env req path state

/-- The packet a request is built as. -/
def packet (req : Memory UInt8) : PathRequest → Memory UInt8
  | hddDir path => hddDirPacket req path
  | hddFileSend dir path => hddFileSendPacket req dir path
  | hddDel path => hddDelPacket req path
  | hddRename src dst => hddRenamePacket req src dst
  | hddCreateDir path => hddCreateDirPacket req path

def cmd : PathRequest → UInt32
  | hddDir _ => CMD_HDD_DIR
  | hddFileSend _ _ => CMD_HDD_FILE_SEND
  | hddDel _ => CMD_HDD_DEL
  | hddRename _ _ => CMD_HDD_RENAME
  | hddCreateDir _ => CMD_HDD_CREATE_DIR

def paths : PathRequest → List CString
  | hddDir path | hddFileSend _ path | hddDel path | hddCreateDir path => [path]
  | hddRename src dst => [src, dst]

/-- The header, the fixed fields, and all strings with their NULs. -/
def size : PathRequest → Nat
  | hddDir path | hddDel path => PACKET_HEAD_SIZE + (path.length + 1)
  | hddFileSend _ path => PACKET_HEAD_SIZE + 1 + 2 + (path.length + 1)
  | hddRename src dst => PACKET_HEAD_SIZE + 2 + (src.length + 1) + 2 + (dst.length + 1)
  | hddCreateDir path => PACKET_HEAD_SIZE + 2 + (path.length + 1)

/-- The lengths a request stores: those of its strings, with the NUL. -/
def lengths : PathRequest → List Nat
  | hddDir _ | hddDel _ => []
  | hddFileSend _ path | hddCreateDir path => [path.length + 1]
  | hddRename src dst => [src.length + 1, dst.length + 1]

/-! ## The data area -/

/-- The bytes of a 16-bit integer in memory. -/
def u16Bytes (val : UInt16) : List UInt8 := [(val >>> 8 &&& 0xFF).toUInt8, (val &&& 0xFF).toUInt8]

/-- A string and its NUL. -/
def stringBytes (string : CString) : List UInt8 := string.bytes ++ [0]

/-- A string behind its length. -/
def counted (string : CString) : List UInt8 :=
  u16Bytes (shortLength string) ++ stringBytes string

/-- The data area of a request. -/
def data : PathRequest → List UInt8
  | hddDir path | hddDel path => stringBytes path
  | hddFileSend dir path => [dir] ++ counted path
  | hddRename src dst => counted src ++ counted dst
  | hddCreateDir path => counted path

@[simp]
theorem stringBytes_length (string : CString) :
    (stringBytes string).length = string.length + 1 := by
  simp [stringBytes, CString.length]

@[simp]
theorem counted_length (string : CString) : (counted string).length = string.length + 3 := by
  rw [counted, List.length_append, stringBytes_length]
  exact Nat.add_comm 2 (string.length + 1)

theorem size_eq (request : PathRequest) : request.size = dataOffset + request.data.length := by
  cases request <;> simp [size, data, PACKET_HEAD_SIZE, dataOffset] <;> omega

end PathRequest

/-! ## The packet that is built -/

/-- A length that fits a `__u16` is stored unchanged. -/
theorem toNat_shortLength {path : CString} (short : path.length ≤ 65534) :
    (shortLength path).toNat = path.length + 1 := by
  rw [shortLength, UInt16.toNat_ofNat']
  omega

/-- The `int` length of `send_cmd_hdd_file_send` is stored as the others are. -/
theorem ofInt_toInt_length {path : CString} (short : path.length ≤ 65534) :
    UInt16.ofInt (toInt (path.length + 1)) = shortLength path := by
  apply UInt16.toNat_inj.mp
  rw [toInt_of_lt (by omega), toNat_ofInt_u16 (by omega), toNat_shortLength short]

/-- A length and the string behind it are stored as one field. -/
theorem copyTo_putU16_shortLength (memory : Memory UInt8) (addr : Nat) (string : CString) :
    CString.copyTo (putU16 memory addr (shortLength string)) (addr + 2) string =
      Memory.store memory addr (PathRequest.counted string) :=
  Memory.store_store_append memory addr (PathRequest.u16Bytes (shortLength string))
    (PathRequest.stringBytes string)

namespace PathRequest

/-- The size a request computes and checks. -/
def computedSize : PathRequest → Int
  | hddDir path => hddDirSize path
  | hddFileSend _ path => hddFileSendSize path
  | hddDel path => hddDelSize path
  | hddRename src dst => hddRenameSize src dst
  | hddCreateDir path => hddCreateDirSize path

/-- The message of a request that does not fit. -/
def tooLong : PathRequest → Diagnostic
  | hddRename _ _ => .pathsTooLong
  | _ => .pathTooLong

/-- No length of a request wraps. -/
def Short (request : PathRequest) : Prop := ∀ path ∈ request.paths, path.length ≤ 65534

instance (request : PathRequest) : Decidable request.Short :=
  inferInstanceAs (Decidable (∀ path ∈ request.paths, path.length ≤ 65534))

theorem send_of_tooLong {request : PathRequest} (long : request.computedSize ≥ MAXIMUM_PACKET_SIZE)
    (env : Env σ) (req : Memory UInt8) (state : σ) :
    request.send env req state =
      { ret := -1, sends := [], stderr := [request.tooLong], state } := by
  cases request with
  | hddRename src dst => exact if_pos long
  | hddDir path =>
      rw [send, sendCmdHddDir]
      exact sendRequest_of_tooLong long
  | hddFileSend dir path =>
      rw [send, sendCmdHddFileSend]
      exact sendRequest_of_tooLong long
  | hddDel path =>
      rw [send, sendCmdHddDel]
      exact sendRequest_of_tooLong long
  | hddCreateDir path =>
      rw [send, sendCmdHddCreateDir]
      exact sendRequest_of_tooLong long

theorem send_of_fits {request : PathRequest} (fits : ¬ request.computedSize ≥ MAXIMUM_PACKET_SIZE)
    (env : Env σ) (req : Memory UInt8) (state : σ) :
    request.send env req state = sendPacket env (request.packet req) state := by
  cases request with
  | hddRename src dst => exact if_neg fits
  | hddDir path =>
      rw [send, sendCmdHddDir]
      exact sendRequest_of_fits fits
  | hddFileSend dir path =>
      rw [send, sendCmdHddFileSend]
      exact sendRequest_of_fits fits
  | hddDel path =>
      rw [send, sendCmdHddDel]
      exact sendRequest_of_fits fits
  | hddCreateDir path =>
      rw [send, sendCmdHddCreateDir]
      exact sendRequest_of_fits fits

theorem computedSize_of_short {request : PathRequest} (short : request.Short) :
    request.computedSize = request.size := by
  cases request with
  | hddRename src dst =>
      have srcShort := short src (by simp [paths])
      have dstShort := short dst (by simp [paths])
      simp only [computedSize, hddRenameSize, toNat_shortLength srcShort,
        toNat_shortLength dstShort, size]
      omega
  | hddCreateDir path =>
      have pathShort := short path (by simp [paths])
      simp only [computedSize, hddCreateDirSize, toNat_shortLength pathShort, size]
      omega
  | hddDir path | hddFileSend _ path | hddDel path =>
      have pathShort := short path (by simp [paths])
      simp only [computedSize, hddDirSize, hddFileSendSize, hddDelSize,
        toInt_of_lt (Nat.lt_of_le_of_lt (Nat.succ_le_succ pathShort) (by decide)), size]
      omega

/-- Where no length wraps, a request is its header and its data area. -/
theorem packet_of_short {request : PathRequest} (short : request.Short) (req : Memory UInt8) :
    request.packet req =
      Memory.store (putRequestHeader req request.computedSize request.cmd) dataOffset
        request.data := by
  cases request with
  | hddDir path | hddDel path => rfl
  | hddCreateDir path => exact copyTo_putU16_shortLength _ _ path
  | hddFileSend dir path =>
      have pathShort := short path (by simp [paths])
      simp only [packet, hddFileSendPacket, ofInt_toInt_length pathShort]
      exact (copyTo_putU16_shortLength _ _ path).trans
        (Memory.store_store_append _ dataOffset [dir] (counted path))
  | hddRename src dst =>
      have srcShort := short src (by simp [paths])
      have behind : dataOffset + 2 + (shortLength src).toNat =
          dataOffset + (counted src).length := by
        rw [toNat_shortLength srcShort, counted_length]
        omega
      simp only [packet, hddRenamePacket, behind]
      rw [copyTo_putU16_shortLength, copyTo_putU16_shortLength, Memory.store_store_append]
      rfl

/-! ## Reading a request -/

/-- Read a 16-bit integer off the front of some bytes. -/
def takeU16 : List UInt8 → Option (Nat × List UInt8)
  | high :: low :: rest => some (high.toNat * 2 ^ 8 + low.toNat, rest)
  | _ => none

/-- Read a NUL-terminated string off the front of some bytes. -/
def takeString (bytes : List UInt8) : Option (CString × List UInt8) :=
  match bytes.dropWhile (· ≠ 0) with
  | [] => none
  | _ :: rest =>
      some (⟨bytes.takeWhile (· ≠ 0), fun _ member => by simpa using List.mem_takeWhile_imp member⟩,
        rest)

/-- Read a length and the string behind it. -/
def takeCounted (bytes : List UInt8) : Option (Nat × CString × List UInt8) := do
  let (length, bytes) ← takeU16 bytes
  let (string, bytes) ← takeString bytes
  return (length, string, bytes)

/-- Read the data area of a command: the arguments and the lengths it stores. -/
def parse (cmd : UInt32) (bytes : List UInt8) : Option (PathRequest × List Nat) :=
  if cmd = CMD_HDD_DIR then do
    let (path, _) ← takeString bytes
    return (hddDir path, [])
  else if cmd = CMD_HDD_FILE_SEND then
    match bytes with
    | [] => none
    | dir :: bytes => do
        let (pathLen, path, _) ← takeCounted bytes
        return (hddFileSend dir path, [pathLen])
  else if cmd = CMD_HDD_DEL then do
    let (path, _) ← takeString bytes
    return (hddDel path, [])
  else if cmd = CMD_HDD_RENAME then do
    let (srcLen, src, bytes) ← takeCounted bytes
    let (dstLen, dst, _) ← takeCounted bytes
    return (hddRename src dst, [srcLen, dstLen])
  else if cmd = CMD_HDD_CREATE_DIR then do
    let (pathLen, path, _) ← takeCounted bytes
    return (hddCreateDir path, [pathLen])
  else none

theorem takeU16_u16Bytes (val : UInt16) (rest : List UInt8) :
    takeU16 (u16Bytes val ++ rest) = some (val.toNat, rest) := by
  have stored := getU16_toNat (putU16 (fun _ => 0) 0 val) 0
  rw [getU16_putU16] at stored
  rw [stored]
  rfl

@[simp]
theorem takeString_stringBytes (string : CString) (rest : List UInt8) :
    takeString (stringBytes string ++ rest) = some (string, rest) := by
  have nonzero : ∀ byte ∈ string.bytes, decide (byte ≠ 0) = true := by
    intro byte member
    exact decide_eq_true (string.noNul byte member)
  have split : stringBytes string ++ rest = string.bytes ++ 0 :: rest := by
    rw [stringBytes, List.append_assoc, List.singleton_append]
  have taken : (string.bytes ++ 0 :: rest).takeWhile (· ≠ 0) = string.bytes := by
    rw [List.takeWhile_append_of_pos nonzero, List.takeWhile_cons_of_neg (by decide),
      List.append_nil]
  have dropped : (string.bytes ++ 0 :: rest).dropWhile (· ≠ 0) = 0 :: rest := by
    rw [List.dropWhile_append_of_pos nonzero, List.dropWhile_cons_of_neg (by decide)]
  rw [split, takeString]
  simp only [dropped, taken]

theorem takeCounted_counted {string : CString} (short : string.length ≤ 65534)
    (rest : List UInt8) :
    takeCounted (counted string ++ rest) = some (string.length + 1, string, rest) := by
  rw [takeCounted, counted, List.append_assoc, takeU16_u16Bytes, toNat_shortLength short]
  simp

/-- The arguments are read back, whatever follows them. -/
theorem parse_data {request : PathRequest} (short : request.Short) (padding : List UInt8) :
    parse request.cmd (request.data ++ padding) = some (request, request.lengths) := by
  cases request with
  | hddDir path | hddDel path => simp [parse, cmd, data, lengths, CMD_HDD_DIR, CMD_HDD_DEL,
      CMD_HDD_FILE_SEND]
  | hddFileSend dir path =>
      have read := takeCounted_counted (short path (by simp [paths])) padding
      simp [parse, cmd, data, lengths, CMD_HDD_DIR, CMD_HDD_FILE_SEND, read]
  | hddCreateDir path =>
      have read := takeCounted_counted (short path (by simp [paths])) padding
      simp [parse, cmd, data, lengths, CMD_HDD_DIR, CMD_HDD_DEL, CMD_HDD_FILE_SEND,
        CMD_HDD_RENAME, CMD_HDD_CREATE_DIR, read]
  | hddRename src dst =>
      have first := takeCounted_counted (short src (by simp [paths])) (counted dst ++ padding)
      have second := takeCounted_counted (short dst (by simp [paths])) padding
      simp [parse, cmd, data, lengths, CMD_HDD_DIR, CMD_HDD_DEL, CMD_HDD_FILE_SEND,
        CMD_HDD_RENAME, first, second]

/-! ## The packet that is sent -/

/-- A packet carries a request: its length field is right in every respect, and
whoever receives it finds the command, a valid check and the arguments. -/
structure Carries (request : PathRequest) (packet : Memory UInt8) : Prop where
  even : (packetLength packet).toNat % 2 = 0
  least : 10 ≤ (packetLength packet).toNat
  most : (packetLength packet).toNat ≤ 65534
  rounded : (packetLength packet).toNat = roundUpEven request.size
  onWire : (wireImage packet).length = (packetLength packet).toNat
  received : ∀ old : Memory UInt8,
    let arrived := swapInPacket (Memory.store old 0 (wireImage packet))
    packetLength arrived = packetLength packet ∧ packetCmd arrived = request.cmd ∧
      packetCrc arrived = getCrc arrived ∧
      parse (packetCmd arrived)
          (Memory.load arrived dataOffset ((packetLength arrived).toNat - dataOffset)) =
        some (request, request.lengths)

theorem header_packet {request : PathRequest} (short : request.Short)
    (fits : request.size < MAXIMUM_PACKET_SIZE) (req : Memory UInt8) :
    (packetLength (request.packet req)).toNat = roundUpEven request.size ∧
      packetCmd (request.packet req) = request.cmd := by
  rw [packet_of_short short, packetLength_store _ _ (Nat.le_refl _),
    packetCmd_store _ _ (Nat.le_refl _), computedSize_of_short short]
  exact ⟨packetLength_putRequestHeader fits _ _, (header_putU32_putU16 _ _ _).2⟩

/-- The data area on arrival: that of the request, and at most a padding byte. -/
theorem load_arrived_packet {request : PathRequest} (short : request.Short)
    (fits : request.size < MAXIMUM_PACKET_SIZE) (req old : Memory UInt8) :
    ∃ padding, Memory.load (swapInPacket (Memory.store old 0 (wireImage (request.packet req))))
        dataOffset (roundUpEven request.size - dataOffset) = request.data ++ padding := by
  have length := (header_packet short fits req).1
  have total := request.size_eq
  have rounded := le_roundUpEven request.size
  have most : roundUpEven request.size < MAXIMUM_PACKET_SIZE := by
    unfold MAXIMUM_PACKET_SIZE at fits ⊢
    unfold roundUpEven
    omega
  have even : roundUpEven (roundUpEven request.size) = roundUpEven request.size := by
    unfold roundUpEven
    omega
  have same : Memory.load (swapInPacket (Memory.store old 0 (wireImage (request.packet req))))
      dataOffset (roundUpEven request.size - dataOffset) =
      Memory.load (request.packet req) dataOffset (roundUpEven request.size - dataOffset) := by
    apply Memory.load_congr
    intro address above below
    have inside : address < byteCount (request.packet req) := by
      rw [byteCount, length, even]
      omega
    rw [swapInPacket_wireImage (by rw [length]; exact most) old inside]
    exact putU16_crc_apply _ _ (Or.inr (Nat.le_trans (by decide) above))
  have room : roundUpEven request.size - dataOffset =
      request.data.length + (roundUpEven request.size - request.size) := by
    omega
  rw [same, room, Memory.load_append, packet_of_short short, Memory.load_store_self]
  exact ⟨_, rfl⟩

theorem carries_packet {request : PathRequest} (short : request.Short)
    (fits : request.size < MAXIMUM_PACKET_SIZE) (req : Memory UInt8) :
    request.Carries (request.packet req) := by
  have header := header_packet short fits req
  have nonempty : PACKET_HEAD_SIZE < request.size := by
    cases request <;> simp only [size, PACKET_HEAD_SIZE] <;> omega
  have bounds : 10 ≤ roundUpEven request.size ∧ roundUpEven request.size ≤ 65534 := by
    unfold MAXIMUM_PACKET_SIZE at fits
    unfold PACKET_HEAD_SIZE at nonempty
    unfold roundUpEven
    omega
  have least : PACKET_HEAD_SIZE ≤ (packetLength (request.packet req)).toNat := by
    rw [header.1]
    exact Nat.le_trans (by decide) bounds.1
  have most : (packetLength (request.packet req)).toNat < MAXIMUM_PACKET_SIZE := by
    rw [header.1]
    exact Nat.lt_of_le_of_lt bounds.2 (by decide)
  have even : roundUpEven request.size % 2 = 0 := by
    unfold roundUpEven
    omega
  constructor
  · rw [header.1, even]
  · rw [header.1]
    exact bounds.1
  · rw [header.1]
    exact bounds.2
  · exact header.1
  · rw [wireImage_length, byteCount, header.1]
    unfold roundUpEven
    omega
  · intro old
    have length := packetLength_swapInPacket_wireImage (Nat.lt_of_lt_of_le (by decide) least) old
    have command := packetCmd_swapInPacket_wireImage least most old
    obtain ⟨padding, area⟩ := load_arrived_packet short fits req old
    refine ⟨length, command.trans header.2, ?_, ?_⟩
    · rw [packetCrc_swapInPacket_wireImage least most, getCrc_swapInPacket_wireImage least most]
    · rw [command, header.2, length, header.1, area, parse_data short]

/-- A request is sent exactly when it fits: the bytes on the wire of a packet that
carries it are handed to the bulk pipe. -/
theorem send_carries {request : PathRequest}
    (short : ∀ path ∈ request.paths, path.length ≤ 65534) (env : Env σ) (req : Memory UInt8)
    (state : σ) :
    let sent := request.send env req state
    (request.size < MAXIMUM_PACKET_SIZE ∧
      ∃ packet, sent.sends = [{ packet, ret := sent.ret }] ∧
        sent.ret = (usbBulkWrite env (wireImage packet) state).sent ∧
        sent.state = (usbBulkWrite env (wireImage packet) state).state ∧
        request.Carries packet) ∨
    (MAXIMUM_PACKET_SIZE ≤ request.size ∧ sent.ret = -1 ∧ sent.sends = [] ∧
      sent.state = state) := by
  have computed := computedSize_of_short short
  rcases Nat.lt_or_ge request.size MAXIMUM_PACKET_SIZE with fits | long
  · refine Or.inl ⟨fits, request.packet req, ?_, ?_, ?_, carries_packet short fits req⟩
    all_goals
      rw [send_of_fits (by rw [computed]; omega)]
      rfl
  · refine Or.inr ⟨long, ?_⟩
    rw [send_of_tooLong (by rw [computed]; omega)]
    exact ⟨rfl, rfl, rfl⟩

theorem send_carries_rename :
    let idle : Link Unit := { pending := [], queue := [], device := () }
    let request := hddRename (.single 0x67 (by decide)) (.single 0x68 (by decide))
    let sent := request.send Link.muteEnv (fun _ => 0xFF) idle
    (request.size < MAXIMUM_PACKET_SIZE ∧
      ∃ packet, sent.sends = [{ packet, ret := sent.ret }] ∧
        sent.ret = (usbBulkWrite Link.muteEnv (wireImage packet) idle).sent ∧
        sent.state = (usbBulkWrite Link.muteEnv (wireImage packet) idle).state ∧
        request.Carries packet) ∨
    (MAXIMUM_PACKET_SIZE ≤ request.size ∧ sent.ret = -1 ∧ sent.sends = [] ∧
      sent.state = idle) :=
  send_carries (by decide) Link.muteEnv (fun _ => 0xFF) { pending := [], queue := [], device := () }

/-! ## Where a length wraps -/

/-- The bytes of the data area of `struct tf_packet`. -/
def DATA_SIZE : Nat := MAXIMUM_PACKET_SIZE - PACKET_HEAD_SIZE

/-- Whatever the packet buffer held before, a request is refused without a
packet, or the packet it sends was built inside the buffer: outside the data
area only the header was stored. -/
def StaysInside (request : PathRequest) (env : Env σ) (state : σ) : Prop :=
  ∀ req : Memory UInt8,
    ((request.send env req state).ret = -1 ∧ (request.send env req state).sends = []) ∨
    ∃ packet ret, (request.send env req state).sends = [{ packet, ret }] ∧
      ∀ address, address < dataOffset ∨ dataOffset + DATA_SIZE ≤ address →
        packet address = putRequestHeader req request.computedSize request.cmd address

theorem staysInside_of_tooLong {request : PathRequest}
    (long : request.computedSize ≥ MAXIMUM_PACKET_SIZE) (env : Env σ) (state : σ) :
    request.StaysInside env state := by
  intro req
  rw [send_of_tooLong long]
  exact Or.inl ⟨rfl, rfl⟩

theorem staysInside_of_short {request : PathRequest} (short : request.Short) (env : Env σ)
    (state : σ) : request.StaysInside env state := by
  by_cases long : request.computedSize ≥ MAXIMUM_PACKET_SIZE
  · exact staysInside_of_tooLong long env state
  · intro req
    rw [send_of_fits long]
    refine Or.inr ⟨_, _, rfl, ?_⟩
    intro address outside
    have total := request.size_eq
    rw [computedSize_of_short short] at long
    rw [packet_of_short short]
    apply Memory.store_outside
    unfold DATA_SIZE MAXIMUM_PACKET_SIZE PACKET_HEAD_SIZE at outside
    unfold MAXIMUM_PACKET_SIZE at long
    unfold dataOffset at *
    omega

theorem putRequestHeader_above (req : Memory UInt8) (size : Int) (cmd : UInt32) {address : Nat}
    (above : dataOffset ≤ address) : putRequestHeader req size cmd address = req address :=
  (Memory.store_above _ above).trans
    (Memory.store_above _ (Nat.le_trans (show 2 ≤ dataOffset by decide) above))

/-- A byte behind the buffer that is stored whatever it was before is an overrun. -/
theorem not_staysInside_of_stored {request : PathRequest}
    (fits : ¬ request.computedSize ≥ MAXIMUM_PACKET_SIZE)
    (stored : ∀ first second : Memory UInt8, request.packet first MAXIMUM_PACKET_SIZE =
      request.packet second MAXIMUM_PACKET_SIZE) (env : Env σ) (state : σ) :
    ¬ request.StaysInside env state := by
  intro inside
  have kept (req : Memory UInt8) :
      request.packet req MAXIMUM_PACKET_SIZE = req MAXIMUM_PACKET_SIZE := by
    rcases inside req with ⟨_, none⟩ | ⟨packet, ret, sends, outside⟩
    · rw [send_of_fits fits] at none
      cases none
    · rw [send_of_fits fits] at sends
      have built : request.packet req = packet := by
        injection sends with sent _
        injection sent
      rw [built, outside _ (Or.inr (by decide)), putRequestHeader_above _ _ _ (by decide)]
  have same := stored (fun _ => 0) (fun _ => 1)
  rw [kept, kept] at same
  exact absurd same (by decide)

/-- The arguments of `send_cmd_hdd_create_dir` with which it stays inside. -/
def CreateDirSafe (path : CString) : Prop :=
  MAXIMUM_PACKET_SIZE ≤ PACKET_HEAD_SIZE + 2 + (path.length + 1) % 2 ^ 16 ∨
    path.length + 1 < 2 ^ 16

/-- The arguments of `send_cmd_hdd_rename` with which it stays inside. -/
def RenameSafe (src dst : CString) : Prop :=
  MAXIMUM_PACKET_SIZE ≤
      PACKET_HEAD_SIZE + 2 + (src.length + 1) % 2 ^ 16 + 2 + (dst.length + 1) % 2 ^ 16 ∨
    (src.length + 1 < 2 ^ 16 ∧ dst.length + 1 < 2 ^ 16)

theorem computedSize_hddCreateDir (path : CString) :
    (hddCreateDir path).computedSize =
      (PACKET_HEAD_SIZE + 2 + (path.length + 1) % 2 ^ 16 : Nat) := by
  rw [computedSize, hddCreateDirSize, shortLength, UInt16.toNat_ofNat']
  omega

theorem computedSize_hddRename (src dst : CString) :
    (hddRename src dst).computedSize =
      (PACKET_HEAD_SIZE + 2 + (src.length + 1) % 2 ^ 16 + 2 +
        (dst.length + 1) % 2 ^ 16 : Nat) := by
  rw [computedSize, hddRenameSize, shortLength, shortLength, UInt16.toNat_ofNat',
    UInt16.toNat_ofNat']
  omega

/-- A whole string is copied over the end of the buffer. -/
theorem copyTo_end {first second : Memory UInt8} {addr : Nat} {string : CString}
    (before : addr ≤ MAXIMUM_PACKET_SIZE)
    (past : MAXIMUM_PACKET_SIZE < addr + (string.length + 1)) :
    CString.copyTo first addr string MAXIMUM_PACKET_SIZE =
      CString.copyTo second addr string MAXIMUM_PACKET_SIZE := by
  apply Memory.store_agree first second before
  rw [List.length_append]
  exact past

theorem staysInside_hddCreateDir_iff (env : Env σ) (state : σ) (path : CString) :
    (hddCreateDir path).StaysInside env state ↔ CreateDirSafe path := by
  have size := computedSize_hddCreateDir path
  constructor
  · intro inside
    by_contra exceeds
    rw [CreateDirSafe, not_or] at exceeds
    refine not_staysInside_of_stored (by rw [size]; omega) ?_ env state inside
    intro first second
    rw [packet, packet, hddCreateDirPacket, hddCreateDirPacket]
    apply copyTo_end (by decide)
    unfold MAXIMUM_PACKET_SIZE
    omega
  · rintro (long | short)
    · exact staysInside_of_tooLong (by rw [size]; omega) env state
    · apply staysInside_of_short
      intro other member
      rw [List.mem_singleton.mp member]
      omega

theorem staysInside_hddRename_iff (env : Env σ) (state : σ) (src dst : CString) :
    (hddRename src dst).StaysInside env state ↔ RenameSafe src dst := by
  have size := computedSize_hddRename src dst
  constructor
  · intro inside
    by_contra exceeds
    rw [RenameSafe, not_or] at exceeds
    obtain ⟨fits, wraps⟩ := exceeds
    have start : (shortLength src).toNat = (src.length + 1) % 2 ^ 16 := UInt16.toNat_ofNat'
    refine not_staysInside_of_stored (by rw [size]; omega) ?_ env state inside
    intro first second
    rw [packet, packet, hddRenamePacket, hddRenamePacket]
    by_cases srcWraps : src.length + 1 < 2 ^ 16
    · apply copyTo_end
      · rw [start]
        unfold dataOffset
        unfold PACKET_HEAD_SIZE at fits
        omega
      · unfold MAXIMUM_PACKET_SIZE
        omega
    · apply Memory.store_agree_of_agree
      apply Memory.store_agree_of_agree
      apply copyTo_end (by decide)
      unfold MAXIMUM_PACKET_SIZE
      omega
  · rintro (long | short)
    · exact staysInside_of_tooLong (by rw [size]; omega) env state
    · apply staysInside_of_short
      intro other member
      rcases List.mem_pair.mp member with rfl | rfl
      · omega
      · omega

/-- Both requests that keep their lengths in a `__u16` stay inside exactly as
long as the guard refuses the lengths that are stored, or none of them wraps. -/
theorem staysInside_iff_safe (env : Env σ) (state : σ) :
    (∀ src dst : CString, (hddRename src dst).StaysInside env state ↔ RenameSafe src dst) ∧
      ∀ path : CString, (hddCreateDir path).StaysInside env state ↔ CreateDirSafe path := by
  constructor
  · intro src dst
    exact staysInside_hddRename_iff env state src dst
  · intro path
    exact staysInside_hddCreateDir_iff env state path

/-- A directory name of 65535 bytes. -/
def longName : CString where
  bytes := List.replicate 65535 0x64
  noNul byte member := by
    rw [List.eq_of_mem_replicate member]
    decide

theorem longName_length : longName.length = 65535 := List.length_replicate

/-- The length of the long name wraps to 0, and the name is copied all the same. -/
theorem not_staysInside_longName :
    ¬ ((∀ src dst : CString, src.length < 2 ^ 31 - 16 → dst.length < 2 ^ 31 - 16 →
        (hddRename src dst).StaysInside Link.muteEnv { pending := [], queue := [], device := () }) ∧
      ∀ path : CString, path.length < 2 ^ 31 - 16 →
        (hddCreateDir path).StaysInside Link.muteEnv
          { pending := [], queue := [], device := () }) := by
  rintro ⟨_, createDir⟩
  have safe := (staysInside_hddCreateDir_iff _ _ longName).mp
    (createDir longName (by rw [longName_length]; decide))
  rw [CreateDirSafe, longName_length] at safe
  exact absurd safe (by decide)

end PathRequest

end Puppy.Usb
