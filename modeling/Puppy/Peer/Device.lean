import Puppy.Peer.Demand
import Puppy.Listing.Decoding

/-!
# A device with a disk

A `Disk` says what the device is for: what a command does, what is in a
directory, and what becomes of a file.  `fileServer` is a device that serves a
disk over the protocol, one message for every message: it answers a request, or
plays the packets of a listing or of a file one behind each `SUCCESS`, or takes
the packets of a file one behind the other and stores the file at their end.
-/

namespace Puppy.Peer

open Puppy.Wire Puppy.Usb Puppy.Control Puppy.Listing Puppy.Transfer Puppy.Time

universe u

/-! ## What the device is for -/

/-- A file on the disk. -/
structure File where
  stamp : TfDatetime
  contents : List UInt8

/-- A directory as the device sends it, small enough for the memory of the
host. -/
structure Directory where
  messages : List DirMessage
  bounded : ∀ message ∈ messages, message.data.length ≤ MAXIMUM_PACKET_SIZE
  fits : EntriesFit ((listing messages).length + 1)

/-- A file as the device sends it: a `typefile`, then data packets. -/
structure Download where
  start : Memory UInt8
  datas : List (Memory UInt8)
  startCmd : packetCmd start = DATA_HDD_FILE_START
  startLength : (packetLength start).toNat = PACKET_HEAD_SIZE + TYPEFILE_SIZE
  dataCmd : ∀ data ∈ datas, packetCmd data = DATA_HDD_FILE_DATA
  dataLength : ∀ data ∈ datas, 16 ≤ (packetLength data).toNat ∧
    (packetLength data).toNat < MAXIMUM_PACKET_SIZE

/-- The file that is sent. -/
def Download.file (download : Download) : File where
  stamp := getTfDatetime download.start dataOffset
  contents := download.datas.flatMap payload

/-- What a device does with its disk.  A refusal carries a code. -/
structure Disk (δ : Type u) where
  perform : Command → δ → Answer × δ
  /-- A transfer can always be given up. -/
  cancel : ∀ disk, perform .cancel disk = (.success, disk)
  list : CString → δ → Directory
  refuses : CString → δ → Option UInt32
  store : CString → File → δ → δ
  fetch : CString → δ → Except UInt32 Download

/-! ## The protocol -/

/-- What a device is in the middle of. -/
inductive Phase where
  /-- These messages are still to be sent. -/
  | sending (messages : List (List UInt8))
  /-- A file is received. -/
  | receiving (path : CString) (file : File)

/-- A device with its disk. -/
structure Server (δ : Type u) where
  disk : δ
  phase : Phase
  /-- How often the host has called `read`. -/
  calls : Nat

/-- The end of a listing. -/
def dirEnd : Memory UInt8 := putFixedHeader (fun _ => 0) 8 DATA_HDD_DIR_END

/-- The end of a file. -/
def fileEnd : Memory UInt8 := putFixedHeader (fun _ => 0) 8 DATA_HDD_FILE_END

/-- The messages of a directory. -/
def Directory.script (directory : Directory) : List (List UInt8) :=
  directory.messages.map DirMessage.data ++ [wireImage dirEnd]

/-- The messages of a file. -/
def Download.script (download : Download) : List (List UInt8) :=
  wireImage download.start :: download.datas.map wireImage ++ [wireImage fileEnd]

/-- A file of which nothing has arrived. -/
def File.blank : File := ⟨⟨0, 0, 0, 0⟩, []⟩

namespace Server

variable {δ : Type u}

/-- Nothing is under way. -/
def idle (server : Server δ) : Server δ := { server with phase := .sending [] }

/-- Send the first of some messages, and keep the others. -/
def play (messages : List (List UInt8)) (server : Server δ) :
    List (List UInt8) × Server δ :=
  (messages.take 1, { server with phase := .sending (messages.drop 1) })

/-- Answer and wait for the next request. -/
def answer (answer : Answer) (server : Server δ) : List (List UInt8) × Server δ :=
  ([answer.message], server.idle)

/-- Serve a request. -/
def attend (disk : Disk δ) (demand : Demand) (server : Server δ) :
    List (List UInt8) × Server δ :=
  match demand with
  | .command command =>
      let performed := disk.perform command server.disk
      { server with disk := performed.2 }.answer performed.1
  | .list path => server.play (disk.list path server.disk).script
  | .put path =>
      match disk.refuses path server.disk with
      | some code => server.answer (.failure code)
      | none =>
          ([Answer.success.message], { server with phase := .receiving path File.blank })
  | .get path =>
      match disk.fetch path server.disk with
      | .error code => server.answer (.failure code)
      | .ok download => server.play download.script

/-- Go on with what is under way. -/
def next (server : Server δ) : List (List UInt8) × Server δ :=
  match server.phase with
  | .sending messages => server.play messages
  | .receiving _ _ => ([], server)

/-- Take a packet of a file. -/
def receive (disk : Disk δ) (packet : Memory UInt8) (server : Server δ) :
    List (List UInt8) × Server δ :=
  match server.phase with
  | .sending _ => server.answer (.failure 3)
  | .receiving path file =>
      if packetCmd packet = DATA_HDD_FILE_START then
        let file := { file with stamp := getTfDatetime packet dataOffset }
        ([Answer.success.message], { server with phase := .receiving path file })
      else if packetCmd packet = DATA_HDD_FILE_DATA then
        let file := { file with contents := file.contents ++ payload packet }
        ([Answer.success.message], { server with phase := .receiving path file })
      else { server with disk := disk.store path file server.disk }.answer .success

/-- React to a message. -/
def respond (disk : Disk δ) (message : List UInt8) (server : Server δ) :
    List (List UInt8) × Server δ :=
  let packet := arrived message
  let cmd := packetCmd packet
  if packetCrc packet ≠ getCrc packet then server.answer (.failure 1)
  else if cmd = SUCCESS then server.next
  else if InTransfer cmd then server.receive disk packet
  else
    match demand packet with
    | none => server.answer (.failure 2)
    | some demand => server.attend disk demand

end Server

variable {δ : Type u}

/-- A device that serves a disk, on a host whose `i`th `read` delivers at most
`amount i` bytes. -/
def fileServer (disk : Disk δ) (amount : Nat → Nat) : Device (Server δ) where
  respond := Server.respond disk
  read count server :=
    (some ⟨min (amount server.calls) count, Nat.lt_succ_of_le (Nat.min_le_right _ _)⟩,
      { server with calls := server.calls + 1 })

/-- A link to a device, with messages on the way to the host. -/
def line (queue : List (List UInt8)) (server : Server δ) : Link (Server δ) where
  pending := []
  queue
  device := server

/-- A server that has sent the first of some messages. -/
def playing (messages : List (List UInt8)) (state : δ) (calls : Nat) : Link (Server δ) :=
  line (messages.take 1) { disk := state, phase := .sending (messages.drop 1), calls }

/-- A server on which nothing is under way. -/
def resting (disk : δ) (calls : Nat) : Server δ := { disk, phase := .sending [], calls }

/-! ## Reactions -/

section Reactions

variable (disk : Disk δ)

/-- A request that is understood is served. -/
theorem respond_of_understood {message : List UInt8} {asked : Demand}
    (understood : Understood message asked) (server : Server δ) :
    Server.respond disk message server = server.attend disk asked := by
  have notSuccess : packetCmd (arrived message) ≠ SUCCESS := fun success =>
    understood.opens (Or.inl success)
  unfold Server.respond
  simp only
  rw [if_neg (not_not.mpr understood.checked), if_neg notSuccess, if_neg understood.opens,
    understood.asks]

/-- `SUCCESS` goes on with what is under way. -/
theorem respond_success (server : Server δ) :
    Server.respond disk successPacket server = server.next := by
  have checked : packetCrc (arrived successPacket) = getCrc (arrived successPacket) := by
    decide +kernel
  have success : packetCmd (arrived successPacket) = SUCCESS := by decide +kernel
  unfold Server.respond
  simp only
  rw [if_neg (not_not.mpr checked), if_pos success]

/-- The packets of a file are taken. -/
theorem respond_file {packet : Memory UInt8} (sendable : Sendable packet)
    (file : InTransfer (packetCmd packet)) (notSuccess : packetCmd packet ≠ SUCCESS)
    (server : Server δ) :
    Server.respond disk (wireImage packet) server =
      server.receive disk (arrived (wireImage packet)) := by
  obtain ⟨_, cmd, checked, _⟩ := arrived_wireImage sendable
  unfold Server.respond
  simp only
  rw [if_neg (not_not.mpr checked), cmd, if_neg notSuccess, if_pos file]

end Reactions

/-! ## Across the link -/

section Line

variable (disk : Disk δ) (amount : Nat → Nat) (host : Host)

/-- A whole message written to an idle line is answered. -/
theorem usbBulkWrite_line {message : List UInt8} {asked : Demand}
    (understood : Understood message asked) (queue : List (List UInt8)) (server : Server δ) :
    usbBulkWrite (Link.env (fileServer disk amount) host) message (line queue server) =
      { sent := message.length
        state := line (queue ++ (server.attend disk asked).1) (server.attend disk asked).2 } := by
  have taken : (line queue server).taken (fileServer disk amount) message =
      line (queue ++ (Server.respond disk message server).1)
        (Server.respond disk message server).2 :=
    rfl
  rw [usbBulkWrite_link understood.nonempty understood.sized rfl, taken,
    respond_of_understood disk understood]

/-- A `SUCCESS` brings the next message. -/
theorem sendSuccess_line (queue : List (List UInt8)) (server : Server δ) :
    (sendSuccess (Link.env (fileServer disk amount) host) (line queue server)).state =
      line (queue ++ server.next.1) server.next.2 := by
  have taken : (line queue server).taken (fileServer disk amount) successPacket =
      line (queue ++ (Server.respond disk successPacket server).1)
        (Server.respond disk successPacket server).2 :=
    rfl
  rw [sendSuccess_link (fileServer disk amount) host rfl, taken, respond_success]

/-- A packet of a file reaches the device. -/
theorem sendTfPacket_line {packet : Memory UInt8} (sendable : Sendable packet)
    (file : InTransfer (packetCmd packet)) (notSuccess : packetCmd packet ≠ SUCCESS)
    (queue : List (List UInt8)) (server : Server δ) :
    sendTfPacket (Link.env (fileServer disk amount) host) packet (line queue server) =
      { ret := byteCount packet
        packet := sealPacket packet
        state := line (queue ++ (server.receive disk (arrived (wireImage packet))).1)
          (server.receive disk (arrived (wireImage packet))).2 } := by
  have taken : (line queue server).taken (fileServer disk amount) (wireImage packet) =
      line (queue ++ (Server.respond disk (wireImage packet) server).1)
        (Server.respond disk (wireImage packet) server).2 :=
    rfl
  rw [sendTfPacket_link (fileServer disk amount) host sendable.header rfl, taken,
    respond_file disk sendable file notSuccess]

/-- The next message behind a `SUCCESS`. -/
theorem sendSuccess_playing (messages : List (List UInt8)) (state : δ) (calls : Nat) :
    (sendSuccess (Link.env (fileServer disk amount) host)
      (line [] { disk := state, phase := .sending messages, calls })).state =
        playing messages state calls :=
  sendSuccess_line disk amount host [] _

/-- The only message on the line is delivered. -/
theorem delivers_playing {message : List UInt8} (rest : List (List UInt8)) (state : δ)
    (calls : Nat) (nonempty : message ≠ []) (bound : message.length ≤ MAXIMUM_PACKET_SIZE) :
    Delivers (Link.env (fileServer disk amount) host) (playing (message :: rest) state calls)
      message (line [] { disk := state, phase := .sending rest, calls }) :=
  delivers_link nonempty rfl bound (Or.inr rfl)

/-- The reply on the line is read. -/
theorem getTfPacket_answer (answer : Answer) {server : Server δ} {outside : Link (Server δ)}
    (waiting : outside = line [answer.message] server) (buffer : Memory UInt8) :
    Reads answer.packet (line [] server)
      (getTfPacket (Link.env (fileServer disk amount) host) buffer outside) := by
  subst waiting
  have reads := getTfPacket_queued (fileServer disk amount) host answer.sendable_packet
    (show (line [answer.message] server).queue = wireImage answer.packet :: [] from rfl)
    (Or.inr rfl) buffer
  rw [answer.header_packet.2, if_neg answer.cmd_ne_fileData] at reads
  exact reads

/-- The request of a transfer is served. -/
theorem sendCmdHddFileSend_line {dir : UInt8} {path : CString} {asked : Demand}
    (means : Demand.ofPath (.hddFileSend dir path) = some asked) (accepts : FileSendAccepts path)
    (req : Memory UInt8) (server : Server δ) :
    let request := sendCmdHddFileSend (Link.env (fileServer disk amount) host) req dir path
      (line [] server)
    0 ≤ request.ret ∧ request.stderr = [] ∧
      request.state = line (server.attend disk asked).1 (server.attend disk asked).2 := by
  have fits : (PathRequest.hddFileSend dir path).size < MAXIMUM_PACKET_SIZE := accepts
  have short : (PathRequest.hddFileSend dir path).Short := by
    intro other member
    rw [List.mem_singleton.mp member]
    unfold FileSendAccepts PACKET_HEAD_SIZE MAXIMUM_PACKET_SIZE at accepts
    omega
  have understood : Understood (wireImage (hddFileSendPacket req dir path)) asked :=
    understood_path short fits req means
  have written := usbBulkWrite_line disk amount host understood [] server
  rw [sendCmdHddFileSend_of_accepts accepts, sendTfPacket, written]
  exact ⟨Int.natCast_nonneg _, rfl, rfl⟩

end Line

/-- The request of a transfer whose path does not fit. -/
theorem sendCmdHddFileSend_of_tooLong {σ : Type u} {path : CString}
    (short : path.length ≤ 65534) (tooLong : ¬ FileSendAccepts path) (env : Env σ)
    (req : Memory UInt8) (dir : UInt8) (state : σ) :
    sendCmdHddFileSend env req dir path state =
      { ret := -1, sends := [], stderr := [.pathTooLong], state } := by
  have request : (PathRequest.hddFileSend dir path).Short := by
    intro other member
    rw [List.mem_singleton.mp member]
    exact short
  have long : (PathRequest.hddFileSend dir path).computedSize ≥ MAXIMUM_PACKET_SIZE := by
    rw [PathRequest.computedSize_of_short request, PathRequest.size]
    unfold FileSendAccepts at tooLong
    omega
  exact PathRequest.send_of_tooLong long env req state

end Puppy.Peer
