import Puppy.Peer.Device
import Puppy.Peer.Records

/-!
# A disk without directories

The plainest disk: files under their paths, side by side.  A file is sent a byte
in each packet, and a listing a record in each.
-/

namespace Puppy.Peer

open Puppy.Wire Puppy.Usb Puppy.Control Puppy.Listing Puppy.Transfer Puppy.Time

/-! ## What is sent -/

/-- A directory with these records. -/
def Directory.ofRecords (records : List Fileable) (fits : EntriesFit (records.length + 1)) :
    Directory where
  messages := records.map Fileable.message
  bounded := by
    intro message member
    obtain ⟨record, _, rfl⟩ := List.mem_map.mp member
    have length : record.message.data.length = 122 :=
      (wireImage_length _).trans (byteCount_recordPacket record.toRecord)
    rw [length]
    decide
  fits := by
    rw [listing_messages, List.length_map]
    exact fits

/-- A `typefile` with a time. -/
def stampPacket (stamp : TfDatetime) : Memory UInt8 :=
  putTfDatetime (putFixedHeader (fun _ => 0) 122 DATA_HDD_FILE_START) dataOffset stamp

/-- A byte of a file. -/
def bytePacket (byte : UInt8) : Memory UInt8 :=
  Memory.store (putFixedHeader (fun _ => 0) 17 DATA_HDD_FILE_DATA) (dataOffset + 8) [byte]

theorem header_stampPacket (stamp : TfDatetime) :
    packetLength (stampPacket stamp) = 122 ∧
      packetCmd (stampPacket stamp) = DATA_HDD_FILE_START := by
  have header := Answer.header_putFixedHeader (fun _ => 0) 122 DATA_HDD_FILE_START
  rw [stampPacket, putTfDatetime, putU16, packetLength_store _ _ (by decide),
    packetLength_store _ _ (by decide), packetCmd_store _ _ (by decide),
    packetCmd_store _ _ (by decide)]
  exact header

theorem header_bytePacket (byte : UInt8) :
    packetLength (bytePacket byte) = 17 ∧ packetCmd (bytePacket byte) = DATA_HDD_FILE_DATA := by
  have header := Answer.header_putFixedHeader (fun _ => 0) 17 DATA_HDD_FILE_DATA
  rw [bytePacket, packetLength_store _ _ (by decide), packetCmd_store _ _ (by decide)]
  exact header

theorem payload_bytePacket (byte : UInt8) : payload (bytePacket byte) = [byte] := by
  rw [payload, payloadSize, (header_bytePacket byte).1]
  exact Memory.load_store_self _ (dataOffset + 8) [byte]

/-- A file as it is sent. -/
def Download.ofFile (file : File) : Download where
  start := stampPacket file.stamp
  datas := file.contents.map bytePacket
  startCmd := (header_stampPacket file.stamp).2
  startLength := by
    rw [(header_stampPacket file.stamp).1]
    rfl
  dataCmd := by
    intro data member
    obtain ⟨byte, _, rfl⟩ := List.mem_map.mp member
    exact (header_bytePacket byte).2
  dataLength := by
    intro data member
    obtain ⟨byte, _, rfl⟩ := List.mem_map.mp member
    rw [(header_bytePacket byte).1]
    decide

theorem Download.file_ofFile (file : File) : (ofFile file).file = file := by
  obtain ⟨stamp, contents⟩ := file
  have stamped : getTfDatetime (stampPacket stamp) dataOffset = stamp :=
    getTfDatetime_putTfDatetime _ dataOffset stamp
  have sent : (contents.map bytePacket).flatMap payload = contents := by
    induction contents with
    | nil => rfl
    | cons byte contents ih =>
        rw [List.map_cons, List.flatMap_cons, payload_bytePacket, ih]
        rfl
  simp only [file, ofFile, stamped, sent]

/-! ## The disk -/

/-- Files under their paths. -/
abbrev Shelf := List (CString × File)

namespace Shelf

def find (path : CString) (shelf : Shelf) : Option File := shelf.lookup path

def remove (path : CString) (shelf : Shelf) : Shelf := shelf.filter fun kept => kept.1 ≠ path

def put (path : CString) (file : File) (shelf : Shelf) : Shelf :=
  (path, file) :: shelf.remove path

/-- The record of a file, unless its path is too long for one. -/
def record (kept : CString × File) : Option Fileable :=
  let record : Record := ⟨kept.2.stamp, 2, kept.2.contents.length, kept.1⟩
  if fits : record.name.length < NAME_SIZE ∧ record.size < 2 ^ 63 then
    some ⟨record, fits.1, fits.2⟩
  else none

def perform : Command → Shelf → Answer × Shelf
  | .hddDel path, shelf =>
      match shelf.find path with
      | none => (.failure 4, shelf)
      | some _ => (.success, shelf.remove path)
  | .hddRename srcPath dstPath, shelf =>
      match shelf.find srcPath with
      | none => (.failure 4, shelf)
      | some file => (.success, (shelf.remove srcPath).put dstPath file)
  | .hddMkdir _, shelf => (.failure 2, shelf)
  | .hddSize, shelf => (.size 1000 (UInt32.ofNat (1000 - shelf.length)), shelf)
  | .turbo _, shelf | .reset, shelf | .ready, shelf | .cancel, shelf => (.success, shelf)

def list (shelf : Shelf) : Directory :=
  Directory.ofRecords ((shelf.filterMap record).take (maxEntries - 1)) <| by
    rw [entriesFit_iff, List.length_take]
    have positive : 0 < maxEntries := by decide
    omega

end Shelf

theorem Shelf.find_remove {path other : CString} (different : other ≠ path) (shelf : Shelf) :
    (shelf.remove path).find other = shelf.find other := by
  induction shelf with
  | nil => rfl
  | cons kept shelf ih =>
      obtain ⟨name, file⟩ := kept
      unfold remove find at ih ⊢
      by_cases same : name = path
      · subst same
        rw [List.filter_cons_of_neg (by simp), ih, List.lookup_cons, beq_false_of_ne different]
      · rw [List.filter_cons_of_pos (by simpa using same), List.lookup_cons, List.lookup_cons, ih]

/-- The shelf as the disk of a device. -/
def shelfDisk : Disk Shelf where
  perform := Shelf.perform
  cancel _ := rfl
  list _ shelf := shelf.list
  refuses _ _ := none
  store := Shelf.put
  fetch path shelf :=
    match shelf.find path with
    | none => .error 4
    | some file => .ok (.ofFile file)

/-- What is put on the shelf is found there. -/
theorem fetch_store_shelf (path : CString) (file : File) (shelf : Shelf) :
    ∃ download, shelfDisk.fetch path (shelfDisk.store path file shelf) = .ok download ∧
      download.file = file := by
  have found : (shelf.put path file).find path = some file := by
    simp [Shelf.find, Shelf.put]
  refine ⟨.ofFile file, ?_, Download.file_ofFile file⟩
  simp only [shelfDisk, found]

theorem letter_ne_zero : (0x72 : UInt8) ≠ 0 := by decide

/-- The name "r". -/
def letter : CString := CString.single 0x72 letter_ne_zero

theorem secondLetter_ne_zero : (0x73 : UInt8) ≠ 0 := by decide

/-- The name "s". -/
def secondLetter : CString := CString.single 0x73 secondLetter_ne_zero

end Puppy.Peer
