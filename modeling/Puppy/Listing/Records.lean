import Puppy.Listing.Terminator

/-!
# The bytes of a record

A record whose name ends inside its 95 bytes is read from its own 114 bytes
alone, and is copied into the 95 bytes an entry has for a name.  `decode_dir`
copies a name up to its first NUL wherever that is, so it keeps to the records
of a packet and to the names of the entries exactly when all names end.
-/

namespace Puppy.Listing

open Transition
open Puppy.Wire Puppy.Usb Puppy.Time

universe u

variable {σ : Type u}

/-- The size of `name` in `struct typefile` and in `struct puppy_dir_entry`. -/
def NAME_SIZE : Nat := 95

/-- The name of `entries[i]` has a NUL among its 95 bytes. -/
def NameEnds (packet : Memory UInt8) (i : Nat) : Prop :=
  ∃ k < NAME_SIZE, packet (typefileOffset i + 14 + k) = 0

instance (packet : Memory UInt8) (i : Nat) : Decidable (NameEnds packet i) :=
  inferInstanceAs (Decidable (∃ k < NAME_SIZE, _))

/-- Behind the last record a packet declares. -/
def recordsEnd (packet : Memory UInt8) : Nat := typefileOffset (dirCount packet).toNat

/-! ## Records and their bytes -/

/-- The records declared are those that fit behind the header. -/
theorem dirCount_toNat {packet : Memory UInt8}
    (header : PACKET_HEAD_SIZE ≤ (packetLength packet).toNat) :
    (dirCount packet).toNat = ((packetLength packet).toNat - PACKET_HEAD_SIZE) / TYPEFILE_SIZE := by
  have bound := (packetLength packet).toNat_lt
  have behind : ((packetLength packet).toUInt64 - UInt64.ofNat PACKET_HEAD_SIZE).toNat =
      (packetLength packet).toNat - PACKET_HEAD_SIZE := by
    rw [UInt64.toNat_sub_of_le _ _ (by rw [UInt64.le_iff_toNat_le]; exact header)]
    rfl
  have divisor : (UInt64.ofNat TYPEFILE_SIZE).toNat = TYPEFILE_SIZE := rfl
  rw [dirCount, UInt64.toNat_toUInt16, UInt64.toNat_div, behind, divisor]
  unfold TYPEFILE_SIZE PACKET_HEAD_SIZE
  omega

theorem typefileOffset_succ (i : Nat) :
    typefileOffset (i + 1) = typefileOffset i + TYPEFILE_SIZE := by
  rw [typefileOffset, typefileOffset, Nat.succ_mul, Nat.add_assoc]

theorem typefileOffset_le {i count : Nat} (below : i < count) :
    typefileOffset i + TYPEFILE_SIZE ≤ typefileOffset count := by
  rw [← typefileOffset_succ]
  exact Nat.add_le_add_left (Nat.mul_le_mul_right TYPEFILE_SIZE below) dataOffset

/-- The declared length covers all records. -/
theorem recordsEnd_le {packet : Memory UInt8}
    (header : PACKET_HEAD_SIZE ≤ (packetLength packet).toNat) :
    recordsEnd packet ≤ (packetLength packet).toNat := by
  rw [recordsEnd, dirCount_toNat header]
  unfold typefileOffset dataOffset TYPEFILE_SIZE PACKET_HEAD_SIZE at *
  omega

/-- A record inside the packet. -/
theorem typefile_inside {packet : Memory UInt8}
    (header : PACKET_HEAD_SIZE ≤ (packetLength packet).toNat) {i : Nat}
    (below : i < (dirCount packet).toNat) :
    typefileOffset i + TYPEFILE_SIZE ≤ MAXIMUM_PACKET_SIZE := by
  have bound := (packetLength packet).toNat_lt
  have declared := recordsEnd_le header
  have inside := typefileOffset_le below
  unfold MAXIMUM_PACKET_SIZE
  unfold recordsEnd at declared
  omega

/-- The bytes from a name to the end of the packet. -/
def nameLimit (i : Nat) : Nat :=
  dataOffset + (MAXIMUM_PACKET_SIZE - PACKET_HEAD_SIZE) - (typefileOffset i + 14)

theorem name_getTypefile (packet : Memory UInt8) (i : Nat) :
    (getTypefile packet i).name = CString.ofMemory packet (typefileOffset i + 14) (nameLimit i) :=
  rfl

theorem le_nameLimit {i : Nat} (inside : typefileOffset i + TYPEFILE_SIZE ≤ MAXIMUM_PACKET_SIZE) :
    NAME_SIZE ≤ nameLimit i := by
  unfold TYPEFILE_SIZE MAXIMUM_PACKET_SIZE at inside
  unfold NAME_SIZE nameLimit dataOffset PACKET_HEAD_SIZE MAXIMUM_PACKET_SIZE
  omega

/-- A name is shorter than its field exactly when it ends there. -/
theorem name_length_lt_iff {packet : Memory UInt8} {i : Nat}
    (inside : typefileOffset i + TYPEFILE_SIZE ≤ MAXIMUM_PACKET_SIZE) :
    (getTypefile packet i).name.length < NAME_SIZE ↔ NameEnds packet i := by
  have atLeast : NAME_SIZE ≤ (getTypefile packet i).name.length ↔
      NAME_SIZE ≤ nameLimit i ∧ ∀ k < NAME_SIZE, packet (typefileOffset i + 14 + k) ≠ 0 :=
    CString.le_length_scan_iff
  rw [and_iff_right (le_nameLimit inside)] at atLeast
  rw [← Nat.not_le, atLeast]
  simp only [not_forall, not_not, NameEnds, exists_prop]

/-- A record whose name ends is read from its own bytes. -/
theorem getTypefile_congr {first second : Memory UInt8} {i : Nat}
    (inside : typefileOffset i + TYPEFILE_SIZE ≤ MAXIMUM_PACKET_SIZE) (ends : NameEnds first i)
    (agree : ∀ k < TYPEFILE_SIZE, second (typefileOffset i + k) = first (typefileOffset i + k)) :
    getTypefile second i = getTypefile first i := by
  obtain ⟨nul, below, found⟩ := ends
  have room : nul < nameLimit i := Nat.lt_of_lt_of_le below (le_nameLimit inside)
  have name : (getTypefile second i).name = (getTypefile first i).name := by
    apply CString.eq_iff_bytes.mpr
    apply CString.scan_congr room room found
    intro k upTo
    rw [Nat.add_assoc]
    apply agree
    unfold NAME_SIZE at below
    unfold TYPEFILE_SIZE
    omega
  have size : getU64 second (typefileOffset i + 6) = getU64 first (typefileOffset i + 6) := by
    apply getU64_congr
    intro k below
    rw [Nat.add_assoc]
    apply agree
    unfold TYPEFILE_SIZE
    omega
  have mjd : getU16 second (typefileOffset i) = getU16 first (typefileOffset i) := by
    apply getU16_congr
    intro k below
    apply agree
    unfold TYPEFILE_SIZE
    omega
  rw [name_getTypefile, name_getTypefile] at name
  rw [nameLimit] at name
  simp only [getTypefile, getTfDatetime, name, size, mjd, agree 2 (by decide), agree 3 (by decide),
    agree 4 (by decide), agree 5 (by decide)]

/-! ## Decoding a packet -/

/-- `decode_dir` keeps to a packet: it reads nothing behind the records, which
the declared length covers, and changes nothing behind the 95 bytes of a name in
any entry of the buffer. -/
structure KeepsToRecords (env : Env σ) (packet : Memory UInt8) : Prop where
  reads : ∀ other : Memory UInt8,
    (∀ address < recordsEnd packet, other address = packet address) →
    ∀ buffer, decodeDir env other buffer = decodeDir env packet buffer
  covered : recordsEnd packet ≤ (packetLength packet).toNat
  copies : ∀ buffer next, decodeDir env packet buffer = some next →
    ∀ i address, NAME_SIZE ≤ address → (next.data i).name address = (buffer.data i).name address

/-- What lies before the end of the records decides how they are read. -/
theorem typefiles_congr {first second : Memory UInt8}
    (header : PACKET_HEAD_SIZE ≤ (packetLength first).toNat)
    (ends : ∀ i < (dirCount first).toNat, NameEnds first i)
    (agree : ∀ address < recordsEnd first, second address = first address) :
    typefiles second = typefiles first := by
  have length : packetLength second = packetLength first := by
    apply getU16_congr
    intro i below
    apply agree
    unfold recordsEnd typefileOffset dataOffset
    omega
  have count : dirCount second = dirCount first := by
    rw [dirCount, dirCount, length]
  rw [typefiles, typefiles, count]
  apply List.map_congr_left
  intro i member
  have below := List.mem_range.mp member
  apply getTypefile_congr (typefile_inside header below) (ends i below)
  intro k inRecord
  apply agree
  have behind := typefileOffset_le below
  unfold recordsEnd
  omega

/-- `buffer_add` of `NULL` leaves all cells as they are. -/
theorem data_of_add_none {α : Type u} {buffer next : Buffer α} {ptr : Nat}
    (added : Buffer.add none buffer = some (ptr, next)) : next.data = buffer.data := by
  have grown : (run Buffer.growBody (buffer.curEls + 1) buffer).Holds
      (fun grown => grown.data = buffer.data)
      (fun result => ∀ grown, result = some grown → grown.data = buffer.data) := by
    apply run_holds
    · intro grown same
      unfold Buffer.growBody
      simp only
      split
      · split
        · exact same
        · intro _ missing
          cases missing
      · intro other found
        cases found
        exact same
    · rfl
  unfold Buffer.add at added
  split at added
  · rename_i final found
    rw [found] at grown
    cases added
    exact grown final rfl
  · cases added

/-- A name that fits is copied into the 95 bytes of an entry. -/
theorem decodeRecord_name {env : Env σ} {buffer next : Buffer DirEntry} {record : Typefile}
    (stored : decodeRecord env buffer record = some next) (short : record.name.length < NAME_SIZE)
    (i : Nat) {address : Nat} (behind : NAME_SIZE ≤ address) :
    (next.data i).name address = (buffer.data i).name address := by
  unfold decodeRecord at stored
  obtain ⟨⟨ptr, grown⟩, added, rest⟩ := Option.bind_eq_some_iff.mp stored
  cases rest
  have same := data_of_add_none added
  by_cases here : i = ptr
  · subst here
    have value : (grown.set i (decodeEntry env record (grown.data i))).data i =
        decodeEntry env record (grown.data i) := by
      simp [Buffer.set, Memory.store]
    have copied : (decodeEntry env record (grown.data i)).name =
        Memory.store (grown.data i).name 0 (record.name.bytes ++ [0]) := rfl
    rw [value, copied, ← same]
    apply Memory.store_above
    rw [Nat.zero_add, List.length_append]
    exact Nat.le_trans short behind
  · have other : (grown.set ptr (decodeEntry env record (grown.data ptr))).data i =
        grown.data i := by
      apply Memory.store_outside
      rw [List.length_singleton]
      omega
    rw [other, same]

theorem foldlM_decodeRecord_name {env : Env σ} (records : List Typefile) :
    ∀ {buffer next : Buffer DirEntry}, records.foldlM (decodeRecord env) buffer = some next →
      (∀ record ∈ records, record.name.length < NAME_SIZE) →
      ∀ i address, NAME_SIZE ≤ address →
        (next.data i).name address = (buffer.data i).name address := by
  induction records with
  | nil =>
      intro buffer next stored _ i address _
      cases stored
      rfl
  | cons record records ih =>
      intro buffer next stored short i address behind
      rw [List.foldlM_cons] at stored
      obtain ⟨middle, first, rest⟩ := Option.bind_eq_some_iff.mp stored
      rw [ih rest (fun other member => short other (List.mem_cons_of_mem record member)) i address
        behind]
      exact decodeRecord_name first (short record List.mem_cons_self) i behind

theorem keepsToRecords_of_ends {packet : Memory UInt8}
    (header : PACKET_HEAD_SIZE ≤ (packetLength packet).toNat)
    (ends : ∀ i < (dirCount packet).toNat, NameEnds packet i) (env : Env σ) :
    KeepsToRecords env packet := by
  constructor
  · intro other agree buffer
    rw [decodeDir, decodeDir, typefiles_congr header ends agree]
  · exact recordsEnd_le header
  · intro buffer next stored
    apply foldlM_decodeRecord_name _ stored
    intro record member
    obtain ⟨i, inside, rfl⟩ := List.mem_map.mp member
    have below := List.mem_range.mp inside
    exact (name_length_lt_iff (typefile_inside header below)).mpr (ends i below)

/-- A cell of a filled buffer holds its decoded record. -/
theorem Filled.data_eq {env : Env σ} {heap : Memory DirEntry} {records : List Typefile}
    {buffer : Buffer DirEntry} (filled : Filled env heap records buffer) {i : Nat}
    (inside : i < records.length) : buffer.data i = decodeEntry env records[i] (heap i) := by
  have element := congrArg (fun values => values[i]?) filled.values
  have inBuffer : i < buffer.dupValues.length := by
    rw [Buffer.dupValues, Memory.load_length, filled.count]
    exact inside
  have inDecoded : i < (decoded env heap records).length := by
    rw [decoded, List.length_mapIdx]
    exact inside
  rw [List.getElem?_eq_getElem inBuffer, List.getElem?_eq_getElem inDecoded,
    Option.some.injEq] at element
  simpa only [Buffer.dupValues, Memory.getElem_load, Nat.zero_add, decoded,
    List.getElem_mapIdx] using element

/-- Over any memory there is a buffer that takes the records of a packet. -/
theorem exists_decodeDir (env : Env σ) (packet : Memory UInt8) (heap : Memory DirEntry) :
    ∃ buffer next, buffer.data = heap ∧ decodeDir env packet buffer = some next ∧
      ∀ i < (dirCount packet).toNat,
        next.data i = decodeEntry env (getTypefile packet i) (heap i) := by
  have few : EntriesFit (typefiles packet).length := by
    rw [entriesFit_iff, typefiles, List.length_map, List.length_range]
    have bound := (dirCount packet).toNat_lt
    unfold maxEntries
    omega
  obtain ⟨buffer, _, grown, elSize, count, data⟩ :=
    Buffer.init_of_allocates 10 PUPPY_DIR_ENTRY_SIZE (by decide) (by decide) heap
  have filled : Filled env heap [] buffer := by
    refine ⟨grown, elSize, count, ?_, fun j _ => congrFun data j⟩
    rw [Buffer.dupValues, count]
    rfl
  rcases filled.foldlM (typefiles packet) with ⟨next, stored, behind⟩ | ⟨_, full⟩
  · refine ⟨buffer, next, data, stored, ?_⟩
    intro i below
    have inRecords : i < ([] ++ typefiles packet).length := by
      rw [List.nil_append, typefiles, List.length_map, List.length_range]
      exact below
    rw [behind.data_eq inRecords]
    simp [typefiles]
  · rw [List.length_nil, Nat.zero_add] at full
    exact absurd few full

/-- A name that does not end is copied over the end of the name of its entry. -/
theorem not_keepsToRecords_of_runs_on {packet : Memory UInt8}
    (header : PACKET_HEAD_SIZE ≤ (packetLength packet).toNat) {i : Nat}
    (below : i < (dirCount packet).toNat) (runsOn : ¬ NameEnds packet i) (env : Env σ) :
    ¬ KeepsToRecords env packet := by
  intro keeps
  have long : NAME_SIZE ≤ (getTypefile packet i).name.length := by
    rw [← name_length_lt_iff (typefile_inside header below), Nat.not_lt] at runsOn
    exact runsOn
  -- the byte behind the name is stored, whatever the memory of the buffer held
  have stored (heap : Memory DirEntry) :
      CString.copyTo (heap i).name 0 (getTypefile packet i).name NAME_SIZE =
        (heap i).name NAME_SIZE := by
    obtain ⟨buffer, next, data, decoded, entries⟩ := exists_decodeDir env packet heap
    have frame := keeps.copies buffer next decoded i NAME_SIZE (Nat.le_refl _)
    rw [entries i below, data] at frame
    exact frame
  have zeros := stored (heapOf 0)
  have ones := stored (heapOf 1)
  have same : CString.copyTo (heapOf 0 i).name 0 (getTypefile packet i).name NAME_SIZE =
      CString.copyTo (heapOf 1 i).name 0 (getTypefile packet i).name NAME_SIZE := by
    apply Memory.store_agree _ _ (Nat.zero_le _)
    rw [Nat.zero_add, List.length_append]
    exact Nat.lt_succ_of_le long
  rw [zeros, ones] at same
  exact absurd same (show ¬ (0 : UInt8) = 1 by decide)

/-- `decode_dir` keeps to an accepted packet exactly when every name in it ends
inside its 95 bytes. -/
theorem keepsToRecords_iff (env : Env σ) (buffer : Memory UInt8) (state : σ)
    (accepted : 0 < (getTfPacket env buffer state).ret) :
    let packet := (getTfPacket env buffer state).packet
    KeepsToRecords env packet ↔ ∀ i < (dirCount packet).toNat, NameEnds packet i := by
  have header := (getTfPacket_of_pos accepted).1
  constructor
  · intro keeps i below
    by_contra runsOn
    exact not_keepsToRecords_of_runs_on header below runsOn env keeps
  · intro ends
    exact keepsToRecords_of_ends header ends env

theorem keepsToRecords_iff_onePacket :
    let packet := (getTfPacket Link.muteEnv (fun _ => 0)
      { pending := [], queue := [wireImage onePacket], device := () }).packet
    KeepsToRecords Link.muteEnv packet ↔
      ∀ i < (dirCount packet).toNat, NameEnds packet i :=
  keepsToRecords_iff Link.muteEnv (fun _ => 0) _ (by decide +kernel)

/-- A packet with the record of a file whose name fills its 95 bytes. -/
def fullNamePacket : Memory UInt8 :=
  Memory.store (putU32 (putU16 (fun _ => 0) 0 122) 4 DATA_HDD_DIR) (typefileOffset 0 + 5)
    ([2] ++ List.replicate 8 0 ++ List.replicate 95 0x6e)

/-- A name of 95 bytes is copied with 96 bytes. -/
theorem not_keepsToRecords_fullName :
    ¬ ∀ (buffer : Memory UInt8) (state : Link Unit),
      0 < (getTfPacket Link.muteEnv buffer state).ret →
      packetCmd (getTfPacket Link.muteEnv buffer state).packet = DATA_HDD_DIR →
      KeepsToRecords Link.muteEnv (getTfPacket Link.muteEnv buffer state).packet := by
  intro always
  let state : Link Unit := { pending := [], queue := [wireImage fullNamePacket], device := () }
  have accepted : 0 < (getTfPacket Link.muteEnv (fun _ => 0) state).ret := by decide +kernel
  have below : 0 < (dirCount (getTfPacket Link.muteEnv (fun _ => 0) state).packet).toNat := by
    decide +kernel
  have runsOn : ¬ NameEnds (getTfPacket Link.muteEnv (fun _ => 0) state).packet 0 := by
    decide +kernel
  exact not_keepsToRecords_of_runs_on (getTfPacket_of_pos accepted).1 below runsOn Link.muteEnv
    (always (fun _ => 0) state accepted (by decide +kernel))

end Puppy.Listing
