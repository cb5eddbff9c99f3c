import Puppy.Listing.Decoding
import Puppy.Listing.Document

/-!
# What a listing prints

The records of the packets of a listing, and the calls of `printf` by which
`do_hdd_dir` shows them: the records of each packet in their order, one packet
behind the other.
-/

namespace Puppy.Listing

open Transition
open Puppy.Wire Puppy.Usb

universe u

variable {σ : Type u}

/-! ## Records -/

/-- A record as it is decoded. -/
def Record.typefile (record : Record) : Typefile where
  stamp := record.stamp
  filetype := record.filetype
  size := UInt64.ofNat record.size
  name := record.name

/-- The records of a packet. -/
def DirMessage.contents (message : DirMessage) : List Record :=
  (List.range message.records).map (recordAt (memoryOrder message.data))

theorem typefile_recordAt (message : DirMessage) {i : Nat} (below : i < message.records) :
    (recordAt (memoryOrder message.data) i).typefile =
      getTypefile (memoryOrder message.data) i := by
  have name := name_recordAt message below
  have size : UInt64.ofNat (recordAt (memoryOrder message.data) i).size =
      getU64 (memoryOrder message.data) (typefileOffset i + 6) := by
    rw [← UInt64.toNat_inj, UInt64.toNat_ofNat', recordAt, ← toNat_getU64]
    exact Nat.mod_eq_of_lt (UInt64.toNat_lt _)
  rw [Record.typefile, size, ← name]
  rfl

theorem typefiles_memoryOrder (message : DirMessage) :
    typefiles (memoryOrder message.data) = message.contents.map Record.typefile := by
  rw [typefiles, dirCount_memoryOrder, DirMessage.contents, List.map_map]
  apply List.map_congr_left
  intro i member
  exact (typefile_recordAt message (List.mem_range.mp member)).symm

/-! ## Output -/

/-- What is printed for the records of a packet. -/
def Tool.sheet (env : Env σ) (tool : Tool) (records : List Record) : List Output :=
  if tool.xml then xmlDocument env tool (records.map Record.typefile)
  else (records.map Record.typefile).map (tool.printRecord env)

/-- What is printed for a packet is about its records. -/
theorem decodeDir_of_typefiles (env : Env σ) (tool : Tool) {packet : Memory UInt8}
    {records : List Record} (shown : typefiles packet = records.map Record.typefile) :
    tool.decodeDir env packet = tool.sheet env records := by
  rw [Tool.decodeDir, Tool.sheet, xmlDocument, shown]

/-- From any point inside a listing, the tool prints the rest of it and leaves
with success. -/
theorem prints_of_feeds {env : Env σ} (tool : Tool) {state final : σ}
    {messages : List DirMessage} (feeds : Feeds env state messages final) :
    ∀ loop : ToolLoop σ, loop.outside = state →
      ∃ last, Leaves (hddDirBody env tool) loop (0, last) ∧
        last.stdout = loop.stdout ++
          messages.flatMap (fun message => tool.sheet env message.contents) ∧
        last.outside = final := by
  induction feeds with
  | last delivered whole atEnd =>
      intro loop outside
      obtain ⟨carries, left, _⟩ :=
        getTfPacket_of_whole delivered whole atEnd (by decide) loop.reply
      have turn := hddDirBody_cases env tool loop
      rw [outside] at turn
      generalize getTfPacket env loop.reply _ = got at carries left turn
      generalize pass : hddDirBody env tool loop = made at turn
      cases turn with
      | decoded _ dir => exact absurd (dir.2.symm.trans carries.2) (by decide)
      | finished _ => exact ⟨_, leaves_of_leave pass, (List.append_nil _).symm, left⟩
      | failed _ notEnd => exact absurd carries notEnd
  | @dir state after final message messages delivered _ ih =>
      intro loop outside
      obtain ⟨carries, left, bytes⟩ :=
        getTfPacket_of_whole delivered message.whole message.dir (by decide) loop.reply
      rw [← outside] at carries left bytes
      have printed := decodeDir_of_typefiles env tool
        ((typefiles_of_bytes bytes).trans (typefiles_memoryOrder message))
      obtain ⟨next, again, shown, entered⟩ : ∃ next, hddDirBody env tool loop = .again next ∧
          next.stdout = loop.stdout ++ tool.sheet env message.contents ∧
          next.outside = (sendSuccess env after).state := by
        refine ⟨_, hddDirBody_of_dir carries, ?_, ?_⟩
        · exact congrArg (loop.stdout ++ ·) printed
        · exact congrArg (fun state => (sendSuccess env state).state) left
      obtain ⟨last, leaves, stdout, ended⟩ := ih next entered
      refine ⟨last, leaves_of_again again leaves, ?_, ended⟩
      rw [stdout, shown, List.flatMap_cons, List.append_assoc]

/-- A listing that is received whole is printed packet by packet. -/
theorem toolRequested_of_feeds {env : Env σ} (tool : Tool) (reply : Memory UInt8)
    {request : Requested σ} (sent : 0 ≤ request.ret) {messages : List DirMessage} {final : σ}
    (feeds : Feeds env request.state messages final) :
    ∃ fuel last, toolRequested env tool fuel reply request = .leave (0, last) ∧
      last.stdout = messages.flatMap (fun message => tool.sheet env message.contents) ∧
      last.outside = final := by
  obtain ⟨last, ⟨fuel, left⟩, stdout, ended⟩ :=
    prints_of_feeds tool feeds (toolInitial reply request) rfl
  exact ⟨fuel, last, (if_neg (Int.not_lt.mpr sent)).trans left, stdout, ended⟩

end Puppy.Listing
