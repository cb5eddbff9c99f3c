import Puppy.Listing.Agreement

/-!
# The XML output of the command line tool

`decode_dir` of `puppy.c` frames the records of one packet as a document of its
own.  What `do_hdd_dir` prints is one such document for each packet, which is
the document of the whole listing only when there is one packet.
-/

namespace Puppy.Listing

open Transition
open Puppy.Wire Puppy.Usb

universe u

variable {σ : Type u}

/-- One document with an element for each record. -/
def xmlDocument (env : Env σ) (tool : Tool) (records : List Typefile) : List Output :=
  [.xmlDeclaration, .contentsBegin] ++ records.map (tool.printRecord env) ++ [.contentsEnd]

/-- The `DATA_HDD_DIR` packets in a list of arrivals. -/
def dirPackets (log : List Arrival) : List (Memory UInt8) :=
  (log.filter fun arrival => arrival.carries DATA_HDD_DIR).map Arrival.packet

theorem printRecord_ne_xmlDeclaration (env : Env σ) (tool : Tool) (record : Typefile) :
    tool.printRecord env record ≠ .xmlDeclaration := by
  unfold Tool.printRecord
  simp only
  split <;> exact Output.noConfusion

/-- A document has one declaration. -/
theorem count_xmlDocument (env : Env σ) (tool : Tool) (records : List Typefile) :
    (xmlDocument env tool records).count .xmlDeclaration = 1 := by
  have none : (records.map (tool.printRecord env)).count .xmlDeclaration = 0 := by
    rw [List.count_eq_zero]
    intro member
    obtain ⟨record, _, same⟩ := List.mem_map.mp member
    exact printRecord_ne_xmlDeclaration env tool record same
  rw [xmlDocument, List.count_append, List.count_append, none]
  rfl

theorem decodeDir_of_xml {tool : Tool} (xml : tool.xml = true) (env : Env σ)
    (packet : Memory UInt8) :
    tool.decodeDir env packet = xmlDocument env tool (typefiles packet) := by
  rw [Tool.decodeDir, if_pos xml, xmlDocument]

/-- As many declarations are printed as packets arrived. -/
theorem count_flatMap_decodeDir {tool : Tool} (xml : tool.xml = true) (env : Env σ)
    (packets : List (Memory UInt8)) :
    (packets.flatMap (tool.decodeDir env)).count .xmlDeclaration = packets.length := by
  induction packets with
  | nil => rfl
  | cons packet packets ih =>
      rw [List.flatMap_cons, List.count_append, ih, decodeDir_of_xml xml, count_xmlDocument,
        List.length_cons, Nat.add_comm]

theorem received_eq_dirPackets (log : List Arrival) :
    received log = (dirPackets log).flatMap typefiles := by
  induction log with
  | nil => rfl
  | cons arrival log ih =>
      simp only [received, dirPackets, List.flatMap_cons, List.filter_cons] at ih ⊢
      by_cases carries : arrival.carries DATA_HDD_DIR
      · rw [if_pos carries, if_pos (decide_eq_true carries), ih]
        rfl
      · rw [if_neg carries, if_neg (by simpa using carries), ih]
        rfl

theorem dirPackets_concat (log : List Arrival) (arrival : Arrival) :
    dirPackets (log ++ [arrival]) =
      dirPackets log ++ if arrival.carries DATA_HDD_DIR then [arrival.packet] else [] := by
  by_cases carries : arrival.carries DATA_HDD_DIR <;>
    simp [dirPackets, carries]

/-- The documents of several packets make up one document exactly when there is
one packet. -/
theorem flatMap_decodeDir_iff {tool : Tool} (xml : tool.xml = true) (env : Env σ)
    (packets : List (Memory UInt8)) :
    packets.flatMap (tool.decodeDir env) = xmlDocument env tool (packets.flatMap typefiles) ↔
      packets.length = 1 := by
  constructor
  · intro same
    have counts := congrArg (List.count .xmlDeclaration) same
    rwa [count_flatMap_decodeDir xml, count_xmlDocument] at counts
  · intro one
    obtain ⟨packet, rfl⟩ := List.length_eq_one_iff.mp one
    rw [List.flatMap_singleton, List.flatMap_singleton, decodeDir_of_xml xml]

/-! ## What the loop prints -/

/-- The tool stands where the exchange stands, and has printed every packet. -/
structure ToolPrints (env : Env σ) (tool : Tool) (loop : ToolLoop σ) (talk : Conversation σ) :
    Prop where
  same : loop.talk = talk
  stdout : loop.stdout = (dirPackets talk.log).flatMap (tool.decodeDir env)

theorem hddDirBody_of_dir {env : Env σ} {tool : Tool} {loop : ToolLoop σ}
    (carries : (arrivalOf (getTfPacket env loop.reply loop.outside)).carries DATA_HDD_DIR) :
    hddDirBody env tool loop =
      let got := getTfPacket env loop.reply loop.outside
      .again
        { loop.accept got with
          stdout := loop.stdout ++ tool.decodeDir env got.packet
          outside := (sendSuccess env got.state).state } :=
  (if_pos carries.1).trans (if_pos carries.2)

/-- The loop of the tool prints along with the exchange. -/
theorem hddDirBody_prints (env : Env σ) (tool : Tool) (loop : ToolLoop σ)
    (talk : Conversation σ) (prints : ToolPrints env tool loop talk) :
    Pass.Related (ToolPrints env tool)
      (fun result talk => Complete talk.log → result.1 = 0 ∧ ToolPrints env tool result.2 talk)
      (fun _ _ => False) (hddDirBody env tool loop) (converse env talk) := by
  obtain ⟨rfl, stdout⟩ := prints
  have turn := hddDirBody_cases env tool loop
  unfold converse ToolLoop.talk
  simp only
  by_cases carries : (arrivalOf (getTfPacket env loop.reply loop.outside)).carries DATA_HDD_DIR
  · rw [if_pos carries, hddDirBody_of_dir carries]
    apply Pass.Related.again
    constructor
    · rfl
    · simp only [dirPackets_concat, if_pos carries, List.flatMap_append, List.flatMap_singleton]
      rw [stdout]
      rfl
  · rw [if_neg carries]
    generalize getTfPacket env loop.reply loop.outside = got at carries turn ⊢
    generalize hddDirBody env tool loop = pass at turn ⊢
    cases turn with
    | decoded _ dir => exact absurd dir carries
    | finished _ =>
        apply Pass.Related.leave
        intro _
        refine ⟨rfl, rfl, ?_⟩
        simp only [dirPackets_concat, if_neg carries, List.append_nil]
        exact stdout
    | failed _ notEnd =>
        apply Pass.Related.leave
        rintro ⟨dirs, final, split, _, atEnd⟩
        rw [← List.singleton_inj.mp (List.append_inj' split rfl).2] at atEnd
        exact absurd atEnd notEnd

/-- A complete listing is printed packet by packet. -/
theorem toolRequested_prints (env : Env σ) (tool : Tool) (reply : Memory UInt8)
    (request : Requested σ) {talk : Conversation σ}
    (converses : ConversesBehind env reply request talk) (complete : Complete talk.log) :
    ∃ fuel last, toolRequested env tool fuel reply request = .leave (0, last) ∧
      last.stdout = (dirPackets talk.log).flatMap (tool.decodeDir env) := by
  cases converses with
  | refused _ nothing =>
      rw [nothing] at complete
      exact absurd complete (not_endsWith_nil _)
  | ended sent leaves =>
      have initial : ToolPrints env tool (toolInitial reply request)
          (conversationInitial reply request) := ⟨rfl, rfl⟩
      obtain ⟨⟨value, last⟩, ⟨fuel, left⟩, prints | given⟩ :=
        exists_leaves_of_related (hddDirBody_prints env tool) (fun _ _ => id) initial leaves
      · obtain ⟨rfl, printed⟩ := prints complete
        refine ⟨fuel, last, ?_, printed.stdout⟩
        rw [toolRequested, if_neg (Int.not_lt.mpr sent)]
        exact left
      · exact given.elim

/-- However many passes are allowed, the tool ends in one state. -/
theorem toolRequested_leave_unique {env : Env σ} {tool : Tool} {reply : Memory UInt8}
    {request : Requested σ} {m n : Nat} {first second : Int × ToolLoop σ}
    (left : toolRequested env tool m reply request = .leave first)
    (right : toolRequested env tool n reply request = .leave second) : first = second := by
  unfold toolRequested at left right
  split at left
  · rename_i refused
    rw [if_pos refused, left] at right
    cases right
    rfl
  · rename_i sent
    rw [if_neg sent] at right
    exact run_leave_unique left right

/-- For a complete listing the tool prints one XML document of all records
exactly when the device has sent it in one `DATA_HDD_DIR` packet. -/
theorem doHddDir_xmlDocument_iff (env : Env σ) {tool : Tool} (xml : tool.xml = true)
    (path : CString) (req reply : Memory UInt8) (outside : σ) {talk : Conversation σ}
    (converses : Converses env path req reply outside talk) (complete : Complete talk.log) :
    (∃ fuel last, doHddDir env tool fuel path req reply outside = .leave (0, last) ∧
        last.stdout = xmlDocument env tool (received talk.log)) ↔
      (dirPackets talk.log).length = 1 := by
  obtain ⟨fuel, last, left, stdout⟩ := toolRequested_prints env tool reply _ converses complete
  rw [received_eq_dirPackets, ← flatMap_decodeDir_iff xml env, ← stdout]
  constructor
  · rintro ⟨other, final, also, document⟩
    cases toolRequested_leave_unique left also
    exact document
  · intro document
    exact ⟨fuel, last, left, document⟩

/-- The tool with `-x`. -/
def xmlTool : Tool := { xml := true, ctime := fun _ => CString.empty }

/-- A link on which a listing of those packets waits. -/
def waitingPackets (packets : List (Memory UInt8)) : Link Unit where
  pending := []
  queue := packets.map wireImage ++
    [wireImage (putU32 (putU16 (fun _ => 0) 0 8) 4 DATA_HDD_DIR_END)]
  device := ()

/-- Two records that the device sends in one packet. -/
theorem doHddDir_xmlDocument_iff_twoRecords :
    ∃ talk, Converses Link.muteEnv CString.empty (fun _ => 0) (fun _ => 0)
        (waitingPackets [twoPacket]) talk ∧
      ((∃ fuel last,
          doHddDir Link.muteEnv xmlTool fuel CString.empty (fun _ => 0) (fun _ => 0)
            (waitingPackets [twoPacket]) = .leave (0, last) ∧
          last.stdout = xmlDocument Link.muteEnv xmlTool (received talk.log)) ↔
        (dirPackets talk.log).length = 1) := by
  have success : ToolReportsSuccess Link.muteEnv xmlTool CString.empty (fun _ => 0) (fun _ => 0)
      (waitingPackets [twoPacket]) := ⟨2, by decide +kernel⟩
  obtain ⟨talk, converses, complete⟩ := (toolReportsSuccess_iff _ _ _ _ _ _).mp success
  exact ⟨talk, converses, doHddDir_xmlDocument_iff Link.muteEnv rfl CString.empty _ _ _ converses
    complete⟩

/-- Two packets are printed with two declarations. -/
theorem not_xmlDocument_twoPackets :
    (doHddDir Link.muteEnv xmlTool 3 CString.empty (fun _ => 0) (fun _ => 0)
        (waitingPackets [onePacket, twoPacket])).returned = some 0 ∧
      ∀ records, (doHddDir Link.muteEnv xmlTool 3 CString.empty (fun _ => 0) (fun _ => 0)
        (waitingPackets [onePacket, twoPacket])).view.stdout ≠
          xmlDocument Link.muteEnv xmlTool records := by
  refine ⟨by decide +kernel, fun records same => ?_⟩
  have two : (doHddDir Link.muteEnv xmlTool 3 CString.empty (fun _ => 0) (fun _ => 0)
      (waitingPackets [onePacket, twoPacket])).view.stdout.count .xmlDeclaration = 2 := by
    decide +kernel
  rw [same, count_xmlDocument] at two
  cases two

end Puppy.Listing
