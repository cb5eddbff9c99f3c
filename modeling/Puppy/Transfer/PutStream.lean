import Puppy.Transfer.Stream

/-!
# What an upload hands over

The invariant of the upload loop, state by state, and what it gives for every
run: the packets handed to `send_tf_packet` are a prefix of a request, a start,
data packets cut from the file one behind the other, and an end.
-/

namespace Puppy.Transfer

open Transition
open Puppy.Wire Puppy.Usb

universe u

variable {σ : Type u}

/-- A prefix of `CMD_HDD_FILE_SEND`, `DATA_HDD_FILE_START`,
`DATA_HDD_FILE_DATA` any number of times, `DATA_HDD_FILE_END`. -/
def UploadStream (contents : List UInt8) (sends : List Sent) : Prop :=
  ∃ request start datas finish,
    packetCmd request.packet = CMD_HDD_FILE_SEND ∧
      packetCmd start.packet = DATA_HDD_FILE_START ∧
      DataStream contents datas ∧
      packetCmd finish.packet = DATA_HDD_FILE_END ∧
      sends <+: request :: start :: datas ++ [finish]

/-- The packets behind the request: a `typefile` and data packets of which at
least the payload was taken. -/
structure Handed (contents : List UInt8) (start : Sent) (datas : List Sent) : Prop where
  startLength : (packetLength start.packet).toNat = 122
  startCmd : packetCmd start.packet = DATA_HDD_FILE_START
  stream : DataStream contents datas
  taken : ∀ data ∈ datas, (payloadSize data.packet : Int) ≤ data.ret

/-- One more data packet that was taken in full. -/
theorem Handed.concat {contents : List UInt8} {start data : Sent} {datas : List Sent}
    (handed : Handed contents start datas)
    (next : DataPacket contents (streamSize datas) data.packet)
    (taken : (payloadSize data.packet : Int) ≤ data.ret) :
    Handed contents start (datas ++ [data]) where
  startLength := handed.startLength
  startCmd := handed.startCmd
  stream := handed.stream.concat next
  taken sent member := by
    rcases List.mem_append.mp member with before | last
    · exact handed.taken sent before
    · rwa [List.mem_singleton.mp last]

/-- The states of the upload loop.  File position and byte counter agree with
what was handed over until the last data packet or a read error. -/
inductive PutInvariant (contents : List UInt8) (request : Sent) : PutLoop σ → Prop
  | start {loop : PutLoop σ} (state : loop.state = .start) (sends : loop.sends = [request])
      (count : loop.byteCount = 0) (position : loop.position = 0)
      (noError : -1 ∉ loop.reads) : PutInvariant contents request loop
  | data {loop : PutLoop σ} (first : Sent) (datas : List Sent) (state : loop.state = .data)
      (sends : loop.sends = request :: first :: datas) (handed : Handed contents first datas)
      (count : loop.byteCount.toNat = streamSize datas)
      (position : loop.position = streamSize datas)
      (unfinished : streamSize datas < contents.length)
      (noError : -1 ∉ loop.reads) : PutInvariant contents request loop
  | fileEnd {loop : PutLoop σ} (first : Sent) (datas : List Sent) (state : loop.state = .fileEnd)
      (sends : loop.sends = request :: first :: datas) (handed : Handed contents first datas)
      (whole : streamSize datas = contents.length ↔ -1 ∉ loop.reads) :
      PutInvariant contents request loop
  | finished {loop : PutLoop σ} (first : Sent) (datas : List Sent) (finish : Sent)
      (state : loop.state = .finished)
      (sends : loop.sends = request :: first :: datas ++ [finish])
      (handed : Handed contents first datas)
      (finishLength : (packetLength finish.packet).toNat = 8)
      (finishCmd : packetCmd finish.packet = DATA_HDD_FILE_END)
      (whole : streamSize datas = contents.length ↔ -1 ∉ loop.reads) :
      PutInvariant contents request loop

/-- What every exit of the upload loop leaves behind. -/
def PutExit (contents : List UInt8) (request : Sent) (result : Int × PutLoop σ) : Prop :=
  UploadStream contents result.2.sends ∧
    (result.1 = 0 → PutInvariant contents request result.2 ∧ result.2.state = .finished)

/-- What every outcome of a pass leaves behind. -/
def PutOutcome (contents : List UInt8) (request : Sent)
    (pass : Pass (PutLoop σ) (Int × PutLoop σ)) : Prop :=
  pass.Holds (PutInvariant contents request) (PutExit contents request)

/-! ## The stream of an invariant state -/

private def anyStart : Sent where
  packet := putU32 (fun _ => 0) 4 DATA_HDD_FILE_START
  ret := 0

private def anyEnd : Sent where
  packet := putU32 (fun _ => 0) 4 DATA_HDD_FILE_END
  ret := 0

theorem Handed.uploadStream {contents : List UInt8} {request first : Sent} {datas : List Sent}
    (handed : Handed contents first datas)
    (requestCmd : packetCmd request.packet = CMD_HDD_FILE_SEND) :
    UploadStream contents (request :: first :: datas) :=
  ⟨request, first, datas, anyEnd, requestCmd, handed.startCmd, handed.stream,
    getU32_putU32 _ _ _, List.prefix_append _ _⟩

theorem uploadStream_request {contents : List UInt8} {request : Sent}
    (requestCmd : packetCmd request.packet = CMD_HDD_FILE_SEND) :
    UploadStream contents [request] :=
  ⟨request, anyStart, [], anyEnd, requestCmd, getU32_putU32 _ _ _, dataStream_nil contents,
    getU32_putU32 _ _ _, List.prefix_append _ _⟩

theorem PutInvariant.uploadStream {contents : List UInt8} {request : Sent} {loop : PutLoop σ}
    (invariant : PutInvariant contents request loop)
    (requestCmd : packetCmd request.packet = CMD_HDD_FILE_SEND) :
    UploadStream contents loop.sends := by
  cases invariant with
  | start _ sends =>
      rw [sends]
      exact uploadStream_request requestCmd
  | data _ _ _ sends handed =>
      rw [sends]
      exact handed.uploadStream requestCmd
  | fileEnd _ _ _ sends handed =>
      rw [sends]
      exact handed.uploadStream requestCmd
  | finished first datas finish _ sends handed _ finishCmd =>
      rw [sends]
      exact ⟨request, first, datas, finish, requestCmd, handed.startCmd, handed.stream,
        finishCmd, List.prefix_refl _⟩

/-! ## Reading a payload -/

theorem moduloBug_iff (n : Nat) :
    moduloBug n ↔ 4 < n ∧ roundUpEven (16 + n) % 512 = 0 := by
  have size : (PACKET_HEAD_SIZE + 8 + (n : Int)).toNat = 16 + n := by
    rw [PACKET_HEAD_SIZE]
    omega
  rw [moduloBug, size]
  exact and_congr_left' (by omega)

/-- How much of `n` bytes goes into a packet. -/
def trimmed (n : Nat) : Nat := if moduloBug n then n - 4 else n

theorem trimmed_le (n : Nat) : trimmed n ≤ n := by
  unfold trimmed
  split <;> omega

theorem trimmed_pos {n : Nat} (positive : 0 < n) : 0 < trimmed n := by
  unfold trimmed
  split
  · rename_i bug
    rw [moduloBug_iff] at bug
    omega
  · exact positive

/-- Four bytes less take a packet off the multiples of 512. -/
theorem roundUpEven_trimmed {n : Nat} (positive : 0 < n) :
    roundUpEven (16 + trimmed n) % 512 ≠ 0 := by
  unfold trimmed
  split <;> rename_i bug <;> rw [moduloBug_iff] at bug <;> unfold roundUpEven at bug ⊢ <;> omega

/-- The loop variables once `n` bytes were read and the packet around them is
built. -/
def PutLoop.filled (src : SourceFile) (n : Nat) (outside : σ) (loop : PutLoop σ) : PutLoop σ :=
  let w := trimmed n
  let byteCount := loop.byteCount + UInt64.ofInt w
  { loop with
    packet := dataPacket
      (Memory.store loop.packet (dataOffset + 8) ((src.contents.drop loop.position).take n))
      w loop.byteCount
    position := loop.position + w
    byteCount
    state := if byteCount ≥ UInt64.ofNat src.contents.length then .fileEnd else loop.state
    outside
    reads := loop.reads ++ [(n : Int)] }

/-- `case DATA` after a failed `read`. -/
theorem putData_of_error {env : Env σ} {src : SourceFile} {loop : PutLoop σ} {outside : σ}
    (failed : env.read (min 65518 (src.contents.length - loop.position)) loop.outside =
      (none, outside)) :
    putData env src loop =
      .again
        { loop with
          packet := dataPacket loop.packet (-1) loop.byteCount
          byteCount := loop.byteCount + UInt64.ofInt (-1)
          state := .fileEnd
          outside
          reads := loop.reads ++ [-1] } := by
  have noBug : ¬ moduloBug (-1) := by decide
  have read : readPayload env src 65518 loop =
      (-1, { loop with outside, reads := loop.reads ++ [-1] }) := by
    simp only [readPayload, failed]
  unfold putData
  simp only [MAXIMUM_PACKET_SIZE, PACKET_HEAD_SIZE, Nat.reduceSub, read, if_neg noBug]
  rw [if_pos (Or.inl (by decide)), if_neg (by decide)]

/-- `case DATA` after a `read` of `n` bytes. -/
theorem putData_of_read {env : Env σ} {src : SourceFile} {loop : PutLoop σ} {outside : σ}
    {n : Fin (min 65518 (src.contents.length - loop.position) + 1)}
    (arrived : env.read (min 65518 (src.contents.length - loop.position)) loop.outside =
      (some n, outside)) :
    putData env src loop =
      let filled := loop.filled src n outside
      let sent := filled.send env filled.packet
      if trimmed n = 0 then .again filled
      else if sent.2 < trimmed n then .leave (negEPROTO, sent.1.print [.incompleteSend])
      else .again sent.1 := by
  have read : readPayload env src 65518 loop =
      ((n.val : Int),
        { loop with
          packet := Memory.store loop.packet (dataOffset + 8)
            ((src.contents.drop loop.position).take n)
          position := loop.position + n
          outside
          reads := loop.reads ++ [(n.val : Int)] }) := by
    simp only [readPayload, arrived]
  have w : (if moduloBug n then (n : Int) - 4 else n) = (trimmed n : Int) := by
    by_cases bug : moduloBug n
    · have large := ((moduloBug_iff n).mp bug).1
      rw [trimmed, if_pos bug, if_pos bug]
      omega
    · rw [trimmed, if_neg bug, if_neg bug]
  have position : (if moduloBug n then loop.position + n.val - 4 else loop.position + n.val) =
      loop.position + trimmed n := by
    by_cases bug : moduloBug n
    · have large := ((moduloBug_iff n).mp bug).1
      rw [trimmed, if_pos bug, if_pos bug]
      omega
    · rw [trimmed, if_neg bug, if_neg bug]
  have nonneg : ¬ (trimmed n : Int) < 0 := by omega
  unfold putData
  simp only [MAXIMUM_PACKET_SIZE, PACKET_HEAD_SIZE, Nat.reduceSub, read, w, position, nonneg,
    false_or]
  by_cases empty : trimmed n = 0
  · rw [if_neg (by omega), if_pos empty]
    rfl
  · rw [if_pos (by omega), if_neg empty]
    rfl

/-! ## Handing over a packet -/

theorem PutLoop.send_sends (env : Env σ) (packet : Memory UInt8) (loop : PutLoop σ) :
    (loop.send env packet).1.sends = loop.sends ++ [{ packet, ret := (loop.send env packet).2 }] :=
  rfl

@[simp]
theorem PutLoop.send_byteCount (env : Env σ) (packet : Memory UInt8) (loop : PutLoop σ) :
    (loop.send env packet).1.byteCount = loop.byteCount :=
  rfl

theorem PutLoop.send_nonneg (env : Env σ) (packet : Memory UInt8) (loop : PutLoop σ) :
    0 ≤ (loop.send env packet).2 :=
  sendTfPacket_ret_nonneg env packet loop.outside

/-- `send_tf_packet` never reports an error, so `case START` always goes on. -/
theorem putStart_eq (env : Env σ) (src : SourceFile) (dstPath : CString) (loop : PutLoop σ) :
    putStart env src dstPath loop =
      .again { (loop.send env (startPacket env src dstPath loop.packet)).1 with
        state := .data } := by
  have sent := loop.send_nonneg env (startPacket env src dstPath loop.packet)
  simp only [putStart]
  rw [if_neg (Int.not_lt.mpr sent)]

/-- `case END` always goes on, too. -/
theorem putEnd_eq (env : Env σ) (loop : PutLoop σ) :
    putEnd env loop =
      .again { (loop.send env (endPacket loop.packet)).1 with state := .finished } := by
  have sent := loop.send_nonneg env (endPacket loop.packet)
  simp only [putEnd]
  rw [if_neg (Int.not_lt.mpr sent)]

/-! ## One pass -/

/-- The invariant speaks of the state, the counter, the position and the logs. -/
theorem PutInvariant.congr {contents : List UInt8} {request : Sent} {loop next : PutLoop σ}
    (invariant : PutInvariant contents request loop) (state : next.state = loop.state)
    (count : next.byteCount = loop.byteCount) (position : next.position = loop.position)
    (sends : next.sends = loop.sends) (reads : next.reads = loop.reads) :
    PutInvariant contents request next := by
  cases invariant with
  | start s p c o e =>
      exact .start (state.trans s) (sends.trans p) (count.trans c) (position.trans o)
        (by rwa [reads])
  | data first datas s p h c o u e =>
      exact .data first datas (state.trans s) (sends.trans p) h (by rwa [count])
        (position.trans o) u (by rwa [reads])
  | fileEnd first datas s p h w =>
      exact .fileEnd first datas (state.trans s) (sends.trans p) h (by rwa [reads])
  | finished first datas finish s p h l c w =>
      exact .finished first datas finish (state.trans s) (sends.trans p) h l c (by rwa [reads])

/-- `case START` enters the data phase. -/
private theorem putStart_outcome (env : Env σ) (src : SourceFile) (dstPath : CString)
    {request : Sent} {loop : PutLoop σ} (nonempty : src.contents ≠ [])
    (sends : loop.sends = [request]) (count : loop.byteCount = 0)
    (position : loop.position = 0) (noError : -1 ∉ loop.reads) :
    PutOutcome src.contents request (putStart env src dstPath loop) := by
  have header := startPacket_header env src dstPath loop.packet
  let first : Sent :=
    { packet := startPacket env src dstPath loop.packet
      ret := (loop.send env (startPacket env src dstPath loop.packet)).2 }
  rw [putStart_eq]
  refine .data first [] rfl ?_ ⟨header.1, header.2, dataStream_nil _, by simp⟩ ?_
    position (List.length_pos_iff.mpr nonempty) noError
  · rw [PutLoop.send_sends, sends]
    rfl
  · rw [PutLoop.send_byteCount, count]
    rfl

/-- The counter after a read, and the state it decides. -/
theorem filled_count {src : SourceFile} {loop : PutLoop σ} {n size : Nat} (outside : σ)
    (count : loop.byteCount.toNat = size) (inside : size + trimmed n ≤ src.contents.length)
    (state : loop.state = .data) :
    (loop.filled src n outside).byteCount.toNat = size + trimmed n ∧
      (loop.filled src n outside).state =
        if size + trimmed n = src.contents.length then .fileEnd else .data := by
  have sizeBound := src.size_lt
  have total : (loop.byteCount + UInt64.ofInt (trimmed n)).toNat = size + trimmed n := by
    rw [UInt64.toNat_add, count, toNat_ofInt_u64 (by omega)]
    omega
  have file : (UInt64.ofNat src.contents.length).toNat = src.contents.length := by
    rw [UInt64.toNat_ofNat']
    omega
  constructor
  · exact total
  · simp only [PutLoop.filled, state, ge_iff_le, UInt64.le_iff_toNat_le, file, total]
    by_cases last : size + trimmed n = src.contents.length
    · rw [if_pos (Nat.le_of_eq last.symm), if_pos last]
    · rw [if_neg (by omega), if_neg last]

/-- The packet built around `n` bytes read at the end of the stream. -/
theorem filled_packet {src : SourceFile} {loop : PutLoop σ} {n size : Nat} (outside : σ)
    (count : loop.byteCount.toNat = size) (position : loop.position = size)
    (atMost : n ≤ 65518) (inside : size + n ≤ src.contents.length) (some : 0 < trimmed n) :
    payloadSize (loop.filled src n outside).packet = trimmed n ∧
      DataPacket src.contents size (loop.filled src n outside).packet := by
  have le := trimmed_le n
  have positive : 0 < n := Nat.lt_of_lt_of_le some le
  refine dataPacket_spec count some (by omega) (roundUpEven_trimmed positive) (by omega) ?_
  rw [position, Memory.load_store_take _ _ _ (by simp; omega), List.take_take,
    Nat.min_eq_left le]

/-- The data phase once `n` bytes were read. -/
private theorem filled_outcome (env : Env σ) {src : SourceFile} {request first : Sent}
    {datas : List Sent} {loop : PutLoop σ} {n : Nat} {outside : σ}
    (requestCmd : packetCmd request.packet = CMD_HDD_FILE_SEND) (state : loop.state = .data)
    (sends : loop.sends = request :: first :: datas)
    (handed : Handed src.contents first datas)
    (count : loop.byteCount.toNat = streamSize datas)
    (position : loop.position = streamSize datas)
    (unfinished : streamSize datas < src.contents.length) (noError : -1 ∉ loop.reads)
    (atMost : n ≤ 65518) (left : n ≤ src.contents.length - loop.position) :
    PutOutcome src.contents request
      (let filled := loop.filled src n outside
       let sent := filled.send env filled.packet
       if trimmed n = 0 then .again filled
       else if sent.2 < trimmed n then .leave (negEPROTO, sent.1.print [.incompleteSend])
       else .again sent.1) := by
  have le := trimmed_le n
  have inside : streamSize datas + n ≤ src.contents.length := by omega
  have quiet : -1 ∉ loop.reads ++ [(n : Int)] := by
    simp only [List.mem_append, List.mem_singleton, not_or]
    exact ⟨noError, by omega⟩
  obtain ⟨nextCount, nextState⟩ := filled_count outside count
    (Nat.le_trans (Nat.add_le_add_left le _) inside) state
  simp only
  by_cases empty : trimmed n = 0
  · rw [if_pos empty]
    rw [empty, Nat.add_zero] at nextCount nextState
    rw [if_neg (Nat.ne_of_lt unfinished)] at nextState
    refine .data first datas nextState sends handed nextCount ?_ unfinished quiet
    rw [PutLoop.filled, empty, position]
    rfl
  · rw [if_neg empty]
    obtain ⟨size, packet⟩ := filled_packet outside count position atMost inside
      (Nat.pos_of_ne_zero empty)
    have filledSends : (loop.filled src n outside).sends = request :: first :: datas := sends
    have filledPosition : (loop.filled src n outside).position = streamSize datas + trimmed n := by
      rw [PutLoop.filled, position]
    have filledReads : -1 ∉ (loop.filled src n outside).reads := quiet
    generalize loop.filled src n outside = filled at *
    let data : Sent :=
      { packet := filled.packet, ret := (filled.send env filled.packet).2 }
    have extended : (filled.send env filled.packet).1.sends =
        request :: first :: (datas ++ [data]) := by
      rw [PutLoop.send_sends, filledSends]
      rfl
    have stream : DataStream src.contents (datas ++ [data]) := handed.stream.concat packet
    have total : streamSize (datas ++ [data]) = streamSize datas + trimmed n := by
      rw [streamSize_concat, size]
    by_cases short : (filled.send env filled.packet).2 < trimmed n
    · rw [if_pos short]
      constructor
      · refine ⟨request, first, datas ++ [data], anyEnd, requestCmd, handed.startCmd, stream,
          getU32_putU32 _ _ _, ?_⟩
        rw [PutLoop.print, extended]
        exact List.prefix_append _ _
      · intro success
        exact absurd success negEPROTO_ne_zero
    · rw [if_neg short]
      have taken : Handed src.contents first (datas ++ [data]) := by
        apply handed.concat packet
        rw [size]
        exact Int.not_lt.mp short
      by_cases whole : streamSize datas + trimmed n = src.contents.length
      · rw [if_pos whole] at nextState
        refine .fileEnd first (datas ++ [data]) nextState extended taken ?_
        rw [total]
        exact iff_of_true whole filledReads
      · rw [if_neg whole] at nextState
        have more : streamSize datas + trimmed n < src.contents.length := by omega
        exact .data first (datas ++ [data]) nextState extended taken (nextCount.trans total.symm)
          (filledPosition.trans total.symm) (total ▸ more) filledReads

/-- `case DATA` hands over the next part of the file, goes over to `END`, or
stays where it is. -/
private theorem putData_outcome (env : Env σ) (src : SourceFile) {request first : Sent}
    {datas : List Sent} {loop : PutLoop σ}
    (requestCmd : packetCmd request.packet = CMD_HDD_FILE_SEND) (state : loop.state = .data)
    (sends : loop.sends = request :: first :: datas)
    (handed : Handed src.contents first datas)
    (count : loop.byteCount.toNat = streamSize datas)
    (position : loop.position = streamSize datas)
    (unfinished : streamSize datas < src.contents.length) (noError : -1 ∉ loop.reads) :
    PutOutcome src.contents request (putData env src loop) := by
  cases result : env.read (min 65518 (src.contents.length - loop.position)) loop.outside with
  | mk answer outside =>
      cases answer with
      | none =>
          rw [putData_of_error result]
          refine .fileEnd first datas rfl sends handed ?_
          simp only [List.mem_append, List.mem_singleton, or_true, not_true]
          exact iff_of_false (Nat.ne_of_lt unfinished) id
      | some n =>
          rw [putData_of_read result]
          exact filled_outcome env requestCmd state sends handed count position unfinished
            noError (by omega) (by omega)

/-- `case END` hands over the end marker. -/
private theorem putEnd_outcome (env : Env σ) {contents : List UInt8} {request first : Sent}
    {datas : List Sent} {loop : PutLoop σ} (sends : loop.sends = request :: first :: datas)
    (handed : Handed contents first datas)
    (whole : streamSize datas = contents.length ↔ -1 ∉ loop.reads) :
    PutOutcome contents request (putEnd env loop) := by
  have header := endPacket_header loop.packet
  let finish : Sent :=
    { packet := endPacket loop.packet, ret := (loop.send env (endPacket loop.packet)).2 }
  rw [putEnd_eq]
  refine .finished first datas finish rfl ?_ handed header.1 header.2 whole
  rw [PutLoop.send_sends, sends]

/-- One pass of the upload loop. -/
theorem putBody_outcome (env : Env σ) (src : SourceFile) (dstPath : CString) {request : Sent}
    {loop : PutLoop σ} (nonempty : src.contents ≠ [])
    (requestCmd : packetCmd request.packet = CMD_HDD_FILE_SEND)
    (invariant : PutInvariant src.contents request loop) :
    PutOutcome src.contents request (putBody env src dstPath loop) := by
  let got := getTfPacket env loop.reply loop.outside
  let received := loop.accept got
  have kept : PutInvariant src.contents request received := invariant.congr rfl rfl rfl rfl rfl
  have failed : ∀ messages,
      PutExit src.contents request (negEPROTO, received.print messages) := fun messages =>
    ⟨kept.uploadStream requestCmd, fun success => absurd success negEPROTO_ne_zero⟩
  show PutOutcome src.contents request
    (if 0 < got.ret then
      if packetCmd received.reply = SUCCESS then putSuccess env src dstPath received
      else if packetCmd received.reply = FAIL then
        .leave (negEPROTO, received.print [.deviceReports (decodeError received.reply)])
      else .again (received.print [.unhandledPacket none])
    else .leave (negEPROTO, received))
  split
  · split
    · cases kept with
      | start state sends count position noError =>
          rw [putSuccess, state]
          exact putStart_outcome env src dstPath nonempty sends count position noError
      | data first datas state sends handed count position unfinished noError =>
          rw [putSuccess, state]
          exact putData_outcome env src requestCmd state sends handed count position unfinished
            noError
      | fileEnd first datas state sends handed whole =>
          rw [putSuccess, state]
          exact putEnd_outcome env sends handed whole
      | finished first datas finish state sends handed finishLength finishCmd whole =>
          rw [putSuccess, state]
          have invariant : PutInvariant src.contents request received :=
            .finished first datas finish state sends handed finishLength finishCmd whole
          exact ⟨invariant.uploadStream requestCmd, fun _ => ⟨invariant, state⟩⟩
    · split
      · exact failed _
      · exact kept.congr rfl rfl rfl rfl rfl
  · exact ⟨kept.uploadStream requestCmd, fun success => absurd success negEPROTO_ne_zero⟩

/-! ## Whole runs -/

/-- What an upload that entered its loop leaves behind, finished or not. -/
theorem run_putBody_outcome (env : Env σ) (src : SourceFile) (dstPath : CString) {request : Sent}
    {loop : PutLoop σ} (nonempty : src.contents ≠ [])
    (requestCmd : packetCmd request.packet = CMD_HDD_FILE_SEND)
    (initial : PutInvariant src.contents request loop) (fuel : Nat) :
    PutOutcome src.contents request (run (putBody env src dstPath) fuel loop) :=
  run_holds (fun _ kept => putBody_outcome env src dstPath nonempty requestCmd kept) fuel initial

/-- Behind a request that was refused. -/
private theorem requested_of_refused (buffers : Buffers) (outside : σ) {request : Requested σ}
    (refused : request.ret < 0) (sends : request.sends = []) :
    ∃ last, (putInitial buffers outside).requested request = .leave (negEPROTO, last) ∧
      last.sends = [] := by
  refine ⟨_, by rw [PutLoop.requested]; exact if_pos refused, ?_⟩
  simp only [putInitial, sends, List.nil_append]

/-- Behind a request that was sent. -/
private theorem requested_of_sent (contents : List UInt8) (buffers : Buffers) (outside : σ)
    {request : Requested σ} {packet : Sent} (sent : 0 ≤ request.ret)
    (sends : request.sends = [packet]) :
    ∃ loop, (putInitial buffers outside).requested request = .again loop ∧
      PutInvariant contents packet loop := by
  refine ⟨_, by rw [PutLoop.requested]; exact if_neg (Int.not_lt.mpr sent), ?_⟩
  exact .start rfl sends rfl rfl List.not_mem_nil

/-- The part before the loop fails without a data packet, or enters the loop
behind one request for a file that is not empty. -/
theorem putPrologue_cases (env : Env σ) (src : SourceFile) (dstPath : CString)
    (buffers : Buffers) (outside : σ) :
    (∃ result, putPrologue env src dstPath buffers outside = .leave result ∧
      UploadStream src.contents result.2.sends ∧ result.1 ≠ 0) ∨
    ∃ request loop, putPrologue env src dstPath buffers outside = .again loop ∧
      src.contents ≠ [] ∧ packetCmd request.packet = CMD_HDD_FILE_SEND ∧
      PutInvariant src.contents request loop := by
  have empty : UploadStream src.contents [] :=
    ⟨{ packet := hddFileSendPacket buffers.req PUT dstPath, ret := 0 }, anyStart, [], anyEnd,
      (fields_hddFileSendPacket _ _ _).2, getU32_putU32 _ _ _, dataStream_nil _,
      getU32_putU32 _ _ _, List.nil_prefix⟩
  unfold putPrologue
  split
  · rename_i errno _ _
    exact Or.inl ⟨_, rfl, empty, Int.ne_of_gt errno.property⟩
  · split
    · rename_i errno _ _
      exact Or.inl ⟨_, rfl, empty, Int.ne_of_gt errno.property⟩
    · rename_i afterFstat _
      simp only
      split
      · exact Or.inl ⟨_, rfl, empty, show negENODATA ≠ 0 by decide⟩
      · rename_i someBytes
        have nonempty : src.contents ≠ [] := fun none => someBytes (by rw [none]; rfl)
        have requested := sendCmdHddFileSend_cases env buffers.req PUT dstPath afterFstat
        generalize sendCmdHddFileSend env buffers.req PUT dstPath afterFstat = asked at *
        rcases requested with ⟨refused, sends⟩ | ⟨sent, sends⟩
        · obtain ⟨last, left, none⟩ := requested_of_refused buffers afterFstat refused sends
          exact Or.inl ⟨_, left, by rw [none]; exact empty, negEPROTO_ne_zero⟩
        · obtain ⟨loop, entered, initial⟩ :=
            requested_of_sent src.contents buffers afterFstat sent sends
          let request : Sent :=
            { packet := hddFileSendPacket buffers.req PUT dstPath, ret := asked.ret }
          exact Or.inr ⟨request, loop, entered, nonempty, (fields_hddFileSendPacket _ _ _).2,
            initial⟩

/-- Every run of an upload, finished or not, hands over a prefix of a request,
a start, data packets cut from the file one behind the other, and an end. -/
theorem puppyHddFilePut_uploadStream (env : Env σ) (fuel : Nat) (src : SourceFile)
    (dstPath : CString) (buffers : Buffers) (outside : σ) :
    UploadStream src.contents
      (puppyHddFilePut env fuel src dstPath buffers outside).view.sends := by
  rcases putPrologue_cases env src dstPath buffers outside with
    ⟨result, left, stream, _⟩ | ⟨request, loop, entered, nonempty, requestCmd, initial⟩
  · rw [puppyHddFilePut, left]
    exact stream
  · rw [puppyHddFilePut, entered]
    have outcome := run_putBody_outcome env src dstPath nonempty requestCmd initial fuel
    simp only
    cases result : run (putBody env src dstPath) fuel loop with
    | again last =>
        rw [result] at outcome
        exact outcome.uploadStream requestCmd
    | leave last =>
        rw [result] at outcome
        exact outcome.1

end Puppy.Transfer
