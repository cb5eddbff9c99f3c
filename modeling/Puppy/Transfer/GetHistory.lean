import Puppy.Transfer.Get

/-!
# The history of a download

What one turn of the download loop does is determined by the state it starts in
and the packet and write result it sees: the state it ends in, the reply it
gives and the bytes that land in the destination are functions of these.  The
history of a run is therefore a run of a small machine over exchanges.
-/

namespace Puppy.Transfer

open Transition
open Puppy.Wire Puppy.Usb Puppy.Time

universe u

variable {σ : Type u}

namespace Exchange

/-- The exchange brought a packet with this command. -/
def carries (cmd : UInt32) (exchange : Exchange) : Prop :=
  0 < exchange.ret ∧ packetCmd exchange.packet = cmd

instance (cmd : UInt32) (exchange : Exchange) : Decidable (exchange.carries cmd) :=
  inferInstanceAs (Decidable (_ ∧ _))

/-- The commands of an accepted packet exclude each other. -/
theorem not_carries {exchange : Exchange} {cmd other : UInt32}
    (carries : exchange.carries cmd) (different : cmd ≠ other) : ¬ exchange.carries other :=
  fun also => different (carries.2.symm.trans also.2)

/-- The payload was written in full. -/
def writtenInFull (exchange : Exchange) : Prop :=
  exchange.write = some ((dataLen exchange.packet).toNat : Int)

instance (exchange : Exchange) : Decidable exchange.writtenInFull :=
  inferInstanceAs (Decidable (_ = _))

/-- The state behind an exchange. -/
def advance (state : GetState) (exchange : Exchange) : GetState :=
  if exchange.carries DATA_HDD_FILE_START then
    if state = .start then .data else .abort
  else if exchange.carries DATA_HDD_FILE_DATA then
    if state = .data ∧ exchange.writtenInFull then .data else .abort
  else if exchange.carries FAIL then .abort
  else state

/-- The reply the state machine gives in an exchange. -/
def expected (state : GetState) (exchange : Exchange) : List Reply :=
  if exchange.carries DATA_HDD_FILE_START then
    if state = .start then [.success] else [.cancel]
  else if exchange.carries DATA_HDD_FILE_DATA then
    if state = .data ∧ exchange.writtenInFull then [] else [.cancel]
  else if exchange.carries DATA_HDD_FILE_END then [.success]
  else if exchange.carries FAIL then [.cancel]
  else []

/-- The bytes an exchange adds to the destination. -/
def landed (exchange : Exchange) : List UInt8 :=
  match exchange.write with
  | some w =>
      (Memory.load exchange.packet (dataOffset + 8) (dataLen exchange.packet).toNat).take w.toNat
  | none => []

/-- What holds of every exchange a download makes in a state. -/
structure Lawful (state : GetState) (exchange : Exchange) : Prop where
  early : exchange.early = [] ∨ exchange.early = [.success]
  acknowledged : 0 < exchange.ret →
    (exchange.early = [.success] ↔ packetCmd exchange.packet = DATA_HDD_FILE_DATA)
  answers : exchange.answers = exchange.expected state
  written : exchange.write ≠ none ↔ state = .data ∧ exchange.carries DATA_HDD_FILE_DATA
  atMost : ∀ w, exchange.write = some w → w ≤ (dataLen exchange.packet).toNat

end Exchange

/-- A turn has made one exchange. -/
structure Continues (env : Env σ) (loop next : GetLoop σ) (exchange : Exchange) : Prop where
  ret : exchange.ret = (getTfPacket env loop.reply loop.outside).ret
  packet : exchange.packet = (getTfPacket env loop.reply loop.outside).packet
  log : next.log = loop.log ++ [exchange]
  state : next.state = exchange.advance loop.state
  dst : next.dst = loop.dst ++ exchange.landed
  lawful : exchange.Lawful loop.state

/-! ## One turn -/

/-- A turn that has received a packet and not acted on it. -/
private structure Fresh (env : Env σ) (loop : GetLoop σ) (turn : Turn σ) : Prop where
  ret : turn.exchange.ret = (getTfPacket env loop.reply loop.outside).ret
  packet : turn.exchange.packet = (getTfPacket env loop.reply loop.outside).packet
  state : turn.loop.state = loop.state
  dst : turn.loop.dst = loop.dst
  log : turn.loop.log = loop.log
  reply : turn.loop.reply = turn.exchange.packet
  early : turn.exchange.early = [] ∨ turn.exchange.early = [.success]
  acknowledged : 0 < turn.exchange.ret →
    (turn.exchange.early = [.success] ↔ packetCmd turn.exchange.packet = DATA_HDD_FILE_DATA)
  answers : turn.exchange.answers = []
  write : turn.exchange.write = none

/-- What the rest of a turn has changed. -/
private structure Acts (turn next : Turn σ) (state : GetState) (answers : List Reply)
    (write : Option Int) (bytes : List UInt8) : Prop where
  state : next.loop.state = state
  dst : next.loop.dst = turn.loop.dst ++ bytes
  log : next.loop.log = turn.loop.log
  exchange : next.exchange = { turn.exchange with answers, write }

private theorem Fresh.continues {env : Env σ} {loop : GetLoop σ} {turn next : Turn σ}
    {state : GetState} {answers : List Reply} {write : Option Int} {bytes : List UInt8}
    (fresh : Fresh env loop turn) (acts : Acts turn next state answers write bytes)
    (advanced : state = next.exchange.advance loop.state)
    (answered : answers = next.exchange.expected loop.state)
    (landed : bytes = next.exchange.landed)
    (written : write ≠ none ↔ loop.state = .data ∧ turn.exchange.carries DATA_HDD_FILE_DATA)
    (atMost : ∀ w, write = some w → w ≤ (dataLen turn.exchange.packet).toNat) :
    Continues env loop next.close next.exchange where
  ret := by rw [acts.exchange]; exact fresh.ret
  packet := by rw [acts.exchange]; exact fresh.packet
  log := by rw [Turn.close, acts.log, fresh.log]
  state := by rw [Turn.close, acts.state, advanced]
  dst := by rw [Turn.close, acts.dst, fresh.dst, landed]
  lawful :=
    { early := by rw [acts.exchange]; exact fresh.early
      acknowledged := by rw [acts.exchange]; exact fresh.acknowledged
      answers := by rw [← answered, acts.exchange]
      written := by rw [acts.exchange]; exact written
      atMost := by rw [acts.exchange]; exact atMost }

/-- A turn that only gives a reply. -/
private theorem Fresh.replies {env : Env σ} {loop : GetLoop σ} {turn next : Turn σ}
    {state : GetState} {answers : List Reply} (fresh : Fresh env loop turn)
    (acts : Acts turn next state answers none [])
    (advanced : turn.exchange.advance loop.state = state)
    (answered : turn.exchange.expected loop.state = answers)
    (idle : ¬ (loop.state = .data ∧ turn.exchange.carries DATA_HDD_FILE_DATA)) :
    Continues env loop next.close next.exchange := by
  have exchange : next.exchange = { turn.exchange with answers } := by
    rw [acts.exchange, ← fresh.write]
  refine fresh.continues acts ?_ ?_ ?_ (iff_of_false (fun some => some rfl) idle) ?_
  · rw [exchange]
    exact advanced.symm
  · rw [exchange]
    exact answered.symm
  · rw [exchange, Exchange.landed]
    simp only [fresh.write]
  · intro w some
    cases some

/-- The first reply of the state machine in a turn. -/
private theorem Fresh.answered {env : Env σ} {loop : GetLoop σ} {turn : Turn σ}
    (fresh : Fresh env loop turn) (reply : Reply) :
    ({ turn.exchange with answers := turn.exchange.answers ++ [reply] } : Exchange) =
      { turn.exchange with answers := [reply], write := none } := by
  simp only [fresh.answers, fresh.write, List.nil_append]

private theorem Fresh.abort {env : Env σ} {loop : GetLoop σ} {turn : Turn σ}
    (fresh : Fresh env loop turn) (messages : List Diagnostic) :
    Acts turn (turn.abort env messages) .abort [.cancel] none [] where
  state := rfl
  dst := (List.append_nil _).symm
  log := rfl
  exchange := fresh.answered .cancel

private theorem getStart_continues {env : Env σ} {loop : GetLoop σ} {turn : Turn σ}
    (fresh : Fresh env loop turn) (carries : turn.exchange.carries DATA_HDD_FILE_START) :
    Continues env loop (getStart env turn).close (getStart env turn).exchange := by
  have idle : ¬ (loop.state = .data ∧ turn.exchange.carries DATA_HDD_FILE_DATA) :=
    fun data => Exchange.not_carries carries (by decide) data.2
  by_cases start : loop.state = .start
  · have acts : Acts turn (getStart env turn) .data [.success] none [] := by
      rw [getStart, fresh.state, start]
      exact ⟨rfl, (List.append_nil _).symm, rfl, fresh.answered .success⟩
    exact fresh.replies acts
      (by rw [Exchange.advance, if_pos carries, if_pos start])
      (by rw [Exchange.expected, if_pos carries, if_pos start]) idle
  · have acts : Acts turn (getStart env turn) .abort [.cancel] none [] := by
      rw [getStart, fresh.state]
      cases state : loop.state with
      | start => exact absurd state start
      | data => exact fresh.abort _
      | abort => exact fresh.abort _
    exact fresh.replies acts
      (by rw [Exchange.advance, if_pos carries, if_neg start])
      (by rw [Exchange.expected, if_pos carries, if_neg start]) idle

/-- What `write` has changed. -/
private theorem Fresh.writes {env : Env σ} {loop : GetLoop σ} {turn : Turn σ}
    (fresh : Fresh env loop turn) :
    let bytes := Memory.load turn.exchange.packet (dataOffset + 8)
      (dataLen turn.exchange.packet).toNat
    let w := (writePayload env turn).1
    Acts turn (writePayload env turn).2 loop.state [] (some w) (bytes.take w.toNat) ∧
      (writePayload env turn).2.loop.reply = turn.loop.reply ∧
      w ≤ (dataLen turn.exchange.packet).toNat := by
  intro bytes w
  have load : Memory.load turn.loop.reply (dataOffset + 8) (dataLen turn.loop.reply).toNat =
      bytes := by rw [fresh.reply]
  have same : ∀ w, ({ turn.exchange with write := some w } : Exchange) =
      { turn.exchange with answers := [], write := some w } := by
    intro w
    simp only [fresh.answers]
  simp only [w, writePayload, load]
  split
  · exact ⟨⟨fresh.state, (List.append_nil _).symm, rfl, same _⟩, rfl, by simp only; omega⟩
  · rename_i n _ _
    refine ⟨⟨fresh.state, rfl, rfl, same _⟩, rfl, ?_⟩
    have bound := n.isLt
    have length : (Memory.load turn.loop.reply (dataOffset + 8)
        (dataLen turn.loop.reply).toNat).length = (dataLen turn.exchange.packet).toNat := by
      rw [Memory.load_length, fresh.reply]
    simp only
    omega

private theorem Fresh.print {env : Env σ} {loop : GetLoop σ} {turn : Turn σ}
    (fresh : Fresh env loop turn) (messages : List Diagnostic) :
    Fresh env loop (turn.print messages) :=
  ⟨fresh.ret, fresh.packet, fresh.state, fresh.dst, fresh.log, fresh.reply, fresh.early,
    fresh.acknowledged, fresh.answers, fresh.write⟩

/-- The end of `case DATA_HDD_FILE_DATA` in the data phase. -/
private theorem written_continues {env : Env σ} {loop : GetLoop σ} {turn : Turn σ}
    (fresh : Fresh env loop turn) (carries : turn.exchange.carries DATA_HDD_FILE_DATA)
    (data : loop.state = .data) :
    let next :=
      if (writePayload env turn).1 < (dataLen (writePayload env turn).2.loop.reply).toNat then
        (writePayload env turn).2.abort env [.canNotWriteData]
      else (writePayload env turn).2
    Continues env loop next.close next.exchange := by
  obtain ⟨acts, reply, bound⟩ := fresh.writes
  generalize writePayload env turn = written at acts reply bound ⊢
  obtain ⟨w, next⟩ := written
  simp only at acts reply bound ⊢
  rw [reply, fresh.reply]
  have written : (some w : Option Int) ≠ none ↔
      loop.state = .data ∧ turn.exchange.carries DATA_HDD_FILE_DATA :=
    iff_of_true (by simp) ⟨data, carries⟩
  have atMost : ∀ v, some w = some v → v ≤ (dataLen turn.exchange.packet).toNat := by
    intro v same
    rw [← Option.some.inj same]
    exact bound
  have phase : ∀ answers, ¬ ({ turn.exchange with answers, write := some w } : Exchange).carries
      DATA_HDD_FILE_START := fun _ => Exchange.not_carries carries (by decide)
  have payload : ∀ answers, ({ turn.exchange with answers, write := some w } : Exchange).carries
      DATA_HDD_FILE_DATA := fun _ => carries
  by_cases short : w < (dataLen turn.exchange.packet).toNat
  · rw [if_pos short]
    have torn : ∀ answers,
        ¬ (loop.state = .data ∧
          ({ turn.exchange with answers, write := some w } : Exchange).writtenInFull) := by
      rintro answers ⟨_, full⟩
      exact absurd (Option.some.inj full) (Int.ne_of_lt short)
    have aborted : Acts turn (next.abort env [.canNotWriteData]) .abort [.cancel] (some w)
        ((Memory.load turn.exchange.packet (dataOffset + 8)
          (dataLen turn.exchange.packet).toNat).take w.toNat) := by
      refine ⟨rfl, acts.dst, acts.log, ?_⟩
      show { next.exchange with answers := next.exchange.answers ++ [Reply.cancel] } = _
      rw [acts.exchange]
      rfl
    refine fresh.continues aborted ?_ ?_ ?_ written atMost
    · rw [aborted.exchange, Exchange.advance, if_neg (phase _), if_pos (payload _),
        if_neg (torn _)]
    · rw [aborted.exchange, Exchange.expected, if_neg (phase _), if_pos (payload _),
        if_neg (torn _)]
    · rw [aborted.exchange]
      rfl
  · rw [if_neg short]
    have whole : ∀ answers,
        loop.state = .data ∧
          ({ turn.exchange with answers, write := some w } : Exchange).writtenInFull :=
      fun _ => ⟨data, congrArg some (Int.le_antisymm bound (Int.not_lt.mp short))⟩
    refine fresh.continues acts ?_ ?_ ?_ written atMost
    · rw [acts.exchange, Exchange.advance, if_neg (phase _), if_pos (payload _),
        if_pos (whole _), data]
    · rw [acts.exchange, Exchange.expected, if_neg (phase _), if_pos (payload _),
        if_pos (whole _)]
    · rw [acts.exchange]
      rfl

private theorem getData_continues {env : Env σ} (r : Int) {loop : GetLoop σ} {turn : Turn σ}
    (fresh : Fresh env loop turn) (carries : turn.exchange.carries DATA_HDD_FILE_DATA) :
    Continues env loop (getData env r turn).close (getData env r turn).exchange := by
  have notStart : ¬ turn.exchange.carries DATA_HDD_FILE_START :=
    Exchange.not_carries carries (by decide)
  by_cases data : loop.state = .data
  · rw [getData, fresh.state, data]
    simp only
    split
    · exact written_continues (fresh.print _) carries data
    · exact written_continues fresh carries data
  · have acts : Acts turn (getData env r turn) .abort [.cancel] none [] := by
      rw [getData, fresh.state]
      cases state : loop.state with
      | start => exact fresh.abort _
      | data => exact absurd state data
      | abort => exact fresh.abort _
    exact fresh.replies acts
      (by rw [Exchange.advance, if_neg notStart, if_pos carries, if_neg (fun h => data h.1)])
      (by rw [Exchange.expected, if_neg notStart, if_pos carries, if_neg (fun h => data h.1)])
      (fun h => data h.1)

/-- A turn in which the state machine neither sends nor writes. -/
private theorem Fresh.quiet {env : Env σ} {loop : GetLoop σ} {turn : Turn σ}
    (fresh : Fresh env loop turn) (notStart : ¬ turn.exchange.carries DATA_HDD_FILE_START)
    (notData : ¬ turn.exchange.carries DATA_HDD_FILE_DATA)
    (notEnd : ¬ turn.exchange.carries DATA_HDD_FILE_END)
    (notFail : ¬ turn.exchange.carries FAIL) :
    Continues env loop turn.close turn.exchange := by
  have acts : Acts turn turn loop.state [] none [] := by
    refine ⟨fresh.state, (List.append_nil _).symm, rfl, ?_⟩
    simp only [← fresh.answers, ← fresh.write]
  exact fresh.replies acts
    (by rw [Exchange.advance, if_neg notStart, if_neg notData, if_neg notFail])
    (by rw [Exchange.expected, if_neg notStart, if_neg notData, if_neg notEnd, if_neg notFail])
    (fun data => notData data.2)

/-- What a pass of the download loop has done, and when it leaves. -/
inductive GetPass (env : Env σ) (loop : GetLoop σ) :
    Pass (GetLoop σ) (Int × GetLoop σ) → Prop
  | again {next : GetLoop σ} (exchange : Exchange)
      (continues : Continues env loop next exchange) (accepted : 0 < exchange.ret)
      (goesOn : ¬ exchange.carries DATA_HDD_FILE_END) : GetPass env loop (.again next)
  | success {last : GetLoop σ} (exchange : Exchange)
      (continues : Continues env loop last exchange)
      (ends : exchange.carries DATA_HDD_FILE_END) : GetPass env loop (.leave (0, last))
  | failure {last : GetLoop σ} (exchange : Exchange)
      (continues : Continues env loop last exchange)
      (breaksOff : ¬ exchange.carries DATA_HDD_FILE_END) :
      GetPass env loop (.leave (negEPROTO, last))

theorem Continues.carries_iff {env : Env σ} {loop next : GetLoop σ} {exchange : Exchange}
    (continues : Continues env loop next exchange) (cmd : UInt32) :
    exchange.carries cmd ↔
      0 < (getTfPacket env loop.reply loop.outside).ret ∧
        packetCmd (getTfPacket env loop.reply loop.outside).packet = cmd := by
  rw [Exchange.carries, continues.ret, continues.packet]

/-- Leaving the loop changes nothing the history speaks of. -/
private theorem Continues.close_out {env : Env σ} {loop : GetLoop σ} {turn : Turn σ}
    {exchange : Exchange} (continues : Continues env loop turn.close exchange) (result : Int) :
    Continues env loop (turn.out result).2 exchange :=
  ⟨continues.ret, continues.packet, continues.log, continues.state, continues.dst,
    continues.lawful⟩

/-- `case DATA_HDD_FILE_END` answers with `SUCCESS` in every state. -/
private theorem getEnd_continues {env : Env σ} {loop : GetLoop σ} {turn : Turn σ}
    (fresh : Fresh env loop turn) (carries : turn.exchange.carries DATA_HDD_FILE_END) :
    Continues env loop (turn.answer env .success).close (turn.answer env .success).exchange := by
  have notStart : ¬ turn.exchange.carries DATA_HDD_FILE_START :=
    Exchange.not_carries carries (by decide)
  have notData : ¬ turn.exchange.carries DATA_HDD_FILE_DATA :=
    Exchange.not_carries carries (by decide)
  have notFail : ¬ turn.exchange.carries FAIL := Exchange.not_carries carries (by decide)
  have acts : Acts turn (turn.answer env .success) loop.state [.success] none [] :=
    ⟨fresh.state, (List.append_nil _).symm, rfl, fresh.answered .success⟩
  exact fresh.replies acts
    (by rw [Exchange.advance, if_neg notStart, if_neg notData, if_neg notFail])
    (by rw [Exchange.expected, if_neg notStart, if_neg notData, if_pos carries])
    (fun data => notData data.2)

/-- `case FAIL` aborts in every state. -/
private theorem getFail_continues {env : Env σ} {loop : GetLoop σ} {turn : Turn σ}
    (fresh : Fresh env loop turn) (carries : turn.exchange.carries FAIL)
    (messages : List Diagnostic) :
    Continues env loop (turn.abort env messages).close (turn.abort env messages).exchange := by
  have notStart : ¬ turn.exchange.carries DATA_HDD_FILE_START :=
    Exchange.not_carries carries (by decide)
  have notData : ¬ turn.exchange.carries DATA_HDD_FILE_DATA :=
    Exchange.not_carries carries (by decide)
  have notEnd : ¬ turn.exchange.carries DATA_HDD_FILE_END :=
    Exchange.not_carries carries (by decide)
  exact fresh.replies (fresh.abort messages)
    (by rw [Exchange.advance, if_neg notStart, if_neg notData, if_pos carries])
    (by rw [Exchange.expected, if_neg notStart, if_neg notData, if_neg notEnd, if_pos carries])
    (fun data => notData data.2)

/-- The turn a pass of the loop starts with. -/
def received (env : Env σ) (loop : GetLoop σ) : Turn σ :=
  let got := getTfPacket env loop.reply loop.outside
  { loop :=
      { loop with
        reply := got.packet
        outside := got.state
        stderr := loop.stderr ++ got.stderr }
    exchange :=
      { ret := got.ret, packet := got.packet, early := got.replies, answers := []
        write := none } }

private theorem received_fresh (env : Env σ) (loop : GetLoop σ) :
    Fresh env loop (received env loop) where
  ret := rfl
  packet := rfl
  state := rfl
  dst := rfl
  log := rfl
  reply := rfl
  early := getTfPacket_replies env _ _
  acknowledged := by
    intro accepted
    have early := (getTfPacket_of_pos accepted).2
    simp only [received]
    rw [early]
    split <;> simp_all
  answers := rfl
  write := rfl

/-- One pass of the download loop makes one exchange. -/
theorem getBody_pass (env : Env σ) (loop : GetLoop σ) : GetPass env loop (getBody env loop) := by
  have fresh := received_fresh env loop
  have again : ∀ {next : GetLoop σ} {exchange : Exchange},
      Continues env loop next exchange → 0 < (received env loop).exchange.ret →
      packetCmd (received env loop).loop.reply ≠ DATA_HDD_FILE_END →
      GetPass env loop (.again next) :=
    fun continues accepted other => .again _ continues (by rw [continues.ret]; exact accepted)
      (fun ends => other ((continues.carries_iff _).mp ends).2)
  change GetPass env loop
    (let turn := received env loop
     let cmd := packetCmd turn.loop.reply
     if 0 < turn.exchange.ret then
       if cmd = DATA_HDD_FILE_START then .again (getStart env turn).close
       else if cmd = DATA_HDD_FILE_DATA then .again (getData env turn.exchange.ret turn).close
       else if cmd = DATA_HDD_FILE_END then .leave ((turn.answer env .success).out 0)
       else if cmd = FAIL then
         .again (turn.abort env [.deviceReports (decodeError turn.loop.reply)]).close
       else if cmd = SUCCESS then .leave (turn.out negEPROTO)
       else .again (turn.print [.unhandledPacket (some cmd)]).close
     else .leave (turn.out negEPROTO))
  generalize received env loop = turn at fresh again ⊢
  simp only
  rw [fresh.reply] at again ⊢
  split
  · rename_i accepted
    split
    · rename_i start
      exact again (getStart_continues fresh ⟨accepted, start⟩) accepted (by rw [start]; decide)
    · rename_i notStart
      split
      · rename_i data
        exact again (getData_continues _ fresh ⟨accepted, data⟩) accepted (by rw [data]; decide)
      · rename_i notData
        split
        · rename_i fileEnd
          have continues := getEnd_continues fresh ⟨accepted, fileEnd⟩
          exact .success _ (continues.close_out 0) ⟨accepted, fileEnd⟩
        · rename_i notEnd
          split
          · rename_i fail
            exact again (getFail_continues fresh ⟨accepted, fail⟩ _) accepted notEnd
          · rename_i notFail
            split
            · have quiet := fresh.quiet (fun h => notStart h.2) (fun h => notData h.2)
                (fun h => notEnd h.2) (fun h => notFail h.2)
              exact .failure _ (quiet.close_out negEPROTO) (fun h => notEnd h.2)
            · have printed :=
                fresh.print [.unhandledPacket (some (packetCmd turn.exchange.packet))]
              exact again (printed.quiet (fun h => notStart h.2) (fun h => notData h.2)
                (fun h => notEnd h.2) (fun h => notFail h.2)) accepted notEnd
  · rename_i rejected
    have quiet := fresh.quiet (fun h => rejected h.1) (fun h => rejected h.1)
      (fun h => rejected h.1) (fun h => rejected h.1)
    exact .failure _ (quiet.close_out negEPROTO) (fun h => rejected h.1)

/-! ## Whole runs -/

/-- The state behind a list of exchanges. -/
def advanceAll (state : GetState) (log : List Exchange) : GetState :=
  log.foldl Exchange.advance state

/-- Every exchange is lawful in the state it was made in. -/
def LawfulFrom : GetState → List Exchange → Prop
  | _, [] => True
  | state, exchange :: rest =>
      exchange.Lawful state ∧ LawfulFrom (exchange.advance state) rest

@[simp]
theorem advanceAll_cons (state : GetState) (exchange : Exchange) (rest : List Exchange) :
    advanceAll state (exchange :: rest) = advanceAll (exchange.advance state) rest :=
  rfl

theorem advanceAll_append (state : GetState) (first second : List Exchange) :
    advanceAll state (first ++ second) = advanceAll (advanceAll state first) second :=
  List.foldl_append

theorem lawfulFrom_append_iff {first second : List Exchange} :
    ∀ {state : GetState}, LawfulFrom state (first ++ second) ↔
      LawfulFrom state first ∧ LawfulFrom (advanceAll state first) second := by
  induction first with
  | nil =>
      intro state
      exact (and_iff_right trivial).symm
  | cons exchange rest ih =>
      intro state
      simp only [List.cons_append, LawfulFrom, advanceAll_cons, ih, and_assoc]

/-- The state, the destination and the log of a download belong together. -/
structure GetHistory (loop : GetLoop σ) : Prop where
  state : loop.state = advanceAll .start loop.log
  dst : loop.dst = loop.log.flatMap Exchange.landed
  lawful : LawfulFrom .start loop.log

/-- The packets of a download that still goes on. -/
def GoesOn (log : List Exchange) : Prop :=
  ∀ exchange ∈ log, 0 < exchange.ret ∧ ¬ exchange.carries DATA_HDD_FILE_END

/-- How a download that left its loop ended. -/
def GetExit (result : Int × GetLoop σ) : Prop :=
  GetHistory result.2 ∧
    ∃ before last, result.2.log = before ++ [last] ∧ GoesOn before ∧
      (result.1 = 0 ∧ last.carries DATA_HDD_FILE_END ∨
        result.1 = negEPROTO ∧ ¬ last.carries DATA_HDD_FILE_END)

theorem GetHistory.continues {env : Env σ} {loop next : GetLoop σ} {exchange : Exchange}
    (history : GetHistory loop) (continues : Continues env loop next exchange) :
    GetHistory next where
  state := by
    rw [continues.state, continues.log, advanceAll_append, history.state]
    rfl
  dst := by
    rw [continues.dst, continues.log, List.flatMap_append, history.dst]
    simp
  lawful := by
    rw [continues.log, lawfulFrom_append_iff]
    refine ⟨history.lawful, ?_, trivial⟩
    rw [← history.state]
    exact continues.lawful

theorem run_getBody_history (env : Env σ) (fuel : Nat) {loop : GetLoop σ}
    (history : GetHistory loop) (goesOn : GoesOn loop.log) :
    (run (getBody env) fuel loop).Holds
      (fun next => GetHistory next ∧ GoesOn next.log) GetExit := by
  refine run_holds (fun state invariant => ?_) fuel ⟨history, goesOn⟩
  obtain ⟨kept, going⟩ := invariant
  have made := getBody_pass env state
  generalize getBody env state = pass at made ⊢
  cases made with
  | again exchange continues accepted other =>
      refine ⟨kept.continues continues, ?_⟩
      rw [continues.log]
      intro visited member
      rcases List.mem_append.mp member with before | here
      · exact going visited before
      · rw [List.mem_singleton.mp here]
        exact ⟨accepted, other⟩
  | success exchange continues ends =>
      exact ⟨kept.continues continues, state.log, exchange, continues.log, going,
        Or.inl ⟨rfl, ends⟩⟩
  | failure exchange continues breaksOff =>
      exact ⟨kept.continues continues, state.log, exchange, continues.log, going,
        Or.inr ⟨rfl, breaksOff⟩⟩

/-- A download that was given up before its loop. -/
def NothingReceived (result : Int × GetLoop σ) : Prop :=
  result.1 ≠ 0 ∧ GetHistory result.2 ∧ result.2.log = []

private theorem requested_holds (buffers : Buffers) (outside : σ) (request : Requested σ) :
    ((getInitial buffers outside).requested request).Holds
      (fun loop => GetHistory loop ∧ loop.log = []) NothingReceived := by
  unfold GetLoop.requested
  simp only
  split
  · exact ⟨negEPROTO_ne_zero, ⟨rfl, rfl, trivial⟩, rfl⟩
  · exact ⟨⟨rfl, rfl, trivial⟩, rfl⟩

/-- The part before the loop receives nothing. -/
theorem getPrologue_holds (env : Env σ) (srcPath : CString) (buffers : Buffers)
    (outside : σ) :
    (getPrologue env srcPath buffers outside).Holds
      (fun loop => GetHistory loop ∧ loop.log = []) NothingReceived := by
  unfold getPrologue
  split
  · rename_i errno _ _
    exact ⟨Int.ne_of_gt errno.property, ⟨rfl, rfl, trivial⟩, rfl⟩
  · rename_i afterOpen _
    generalize sendCmdHddFileSend env buffers.req GET srcPath afterOpen = request
    exact requested_holds buffers afterOpen request

/-- What every download leaves behind, finished or not. -/
theorem puppyHddFileGet_holds (env : Env σ) (fuel : Nat) (srcPath : CString)
    (buffers : Buffers) (outside : σ) :
    (puppyHddFileGet env fuel srcPath buffers outside).Holds
      (fun loop => GetHistory loop ∧ GoesOn loop.log)
      (fun result => NothingReceived result ∨ GetExit result) := by
  have prologue := getPrologue_holds env srcPath buffers outside
  rw [puppyHddFileGet]
  cases entered : getPrologue env srcPath buffers outside with
  | leave result =>
      rw [entered] at prologue
      exact Or.inl prologue
  | again loop =>
      rw [entered] at prologue
      obtain ⟨history, empty⟩ := prologue
      have going : GoesOn loop.log := by
        rw [empty]
        intro exchange member
        cases member
      have holds := run_getBody_history env fuel history going
      simp only
      generalize run (getBody env) fuel loop = finished at holds ⊢
      cases finished with
      | again last => exact holds
      | leave last => exact Or.inr holds

/-- The state, the destination and the log of every download belong together. -/
theorem puppyHddFileGet_history (env : Env σ) (fuel : Nat) (srcPath : CString)
    (buffers : Buffers) (outside : σ) :
    GetHistory (puppyHddFileGet env fuel srcPath buffers outside).view := by
  have holds := puppyHddFileGet_holds env fuel srcPath buffers outside
  generalize puppyHddFileGet env fuel srcPath buffers outside = finished at holds ⊢
  cases finished with
  | again loop => exact holds.1
  | leave result => exact holds.elim (fun none => none.2.1) (fun exit => exit.1)

end Puppy.Transfer
