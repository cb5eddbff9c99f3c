import Puppy.Transfer.GetContent
import Puppy.Transfer.GetTool

/-!
# The time stamp of a downloaded file

The library and the command line tool act alike on every packet, so they go
through the same states and leave together.  When they leave, the library calls
`utime` in any case, and the tool only when `get_tf_packet` has failed.
-/

namespace Puppy.Transfer

open Transition
open Puppy.Wire Puppy.Usb Puppy.Time

universe u

variable {σ : Type u}

/-! ## What a download has learned -/

/-- The packet of the `DATA_HDD_FILE_START` that was accepted. -/
def acceptedStart : GetState → List Exchange → Option (Memory UInt8)
  | _, [] => none
  | state, exchange :: rest =>
      if state = .start ∧ exchange.carries DATA_HDD_FILE_START then some exchange.packet
      else acceptedStart (exchange.advance state) rest

/-- The time a `DATA_HDD_FILE_START` tells. -/
def startTime (env : Env σ) (packet : Memory UInt8) : Int :=
  tfdtToTime env.mktime (getTfDatetime packet dataOffset)

/-- What a download should do about the time stamp: with an accepted start and
success `utime` is called with the time it tells, without one it is not. -/
structure TimestampLaw (env : Env σ) (result : Int × GetLoop σ) : Prop where
  learned : ∀ packet, acceptedStart .start result.2.log = some packet → result.1 = 0 →
    result.2.utime = some (startTime env packet)
  unknown : acceptedStart .start result.2.log = none → result.2.utime = none

/-- Both programs do the right thing, and the same one, about the time stamp. -/
def SameTimestamp (env : Env σ) (result toolResult : Int × GetLoop σ) : Prop :=
  TimestampLaw env result ∧ TimestampLaw env toolResult ∧ result.2.utime = toolResult.2.utime

/-- The last call of `get_tf_packet` has failed. -/
def BrokenOff (log : List Exchange) : Prop :=
  ∃ before last, log = before ++ [last] ∧ ¬ 0 < last.ret

theorem acceptedStart_append (state : GetState) (first second : List Exchange) :
    acceptedStart state (first ++ second) =
      (acceptedStart state first).or (acceptedStart (advanceAll state first) second) := by
  induction first generalizing state with
  | nil => rfl
  | cons exchange rest ih =>
      rw [List.cons_append, acceptedStart, acceptedStart, advanceAll_cons]
      split
      · rfl
      · exact ih _

/-- The first state is never entered again. -/
theorem start_of_advanceAll {log : List Exchange} :
    ∀ {state : GetState}, advanceAll state log = .start → state = .start := by
  induction log with
  | nil =>
      intro state still
      exact still
  | cons exchange rest ih =>
      intro state still
      have here : exchange.advance state = .start := ih still
      cases state with
      | start => rfl
      | data =>
          rw [Exchange.advance_data] at here
          split at here <;> cases here
      | abort =>
          rw [Exchange.advance_abort] at here
          cases here

/-- As long as the first state lasts, no start was accepted. -/
theorem acceptedStart_eq_none {log : List Exchange} :
    ∀ {state : GetState}, advanceAll state log = .start → acceptedStart state log = none := by
  induction log with
  | nil =>
      intro state _
      rfl
  | cons exchange rest ih =>
      intro state still
      rw [acceptedStart, if_neg, ih still]
      rintro ⟨rfl, carries⟩
      have here : exchange.advance .start = .start := start_of_advanceAll still
      rw [Exchange.advance_start, if_pos carries] at here
      cases here

/-- Only the first state accepts a start, and it is left with it. -/
theorem acceptedStart_append_singleton (log : List Exchange) (exchange : Exchange) :
    acceptedStart .start (log ++ [exchange]) =
      if advanceAll .start log = .start ∧ exchange.carries DATA_HDD_FILE_START then
        some exchange.packet
      else acceptedStart .start log := by
  rw [acceptedStart_append, acceptedStart, acceptedStart]
  split
  · rename_i first
    rw [acceptedStart_eq_none first.1]
    rfl
  · exact Option.or_none

/-- The time stamp a history leaves behind. -/
def learned (env : Env σ) (log : List Exchange) : Int :=
  ((acceptedStart .start log).map (startTime env)).getD 0

/-! ## One pass -/

/-- The packet just received is a start that is accepted. -/
def StartArrives (env : Env σ) (loop : GetLoop σ) : Prop :=
  loop.state = .start ∧ 0 < (getTfPacket env loop.reply loop.outside).ret ∧
    packetCmd (getTfPacket env loop.reply loop.outside).packet = DATA_HDD_FILE_START

instance (env : Env σ) (loop : GetLoop σ) : Decidable (StartArrives env loop) :=
  inferInstanceAs (Decidable (_ ∧ _ ∧ _))

/-- The time stamp behind a pass. -/
def nextStamp (env : Env σ) (loop : GetLoop σ) : Int :=
  if StartArrives env loop then startTime env (getTfPacket env loop.reply loop.outside).packet
  else loop.stamp

/-- What one pass of each program does about the time stamp. -/
inductive TimePass (env : Env σ) (loop : GetLoop σ) :
    Pass (GetLoop σ) (Int × GetLoop σ) → Pass (GetLoop σ) (Int × GetLoop σ) → Prop
  | again {next : GetLoop σ} (stamp : next.stamp = nextStamp env loop)
      (untouched : next.utime = loop.utime) : TimePass env loop (.again next) (.again next)
  | leave {result : Int} {last toolLast : GetLoop σ} (sameLog : toolLast.log = last.log)
      (called : last.utime = some (nextStamp env loop))
      (toolCalled : toolLast.utime =
        if 0 < (getTfPacket env loop.reply loop.outside).ret then loop.utime
        else some (nextStamp env loop)) :
      TimePass env loop (.leave (result, last)) (.leave (result, toolLast))

theorem writePayload_stamp (env : Env σ) (turn : Turn σ) :
    (writePayload env turn).2.loop.stamp = turn.loop.stamp ∧
      (writePayload env turn).2.loop.utime = turn.loop.utime := by
  rw [writePayload]
  split <;> exact ⟨rfl, rfl⟩

/-- `case DATA_HDD_FILE_DATA` leaves the time stamp alone. -/
theorem getData_stamp (env : Env σ) (r : Int) (turn : Turn σ) :
    (getData env r turn).loop.stamp = turn.loop.stamp ∧
      (getData env r turn).loop.utime = turn.loop.utime := by
  rw [getData]
  split
  · simp only
    split
    · split
      · exact writePayload_stamp env _
      · exact writePayload_stamp env _
    · split
      · exact writePayload_stamp env _
      · exact writePayload_stamp env _
  · exact ⟨rfl, rfl⟩

/-- `case DATA_HDD_FILE_START` takes the time stamp in the first state. -/
theorem getStart_stamp (env : Env σ) (turn : Turn σ) :
    (getStart env turn).loop.stamp =
        (if turn.loop.state = .start then startTime env turn.loop.reply else turn.loop.stamp) ∧
      (getStart env turn).loop.utime = turn.loop.utime := by
  rw [getStart]
  cases state : turn.loop.state with
  | start => exact ⟨rfl, rfl⟩
  | data => exact ⟨rfl, rfl⟩
  | abort => exact ⟨rfl, rfl⟩

/-- Both programs act alike on a packet. -/
theorem getBody_timePass (env : Env σ) (loop : GetLoop σ) :
    TimePass env loop (getBody env loop) (getBodyTool env loop) := by
  rw [getBody, getBodyTool]
  simp only
  split
  · rename_i accepted
    split
    · rename_i start
      obtain ⟨stamp, utime⟩ := getStart_stamp env (received env loop)
      apply TimePass.again
      · apply stamp.trans
        rw [nextStamp]
        by_cases first : (received env loop).loop.state = .start
        · rw [if_pos first, if_pos ⟨first, accepted, start⟩]
          rfl
        · rw [if_neg first, if_neg fun arrives => first arrives.1]
          rfl
      · exact utime
    · rename_i notStart
      have kept : nextStamp env loop = loop.stamp := if_neg fun arrives => notStart arrives.2.2
      split
      · obtain ⟨stamp, utime⟩ := getData_stamp env _ (received env loop)
        exact .again (stamp.trans kept.symm) utime
      · split
        · apply TimePass.leave
          · rfl
          · exact congrArg some kept.symm
          · rw [if_pos accepted]
            rfl
        · split
          · exact .again kept.symm rfl
          · split
            · apply TimePass.leave
              · rfl
              · exact congrArg some kept.symm
              · rw [if_pos accepted]
                rfl
            · exact .again kept.symm rfl
  · rename_i rejected
    have kept : nextStamp env loop = loop.stamp := if_neg fun arrives => rejected arrives.2.1
    apply TimePass.leave
    · rfl
    · exact congrArg some kept.symm
    · rw [if_neg rejected]
      exact congrArg some kept.symm

/-! ## Whole runs -/

/-- A download that still goes on has kept the time it has learned. -/
structure Keeps (env : Env σ) (loop : GetLoop σ) : Prop where
  history : GetHistory loop
  stamp : loop.stamp = learned env loop.log
  utime : loop.utime = none

/-- The two programs have left the loop together. -/
structure LeftTogether (env : Env σ) (result toolResult : Int × GetLoop σ) : Prop where
  log : toolResult.2.log = result.2.log
  called : result.2.utime = some (learned env result.2.log)
  brokenOff : BrokenOff result.2.log → toolResult.2.utime = some (learned env result.2.log)
  ended : ¬ BrokenOff result.2.log → toolResult.2.utime = none

theorem brokenOff_append_iff (log : List Exchange) (exchange : Exchange) :
    BrokenOff (log ++ [exchange]) ↔ ¬ 0 < exchange.ret := by
  constructor
  · rintro ⟨before, last, split, failed⟩
    obtain ⟨_, same⟩ := List.append_inj' split rfl
    rw [List.singleton_inj.mp same]
    exact failed
  · intro failed
    exact ⟨log, exchange, rfl, failed⟩

/-- The packet of a pass is what the history learns. -/
theorem Keeps.learned_append {env : Env σ} {loop next : GetLoop σ} {exchange : Exchange}
    (keeps : Keeps env loop) (continues : Continues env loop next exchange) :
    learned env next.log = nextStamp env loop := by
  have arrives : (advanceAll .start loop.log = .start ∧
      exchange.carries DATA_HDD_FILE_START) ↔ StartArrives env loop := by
    rw [← keeps.history.state, continues.carries_iff]
    rfl
  rw [continues.log, learned, acceptedStart_append_singleton, nextStamp]
  by_cases start : StartArrives env loop
  · rw [if_pos (arrives.mpr start), if_pos start, continues.packet]
    rfl
  · rw [if_neg fun first => start (arrives.mp first), if_neg start, keeps.stamp]
    rfl

/-- The two loops go through the same states and leave together. -/
theorem getBody_related (env : Env σ) (loop toolLoop : GetLoop σ)
    (same : loop = toolLoop ∧ Keeps env loop) :
    Pass.Related (fun left right => left = right ∧ Keeps env left) (LeftTogether env)
      (fun _ _ => False) (getBody env loop) (getBodyTool env toolLoop) := by
  obtain ⟨rfl, keeps⟩ := same
  have made := getBody_pass env loop
  have told := getBody_timePass env loop
  generalize getBody env loop = pass at made told ⊢
  generalize getBodyTool env loop = toolPass at told ⊢
  cases told with
  | @again next stamp untouched =>
      cases made with
      | again exchange continues =>
          apply Pass.Related.again
          refine ⟨rfl, keeps.history.continues continues, ?_, untouched.trans keeps.utime⟩
          rw [stamp, keeps.learned_append continues]
  | @leave result last toolLast sameLog called toolCalled =>
      obtain ⟨exchange, continues⟩ : ∃ exchange, Continues env loop last exchange := by
        cases made with
        | success exchange continues => exact ⟨exchange, continues⟩
        | failure exchange continues => exact ⟨exchange, continues⟩
      have broken : BrokenOff last.log ↔
          ¬ 0 < (getTfPacket env loop.reply loop.outside).ret := by
        rw [continues.log, brokenOff_append_iff, continues.ret]
      rw [← keeps.learned_append continues] at called toolCalled
      apply Pass.Related.leave
      constructor
      · exact sameLog
      · exact called
      · intro failed
        rw [if_neg (broken.mp failed)] at toolCalled
        exact toolCalled
      · intro received
        rw [if_pos (by_contra fun rejected => received (broken.mpr rejected)),
          keeps.utime] at toolCalled
        exact toolCalled

theorem LeftTogether.sameTimestamp_iff {env : Env σ} {result toolResult : Int × GetLoop σ}
    (left : LeftTogether env result toolResult) :
    SameTimestamp env result toolResult ↔
      (acceptedStart .start result.2.log).isSome ∧ BrokenOff result.2.log := by
  constructor
  · rintro ⟨law, _, same⟩
    constructor
    · by_contra unknown
      have silent := law.unknown (Option.not_isSome_iff_eq_none.mp unknown)
      rw [left.called] at silent
      cases silent
    · by_contra received
      rw [left.called, left.ended received] at same
      cases same
  · rintro ⟨known, broken⟩
    obtain ⟨packet, accepted⟩ := Option.isSome_iff_exists.mp known
    have told : learned env result.2.log = startTime env packet := by
      rw [learned, accepted]
      rfl
    have toolCalled := left.brokenOff broken
    have called := left.called
    rw [told] at called toolCalled
    refine ⟨⟨?_, ?_⟩, ⟨?_, ?_⟩, called.trans toolCalled.symm⟩
    · intro other same _
      rw [accepted] at same
      cases same
      exact called
    · intro none
      rw [accepted] at none
      cases none
    · intro other same _
      rw [left.log, accepted] at same
      cases same
      exact toolCalled
    · intro none
      rw [left.log, accepted] at none
      cases none

/-! ## Whole downloads -/

/-- Without a request no time is learned: the library then calls `utime` with
the initial value of its buffer, the tool does not. -/
theorem requested_related (env : Env σ) (buffers : Buffers) (outside : σ)
    (request : Requested σ) :
    Pass.Related (fun left right => left = right ∧ Keeps env left)
      (fun result toolResult => result.2.log = [] ∧ ¬ SameTimestamp env result toolResult)
      (fun _ _ => False) ((getInitial buffers outside).requested request)
      ((getInitial buffers outside).requestedTool request) := by
  rw [GetLoop.requested, GetLoop.requestedTool]
  simp only
  split
  · apply Pass.Related.leave
    refine ⟨rfl, ?_⟩
    rintro ⟨_, _, same⟩
    cases same
  · apply Pass.Related.again
    exact ⟨rfl, ⟨rfl, rfl, trivial⟩, rfl, rfl⟩

/-- A destination that can not be opened keeps its time stamp. -/
theorem sameTimestamp_unopened (env : Env σ) (errno : Int) (loop : GetLoop σ)
    (empty : loop.log = []) (uncalled : loop.utime = none) :
    SameTimestamp env (errno, loop) (errno, loop) := by
  have law : TimestampLaw env (errno, loop) := by
    constructor
    · intro packet accepted
      rw [empty] at accepted
      cases accepted
    · intro _
      exact uncalled
  exact ⟨law, law, rfl⟩

/-- The parts before the loops. -/
theorem getPrologue_related (env : Env σ) (srcPath : CString) (buffers : Buffers)
    (outside : σ) :
    Pass.Related
      (fun left right => (left = right ∧ Keeps env left) ∧ (env.open64 outside).1 = none)
      (fun result toolResult => result.2.log = [] ∧
        (SameTimestamp env result toolResult ↔ (env.open64 outside).1.isSome))
      (fun _ _ => False)
      (getPrologue env srcPath buffers outside)
      (getPrologueTool env srcPath buffers outside) := by
  rw [getPrologue, getPrologueTool]
  cases opened : env.open64 outside with
  | mk failure afterOpen =>
      cases failure with
      | some errno =>
          apply Pass.Related.leave
          exact ⟨rfl, iff_of_true (sameTimestamp_unopened env _ _ rfl rfl) rfl⟩
      | none =>
          simp only
          generalize sendCmdHddFileSend env buffers.req GET srcPath afterOpen = request
          apply (requested_related env buffers afterOpen request).imp
          · intro left right entered
            exact ⟨entered, trivial⟩
          · rintro result toolResult ⟨empty, differs⟩
            exact ⟨empty, iff_of_false differs Bool.false_ne_true⟩
          · exact fun _ _ never => never

/-- The library and the tool leave a download together.  Both call `utime`
exactly as the start they accepted tells when the destination could not be
opened, or when a start was accepted and the device then broke off. -/
theorem puppyHddFileGet_sameTimestamp_iff (env : Env σ) (fuel : Nat) (srcPath : CString)
    (buffers : Buffers) (outside : σ) :
    Pass.Related (fun loop toolLoop => loop.utime = none ∧ toolLoop.utime = none)
      (fun result toolResult =>
        SameTimestamp env result toolResult ↔
          (env.open64 outside).1.isSome ∨
            (acceptedStart .start result.2.log).isSome ∧ BrokenOff result.2.log)
      (fun _ _ => False)
      (puppyHddFileGet env fuel srcPath buffers outside)
      (doHddFileGet env fuel srcPath buffers outside) := by
  have prologue := getPrologue_related env srcPath buffers outside
  rw [puppyHddFileGet, doHddFileGet]
  generalize getPrologue env srcPath buffers outside = entry at prologue ⊢
  generalize getPrologueTool env srcPath buffers outside = toolEntry at prologue ⊢
  cases prologue with
  | giveUp given => cases given
  | leave refused =>
      apply Pass.Related.leave
      rw [refused.2, refused.1]
      constructor
      · exact Or.inl
      · rintro (unopened | ⟨known, _⟩)
        · exact unopened
        · cases known
  | again entered =>
      simp only [entered.2, Option.isSome_none, Bool.false_eq_true, false_or]
      apply (run_related (getBody_related env) (fun _ _ never => never) fuel entered.1).imp
      · rintro loop toolLoop ⟨rfl, keeps⟩
        exact ⟨keeps.utime, keeps.utime⟩
      · intro result toolResult together
        exact together.sameTimestamp_iff
      · exact fun _ _ never => never

/-! ## Without a time stamp -/

/-- A pass in which a packet was received makes the tool leave as the library
does, but for `utime`. -/
theorem getBodyTool_of_leave {env : Env σ} {loop last : GetLoop σ} {result : Int}
    (left : getBody env loop = .leave (result, last))
    (heard : 0 < (getTfPacket env loop.reply loop.outside).ret) :
    getBodyTool env loop = .leave (result, { last with utime := loop.utime }) := by
  unfold getBody at left
  unfold getBodyTool
  simp only at left ⊢
  rw [if_pos heard] at left ⊢
  split_ifs at left ⊢
  · cases left
    rfl
  · cases left
    rfl

theorem getBodyTool_of_again {env : Env σ} {loop next : GetLoop σ}
    (again : getBody env loop = .again next) :
    getBodyTool env loop = .again next ∧ next.utime = loop.utime := by
  have told := getBody_timePass env loop
  rw [again] at told
  generalize getBodyTool env loop = toolPass at told
  cases told with
  | again _ untouched => exact ⟨rfl, untouched⟩

/-- Where the library leaves behind a packet, the tool leaves with it and has not
called `utime`. -/
theorem run_getBodyTool_of_leave {env : Env σ} {result : Int} {last : GetLoop σ} (fuel : Nat)
    {loop : GetLoop σ} (uncalled : loop.utime = none)
    (left : run (getBody env) fuel loop = .leave (result, last)) (heard : ¬ BrokenOff last.log) :
    run (getBodyTool env) fuel loop = .leave (result, { last with utime := none }) := by
  induction fuel generalizing loop with
  | zero => cases left
  | succ fuel ih =>
      cases pass : getBody env loop with
      | again next =>
          obtain ⟨again, untouched⟩ := getBodyTool_of_again pass
          rw [run_succ_of_again pass] at left
          rw [run_succ_of_again again]
          exact ih (untouched.trans uncalled) left
      | leave ended =>
          rw [run_succ_of_leave pass] at left
          cases left
          have made := getBody_pass env loop
          rw [pass] at made
          obtain ⟨exchange, continues⟩ : ∃ exchange, Continues env loop last exchange := by
            cases made with
            | success exchange continues => exact ⟨exchange, continues⟩
            | failure exchange continues => exact ⟨exchange, continues⟩
          rw [continues.log, brokenOff_append_iff, continues.ret, not_not] at heard
          have leaves := getBodyTool_of_leave pass heard
          rw [uncalled] at leaves
          exact run_succ_of_leave leaves fuel

theorem requestedTool_of_leave {request : Requested σ} {loop last : GetLoop σ} {result : Int}
    (left : loop.requested request = .leave (result, last)) (uncalled : loop.utime = none) :
    loop.requestedTool request = .leave (result, { last with utime := none }) := by
  unfold GetLoop.requested at left
  unfold GetLoop.requestedTool
  simp only at left ⊢
  split_ifs at left ⊢
  cases left
  simp only [uncalled]

theorem getPrologueTool_of_leave {env : Env σ} {srcPath : CString} {buffers : Buffers}
    {outside : σ} {result : Int} {last : GetLoop σ}
    (left : getPrologue env srcPath buffers outside = .leave (result, last)) :
    getPrologueTool env srcPath buffers outside = .leave (result, { last with utime := none }) := by
  rw [getPrologue] at left
  rw [getPrologueTool]
  cases opened : env.open64 outside with
  | mk failure afterOpen =>
      rw [opened] at left
      cases failure with
      | some errno =>
          cases left
          rfl
      | none => exact requestedTool_of_leave left rfl

/-- A download that did not break off leaves the same behind with the tool, but
for the time stamp. -/
theorem doHddFileGet_of_left {env : Env σ} {fuel : Nat} {srcPath : CString} {buffers : Buffers}
    {outside : σ} {result : Int} {last : GetLoop σ}
    (left : puppyHddFileGet env fuel srcPath buffers outside = .leave (result, last))
    (heard : ¬ BrokenOff last.log) :
    doHddFileGet env fuel srcPath buffers outside =
      .leave (result, { last with utime := none }) := by
  have prologue := getPrologue_related env srcPath buffers outside
  rw [puppyHddFileGet] at left
  rw [doHddFileGet]
  cases entry : getPrologue env srcPath buffers outside with
  | again loop =>
      rw [entry] at left prologue
      generalize getPrologueTool env srcPath buffers outside = toolEntry at prologue ⊢
      cases prologue with
      | again entered =>
          obtain ⟨⟨rfl, keeps⟩, _⟩ := entered
          exact run_getBodyTool_of_leave fuel keeps.utime left heard
  | leave refused =>
      rw [entry] at left
      cases left
      rw [getPrologueTool_of_leave entry]

/-- The messages of a download of one byte. -/
def oneByteMessages : List (List UInt8) :=
  [wireImage (putU32 (putU16 (fun _ => 0) 0 122) 4 DATA_HDD_FILE_START),
    wireImage (dataPacket (Memory.store (fun _ => 0) 16 [0x2a]) 1 0),
    wireImage (endPacket fun _ => 0)]

/-- A download of one byte succeeds with the tool and leaves the time stamp of
the destination alone. -/
theorem not_timestampLaw_oneByte :
    let pass := doHddFileGet Link.muteEnv 3 pathA zeroBuffers
      { pending := [], queue := oneByteMessages, device := () }
    pass.returned = some 0 ∧ ¬ TimestampLaw Link.muteEnv (0, pass.view) := by
  intro pass
  constructor
  · decide +kernel
  · intro law
    have accepted : (acceptedStart .start pass.view.log).isSome := by decide +kernel
    have untouched : pass.view.utime = none := by decide +kernel
    obtain ⟨packet, start⟩ := Option.isSome_iff_exists.mp accepted
    have called := law.learned packet start rfl
    rw [untouched] at called
    cases called

end Puppy.Transfer
