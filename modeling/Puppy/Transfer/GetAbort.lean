import Puppy.Transfer.GetContent

/-!
# Aborted downloads

`case DATA_HDD_FILE_END` of `puppy_hdd_file_get` reports success in every
state, where its siblings look at the state first; a download that reports
success was clean exactly when the end found it in the data phase.  Replies
come from `get_tf_packet` and from the state machine, which do not know of each
other: what both together send is described packet by packet.
-/

namespace Puppy.Transfer

open Transition
open Puppy.Wire Puppy.Usb

universe u

variable {σ : Type u}

/-! ## Success -/

/-- A start was accepted, no `FAIL` and no start or data packet in the wrong
state was seen, and every payload was written in full until the end arrived. -/
def CleanDownload (log : List Exchange) : Prop :=
  ∃ before last, log = before ++ [last] ∧ last.carries DATA_HDD_FILE_END ∧ Transferring before

/-- The next packet is `DATA_HDD_FILE_END`. -/
def EndArrives (env : Env σ) (loop : GetLoop σ) : Prop :=
  0 < (getTfPacket env loop.reply loop.outside).ret ∧
    packetCmd (getTfPacket env loop.reply loop.outside).packet = DATA_HDD_FILE_END

/-- A pass that receives the end leaves with success. -/
theorem getBody_of_endArrives {env : Env σ} {loop : GetLoop σ} (arrives : EndArrives env loop) :
    ∃ exchange last, getBody env loop = .leave (0, last) ∧
      last.log = loop.log ++ [exchange] := by
  have made := getBody_pass env loop
  generalize getBody env loop = pass at made ⊢
  cases made with
  | again exchange continues _ goesOn =>
      exact absurd ((continues.carries_iff _).mpr arrives) goesOn
  | success exchange continues => exact ⟨exchange, _, rfl, continues.log⟩
  | failure exchange continues breaksOff =>
      exact absurd ((continues.carries_iff _).mpr arrives) breaksOff

/-- A pass that leaves with success has received the end. -/
theorem endArrives_of_getBody {env : Env σ} {loop last : GetLoop σ}
    (left : getBody env loop = .leave (0, last)) :
    EndArrives env loop ∧ ∃ exchange, last.log = loop.log ++ [exchange] ∧
      exchange.carries DATA_HDD_FILE_END := by
  have made := getBody_pass env loop
  rw [left] at made
  cases made with
  | success exchange continues ends =>
      exact ⟨(continues.carries_iff _).mp ends, exchange, continues.log, ends⟩

/-- A call that goes on can be followed for one more pass. -/
theorem puppyHddFileGet_succ {env : Env σ} {fuel : Nat} {srcPath : CString} {buffers : Buffers}
    {outside : σ} {loop : GetLoop σ}
    (reached : puppyHddFileGet env fuel srcPath buffers outside = .again loop) :
    puppyHddFileGet env (fuel + 1) srcPath buffers outside = run (getBody env) 1 loop := by
  unfold puppyHddFileGet at reached ⊢
  cases entered : getPrologue env srcPath buffers outside with
  | again first =>
      rw [entered] at reached
      exact run_add_of_again reached 1
  | leave result =>
      rw [entered] at reached
      cases reached

/-- A call that returned zero went on until its last pass. -/
theorem puppyHddFileGet_last {env : Env σ} {fuel : Nat} {srcPath : CString} {buffers : Buffers}
    {outside : σ}
    (success : (puppyHddFileGet env fuel srcPath buffers outside).returned = some 0) :
    ∃ earlier loop last, puppyHddFileGet env earlier srcPath buffers outside = .again loop ∧
      getBody env loop = .leave (0, last) ∧
      puppyHddFileGet env fuel srcPath buffers outside = .leave (0, last) := by
  have prologue := getPrologue_holds env srcPath buffers outside
  unfold puppyHddFileGet at success ⊢
  cases entered : getPrologue env srcPath buffers outside with
  | leave result =>
      rw [entered] at success prologue
      exact absurd (Option.some.inj success) prologue.1
  | again first =>
      rw [entered] at success
      simp only at success ⊢
      cases finished : run (getBody env) fuel first with
      | again loop =>
          rw [finished] at success
          cases success
      | leave result =>
          obtain ⟨value, last⟩ := result
          rw [finished] at success
          obtain rfl : value = 0 := Option.some.inj success
          obtain ⟨earlier, loop, _, reached, left⟩ := run_eq_leave_exists_last finished
          exact ⟨earlier, loop, last, reached, left, rfl⟩

/-- The state of a call that goes on. -/
theorem puppyHddFileGet_state_iff {env : Env σ} {fuel : Nat} {srcPath : CString}
    {buffers : Buffers} {outside : σ} {loop : GetLoop σ}
    (reached : puppyHddFileGet env fuel srcPath buffers outside = .again loop) :
    loop.state = .data ↔ Transferring loop.log := by
  have history := puppyHddFileGet_history env fuel srcPath buffers outside
  rw [reached] at history
  rw [show loop.state = advanceAll .start loop.log from history.state]
  exact advanceAll_start_iff

/-- Every successful download from a device is clean exactly when the end always
arrives in the data phase. -/
theorem puppyHddFileGet_cleanDownload_iff (env : Env σ) (srcPath : CString) (buffers : Buffers)
    (outside : σ) :
    (∀ fuel, (puppyHddFileGet env fuel srcPath buffers outside).returned = some 0 →
        CleanDownload (puppyHddFileGet env fuel srcPath buffers outside).view.log) ↔
      ∀ fuel loop, puppyHddFileGet env fuel srcPath buffers outside = .again loop →
        EndArrives env loop → loop.state = .data := by
  constructor
  · intro clean fuel loop reached arrives
    obtain ⟨exchange, last, left, log⟩ := getBody_of_endArrives arrives
    have next : puppyHddFileGet env (fuel + 1) srcPath buffers outside = .leave (0, last) := by
      rw [puppyHddFileGet_succ reached, run_succ_of_leave left]
    have cleanLast := clean (fuel + 1)
    rw [next] at cleanLast
    obtain ⟨before, final, split, _, transferring⟩ := cleanLast rfl
    have same : loop.log = before := (List.append_inj' (log.symm.trans split) rfl).1
    rw [puppyHddFileGet_state_iff reached, same]
    exact transferring
  · intro inData fuel success
    obtain ⟨earlier, loop, last, reached, left, finished⟩ := puppyHddFileGet_last success
    obtain ⟨arrives, exchange, log, ends⟩ := endArrives_of_getBody left
    rw [finished]
    refine ⟨loop.log, exchange, log, ends, ?_⟩
    rw [← puppyHddFileGet_state_iff reached]
    exact inData earlier loop reached arrives

/-- A device that sends the end at once gets a success for nothing. -/
theorem not_cleanDownload_of_early_end :
    (queuedRun [wireImage (endPacket fun _ => 0)]).returned = some 0 ∧
      ¬ CleanDownload (queuedRun [wireImage (endPacket fun _ => 0)]).view.log := by
  refine ⟨by decide +kernel, ?_⟩
  rintro ⟨before, last, split, _, _, start, _, rfl, _⟩
  have length : (queuedRun [wireImage (endPacket fun _ => 0)]).view.log.length = 1 := by
    decide +kernel
  rw [split] at length
  simp only [List.length_append, List.length_cons, List.length_nil] at length
  omega

/-! ## Replies -/

/-- Everything sent for one packet. -/
def Exchange.replies (exchange : Exchange) : List Reply := exchange.early ++ exchange.answers

/-- At most one reply to a packet. -/
def RepliesOnce (log : List Exchange) : Prop := ∀ exchange ∈ log, exchange.replies.length ≤ 1

/-- At most one `CANCEL`. -/
def CancelsOnce (log : List Exchange) : Prop := (log.flatMap Exchange.replies).count .cancel ≤ 1

/-- No `SUCCESS` after a `CANCEL`. -/
def SilentAfterCancel (log : List Exchange) : Prop :=
  ∀ before after, log.flatMap Exchange.replies = before ++ after → .cancel ∈ before →
    .success ∉ after

/-- At most one reply to a packet, at most one `CANCEL`, and no `SUCCESS` after
it. -/
def AbortDiscipline (log : List Exchange) : Prop :=
  RepliesOnce log ∧ CancelsOnce log ∧ SilentAfterCancel log

/-- The replies to one packet, with what was exchanged before. -/
structure ReplyDiscipline (before : List Exchange) (exchange : Exchange) : Prop where
  /-- Only file data is acknowledged by `get_tf_packet`. -/
  early : 0 < exchange.ret →
    exchange.early = if exchange.carries DATA_HDD_FILE_DATA then [.success] else []
  /-- The state machine replies at most once. -/
  once : exchange.answers.length ≤ 1
  /-- File data is only ever answered with `CANCEL` by the state machine, and
  is not when the transfer is intact and its payload was written in full. -/
  data : exchange.carries DATA_HDD_FILE_DATA →
    (exchange.answers = [] ∨ exchange.answers = [.cancel]) ∧
      (exchange.answers = [] ↔ Transferring before ∧ exchange.writtenInFull)
  /-- Only a start, file data or `FAIL` is answered with `CANCEL`. -/
  cause : .cancel ∈ exchange.answers →
    exchange.carries DATA_HDD_FILE_START ∨ exchange.carries DATA_HDD_FILE_DATA ∨
      exchange.carries FAIL
  /-- After a `CANCEL` every start, data packet and `FAIL` is answered with
  another one. -/
  repeated : (∃ earlier ∈ before, .cancel ∈ earlier.answers) →
    (exchange.carries DATA_HDD_FILE_START ∨ exchange.carries DATA_HDD_FILE_DATA ∨
      exchange.carries FAIL) → exchange.answers = [.cancel]
  /-- After a `CANCEL` the state machine sends no `SUCCESS` before the end. -/
  silenced : (∃ earlier ∈ before, .cancel ∈ earlier.answers) →
    ¬ exchange.carries DATA_HDD_FILE_END → .success ∉ exchange.answers

/-- The replies to all packets follow the discipline. -/
def DisciplinedReplies (log : List Exchange) : Prop :=
  ∀ before exchange after, log = before ++ exchange :: after → ReplyDiscipline before exchange

/-- A `CANCEL` goes with the state `ABORT`. -/
theorem Exchange.advance_of_cancel {state : GetState} {exchange : Exchange}
    (cancel : .cancel ∈ exchange.expected state) : exchange.advance state = .abort := by
  unfold Exchange.expected at cancel
  unfold Exchange.advance
  by_cases start : exchange.carries DATA_HDD_FILE_START
  · rw [if_pos start] at cancel ⊢
    by_cases first : state = .start
    · simp [first] at cancel
    · rw [if_neg first]
  · rw [if_neg start] at cancel ⊢
    by_cases data : exchange.carries DATA_HDD_FILE_DATA
    · rw [if_pos data] at cancel ⊢
      by_cases intact : state = .data ∧ exchange.writtenInFull
      · simp [intact] at cancel
      · rw [if_neg intact]
    · rw [if_neg data] at cancel ⊢
      by_cases fail : exchange.carries FAIL
      · rw [if_pos fail]
      · rw [if_neg fail] at cancel
        split at cancel <;> simp at cancel

/-- Behind a `CANCEL` the state is `ABORT`. -/
theorem LawfulFrom.abort_of_cancel {log : List Exchange} :
    ∀ {state : GetState}, LawfulFrom state log →
      (∃ exchange ∈ log, .cancel ∈ exchange.answers) → advanceAll state log = .abort := by
  induction log with
  | nil =>
      rintro state _ ⟨exchange, member, _⟩
      cases member
  | cons first rest ih =>
      rintro state ⟨here, behind⟩ ⟨exchange, member, cancel⟩
      rw [advanceAll_cons]
      rcases List.mem_cons.mp member with rfl | inRest
      · rw [here.answers] at cancel
        rw [Exchange.advance_of_cancel cancel, advanceAll_abort]
      · exact ih behind ⟨exchange, inRest, cancel⟩

/-- A reply expected to file data. -/
theorem Exchange.expected_of_data {state : GetState} {exchange : Exchange}
    (data : exchange.carries DATA_HDD_FILE_DATA) :
    exchange.expected state =
      if state = .data ∧ exchange.writtenInFull then [] else [.cancel] := by
  rw [Exchange.expected, if_neg (Exchange.not_carries data (by decide)), if_pos data]

/-- In the state `ABORT` only the end is answered with `SUCCESS`. -/
theorem Exchange.expected_abort (exchange : Exchange) :
    exchange.expected .abort =
      if exchange.carries DATA_HDD_FILE_START ∨ exchange.carries DATA_HDD_FILE_DATA then [.cancel]
      else if exchange.carries DATA_HDD_FILE_END then [.success]
      else if exchange.carries FAIL then [.cancel]
      else [] := by
  unfold Exchange.expected
  by_cases start : exchange.carries DATA_HDD_FILE_START
  · simp [start]
  · by_cases data : exchange.carries DATA_HDD_FILE_DATA <;> simp [start, data]

/-- The replies of a lawful exchange. -/
theorem Exchange.Lawful.replyDiscipline {before : List Exchange} {exchange : Exchange}
    (earlier : LawfulFrom .start before)
    (lawful : exchange.Lawful (advanceAll .start before)) : ReplyDiscipline before exchange where
  early := by
    intro accepted
    have acknowledged := lawful.acknowledged accepted
    by_cases data : exchange.carries DATA_HDD_FILE_DATA
    · rw [if_pos data]
      exact acknowledged.mpr data.2
    · rw [if_neg data]
      exact lawful.early.resolve_right fun success =>
        data ⟨accepted, acknowledged.mp success⟩
  once := by
    rw [lawful.answers, Exchange.expected]
    repeat' split
    all_goals simp
  data := by
    intro data
    rw [lawful.answers, Exchange.expected_of_data data, ← advanceAll_start_iff]
    by_cases intact : advanceAll .start before = .data ∧ exchange.writtenInFull
    · rw [if_pos intact]
      exact ⟨Or.inl rfl, iff_of_true rfl intact⟩
    · rw [if_neg intact]
      exact ⟨Or.inr rfl, iff_of_false (by simp) intact⟩
  cause := by
    intro cancel
    rw [lawful.answers, Exchange.expected] at cancel
    by_contra other
    simp only [not_or] at other
    rw [if_neg other.1, if_neg other.2.1, if_neg other.2.2] at cancel
    split at cancel <;> simp at cancel
  repeated := by
    intro cancelled carries
    rw [lawful.answers, earlier.abort_of_cancel cancelled, Exchange.expected_abort]
    rcases carries with start | data | fail
    · rw [if_pos (Or.inl start)]
    · rw [if_pos (Or.inr data)]
    · rw [if_neg (not_or.mpr ⟨Exchange.not_carries fail (by decide),
        Exchange.not_carries fail (by decide)⟩), if_neg (Exchange.not_carries fail (by decide)),
        if_pos fail]
  silenced := by
    intro cancelled notEnd success
    rw [lawful.answers, earlier.abort_of_cancel cancelled, Exchange.expected_abort,
      if_neg notEnd] at success
    split at success
    · simp at success
    · split at success <;> simp at success

/-- What every download, finished or not, sends in reply to each packet. -/
theorem puppyHddFileGet_disciplinedReplies (env : Env σ) (fuel : Nat) (srcPath : CString)
    (buffers : Buffers) (outside : σ) :
    DisciplinedReplies (puppyHddFileGet env fuel srcPath buffers outside).view.log := by
  have lawful := (puppyHddFileGet_history env fuel srcPath buffers outside).lawful
  intro before exchange after split
  rw [split, lawfulFrom_append_iff] at lawful
  exact lawful.2.1.replyDiscipline lawful.1

/-- A data packet of one byte. -/
def dataMessage : List UInt8 := wireImage (dataPacket (fun _ => 0) 1 0)

/-- The device's `FAIL`. -/
def failMessage : List UInt8 := wireImage (putU32 (putU16 (fun _ => 0) 0 12) 4 FAIL)

/-- A data packet before the start is both acknowledged and cancelled, two `FAIL`
are both cancelled, and a data packet behind a `FAIL` is acknowledged. -/
theorem not_abortDiscipline_of_early_data :
    ¬ RepliesOnce (queuedRun [dataMessage]).view.log ∧
      ¬ CancelsOnce (queuedRun [failMessage, failMessage]).view.log ∧
      ¬ SilentAfterCancel (queuedRun [failMessage, dataMessage]).view.log ∧
      ¬ AbortDiscipline (queuedRun [failMessage, dataMessage]).view.log := by
  have twice : ∃ exchange ∈ (queuedRun [dataMessage]).view.log,
      ¬ exchange.replies.length ≤ 1 := by decide +kernel
  have acknowledged : ¬ SilentAfterCancel (queuedRun [failMessage, dataMessage]).view.log := by
    have replies : (queuedRun [failMessage, dataMessage]).view.log.flatMap Exchange.replies =
        [.cancel] ++ [.success, .cancel] := by decide +kernel
    intro silent
    exact silent _ _ replies List.mem_cons_self List.mem_cons_self
  refine ⟨?_, ?_, acknowledged, fun discipline => acknowledged discipline.2.2⟩
  · obtain ⟨exchange, member, more⟩ := twice
    intro once
    exact more (once exchange member)
  · unfold CancelsOnce
    decide +kernel

end Puppy.Transfer
