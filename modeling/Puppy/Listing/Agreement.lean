import Puppy.Listing.Terminator
import Puppy.Listing.Tool

/-!
# Two loops over one listing

The exchange with the device that both listing functions make, as a loop of its
own, and what each of them reports about it.  The library and the command line
tool agree unless the exchange was cut short or did not fit into memory.
-/

namespace Puppy.Listing

open Transition
open Puppy.Wire Puppy.Usb

universe u

variable {σ : Type u}

/-! ## The exchange -/

/-- Where a listing stands with the device. -/
structure Conversation (σ : Type u) where
  reply : Memory UInt8
  outside : σ
  log : List Arrival

/-- Receive packets, answering `DATA_HDD_DIR` with `SUCCESS`, until something
else arrives. -/
def converse (env : Env σ) : Body (Conversation σ) (Conversation σ) := fun talk =>
  let got := getTfPacket env talk.reply talk.outside
  let log := talk.log ++ [arrivalOf got]
  if (arrivalOf got).carries DATA_HDD_DIR then
    .again { reply := got.packet, outside := (sendSuccess env got.state).state, log }
  else .leave { reply := got.packet, outside := got.state, log }

/-- An exchange before the first packet. -/
def conversationInitial (reply : Memory UInt8) (request : Requested σ) : Conversation σ where
  reply
  outside := request.state
  log := []

/-- Behind a request the whole exchange is over and was this one. -/
inductive ConversesBehind (env : Env σ) (reply : Memory UInt8) (request : Requested σ)
    (talk : Conversation σ) : Prop
  | refused (refused : request.ret < 0) (nothing : talk = conversationInitial reply request)
  | ended (sent : 0 ≤ request.ret)
      (leaves : Leaves (converse env) (conversationInitial reply request) talk)

/-- The whole exchange of a listing is over and was this one. -/
def Converses (env : Env σ) (path : CString) (req reply : Memory UInt8) (outside : σ)
    (talk : Conversation σ) : Prop :=
  ConversesBehind env reply (sendCmdHddDir env req path outside) talk

/-- Nothing but `DATA_HDD_DIR` came before the last result of `get_tf_packet`. -/
def EndsWith (last : Arrival → Prop) (log : List Arrival) : Prop :=
  ∃ dirs final, log = dirs ++ [final] ∧
    (∀ arrival ∈ dirs, arrival.carries DATA_HDD_DIR) ∧ last final

/-- Nothing but `DATA_HDD_DIR`, then `DATA_HDD_DIR_END`. -/
def Complete (log : List Arrival) : Prop :=
  EndsWith (fun final => final.carries DATA_HDD_DIR_END) log

/-- Nothing but `DATA_HDD_DIR`, then a failure of `get_tf_packet`. -/
def CutShort (log : List Arrival) : Prop := EndsWith (fun final => ¬ 0 < final.ret) log

/-- `puppy_hdd_dir` returns with `p->error` still `0`. -/
def LibraryReportsSuccess (env : Env σ) (heap : Memory DirEntry) (path : CString)
    (req reply : Memory UInt8) (outside : σ) : Prop :=
  ∃ array fuel,
    (puppyHddDir env fuel heap 0 path req reply outside).returned = some (some array) ∧
      (puppyHddDir env fuel heap 0 path req reply outside).view.error = 0

/-- `do_hdd_dir` returns `0`. -/
def ToolReportsSuccess (env : Env σ) (tool : Tool) (path : CString)
    (req reply : Memory UInt8) (outside : σ) : Prop :=
  ∃ fuel, (doHddDir env tool fuel path req reply outside).returned = some 0

/-! ## How an exchange ends -/

theorem endsWith_concat_iff {last : Arrival → Prop} {dirs : List Arrival} {final : Arrival}
    (carry : ∀ arrival ∈ dirs, arrival.carries DATA_HDD_DIR) :
    EndsWith last (dirs ++ [final]) ↔ last final := by
  constructor
  · rintro ⟨others, other, split, _, holds⟩
    have parts := List.append_inj' split rfl
    rw [List.singleton_inj.mp parts.2]
    exact holds
  · exact fun holds => ⟨dirs, final, rfl, carry, holds⟩

theorem not_endsWith_nil (last : Arrival → Prop) : ¬ EndsWith last [] := by
  rintro ⟨dirs, final, split, _⟩
  simp at split

/-- An exchange that was cut short is not complete. -/
theorem CutShort.not_complete {log : List Arrival} (cut : CutShort log) : ¬ Complete log := by
  obtain ⟨dirs, final, rfl, carry, failed⟩ := cut
  rw [Complete, endsWith_concat_iff carry]
  exact fun carries => failed carries.1

/-- Behind a refused request nothing is exchanged. -/
theorem conversesBehind_of_refused {env : Env σ} {reply : Memory UInt8} {request : Requested σ}
    (refused : request.ret < 0) {talk : Conversation σ}
    (converses : ConversesBehind env reply request talk) : talk.log = [] := by
  cases converses with
  | refused _ nothing => rw [nothing]; rfl
  | ended sent => exact absurd refused (Int.not_lt.mpr sent)

theorem conversesBehind_iff_of_sent {env : Env σ} {reply : Memory UInt8} {request : Requested σ}
    (sent : 0 ≤ request.ret) {talk : Conversation σ} :
    ConversesBehind env reply request talk ↔
      Leaves (converse env) (conversationInitial reply request) talk := by
  constructor
  · intro converses
    cases converses with
    | refused refused => exact absurd refused (Int.not_lt.mpr sent)
    | ended _ leaves => exact leaves
  · exact .ended sent

theorem ConversesBehind.unique {env : Env σ} {reply : Memory UInt8} {request : Requested σ}
    {first second : Conversation σ} (left : ConversesBehind env reply request first)
    (right : ConversesBehind env reply request second) : first = second := by
  cases left with
  | refused refused nothing =>
      cases right with
      | refused _ alsoNothing => rw [nothing, alsoNothing]
      | ended sent => exact absurd refused (Int.not_lt.mpr sent)
  | ended sent leaves => exact leaves.unique ((conversesBehind_iff_of_sent sent).mp right)

theorem Converses.unique {env : Env σ} {path : CString} {req reply : Memory UInt8} {outside : σ}
    {first second : Conversation σ} (left : Converses env path req reply outside first)
    (right : Converses env path req reply outside second) : first = second :=
  ConversesBehind.unique left right

/-! ## The tool -/

def ToolLoop.talk (loop : ToolLoop σ) : Conversation σ :=
  { reply := loop.reply, outside := loop.outside, log := loop.log }

/-- The tool stands where the exchange stands, and has seen nothing but
`DATA_HDD_DIR`. -/
def ToolFollows (loop : ToolLoop σ) (talk : Conversation σ) : Prop :=
  loop.talk = talk ∧ ∀ arrival ∈ talk.log, arrival.carries DATA_HDD_DIR

/-- The loop of the tool follows the exchange. -/
theorem hddDirBody_follows (env : Env σ) (tool : Tool) (loop : ToolLoop σ)
    (talk : Conversation σ) (follows : ToolFollows loop talk) :
    Pass.Related ToolFollows (fun result talk => result.1 = 0 ↔ Complete talk.log)
      (fun _ _ => False) (hddDirBody env tool loop) (converse env talk) := by
  obtain ⟨rfl, carry⟩ := follows
  have turn := hddDirBody_cases env tool loop
  unfold converse ToolLoop.talk
  simp only
  generalize getTfPacket env loop.reply loop.outside = got at turn ⊢
  generalize hddDirBody env tool loop = pass at turn ⊢
  cases turn with
  | decoded stdout carries =>
      rw [if_pos carries]
      have carried := List.forall_mem_append.mpr ⟨carry, List.forall_mem_singleton.mpr carries⟩
      exact .again ⟨rfl, carried⟩
  | finished carries =>
      rw [if_neg (Arrival.not_carries carries (by decide))]
      apply Pass.Related.leave
      apply iff_of_true rfl
      exact (endsWith_concat_iff carry).mpr carries
  | failed notDir notEnd =>
      rw [if_neg notDir]
      apply Pass.Related.leave
      apply iff_of_false negEPROTO_ne_zero
      intro complete
      exact notEnd ((endsWith_concat_iff carry).mp complete)

/-- Behind a request the tool returns `0` exactly on complete exchanges. -/
private theorem toolRequested_iff (env : Env σ) (tool : Tool) (reply : Memory UInt8)
    (request : Requested σ) :
    (∃ fuel, (toolRequested env tool fuel reply request).returned = some 0) ↔
      ∃ talk, ConversesBehind env reply request talk ∧ Complete talk.log := by
  unfold toolRequested
  by_cases refused : request.ret < 0
  · simp only [if_pos refused]
    refine iff_of_false ?_ ?_
    · rintro ⟨_, success⟩
      exact negEPROTO_ne_zero (Option.some.inj success)
    · rintro ⟨talk, converses, complete⟩
      rw [conversesBehind_of_refused refused converses] at complete
      exact not_endsWith_nil _ complete
  · simp only [if_neg refused, conversesBehind_iff_of_sent (Int.not_lt.mp refused)]
    have initial : ToolFollows (toolInitial reply request) (conversationInitial reply request) :=
      ⟨rfl, fun _ member => absurd member List.not_mem_nil⟩
    rw [exists_returned_iff]
    constructor
    · rintro ⟨last, leaves⟩
      rcases leaves_cases_of_related (hddDirBody_follows env tool) (fun _ _ => id) initial leaves
        with ⟨talk, converses, success⟩ | ⟨_, given⟩
      · exact ⟨talk, converses, success.mp rfl⟩
      · exact given.elim
    · rintro ⟨talk, converses, complete⟩
      obtain ⟨⟨value, last⟩, leaves, success | given⟩ :=
        exists_leaves_of_related (hddDirBody_follows env tool) (fun _ _ => id) initial converses
      · obtain rfl : value = 0 := success.mpr complete
        exact ⟨last, leaves⟩
      · exact given.elim

private theorem toolRequested_unique {env : Env σ} {tool : Tool} {reply : Memory UInt8}
    {request : Requested σ} {m n : Nat} {first second : Int}
    (left : (toolRequested env tool m reply request).returned = some first)
    (right : (toolRequested env tool n reply request).returned = some second) :
    first = second := by
  unfold toolRequested at left right
  by_cases refused : request.ret < 0
  · rw [if_pos refused] at left right
    exact Option.some.inj (left.symm.trans right)
  · rw [if_neg refused] at left right
    obtain ⟨_, leftLeaves⟩ := exists_returned_iff.mp ⟨m, left⟩
    obtain ⟨_, rightLeaves⟩ := exists_returned_iff.mp ⟨n, right⟩
    exact congrArg Prod.fst (leftLeaves.unique rightLeaves)

/-- However many passes are allowed, the tool returns one value. -/
theorem doHddDir_returned_unique {env : Env σ} {tool : Tool} {path : CString}
    {req reply : Memory UInt8} {outside : σ} {m n : Nat} {first second : Int}
    (left : (doHddDir env tool m path req reply outside).returned = some first)
    (right : (doHddDir env tool n path req reply outside).returned = some second) :
    first = second :=
  toolRequested_unique left right

/-- The tool reports success exactly on complete exchanges. -/
theorem toolReportsSuccess_iff (env : Env σ) (tool : Tool) (path : CString)
    (req reply : Memory UInt8) (outside : σ) :
    ToolReportsSuccess env tool path req reply outside ↔
      ∃ talk, Converses env path req reply outside talk ∧ Complete talk.log :=
  toolRequested_iff env tool reply _

/-! ## The library -/

def DirLoop.talk (loop : DirLoop σ) : Conversation σ :=
  { reply := loop.reply, outside := loop.outside, log := loop.log }

/-- The library stands where the exchange stands, has seen nothing but
`DATA_HDD_DIR`, and has decoded it. -/
structure LibraryFollows (env : Env σ) (heap : Memory DirEntry) (loop : DirLoop σ)
    (talk : Conversation σ) : Prop where
  same : loop.talk = talk
  carry : ∀ arrival ∈ talk.log, arrival.carries DATA_HDD_DIR
  goes : loop.Goes
  invariant : DirInvariant env heap loop

/-- What the library returns at the end of an exchange. -/
structure LibraryEnds (result : Option (List DirEntry) × DirLoop σ) (talk : Conversation σ) :
    Prop where
  returns : result.1.isSome ↔ (received talk.log).length < maxEntries
  error : result.2.error = 0 ↔ Complete talk.log ∨ CutShort talk.log

/-- The library ran out of memory during an exchange. -/
def LibraryGivesUp (result : Option (List DirEntry) × DirLoop σ)
    (pass : Pass (Conversation σ) (Conversation σ)) : Prop :=
  result.1 = none ∧ maxEntries ≤ (received (loopValue pass).log).length

theorem received_length_le (log : List Arrival) (arrival : Arrival) :
    (received log).length ≤ (received (log ++ [arrival])).length := by
  rw [received_concat, List.length_append]
  exact Nat.le_add_right _ _

/-- More packets do not make more memory. -/
theorem LibraryGivesUp.kept (env : Env σ) (result : Option (List DirEntry) × DirLoop σ)
    (talk : Conversation σ) (gaveUp : LibraryGivesUp result (.again talk)) :
    LibraryGivesUp result (converse env talk) := by
  have more := received_length_le talk.log (arrivalOf (getTfPacket env talk.reply talk.outside))
  constructor
  · exact gaveUp.1
  · apply Nat.le_trans gaveUp.2
    simp only [converse]
    split
    · exact more
    · exact more

/-- Behind the loop the library has the error the loop has. -/
theorem DirInvariant.ends {env : Env σ} {heap : Memory DirEntry} {loop : DirLoop σ}
    (invariant : DirInvariant env heap loop) {talk : Conversation σ} (log : loop.log = talk.log)
    (error : loop.error = 0 ↔ Complete talk.log ∨ CutShort talk.log) :
    LibraryEnds (dirExit loop) talk := by
  obtain ⟨buffer, buffered, filled⟩ := invariant
  rw [log] at filled
  rcases filled.exit buffered with ⟨last, exit, _, kept, fits⟩ | ⟨exit, fits⟩
  · rw [exit]
    exact ⟨iff_of_true rfl (entriesFit_iff.mp fits), by rw [kept]; exact error⟩
  · rw [exit]
    rw [entriesFit_iff] at fits
    exact ⟨iff_of_false (by simp) fits, error⟩

/-- The loop of the library, with its condition tested behind each turn,
follows the exchange. -/
theorem dirTurn_follows (env : Env σ) (heap : Memory DirEntry) (loop : DirLoop σ)
    (talk : Conversation σ) (follows : LibraryFollows env heap loop talk) :
    Pass.Related (LibraryFollows env heap) LibraryEnds LibraryGivesUp
      (doWhile DirLoop.Goes dirExit (dirTurn env) loop) (converse env talk) := by
  obtain ⟨rfl, carry, ⟨unfinished, noError⟩, invariant⟩ := follows
  have turn := dirTurn_cases env loop
  have outcome := dirTurn_outcome invariant
  unfold converse DirLoop.talk
  simp only
  generalize getTfPacket env loop.reply loop.outside = got at turn ⊢
  generalize passed : dirTurn env loop = pass at turn outcome
  cases turn with
  | decoded carries stored =>
      rw [doWhile_of_again passed ⟨unfinished, noError⟩, if_pos carries]
      have carried := List.forall_mem_append.mpr ⟨carry, List.forall_mem_singleton.mpr carries⟩
      exact .again ⟨rfl, carried, ⟨unfinished, noError⟩, outcome⟩
  | exhausted carries full =>
      rw [doWhile_of_leave passed, if_pos carries]
      cases outcome with
      | exhausted fits =>
          rw [entriesFit_iff, Nat.not_le] at fits
          exact .giveUp ⟨rfl, Nat.le_of_lt_succ fits⟩
  | finished carries =>
      rw [doWhile_of_again_exit passed (fun goes => by cases goes.1),
        if_neg (Arrival.not_carries carries (by decide))]
      apply Pass.Related.leave
      apply outcome.ends rfl
      apply iff_of_true noError
      exact Or.inl ((endsWith_concat_iff carry).mpr carries)
  | refused messages accepted notDir notEnd =>
      rw [doWhile_of_again_exit passed (fun goes => EPROTO_ne_zero goes.2), if_neg notDir]
      apply Pass.Related.leave
      apply outcome.ends rfl
      apply iff_of_false EPROTO_ne_zero
      rintro (complete | cut)
      · exact notEnd ((endsWith_concat_iff carry).mp complete)
      · exact (endsWith_concat_iff carry).mp cut accepted
  | failed failed =>
      rw [doWhile_of_leave passed, if_neg (fun carries => failed carries.1)]
      apply Pass.Related.leave
      apply (invariant.accept fun carries => failed carries.1).ends rfl
      apply iff_of_true noError
      exact Or.inr ((endsWith_concat_iff carry).mpr failed)

/-- Behind a request the library reports success exactly on exchanges that are
complete or cut short and fit into memory. -/
private theorem library_iff (env : Env σ) (heap : Memory DirEntry) (reply : Memory UInt8)
    (request : Requested σ) :
    (∃ array fuel,
        (run (dirBody env) fuel (dirInitial 0 reply heap request)).returned = some (some array) ∧
          (run (dirBody env) fuel (dirInitial 0 reply heap request)).view.error = 0) ↔
      ∃ talk, ConversesBehind env reply request talk ∧
        (Complete talk.log ∨ CutShort talk.log) ∧ (received talk.log).length < maxEntries := by
  have initial := dirInitial_invariant env 0 reply heap request
  simp only [exists_returned_and_iff fun loop : DirLoop σ => loop.error = 0]
  by_cases refused : request.ret < 0
  · have error : (dirInitial 0 reply heap request).error = EPROTO := if_pos refused
    have stops : dirBody env (dirInitial 0 reply heap request) =
        .leave (dirExit (dirInitial 0 reply heap request)) :=
      whileLoop_of_not_condition fun goes => EPROTO_ne_zero (error.symm.trans goes.2)
    refine iff_of_false ?_ ?_
    · rintro ⟨array, last, leaves, success⟩
      have kept := dirExit_error (dirInitial 0 reply heap request)
      rw [← leaves.unique (leaves_of_leave stops), success, error] at kept
      exact EPROTO_ne_zero kept.symm
    · rintro ⟨talk, converses, good, _⟩
      rw [conversesBehind_of_refused refused converses] at good
      exact good.elim (not_endsWith_nil _) (not_endsWith_nil _)
  · have error : (dirInitial 0 reply heap request).error = 0 := if_neg refused
    have goes : (dirInitial 0 reply heap request).Goes := ⟨rfl, error⟩
    have follows : LibraryFollows env heap (dirInitial 0 reply heap request)
        (conversationInitial reply request) :=
      ⟨rfl, fun _ member => absurd member List.not_mem_nil, goes, initial⟩
    simp only [conversesBehind_iff_of_sent (Int.not_lt.mp refused)]
    unfold dirBody
    constructor
    · rintro ⟨array, last, leaves, success⟩
      rw [leaves_whileLoop_iff goes] at leaves
      rcases leaves_cases_of_related (dirTurn_follows env heap) (LibraryGivesUp.kept env) follows
        leaves with ⟨talk, converses, ends⟩ | ⟨_, given⟩
      · exact ⟨talk, converses, ends.error.mp success, ends.returns.mp rfl⟩
      · cases given.1
    · rintro ⟨talk, converses, good, few⟩
      obtain ⟨⟨value, last⟩, leaves, ends | given⟩ :=
        exists_leaves_of_related (dirTurn_follows env heap) (LibraryGivesUp.kept env) follows
          converses
      · obtain ⟨array, rfl⟩ := Option.isSome_iff_exists.mp (ends.returns.mpr few)
        exact ⟨array, last, (leaves_whileLoop_iff goes).mpr leaves, ends.error.mpr good⟩
      · exact absurd given.2 (Nat.not_le.mpr few)

/-- The library reports success exactly on exchanges that are complete or cut
short and fit into memory. -/
theorem libraryReportsSuccess_iff (env : Env σ) (heap : Memory DirEntry) (path : CString)
    (req reply : Memory UInt8) (outside : σ) :
    LibraryReportsSuccess env heap path req reply outside ↔
      ∃ talk, Converses env path req reply outside talk ∧
        (Complete talk.log ∨ CutShort talk.log) ∧ (received talk.log).length < maxEntries :=
  library_iff env heap reply _

/-- The tool reports success exactly when `DATA_HDD_DIR_END` came after nothing
but `DATA_HDD_DIR`.  The library agrees with it exactly when the exchange, if
it ends, was not cut short, or does not fit into memory and is not complete
either. -/
theorem libraryReportsSuccess_iff_tool (env : Env σ) (tool : Tool) (heap : Memory DirEntry)
    (path : CString) (req reply : Memory UInt8) (outside : σ) :
    (ToolReportsSuccess env tool path req reply outside ↔
        ∃ talk, Converses env path req reply outside talk ∧ Complete talk.log) ∧
      ((LibraryReportsSuccess env heap path req reply outside ↔
          ToolReportsSuccess env tool path req reply outside) ↔
        ∀ talk, Converses env path req reply outside talk →
          ((received talk.log).length < maxEntries → ¬ CutShort talk.log) ∧
            (maxEntries ≤ (received talk.log).length → ¬ Complete talk.log)) := by
  have whole := toolReportsSuccess_iff env tool path req reply outside
  refine ⟨whole, ?_⟩
  rw [whole, libraryReportsSuccess_iff]
  constructor
  · intro agree talk converses
    constructor
    · intro few cut
      obtain ⟨other, otherConverses, complete⟩ :=
        agree.mp ⟨talk, converses, Or.inr cut, few⟩
      rw [otherConverses.unique converses] at complete
      exact cut.not_complete complete
    · intro many complete
      obtain ⟨other, otherConverses, _, few⟩ := agree.mpr ⟨talk, converses, complete⟩
      rw [otherConverses.unique converses] at few
      exact Nat.not_le.mpr few many
  · intro condition
    constructor
    · rintro ⟨talk, converses, complete | cut, few⟩
      · exact ⟨talk, converses, complete⟩
      · exact absurd cut ((condition talk converses).1 few)
    · rintro ⟨talk, converses, complete⟩
      refine ⟨talk, converses, Or.inl complete, ?_⟩
      by_contra many
      exact (condition talk converses).2 (Nat.not_lt.mp many) complete

/-- A link to a device that answers nothing. -/
def silentLink : Link Unit := { pending := [], queue := [], device := () }

/-- The tool without its options. -/
def plainTool : Tool := { xml := false, ctime := fun _ => CString.empty }

/-- When the first read fails, the library reports success and the tool does
not. -/
theorem not_agree_of_failed_read :
    ¬ (LibraryReportsSuccess Link.muteEnv (heapOf 0) CString.empty (fun _ => 0) (fun _ => 0)
          silentLink ↔
        ToolReportsSuccess Link.muteEnv plainTool CString.empty (fun _ => 0) (fun _ => 0)
          silentLink) := by
  intro agree
  have returns : ((puppyHddDir Link.muteEnv 1 (heapOf 0) 0 CString.empty (fun _ => 0) (fun _ => 0)
      silentLink).returned.bind id).isSome := by
    decide +kernel
  obtain ⟨array, isArray⟩ := Option.isSome_iff_exists.mp returns
  obtain ⟨value, returned, rfl⟩ := Option.bind_eq_some_iff.mp isArray
  obtain ⟨fuel, success⟩ := agree.mp ⟨array, 1, returned, by decide +kernel⟩
  have failed : (doHddDir Link.muteEnv plainTool 1 CString.empty (fun _ => 0) (fun _ => 0)
      silentLink).returned = some negEPROTO := by
    decide +kernel
  exact negEPROTO_ne_zero (doHddDir_returned_unique failed success)

end Puppy.Listing
