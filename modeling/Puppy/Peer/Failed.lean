import Puppy.Peer.Commands
import Puppy.Peer.Directories

/-!
# A handle that has failed

Behind `puppy_open` only `puppy_hdd_dir` sets `p->error`, and no call but
`puppy_status` resets it.  Until then `puppy_hdd_dir` still sends its request,
and returns an empty listing without waiting for the reply.  The replies stay on
the line, one for each such listing, and every command behind them reads what
was sent to an earlier call.
-/

namespace Puppy.Peer

open Transition
open Puppy.Wire Puppy.Usb Puppy.Control Puppy.Listing
open Puppy.Transfer (pathA)

universe u

variable {σ : Type u} {δ : Type u}

/-! ## With any device -/

/-- A listing on a handle that has failed sends its request, and returns the
memory of the terminator alone. -/
theorem puppyHddDir_of_failed (env : Env σ) {error : Int} (failed : error ≠ 0)
    (heap : Memory DirEntry) (path : CString) (req reply : Memory UInt8) (outside : σ) :
    ∃ last, last.error ≠ 0 ∧ last.outside = (sendCmdHddDir env req path outside).state ∧
      ∀ fuel, puppyHddDir env (fuel + 1) heap error path req reply outside =
        .leave (some [heap 0], last) :=
  run_dirBody_of_not_goes env fun goes => failed ((goes_dirInitial_iff _ _ _ _).mp goes).2

/-- A listing shows the memory of the terminator alone. -/
def Barren (call : Call) : Result (List DirEntry) → Prop
  | .list array => array = [call.scratch.heap 0]
  | .command _ | .put _ _ | .get _ _ _ _ => True

/-- A handle that has failed stays so, and its listings are empty. -/
theorem Performs.barren {env : Env σ} {globals next : Globals σ} {call : Call}
    {seen : Result (List DirEntry)} (performs : Performs env globals call seen next)
    (failed : globals.error ≠ 0) : Barren call seen ∧ next.error ≠ 0 := by
  cases performs with
  | command | put | get => exact ⟨trivial, failed⟩
  | @list path scratch fuel array last left =>
      obtain ⟨other, still, _, returns⟩ := puppyHddDir_of_failed env failed scratch.heap path
        scratch.req globals.reply globals.outside
      cases run_leave_unique left (returns 0)
      exact ⟨rfl, still⟩

/-- With any device and over every session without `puppy_status`: once a call has
left the handle with an error, it stays so, and every later listing returns the
memory of the terminator alone. -/
theorem failed_forever {env : Env σ} {globals last : Globals σ} {calls : List Call}
    {seen : List (Result (List DirEntry))} (failed : globals.error ≠ 0)
    (served : Served (Performs env) globals calls seen last) :
    last.error ≠ 0 ∧ List.Forall₂ Barren calls seen := by
  induction served with
  | nil => exact ⟨failed, .nil⟩
  | cons first _ ih =>
      obtain ⟨barren, still⟩ := first.barren failed
      obtain ⟨forever, all⟩ := ih still
      exact ⟨forever, .cons barren all⟩

/-! ## On a file server -/

/-- The first packet of a listing, as it comes from the device. -/
structure Page where
  data : List UInt8
  whole : Whole data
  bounded : data.length ≤ MAXIMUM_PACKET_SIZE
  /-- What is behind it is not read along with it. -/
  cut : data.length % MAX_READ ≠ 0
  kind : packetCmd (memoryOrder data) = DATA_HDD_DIR ∨
    packetCmd (memoryOrder data) = DATA_HDD_DIR_END

/-- A listing does not begin with a packet of full chunks. -/
def Directory.Cut (directory : Directory) : Prop :=
  ∀ message ∈ directory.messages.head?, message.data.length % MAX_READ ≠ 0

/-- The data of the first packet. -/
def Directory.front (directory : Directory) : List UInt8 :=
  match directory.messages with
  | [] => wireImage dirEnd
  | message :: _ => message.data

theorem Directory.script_front (directory : Directory) :
    directory.script.take 1 = [directory.front] := by
  unfold script front
  cases directory.messages <;> rfl

theorem Directory.front_cases (directory : Directory) :
    directory.front = wireImage dirEnd ∨
      ∃ message ∈ directory.messages.head?, directory.front = message.data := by
  unfold front
  cases directory.messages with
  | nil => exact Or.inl rfl
  | cons message messages => exact Or.inr ⟨message, rfl, rfl⟩

theorem Directory.whole_front (directory : Directory) : Whole directory.front := by
  rcases directory.front_cases with ends | ⟨message, _, same⟩
  · rw [ends]
    exact ⟨by decide +kernel, by decide +kernel⟩
  · rw [same]
    exact message.whole

theorem Directory.bounded_front (directory : Directory) :
    directory.front.length ≤ MAXIMUM_PACKET_SIZE := by
  rcases directory.front_cases with ends | ⟨message, first, same⟩
  · rw [ends]
    decide +kernel
  · rw [same]
    exact directory.bounded message (List.mem_of_mem_head? first)

theorem Directory.cut_front {directory : Directory} (cut : directory.Cut) :
    directory.front.length % MAX_READ ≠ 0 := by
  rcases directory.front_cases with ends | ⟨message, first, same⟩
  · rw [ends]
    decide +kernel
  · rw [same]
    exact cut message first

theorem Directory.kind_front (directory : Directory) :
    packetCmd (memoryOrder directory.front) = DATA_HDD_DIR ∨
      packetCmd (memoryOrder directory.front) = DATA_HDD_DIR_END := by
  rcases directory.front_cases with ends | ⟨message, _, same⟩
  · rw [ends]
    exact Or.inr (by decide +kernel)
  · rw [same]
    exact Or.inl message.dir

/-- The first packet of a listing. -/
def Directory.page (directory : Directory) (cut : directory.Cut) : Page where
  data := directory.front
  whole := directory.whole_front
  bounded := directory.bounded_front
  cut := Directory.cut_front cut
  kind := directory.kind_front

/-- What waits on the line. -/
inductive Letter where
  | answer (answer : Answer)
  | page (page : Page)

namespace Letter

def message : Letter → List UInt8
  | answer reply => reply.message
  | page first => first.data

/-- What a command returns when it reads a letter. -/
def ret (command : Command) : Letter → Int
  | answer reply => (reply.outcome command).ret
  | page _ => command.unhandled

/-- What it prints to `stdout`. -/
def stdout (command : Command) : Letter → List Report
  | answer reply => (reply.outcome command).stdout
  | page _ => []

end Letter

/-- No command takes a packet of a listing for its success. -/
theorem Page.kind_ne (page : Page) (command : Command) :
    packetCmd (memoryOrder page.data) ≠ command.success ∧
      packetCmd (memoryOrder page.data) ≠ FAIL ∧
      packetCmd (memoryOrder page.data) ≠ DATA_HDD_FILE_DATA := by
  have success : command.success = SUCCESS ∨ command.success = DATA_HDD_SIZE := by
    cases command <;> first | exact Or.inl rfl | exact Or.inr rfl
  rcases page.kind with kind | kind <;> rcases success with success | success <;>
    · rw [kind, success]
      decide

/-- A command behind whose request a letter is the first one to come. -/
theorem conclude_letter {τ : Type u} (device : Device τ) (host : Host) (letter : Letter)
    (command : Command) {sent : Int} (nonneg : 0 ≤ sent) (reply : Memory UInt8) {link : Link τ}
    {rest : List (List UInt8)} (queued : link.queue = letter.message :: rest) :
    let completed := conclude (Link.env device host) sent [] reply link command.success
      command.report command.unhandled
    completed.ret = letter.ret command ∧ completed.stdout = letter.stdout command ∧
      completed.state = { link with queue := rest } := by
  intro completed
  cases letter with
  | answer answer =>
      obtain ⟨outcome, state⟩ :=
        conclude_queued device host answer command nonneg reply queued
      exact ⟨congrArg Outcome.ret outcome, congrArg Outcome.stdout outcome, state⟩
  | page page =>
      obtain ⟨unsuccessful, notFail, notData⟩ := page.kind_ne command
      have delivered : Delivers (Link.env device host) link page.data { link with queue := rest } :=
        delivers_link (whole_nonempty page.whole) queued page.bounded (Or.inl page.cut)
      obtain ⟨carries, state, _⟩ := getTfPacket_of_whole delivered page.whole rfl notData reply
      simp only [completed]
      unfold conclude
      rw [if_neg (Int.not_lt.mpr nonneg)]
      simp only
      generalize getTfPacket (Link.env device host) reply link = got at carries state
      obtain ⟨accepted, cmd⟩ := carries
      change 0 < got.ret at accepted
      change packetCmd got.packet = _ at cmd
      rw [if_neg (Int.not_lt.mpr (Int.le_of_lt accepted)), cmd, if_neg unsuccessful,
        if_neg notFail]
      exact ⟨rfl, rfl, state⟩

/-! ## A session behind the failure -/

/-- The calls the session is made of. -/
inductive Inquiry where
  | command (order : Command)
  | list (path : CString)

def Inquiry.job : Inquiry → Job
  | command order => .command order
  | list path => .list path

/-- An inquiry as a call of the library. -/
def Inquires (env : Env σ) (globals : Globals σ) (errand : Inquiry × Scratch)
    (seen : Result (List DirEntry)) (next : Globals σ) : Prop :=
  Performs env globals ⟨errand.1.job, errand.2⟩ seen next

/-- The request is sent. -/
def Inquiry.Fits : Inquiry → Prop
  | command order => refusal order = none
  | list path => DirAccepts path

/-- What is seen of a call. -/
inductive Sight where
  | command (ret : Int) (stdout : List Report)
  | list (array : List DirEntry)

/-- A call shows what is seen of it. -/
def Sees : Sight → Result (List DirEntry) → Prop
  | .command ret stdout, .command outcome => outcome.ret = ret ∧ outcome.stdout = stdout
  | .list entries, .list array => array = entries
  | _, _ => False

section Session

variable (disk : Disk δ)

/-- What the device sends for a request. -/
def post (cut : ∀ path state, (disk.list path state).Cut) (inquiry : Inquiry) (state : δ) :
    Letter × δ :=
  match inquiry with
  | .command order =>
      let performed := disk.perform order state
      (.answer performed.1, performed.2)
  | .list path => (.page ((disk.list path state).page (cut path state)), state)

/-- What a call makes of the letters that are waiting: a command reads the one
that has waited longest, and a listing none. -/
def lag (cut : ∀ path state, (disk.list path state).Cut) (errand : Inquiry × Scratch)
    (mail : List Letter × δ) : Sight × (List Letter × δ) :=
  let posted := post disk cut errand.1 mail.2
  let queue := mail.1 ++ [posted.1]
  match errand.1 with
  | .command order =>
      let first := queue.head (List.append_ne_nil_of_right_ne_nil _ (List.cons_ne_nil _ _))
      (.command (first.ret order) (first.stdout order), (queue.tail, posted.2))
  | .list _ => (.list [errand.2.heap 0], (queue, posted.2))

/-- The handle has failed, and these letters are waiting. -/
def Behind (mail : List Letter × δ) (globals : Globals (Link (Server δ))) : Prop :=
  globals.error ≠ 0 ∧ ∃ server, server.disk = mail.2 ∧
    globals.outside = line (mail.1.map Letter.message) server

section Calls

variable (cut : ∀ path state, (disk.list path state).Cut) (amount : Nat → Nat) (host : Host)

/-- A command takes the first letter. -/
theorem lag_command {order : Command} (scratch : Scratch) {waiting : List Letter} {state : δ}
    {letter : Letter} {rest : List Letter}
    (queue : waiting ++ [.answer (disk.perform order state).1] = letter :: rest) :
    lag disk cut (.command order, scratch) (waiting, state) =
      (.command (letter.ret order) (letter.stdout order),
        (rest, (disk.perform order state).2)) := by
  simp only [lag, post, queue, List.head_cons, List.tail_cons]

/-- A command reads the letter that has waited longest. -/
theorem performs_command_lag {order : Command} (fits : refusal order = none) (scratch : Scratch)
    {mail : List Letter × δ} {globals : Globals (Link (Server δ))} (before : Behind mail globals) :
    ∃ seen next, Performs (Link.env (fileServer disk amount) host) globals
        ⟨.command order, scratch⟩ seen next ∧
      Sees (lag disk cut (.command order, scratch) mail).1 seen ∧
      Behind (lag disk cut (.command order, scratch) mail).2 next := by
  obtain ⟨waiting, state⟩ := mail
  obtain ⟨failed, server, rfl, outside⟩ := before
  obtain ⟨sent, course⟩ := call_sent disk amount host fits scratch.req globals.reply
    (waiting.map Letter.message) server
  rw [← outside] at course
  obtain ⟨letter, rest, queue⟩ := List.exists_cons_of_ne_nil
    (List.append_ne_nil_of_right_ne_nil waiting
      (List.cons_ne_nil (Letter.answer (disk.perform order server.disk).1) []))
  have queued : (waiting.map Letter.message ++
      [(disk.perform order server.disk).1.message]) =
        letter.message :: rest.map Letter.message := by
    rw [← List.map_cons, ← queue, List.map_append]
    rfl
  obtain ⟨ret, stdout, left⟩ := conclude_letter (fileServer disk amount) host letter order
    (Int.natCast_nonneg sent) globals.reply (show (line _ _).queue = _ from queued)
  rw [← course] at ret stdout left
  rw [lag_command disk cut scratch queue]
  exact ⟨_, _, .command rfl, ⟨ret, stdout⟩, failed, _, rfl, left⟩

/-- A listing leaves its first packet on the line. -/
theorem performs_list_lag {path : CString} (accepts : DirAccepts path) (scratch : Scratch)
    {mail : List Letter × δ} {globals : Globals (Link (Server δ))} (before : Behind mail globals) :
    ∃ seen next, Performs (Link.env (fileServer disk amount) host) globals
        ⟨.list path, scratch⟩ seen next ∧
      Sees (lag disk cut (.list path, scratch) mail).1 seen ∧
      Behind (lag disk cut (.list path, scratch) mail).2 next := by
  obtain ⟨waiting, state⟩ := mail
  obtain ⟨failed, server, rfl, outside⟩ := before
  obtain ⟨_, asked⟩ :=
    sendCmdHddDir_asks disk amount host accepts scratch.req (waiting.map Letter.message) server
  obtain ⟨last, still, left, returns⟩ := puppyHddDir_of_failed
    (Link.env (fileServer disk amount) host) failed scratch.heap path scratch.req globals.reply
    globals.outside
  refine ⟨_, _, .list (returns 0), rfl, still, (server.attend disk (.list path)).2, rfl, ?_⟩
  have played : (server.attend disk (.list path)).1 = [(disk.list path server.disk).front] :=
    (disk.list path server.disk).script_front
  rw [left, outside, asked, played]
  simp only [lag, post, List.map_append]
  rfl

/-- The library follows the letters. -/
theorem performs_lag :
    Refines (Inquires (Link.env (fileServer disk amount) host)) (lag disk cut)
      (fun errand => errand.1.Fits) Behind Sees := by
  rintro ⟨inquiry, scratch⟩ mail globals fits before
  cases inquiry with
  | command order => exact performs_command_lag disk cut amount host fits scratch before
  | list path => exact performs_list_lag disk cut amount host fits scratch before

end Calls

/-! ## What the session reads -/

variable (cut : ∀ path state, (disk.list path state).Cut)

/-- The call reads a letter. -/
def Inquiry.reads : Inquiry → Bool
  | command _ => true
  | list _ => false

/-- What the calls show when the letters come in this order. -/
def readOff : List (Inquiry × Scratch) → List Letter → List Sight
  | [], _ => []
  | (.list _, scratch) :: errands, letters => .list [scratch.heap 0] :: readOff errands letters
  | (.command order, _) :: errands, letter :: letters =>
      .command (letter.ret order) (letter.stdout order) :: readOff errands letters
  | (.command _, _) :: _, [] => []

/-- How many calls of a session read a letter. -/
def readers (errands : List (Inquiry × Scratch)) : Nat :=
  errands.countP fun errand => errand.1.reads

/-- The letters are read in the order in which they were sent. -/
theorem serveAll_lag (errands : List (Inquiry × Scratch)) (waiting : List Letter) (state : δ) :
    serveAll (lag disk cut) errands (waiting, state) =
      (readOff errands (waiting ++ (serveAll (post disk cut) (errands.map Prod.fst) state).1),
        ((waiting ++ (serveAll (post disk cut) (errands.map Prod.fst) state).1).drop
            (readers errands),
          (serveAll (post disk cut) (errands.map Prod.fst) state).2)) := by
  induction errands generalizing waiting state with
  | nil => simp [readOff, readers]
  | cons errand errands ih =>
      obtain ⟨inquiry, scratch⟩ := errand
      rw [serveAll_cons, List.map_cons, serveAll_cons]
      cases inquiry with
      | list path =>
          have own : readers ((.list path, scratch) :: errands) = readers errands :=
            List.countP_cons_of_neg Bool.false_ne_true
          have lagged : lag disk cut (.list path, scratch) (waiting, state) =
              (.list [scratch.heap 0],
                (waiting ++ [(post disk cut (.list path) state).1], state)) :=
            rfl
          rw [own, lagged, ih, List.append_assoc, List.singleton_append]
          rfl
      | command order =>
          have own : readers ((.command order, scratch) :: errands) = readers errands + 1 :=
            List.countP_cons_of_pos rfl
          obtain ⟨letter, rest, queue⟩ := List.exists_cons_of_ne_nil
            (List.append_ne_nil_of_right_ne_nil waiting
              (List.cons_ne_nil (Letter.answer (disk.perform order state).1) []))
          have arrived (posted : List Letter) :
              waiting ++ .answer (disk.perform order state).1 :: posted =
                letter :: (rest ++ posted) := by
            rw [← List.cons_append, ← queue, List.append_assoc, List.singleton_append]
          rw [own, lag_command disk cut scratch queue, ih]
          simp only [post, arrived]
          rfl

/-- A handle that has failed falls behind.  In every session of commands and
listings each listing shows the memory of the terminator alone and leaves one
more reply waiting; the commands read the replies in the order in which they
were sent, and at the end those that are waiting have grown by the listings. -/
theorem failed_lag (amount : Nat → Nat) (host : Host) {errands : List (Inquiry × Scratch)}
    (fit : ∀ errand ∈ errands, errand.1.Fits) {waiting : List Letter} {state : δ}
    {globals : Globals (Link (Server δ))} (before : Behind (waiting, state) globals) :
    let posted := serveAll (post disk cut) (errands.map Prod.fst) state
    let arrived := waiting ++ posted.1
    ∃ seen last, Served (Inquires (Link.env (fileServer disk amount) host)) globals errands seen
        last ∧
      List.Forall₂ Sees (readOff errands arrived) seen ∧
      Behind (arrived.drop (readers errands), posted.2) last ∧
      (arrived.drop (readers errands)).length =
        waiting.length + errands.countP fun errand => !errand.1.reads := by
  intro posted arrived
  obtain ⟨seen, last, served, sees, behind⟩ :=
    (performs_lag disk cut amount host).served fit before
  rw [serveAll_lag] at sees behind
  refine ⟨seen, last, served, sees, behind, ?_⟩
  have split := List.length_eq_countP_add_countP (fun errand : Inquiry × Scratch => errand.1.reads)
    (l := errands)
  have sent : arrived.length = waiting.length + errands.length := by
    rw [List.length_append, length_serveAll, List.length_map]
  rw [List.length_drop, sent, readers, split]
  simp only [Bool.not_eq_true, Bool.decide_eq_false]
  omega

end Session

/-! ## From a path that is too long -/

/-- A path that is too long makes the handle fail. -/
theorem behind_of_tooLong (disk : Disk δ) (amount : Nat → Nat) (host : Host) {path : CString}
    (short : path.length + 1 < 2 ^ 31) (tooLong : ¬ DirAccepts path) (scratch : Scratch)
    {state : δ} {globals : Globals (Link (Server δ))} (rest : AtRest state globals) :
    ∃ next, Performs (Link.env (fileServer disk amount) host) globals ⟨.list path, scratch⟩
        (.list [scratch.heap 0]) next ∧
      Behind ([], state) next := by
  obtain ⟨_, calls, outside⟩ := rest
  obtain ⟨last, failed, left, returns⟩ := run_dirBody_of_not_goes _
    (not_goes_of_tooLong short tooLong (Link.env (fileServer disk amount) host) globals.error
      globals.reply scratch.heap scratch.req globals.outside)
  refine ⟨_, .list (returns 0), failed, resting state calls, rfl, ?_⟩
  rw [left, sendCmdHddDir_of_tooLong short tooLong]
  exact outside

/-- No directory of the shelf begins with a packet of full chunks. -/
theorem cut_shelf (path : CString) (shelf : Shelf) : (shelfDisk.list path shelf).Cut := by
  intro message first
  obtain ⟨record, _, rfl⟩ := List.mem_map.mp (List.mem_of_mem_head? first)
  have length : record.message.data.length = 122 :=
    (wireImage_length _).trans (byteCount_recordPacket record.toRecord)
  rw [length]
  decide

/-- A handle on an empty shelf that has been asked for a path that is too long. -/
theorem failed_shelf :
    ∃ failed, Performs (Link.env (fileServer shelfDisk fun _ => 1) Host.epoch)
        (Globals.fresh (line [] (resting ([] : Shelf) 0))) ⟨.list PathRequest.longName, .zero⟩
        (.list [Scratch.zero.heap 0]) failed ∧
      Behind ([], ([] : Shelf)) failed := by
  have rest := atRest_fresh ([] : Shelf)
  have tooLong : ¬ DirAccepts PathRequest.longName := by
    unfold DirAccepts
    rw [PathRequest.longName_length]
    decide
  exact behind_of_tooLong shelfDisk (fun _ => 1) Host.epoch
    (by rw [PathRequest.longName_length]; decide) tooLong .zero rest

/-- Behind a path that is too long the shelf is listed as the memory of the
terminator. -/
theorem failed_forever_shelf :
    ∃ failed seen last,
      Served (Performs (Link.env (fileServer shelfDisk fun _ => 1) Host.epoch)) failed
        [⟨.list pathA, .zero⟩] [seen] last ∧
      last.error ≠ 0 ∧ List.Forall₂ Barren [⟨.list pathA, .zero⟩] [seen] := by
  obtain ⟨failed, _, behind⟩ := failed_shelf
  obtain ⟨seen, last, performs, _⟩ := performs_list_lag shelfDisk cut_shelf (fun _ => 1) Host.epoch
    (by decide : DirAccepts pathA) .zero behind
  have served := Served.cons performs .nil
  exact ⟨failed, seen, last, served, failed_forever behind.1 served⟩

/-- The command behind a listing reads the listing. -/
theorem failed_lag_shelf :
    ∃ failed seen last,
      Served (Inquires (Link.env (fileServer shelfDisk fun _ => 1) Host.epoch)) failed
        [(.list pathA, .zero), (.command .ready, .zero)] seen last ∧
      List.Forall₂ Sees [.list [Scratch.zero.heap 0], .command (-1) []] seen ∧
      Behind ([.answer .success], ([] : Shelf)) last ∧
      [Letter.answer .success].length = ([] : List Letter).length + 1 := by
  obtain ⟨failed, _, behind⟩ := failed_shelf
  have fit : ∀ errand ∈ [(Inquiry.list pathA, Scratch.zero), (.command .ready, .zero)],
      errand.1.Fits := by
    intro errand member
    rw [List.mem_cons, List.mem_singleton] at member
    rcases member with rfl | rfl
    · exact (by decide : DirAccepts pathA)
    · rfl
  obtain ⟨seen, last, served⟩ :=
    failed_lag shelfDisk cut_shelf (fun _ => 1) Host.epoch fit behind
  exact ⟨failed, seen, last, served⟩

end Puppy.Peer
