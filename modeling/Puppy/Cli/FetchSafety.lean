import Puppy.Cli.Fetch
import Puppy.Transition.Log

/-!
# puppy-get removes a file only behind a size check

What one turn of the loop can do is said once, for an entry that matches and
then for any entry.  From it come the rule that every call obeys behind the
calls before it, and what a failed download does to the rest of the run.
-/

namespace Puppy.Cli

open Transition
open Puppy.Listing

universe u

/-! ## The rule -/

/-- What the last `stat` of a file has returned. -/
def lastStat (path : CString) (calls : List Call) : Option (Option Int) :=
  calls.foldl (fun last call =>
    match call with
    | .stat other size => if other = path then some size else last
    | _ => last) none

/-- When the source file of an entry may be removed, behind the given calls. -/
structure Removable (flags : Flags) (globs : List CString) (entry : Entry)
    (before : List Call) : Prop where
  moves : flags.move = true
  acts : flags.noact = false
  file : entry.ftype = PUPPY_FILE
  matched : ∃ glob ∈ globs, Call.fnmatch glob entry.name 0 ∈ before
  complete : lastStat entry.name before = some (some entry.size)
  first : ∀ src result, Call.hddDel src result ∉ before

/-- What may be called about an entry behind the given calls. -/
def Allowed (flags : Flags) (globs : List CString) (entry : Entry) (before : List Call) :
    Call → Prop
  | .fnmatch _ _ _ | .stat _ _ => True
  | .hddFileGet _ dst _ => flags.noact = false ∧ dst = entry.name
  | .hddDel _ _ => Removable flags globs entry before

/-- Some download failed, or no `stat` behind it showed the listed size. -/
def DownloadFailed (entry : Entry) : List Call → Prop
  | [] => False
  | .hddFileGet _ _ result :: after =>
      result ≠ 0 ∨ lastStat entry.name after ≠ some (some entry.size) ∨
        DownloadFailed entry after
  | _ :: after => DownloadFailed entry after

theorem lastStat_concat (path : CString) (calls : List Call) (size : Option Int) :
    lastStat path (calls ++ [.stat path size]) = some size := by
  simp [lastStat]

/-! ## One turn -/

/-- The calls and `ok` behind the branch for an entry that matches. -/
inductive Transferred (flags : Flags) (src : CString) (entry : Entry) : List Call → Bool → Prop
  | skipped : Transferred flags src entry [.stat entry.name (some entry.size)] true
  | removed (result : Int) (moves : flags.move = true) (acts : flags.noact = false) :
      Transferred flags src entry
        [.stat entry.name (some entry.size), .hddDel src result] true
  | noted (size : Option Int) : Transferred flags src entry [.stat entry.name size] true
  | notRetrieved (size : Option Int) (result : Int) (acts : flags.noact = false) :
      Transferred flags src entry
        [.stat entry.name size, .hddFileGet src entry.name result] false
  | notChecked (size other : Option Int) (acts : flags.noact = false) :
      Transferred flags src entry
        [.stat entry.name size, .hddFileGet src entry.name 0, .stat entry.name other] false
  | retrieved (size : Option Int) (acts : flags.noact = false) :
      Transferred flags src entry
        [.stat entry.name size, .hddFileGet src entry.name 0,
          .stat entry.name (some entry.size)] true
  | moved (size : Option Int) (result : Int) (moves : flags.move = true)
      (acts : flags.noact = false) :
      Transferred flags src entry
        [.stat entry.name size, .hddFileGet src entry.name 0,
          .stat entry.name (some entry.size), .hddDel src result] true

/-- The calls of the loop over the globs. -/
def Matching (entry : Entry) (calls : List Call) : Prop :=
  ∀ call ∈ calls, ∃ glob result, call = .fnmatch glob entry.name result

/-- The calls and `ok` behind one pass of the loop over the listing. -/
inductive Visited (flags : Flags) (dir : CString) (globs : List CString) (entry : Entry) :
    List Call → Bool → Prop
  | passed {calls : List Call} (matching : Matching entry calls) :
      Visited flags dir globs entry calls true
  | matched {before calls : List Call} {ok : Bool} {glob : CString}
      (file : entry.ftype = PUPPY_FILE) (matching : Matching entry before) (given : glob ∈ globs)
      (hit : Call.fnmatch glob entry.name 0 ∈ before)
      (transferred : Transferred flags (devicePath dir entry.name) entry calls ok) :
      Visited flags dir globs entry (before ++ calls) ok

section Turns

variable {σ : Type u} (world : World σ) (flags : Flags) (dir : CString)

theorem stat_called (path : CString) (session : Session σ) :
    ∃ size outside, session.stat world path = (size, session.called (.stat path size) outside) :=
  ⟨_, _, rfl⟩

theorem fnmatch_called (glob name : CString) (session : Session σ) :
    ∃ result outside, session.fnmatch world glob name =
      (result, session.called (.fnmatch glob name result) outside) :=
  ⟨_, _, rfl⟩

theorem hddFileGet_called (src dst : CString) (session : Session σ) :
    ∃ result outside, session.hddFileGet world src dst =
      (result, session.called (.hddFileGet src dst result) outside) :=
  ⟨_, _, rfl⟩

theorem removeSource_calls (src dst : CString) (session : Session σ) :
    ∃ result, (removeSource world src dst session).calls =
        session.calls ++ [.hddDel src result] ∧
      (removeSource world src dst session).ok = session.ok := by
  simp only [removeSource]
  split <;> exact ⟨_, rfl, rfl⟩

/-- A file that is not there yet. -/
theorem download_calls (src : CString) (entry : Entry) {session : Session σ}
    (ok : session.ok = true) (acts : flags.noact = false) (size : Option Int) :
    ∃ calls, (download world flags src entry session).calls = session.calls ++ calls ∧
      Transferred flags src entry (.stat entry.name size :: calls)
        (download world flags src entry session).ok := by
  unfold download
  obtain ⟨result, outside, got⟩ := hddFileGet_called world src entry.name session
  simp only [got]
  by_cases retrieved : result = 0
  · subst retrieved
    rw [if_pos rfl]
    obtain ⟨other, outside', stat⟩ := stat_called world entry.name
      (session.called (.hddFileGet src entry.name 0) outside)
    simp only [stat]
    generalize checked : (session.called (.hddFileGet src entry.name 0) outside).called
      (.stat entry.name other) outside' = last
    have calls : last.calls =
        session.calls ++ [.hddFileGet src entry.name 0, .stat entry.name other] := by
      rw [← checked]
      exact List.append_assoc _ _ _
    have lastOk : last.ok = true := by
      rw [← checked]
      exact ok
    cases other with
    | none => exact ⟨_, calls, .notChecked size none acts⟩
    | some found =>
        simp only
        by_cases complete : found = entry.size
        · subst complete
          rw [if_neg (not_not.mpr rfl)]
          by_cases moves : flags.move = true
          · obtain ⟨result, removed, same⟩ := removeSource_calls world src entry.name last
            rw [if_pos (by simp [moves, acts]), removed, same, lastOk, calls]
            exact ⟨_, List.append_assoc _ _ _, .moved size result moves acts⟩
          · rw [if_neg (by simp [moves]), lastOk]
            exact ⟨_, calls, .retrieved size acts⟩
        · rw [if_pos complete]
          exact ⟨_, calls, .notChecked size (some found) acts⟩
  · rw [if_neg retrieved]
    exact ⟨_, rfl, .notRetrieved size result acts⟩

/-- An entry that matches. -/
theorem transfer_calls (entry : Entry) {session : Session σ} (ok : session.ok = true) :
    ∃ calls, (transfer world flags dir entry session).calls = session.calls ++ calls ∧
      Transferred flags (devicePath dir entry.name) entry calls
        (transfer world flags dir entry session).ok := by
  unfold transfer
  obtain ⟨size, outside, stat⟩ := stat_called world entry.name
    (session.print (.file (world.timeString entry.time) entry.size entry.name))
  simp only [stat]
  generalize checked : (session.print (.file (world.timeString entry.time) entry.size
    entry.name)).called (.stat entry.name size) outside = first
  have calls : first.calls = session.calls ++ [.stat entry.name size] := by
    rw [← checked]
    rfl
  have firstOk : first.ok = true := by
    rw [← checked]
    exact ok
  by_cases complete : size = some entry.size
  · subst complete
    rw [if_pos rfl]
    by_cases moves : (flags.move && !flags.noact) = true
    · rw [if_pos moves]
      obtain ⟨result, removed, same⟩ := removeSource_calls world (devicePath dir entry.name)
        entry.name ((first.print .alreadyTransferred).print .removing)
      rw [Bool.and_eq_true, Bool.not_eq_true'] at moves
      have firstCalls : ((first.print .alreadyTransferred).print .removing).calls =
          session.calls ++ [.stat entry.name (some entry.size)] := calls
      have sameOk : ((first.print .alreadyTransferred).print .removing).ok = true := firstOk
      rw [removed, same, sameOk, firstCalls]
      exact ⟨_, List.append_assoc _ _ _, .removed result moves.1 moves.2⟩
    · rw [if_neg moves]
      exact ⟨_, calls, firstOk ▸ .skipped⟩
  · rw [if_neg complete]
    by_cases noact : flags.noact = true
    · rw [if_neg (by simp [noact])]
      exact ⟨_, calls, firstOk ▸ .noted size⟩
    · obtain ⟨more, appended, transferred⟩ := download_calls world flags
        (devicePath dir entry.name) entry firstOk (by simpa using noact) size
      rw [if_pos (by simp [noact]), appended, calls]
      exact ⟨_, List.append_assoc _ _ _, transferred⟩

/-- The loop over the globs. -/
theorem matchGlobs_calls (entry : Entry) (globs : List CString) (session : Session σ) :
    ∃ calls, (matchGlobs world entry.name globs session).2.calls = session.calls ++ calls ∧
      (matchGlobs world entry.name globs session).2.ok = session.ok ∧ Matching entry calls ∧
      ((matchGlobs world entry.name globs session).1 = true →
        ∃ glob ∈ globs, Call.fnmatch glob entry.name 0 ∈ calls) := by
  induction globs generalizing session with
  | nil =>
      refine ⟨[], (List.append_nil _).symm, rfl, List.forall_mem_nil _, ?_⟩
      intro matched
      cases matched
  | cons glob globs ih =>
      obtain ⟨result, outside, asked⟩ := fnmatch_called world glob entry.name session
      simp only [matchGlobs, asked]
      have here : ∃ other result', Call.fnmatch glob entry.name result =
          .fnmatch other entry.name result' := ⟨glob, result, rfl⟩
      by_cases hit : result = 0
      · subst hit
        rw [if_pos rfl]
        refine ⟨_, rfl, rfl, List.forall_mem_singleton.mpr here, ?_⟩
        intro _
        exact ⟨glob, List.mem_cons_self, List.mem_cons_self⟩
      · rw [if_neg hit]
        obtain ⟨calls, appended, same, matching, found⟩ :=
          ih (session.called (.fnmatch glob entry.name result) outside)
        refine ⟨.fnmatch glob entry.name result :: calls, ?_, same,
          List.forall_mem_cons.mpr ⟨here, matching⟩, ?_⟩
        · rw [appended]
          exact List.append_assoc _ _ _
        · intro matched
          obtain ⟨other, given, hit⟩ := found matched
          exact ⟨other, List.mem_cons_of_mem _ given, List.mem_cons_of_mem _ hit⟩

/-- One pass of the loop over the listing. -/
theorem visit_visited (globs : List CString) (entry : Entry) (session : Session σ)
    (ok : session.ok = true) (fresh : session.calls = []) :
    Visited flags dir globs entry (visit world flags dir globs entry session).calls
      (visit world flags dir globs entry session).ok := by
  unfold visit
  by_cases file : entry.ftype = PUPPY_FILE
  · rw [if_pos file]
    obtain ⟨calls, appended, same, matching, found⟩ := matchGlobs_calls world entry globs session
    rw [fresh, List.nil_append] at appended
    generalize matchGlobs world entry.name globs session = result at appended same found
    obtain ⟨matched, session⟩ := result
    cases matched with
    | false =>
        simp only [Bool.false_eq_true, if_false]
        rw [appended, same, ok]
        exact .passed matching
    | true =>
        obtain ⟨glob, given, hit⟩ := found rfl
        obtain ⟨more, behind, transferred⟩ :=
          transfer_calls world flags dir entry (same.trans ok)
        simp only [if_true]
        rw [behind, appended]
        exact .matched file matching given hit transferred
  · rw [if_neg file, fresh, ok]
    exact .passed (List.forall_mem_nil _)

end Turns

/-! ## What a turn keeps to -/

theorem Matching.obeys {flags : Flags} {globs : List CString} {entry : Entry}
    {calls : List Call} (matching : Matching entry calls) :
    Obeys (Allowed flags globs entry) calls := by
  apply Obeys.of_forall
  intro call member before
  obtain ⟨glob, result, rfl⟩ := matching call member
  trivial

theorem Matching.not_hddDel {entry : Entry} {calls : List Call}
    (matching : Matching entry calls) (src : CString) (result : Int) :
    Call.hddDel src result ∉ calls := by
  intro member
  obtain ⟨glob, other, same⟩ := matching _ member
  cases same

theorem Matching.downloadFailed_append {entry : Entry} {calls more : List Call}
    (matching : Matching entry calls) :
    DownloadFailed entry (calls ++ more) ↔ DownloadFailed entry more := by
  induction calls with
  | nil => rfl
  | cons call calls ih =>
      obtain ⟨here, later⟩ := List.forall_mem_cons.mp matching
      obtain ⟨glob, result, rfl⟩ := here
      exact ih later

/-- Every call about an entry obeys the rule. -/
theorem Visited.obeys {flags : Flags} {dir : CString} {globs : List CString} {entry : Entry}
    {calls : List Call} {ok : Bool} (visited : Visited flags dir globs entry calls ok) :
    Obeys (Allowed flags globs entry) calls := by
  cases visited with
  | passed matching => exact matching.obeys
  | @matched before calls _ glob file matching given hit transferred =>
      rw [Obeys.append]
      refine ⟨matching.obeys, ?_⟩
      have removable : ∀ between : List Call, flags.move = true → flags.noact = false →
          (∀ src result, Call.hddDel src result ∉ between) →
          Removable flags globs entry
            (before ++ (between ++ [.stat entry.name (some entry.size)])) := by
        intro between moves acts none
        constructor
        · exact moves
        · exact acts
        · exact file
        · exact ⟨glob, given, List.mem_append_left _ hit⟩
        · rw [← List.append_assoc]
          exact lastStat_concat entry.name _ _
        · intro src result
          simp [matching.not_hddDel, none]
      cases transferred with
      | skipped => simp [Allowed]
      | noted size => simp [Allowed]
      | removed result moves acts =>
          simpa [Allowed] using removable [] moves acts (by simp)
      | notRetrieved size result acts => simp [Allowed, acts]
      | notChecked size other acts => simp [Allowed, acts]
      | retrieved size acts => simp [Allowed, acts]
      | moved size result moves acts =>
          simpa [Allowed, acts] using
            removable [.stat entry.name size,
              .hddFileGet (devicePath dir entry.name) entry.name 0] moves acts (by simp)

/-- A download that failed clears `ok`. -/
theorem Visited.ok_of_downloadFailed {flags : Flags} {dir : CString} {globs : List CString}
    {entry : Entry} {calls : List Call} {ok : Bool}
    (visited : Visited flags dir globs entry calls ok) (failed : DownloadFailed entry calls) :
    ok = false := by
  cases visited with
  | passed matching =>
      rw [← List.append_nil calls, matching.downloadFailed_append] at failed
      exact failed.elim
  | matched file matching given hit transferred =>
      rw [matching.downloadFailed_append] at failed
      cases transferred <;> simp_all [DownloadFailed, lastStat]

/-! ## Every run -/

section Runs

variable {σ : Type u} (world : World σ) (flags : Flags) (dir : CString) (globs : List CString)

theorem visitAll_of_not_ok (entries : List Entry) {session : Session σ}
    (failed : session.ok = false) :
    visitAll world flags dir globs entries session = exitWith session := by
  cases entries <;> simp [visitAll, failed]

/-- The entries before the first empty name. -/
def named (entries : List Entry) : List Entry :=
  entries.takeWhile fun entry => entry.name ≠ CString.empty

/-- What the loop over the listing keeps to. -/
structure Careful (entries : List Entry) (outcome : Outcome σ) : Prop where
  order : outcome.turns.map Turn.entry <+: named entries
  turns : ∀ turn ∈ outcome.turns, ∃ ok, Visited flags dir globs turn.entry turn.calls ok
  stops : ∀ front turn back, outcome.turns = front ++ turn :: back →
    DownloadFailed turn.entry turn.calls → back = [] ∧ outcome.status = some 1

theorem careful_of_no_turns (entries : List Entry) {outcome : Outcome σ}
    (none : outcome.turns = []) : Careful flags dir globs entries outcome := by
  constructor
  · rw [none]
    exact List.nil_prefix
  · rw [none]
    exact List.forall_mem_nil _
  · intro front turn back split
    rw [none] at split
    simp at split

theorem visitAll_careful (entries : List Entry) (session : Session σ) :
    Careful flags dir globs entries (visitAll world flags dir globs entries session) := by
  induction entries generalizing session with
  | nil =>
      apply careful_of_no_turns
      unfold visitAll
      split <;> rfl
  | cons entry rest ih =>
      by_cases goesOn : session.ok = true ∧ entry.name ≠ CString.empty
      · have visited := visit_visited world flags dir globs entry
          { session with calls := [] } goesOn.1 rfl
        simp only [visitAll, if_pos goesOn]
        generalize visit world flags dir globs entry { session with calls := [] } = next at visited
        have careful := ih next
        constructor
        · rw [named, List.takeWhile_cons, if_pos (decide_eq_true goesOn.2)]
          exact (List.prefix_cons_inj entry).mpr careful.order
        · intro turn member
          rcases List.mem_cons.mp member with rfl | later
          · exact ⟨next.ok, visited⟩
          · exact careful.turns turn later
        · intro front turn back split failed
          cases front with
          | nil =>
              obtain ⟨rfl, rfl⟩ := List.cons.inj split
              have notOk := visited.ok_of_downloadFailed failed
              rw [visitAll_of_not_ok world flags dir globs rest notOk]
              exact ⟨rfl, by rw [exitWith, notOk]; rfl⟩
          | cons first front =>
              exact careful.stops front turn back (List.cons.inj split).2 failed
      · apply careful_of_no_turns
        rw [visitAll, if_neg goesOn]
        rfl

end Runs

/-- `main` comes to the loop over the listing, or makes no turn. -/
theorem puppyGet_cases {σ : Type u} (world : World σ) (heap : Memory UInt8)
    (options : List Char) (operands : List CString) (opened : Bool)
    (listing : Option (List Entry)) (outside : σ) :
    (∃ directory globs entries session, operands = directory :: globs ∧ listing = some entries ∧
      puppyGet world heap options operands opened listing outside =
        visitAll world (readOptions options) (convertSlashes heap directory).result globs entries
          session) ∨
      (puppyGet world heap options operands opened listing outside).turns = [] := by
  unfold puppyGet
  cases ok : (readOptions options).ok with
  | false =>
      simp only [ok]
      exact Or.inr rfl
  | true =>
      simp only [ok]
      match operands with
      | [] => exact Or.inr rfl
      | [_] => exact Or.inr rfl
      | directory :: glob :: globs =>
          cases opened with
          | false => exact Or.inr rfl
          | true =>
              cases listing with
              | none => exact Or.inr rfl
              | some entries => exact Or.inl ⟨directory, glob :: globs, entries, _, rfl, rfl, rfl⟩

/-- In every run of puppy-get over any listing, whatever the calls return: the
entries are visited in order, each call obeys the rule behind the calls made
before it about the same entry, and a download that failed ends the run with the
exit status 1. -/
theorem puppyGet_safe {σ : Type u} (world : World σ) (heap : Memory UInt8)
    (options : List Char) (operands : List CString) (opened : Bool)
    (listing : Option (List Entry)) (outside : σ) :
    let outcome := puppyGet world heap options operands opened listing outside
    outcome.turns.map Turn.entry <+: listing.getD [] ∧
      (∀ turn ∈ outcome.turns,
        Obeys (Allowed (readOptions options) operands.tail turn.entry) turn.calls) ∧
      ∀ front turn back, outcome.turns = front ++ turn :: back →
        DownloadFailed turn.entry turn.calls → back = [] ∧ outcome.status = some 1 := by
  have careful : ∃ dir, Careful (readOptions options) dir operands.tail (listing.getD [])
      (puppyGet world heap options operands opened listing outside) := by
    rcases puppyGet_cases world heap options operands opened listing outside with
      ⟨directory, globs, entries, session, rfl, rfl, comes⟩ | noTurns
    · rw [comes]
      exact ⟨_, visitAll_careful _ _ _ _ _ _⟩
    · exact ⟨CString.empty, careful_of_no_turns _ _ _ _ noTurns⟩
  obtain ⟨dir, careful⟩ := careful
  refine ⟨careful.order.trans (List.takeWhile_prefix _), ?_, careful.stops⟩
  intro turn member
  obtain ⟨ok, visited⟩ := careful.turns turn member
  exact visited.obeys

end Puppy.Cli
