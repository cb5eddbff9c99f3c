import Puppy.Listing.Dir

/-!
# The end of a listing

The array a listing returns holds the decoded records in the order of their
arrival and one element more, which is the uninitialised memory behind them.
It ends with an empty name exactly when that memory does.
-/

namespace Puppy.Listing

open Transition
open Puppy.Wire Puppy.Usb

universe u

variable {σ : Type u}

/-- The entries decoded from a list of records, over uninitialised memory. -/
def decoded (env : Env σ) (heap : Memory DirEntry) (records : List Typefile) : List DirEntry :=
  records.mapIdx fun i record => decodeEntry env record (heap i)

/-- The records of the `DATA_HDD_DIR` packets in a list of arrivals. -/
def received (log : List Arrival) : List Typefile :=
  log.flatMap fun arrival =>
    if arrival.carries DATA_HDD_DIR then typefiles arrival.packet else []

/-- A buffer of that many entries can be allocated. -/
def EntriesFit (n : Nat) : Prop := Buffer.Fits PUPPY_DIR_ENTRY_SIZE 10 n

/-- The most entries a buffer can hold: ten, doubled twenty times. -/
def maxEntries : Nat := 10485760

theorem entriesFit_iff {n : Nat} : EntriesFit n ↔ n ≤ maxEntries := by
  constructor
  · rintro ⟨doublings, room, allocates⟩
    by_contra many
    have power : 2 ^ 20 < 2 ^ doublings := by
      rw [maxEntries] at many
      omega
    have doubled : 2 ^ 21 ≤ 2 ^ doublings :=
      Nat.pow_le_pow_right (by decide) ((Nat.pow_lt_pow_iff_right (by decide)).mp power)
    rw [Buffer.Allocates, PUPPY_DIR_ENTRY_SIZE] at allocates
    omega
  · exact fun few => ⟨20, few, by decide⟩

/-- The buffer holds the entries decoded so far, with untouched memory behind
them. -/
structure Filled (env : Env σ) (heap : Memory DirEntry) (records : List Typefile)
    (buffer : Buffer DirEntry) : Prop where
  grown : Buffer.Grown 10 buffer
  elSize : buffer.elSize = PUPPY_DIR_ENTRY_SIZE
  count : buffer.curEls = records.length
  values : buffer.dupValues = decoded env heap records
  untouched : ∀ i, records.length ≤ i → buffer.data i = heap i

/-! ## One packet -/

theorem received_concat (log : List Arrival) (arrival : Arrival) :
    received (log ++ [arrival]) =
      received log ++
        if arrival.carries DATA_HDD_DIR then typefiles arrival.packet else [] := by
  simp [received]

theorem decoded_concat (env : Env σ) (heap : Memory DirEntry) (records : List Typefile)
    (record : Typefile) :
    decoded env heap (records ++ [record]) =
      decoded env heap records ++ [decodeEntry env record (heap records.length)] := by
  simp [decoded, List.mapIdx_append]

section Filling

variable {env : Env σ} {heap : Memory DirEntry} {records : List Typefile}
  {buffer : Buffer DirEntry}

/-- The buffer is extended by an entry, or can not grow. -/
theorem Filled.add (filled : Filled env heap records buffer) :
    (∃ next, Buffer.add none buffer = some (records.length, next) ∧ Buffer.Grown 10 next ∧
        next.elSize = PUPPY_DIR_ENTRY_SIZE ∧ next.curEls = records.length + 1 ∧
        next.data = buffer.data ∧ EntriesFit (records.length + 1)) ∨
      Buffer.add none buffer = none ∧ ¬ EntriesFit (records.length + 1) := by
  rcases Buffer.add_none_cases (by decide) filled.grown with
    ⟨next, added, grown, elSize, count, data⟩ | ⟨full, fits⟩
  · rw [filled.count] at added count
    rw [filled.elSize] at elSize
    have fits := grown.fits
    rw [elSize, count] at fits
    exact Or.inl ⟨next, added, grown, elSize, count, data, fits⟩
  · rw [filled.elSize, filled.count] at fits
    exact Or.inr ⟨full, fits⟩

theorem Filled.decodeRecord (filled : Filled env heap records buffer) (record : Typefile) :
    (∃ next, decodeRecord env buffer record = some next ∧
        Filled env heap (records ++ [record]) next) ∨
      decodeRecord env buffer record = none ∧ ¬ EntriesFit (records.length + 1) := by
  unfold Listing.decodeRecord
  rcases filled.add with ⟨next, added, grown, elSize, count, data, _⟩ | ⟨full, fits⟩
  · rw [added]
    refine Or.inl ⟨_, rfl, ⟨grown.doubled, grown.allocates, grown.inside⟩, elSize, ?_, ?_, ?_⟩
    · simp only [Buffer.set, count, List.length_append, List.length_cons, List.length_nil]
    · have kept := filled.values
      rw [Buffer.dupValues, filled.count] at kept
      rw [decoded_concat, ← kept, Buffer.dupValues_set count, data,
        filled.untouched _ (Nat.le_refl _)]
    · intro i behind
      simp only [List.length_append, List.length_cons, List.length_nil] at behind
      simp only [Buffer.set, data]
      rw [Memory.store_above _ (by simpa using behind)]
      exact filled.untouched i (by omega)
  · rw [full]
    exact Or.inr ⟨rfl, fits⟩

theorem Filled.foldlM (more : List Typefile) : ∀ {records : List Typefile}
    {buffer : Buffer DirEntry}, Filled env heap records buffer →
      (∃ next, more.foldlM (Listing.decodeRecord env) buffer = some next ∧
        Filled env heap (records ++ more) next) ∨
      more.foldlM (Listing.decodeRecord env) buffer = none ∧
        ¬ EntriesFit (records.length + more.length) := by
  induction more with
  | nil =>
      intro records buffer filled
      exact Or.inl ⟨buffer, rfl, by rw [List.append_nil]; exact filled⟩
  | cons record more ih =>
      intro records buffer filled
      rw [List.foldlM_cons]
      rcases filled.decodeRecord record with ⟨next, stored, extended⟩ | ⟨full, fits⟩
      · rw [stored]
        have rest := ih extended
        rw [List.append_assoc, List.length_append] at rest
        refine rest.imp_right fun ⟨full, fits⟩ => ⟨full, fun all => fits ?_⟩
        rw [List.length_cons] at all
        exact all.le (by simp only [List.length_cons, List.length_nil]; omega)
      · rw [full]
        refine Or.inr ⟨rfl, fun all => fits (all.le ?_)⟩
        rw [List.length_cons]
        omega

/-- The array returned: the decoded entries and the memory behind them. -/
theorem Filled.exit (filled : Filled env heap records buffer) {loop : DirLoop σ}
    (buffered : loop.buffer = some buffer) :
    (∃ last, dirExit loop = (some (decoded env heap records ++ [heap records.length]), last) ∧
        last.log = loop.log ∧ last.error = loop.error ∧ EntriesFit (records.length + 1)) ∨
      dirExit loop = (none, loop) ∧ ¬ EntriesFit (records.length + 1) := by
  unfold dirExit
  rw [buffered, Option.bind_some]
  rcases filled.add with ⟨next, added, _, _, count, data, fits⟩ | ⟨full, fits⟩
  · have kept := filled.values
    rw [Buffer.dupValues, filled.count] at kept
    rw [added]
    simp only
    rw [Buffer.dupValues_of_count count, data, kept, filled.untouched _ (Nat.le_refl _)]
    exact Or.inl ⟨_, rfl, rfl, rfl, fits⟩
  · rw [full]
    exact Or.inr ⟨rfl, fits⟩

end Filling

/-! ## Whole runs -/

/-- What holds whenever the loop of a listing goes round. -/
def DirInvariant (env : Env σ) (heap : Memory DirEntry) (loop : DirLoop σ) : Prop :=
  ∃ buffer, loop.buffer = some buffer ∧ Filled env heap (received loop.log) buffer

/-- What a listing leaves behind: the decoded entries and one more, or nothing
when that many can not be allocated. -/
inductive DirOutcome (env : Env σ) (heap : Memory DirEntry) :
    Option (List DirEntry) × DirLoop σ → Prop
  | returned {array : List DirEntry} {loop : DirLoop σ}
      (array_eq : array = decoded env heap (received loop.log) ++ [heap (received loop.log).length])
      (fits : EntriesFit ((received loop.log).length + 1)) :
      DirOutcome env heap (some array, loop)
  | exhausted {loop : DirLoop σ} (fits : ¬ EntriesFit ((received loop.log).length + 1)) :
      DirOutcome env heap (none, loop)

section Runs

variable {env : Env σ} {heap : Memory DirEntry} {loop : DirLoop σ}

theorem DirInvariant.exit (invariant : DirInvariant env heap loop) :
    DirOutcome env heap (dirExit loop) := by
  obtain ⟨buffer, buffered, filled⟩ := invariant
  rcases filled.exit buffered with ⟨last, exit, log, _, fits⟩ | ⟨exit, fits⟩
  · rw [exit]
    rw [← log] at fits ⊢
    exact .returned rfl fits
  · rw [exit]
    exact .exhausted fits

/-- A packet without records leaves the buffer as it is. -/
theorem DirInvariant.accept (invariant : DirInvariant env heap loop) {got : Received σ}
    (other : ¬ (arrivalOf got).carries DATA_HDD_DIR) :
    DirInvariant env heap (loop.accept got) := by
  obtain ⟨buffer, buffered, filled⟩ := invariant
  refine ⟨buffer, buffered, ?_⟩
  simp only [DirLoop.accept]
  rw [received_concat, if_neg other, List.append_nil]
  exact filled

/-- The records of a packet are appended, or they do not fit. -/
theorem DirInvariant.decodeDir (invariant : DirInvariant env heap loop) {got : Received σ}
    (carries : (arrivalOf got).carries DATA_HDD_DIR) :
    (∃ buffer, loop.buffer.bind (decodeDir env got.packet) = some buffer ∧
        Filled env heap (received (loop.accept got).log) buffer) ∨
      loop.buffer.bind (decodeDir env got.packet) = none ∧
        ¬ EntriesFit (received (loop.accept got).log).length := by
  obtain ⟨buffer, buffered, filled⟩ := invariant
  rw [buffered, Option.bind_some]
  simp only [DirLoop.accept]
  rw [received_concat, if_pos carries, List.length_append]
  exact filled.foldlM (typefiles got.packet)

/-- One turn of the listing loop. -/
theorem dirTurn_outcome (invariant : DirInvariant env heap loop) :
    (dirTurn env loop).Holds (DirInvariant env heap) (DirOutcome env heap) := by
  have turn := dirTurn_cases env loop
  generalize getTfPacket env loop.reply loop.outside = got at turn
  generalize dirTurn env loop = pass at turn ⊢
  cases turn with
  | decoded carries stored =>
      rcases invariant.decodeDir carries with ⟨buffer, same, filled⟩ | ⟨full, _⟩
      · rw [stored] at same
        cases same
        exact ⟨_, rfl, filled⟩
      · rw [stored] at full
        cases full
  | exhausted carries full =>
      rcases invariant.decodeDir carries with ⟨buffer, stored, _⟩ | ⟨_, fits⟩
      · rw [full] at stored
        cases stored
      · exact .exhausted fun all => fits (all.le (Nat.le_succ _))
  | finished carries => exact invariant.accept (Arrival.not_carries carries (by decide))
  | refused messages accepted notDir notEnd => exact invariant.accept notDir
  | failed failed => exact (invariant.accept fun carries => failed carries.1).exit

/-- Before the first packet. -/
theorem dirInitial_invariant (env : Env σ) (error : Int) (reply : Memory UInt8)
    (heap : Memory DirEntry) (request : Requested σ) :
    DirInvariant env heap (dirInitial error reply heap request) := by
  obtain ⟨buffer, made, grown, elSize, count, data⟩ :=
    Buffer.init_of_allocates 10 PUPPY_DIR_ENTRY_SIZE (by decide) (by decide) heap
  refine ⟨buffer, made, grown, elSize, count, ?_, fun i _ => congrFun data i⟩
  rw [Buffer.dupValues, count]
  rfl

/-- Every run of a listing keeps the buffer filled with what has been
received. -/
theorem puppyHddDir_outcome (env : Env σ) (fuel : Nat) (heap : Memory DirEntry) (error : Int)
    (path : CString) (req reply : Memory UInt8) (outside : σ) :
    (puppyHddDir env fuel heap error path req reply outside).Holds (DirInvariant env heap)
      (DirOutcome env heap) := by
  unfold puppyHddDir
  refine run_holds (fun loop invariant => ?_) fuel (dirInitial_invariant env error reply heap _)
  unfold dirBody whileLoop
  split
  · exact dirTurn_outcome invariant
  · exact invariant.exit

/-! ## The terminator -/

/-- All records received have a name that is not empty and ends inside its 95
bytes. -/
def NamesGiven (log : List Arrival) : Prop :=
  ∀ record ∈ received log, record.name.bytes ≠ [] ∧ record.name.length < 95

/-- The array is one element longer than the entries decoded, that element has
an empty name, and a scan for the first empty name visits exactly the decoded
entries. -/
structure Terminated (entries array : List DirEntry) : Prop where
  length : array.length = entries.length + 1
  empty : ∀ last, array.getLast? = some last → last.name 0 = 0
  visited : visits array = some entries

end Runs

/-- Behind entries with names the scan stops at the last element or runs past
it. -/
theorem visits_concat {entries : List DirEntry} (names : ∀ entry ∈ entries, entry.name 0 ≠ 0)
    (last : DirEntry) :
    visits (entries ++ [last]) = if last.name 0 = 0 then some entries else none := by
  induction entries with
  | nil => simp only [List.nil_append, visits, Option.map_none]
  | cons entry entries ih =>
      have rest := ih fun other member => names other (List.mem_cons_of_mem _ member)
      rw [List.cons_append, visits, if_neg (names entry List.mem_cons_self), rest]
      split <;> rfl

/-- An array with one element behind entries with names is terminated exactly
when that element has an empty name. -/
theorem terminated_concat_iff {entries : List DirEntry}
    (names : ∀ entry ∈ entries, entry.name 0 ≠ 0) (last : DirEntry) :
    Terminated entries (entries ++ [last]) ↔ last.name 0 = 0 := by
  constructor
  · intro terminated
    exact terminated.empty last (by simp)
  · intro empty
    refine ⟨by simp, fun other isLast => ?_, ?_⟩
    · rw [List.getLast?_append_of_ne_nil _ (by simp)] at isLast
      cases isLast
      exact empty
    · rw [visits_concat names, if_pos empty]

/-- The entries decoded from records with names have names. -/
theorem decoded_names (env : Env σ) (heap : Memory DirEntry) {log : List Arrival}
    (named : NamesGiven log) :
    ∀ entry ∈ decoded env heap (received log), entry.name 0 ≠ 0 := by
  intro entry member
  obtain ⟨i, inside, rfl⟩ := List.mem_mapIdx.mp member
  exact CString.copyTo_ne_zero (named _ (List.getElem_mem inside)).1 (heap i).name 0

/-- The array returned by a listing is terminated exactly when the records fit
into the buffer and the memory behind them happens to begin an empty name. -/
theorem puppyHddDir_terminated_iff (env : Env σ) (fuel : Nat) (heap : Memory DirEntry)
    (error : Int) (path : CString) (req reply : Memory UInt8) (outside : σ)
    (returned : (puppyHddDir env fuel heap error path req reply outside).returned.isSome)
    (named : NamesGiven (puppyHddDir env fuel heap error path req reply outside).view.log) :
    let run := puppyHddDir env fuel heap error path req reply outside
    (∃ array, run.returned = some (some array) ∧
        Terminated (decoded env heap (received run.view.log)) array) ↔
      (received run.view.log).length < maxEntries ∧
        (heap (received run.view.log).length).name 0 = 0 := by
  have outcome := puppyHddDir_outcome env fuel heap error path req reply outside
  generalize puppyHddDir env fuel heap error path req reply outside = run at *
  have names := decoded_names env heap named
  simp only
  cases run with
  | again loop => cases returned
  | leave result =>
      obtain ⟨value, last⟩ := result
      simp only [Pass.returned, Pass.view] at names ⊢
      cases outcome with
      | returned array_eq fits =>
          rw [entriesFit_iff] at fits
          rw [and_iff_right (show _ < maxEntries from fits), ← terminated_concat_iff names]
          simp only [Option.some.injEq, exists_eq_left', array_eq]
      | exhausted fits =>
          rw [entriesFit_iff] at fits
          simp only [Option.some.injEq, reduceCtorEq, false_and, exists_false, false_iff, not_and]
          exact fun few => absurd few fits

instance (log : List Arrival) : Decidable (NamesGiven log) :=
  inferInstanceAs (Decidable (∀ record ∈ received log, _ ∧ _))

/-- A packet with the record of a file `a`. -/
def onePacket : Memory UInt8 :=
  Memory.store (putU32 (putU16 (fun _ => 0) 0 122) 4 DATA_HDD_DIR) (typefileOffset 0 + 5)
    ([2] ++ List.replicate 8 0 ++ [0x61])

/-- A packet with the records of a file `b` and a directory `c`, and the front of
a third record. -/
def twoPacket : Memory UInt8 :=
  Memory.store
    (Memory.store (putU32 (putU16 (fun _ => 0) 0 246) 4 DATA_HDD_DIR) (typefileOffset 0 + 5)
      ([2] ++ List.replicate 7 0 ++ [7, 0x62]))
    (typefileOffset 1 + 5) ([1] ++ List.replicate 8 0 ++ [0x63])

/-- Uninitialised memory that holds one byte everywhere. -/
def heapOf (byte : UInt8) : Memory DirEntry := fun _ => ⟨0, 0, 0, fun _ => byte⟩

/-- Three passes of a listing of one file. -/
def oneFileRun (byte : UInt8) :
    Pass (DirLoop (Link Unit)) (Option (List DirEntry) × DirLoop (Link Unit)) :=
  puppyHddDir Link.muteEnv 3 (heapOf byte) 0 CString.empty (fun _ => 0) (fun _ => 0)
    { pending := []
      queue := [wireImage onePacket,
        wireImage (putU32 (putU16 (fun _ => 0) 0 8) 4 DATA_HDD_DIR_END)]
      device := () }

theorem puppyHddDir_terminated_iff_oneFileRun :
    let run := oneFileRun 0
    (∃ array, run.returned = some (some array) ∧
        Terminated (decoded Link.muteEnv (heapOf 0) (received run.view.log)) array) ↔
      (received run.view.log).length < maxEntries ∧
        (heapOf 0 (received run.view.log).length).name 0 = 0 :=
  puppyHddDir_terminated_iff Link.muteEnv 3 (heapOf 0) 0 CString.empty _ _ _ (by decide +kernel)
    (by decide +kernel)

/-- Over memory that is not zero the last of the two elements is not empty. -/
theorem not_terminated_of_stale_name :
    (oneFileRun 0xFF).returned.isSome ∧ NamesGiven (oneFileRun 0xFF).view.log ∧
      ∀ entries array, (oneFileRun 0xFF).returned = some (some array) →
        ¬ Terminated entries array := by
  have names : ((oneFileRun 0xFF).returned.bind id).map
      (fun array => array.getLast?.map fun last => last.name 0) = some (some 0xFF) := by
    decide +kernel
  refine ⟨by decide +kernel, by decide +kernel, fun entries array returned terminated => ?_⟩
  generalize (oneFileRun 0xFF).returned = result at names returned
  subst returned
  simp only [Option.bind_some, id, Option.map_some, Option.some.injEq] at names
  obtain ⟨last, isLast, name⟩ := Option.map_eq_some_iff.mp names
  rw [terminated.empty last isLast] at name
  exact absurd name (by decide)

end Puppy.Listing
