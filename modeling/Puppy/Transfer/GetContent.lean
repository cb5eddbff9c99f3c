import Puppy.Transfer.GetHistory

/-!
# What a download writes

The destination of a download holds the payloads of the data packets between
the first accepted start and the first event that aborts the transfer, and at
most the front of the one payload whose write was cut short.
-/

namespace Puppy.Transfer

open Transition
open Puppy.Wire Puppy.Usb

universe u

variable {σ : Type u}

namespace Exchange

/-- Before the start: a packet that cannot be the first. -/
def spoils (exchange : Exchange) : Prop :=
  exchange.carries DATA_HDD_FILE_DATA ∨ exchange.carries FAIL

/-- Behind the start: `FAIL`, another start, or a payload that was not written
in full. -/
def aborts (exchange : Exchange) : Prop :=
  exchange.carries FAIL ∨ exchange.carries DATA_HDD_FILE_START ∨
    exchange.carries DATA_HDD_FILE_DATA ∧ ¬ exchange.writtenInFull

instance (exchange : Exchange) : Decidable exchange.spoils :=
  inferInstanceAs (Decidable (_ ∨ _))

instance (exchange : Exchange) : Decidable exchange.aborts :=
  inferInstanceAs (Decidable (_ ∨ _ ∨ _ ∧ _))

end Exchange

/-- The exchanges behind the first accepted start. -/
def behindStart : List Exchange → List Exchange
  | [] => []
  | exchange :: rest =>
      if exchange.carries DATA_HDD_FILE_START then rest
      else if exchange.spoils then []
      else behindStart rest

/-- The exchanges behind the first accepted start and before the first event
that aborts the transfer. -/
def transferred (log : List Exchange) : List Exchange :=
  (behindStart log).takeWhile fun exchange => ¬ exchange.aborts

/-- The first event that aborts the transfer. -/
def firstAbort (log : List Exchange) : Option Exchange :=
  ((behindStart log).dropWhile fun exchange => ¬ exchange.aborts).head?

/-- The payloads of the data packets in a list of exchanges. -/
def payloads (log : List Exchange) : List UInt8 :=
  (log.filter fun exchange => exchange.carries DATA_HDD_FILE_DATA).flatMap fun exchange =>
    payload exchange.packet

/-- A start was accepted and nothing has aborted the transfer. -/
def Transferring (log : List Exchange) : Prop :=
  ∃ before start behind,
    log = before ++ start :: behind ∧
      start.carries DATA_HDD_FILE_START ∧
      (∀ exchange ∈ before, ¬ exchange.carries DATA_HDD_FILE_START ∧ ¬ exchange.spoils) ∧
      ∀ exchange ∈ behind, ¬ exchange.aborts

/-! ## The states -/

namespace Exchange

theorem advance_abort (exchange : Exchange) : exchange.advance .abort = .abort := by
  simp [advance]

theorem advance_data (exchange : Exchange) :
    exchange.advance .data = if exchange.aborts then .abort else .data := by
  unfold advance aborts
  by_cases start : exchange.carries DATA_HDD_FILE_START
  · simp [start]
  · by_cases data : exchange.carries DATA_HDD_FILE_DATA
    · have notFail : ¬ exchange.carries FAIL := not_carries data (by decide)
      by_cases full : exchange.writtenInFull <;> simp [start, data, notFail, full]
    · by_cases fail : exchange.carries FAIL <;> simp [start, data, fail]

theorem advance_start (exchange : Exchange) :
    exchange.advance .start =
      if exchange.carries DATA_HDD_FILE_START then .data
      else if exchange.spoils then .abort else .start := by
  unfold advance spoils
  by_cases start : exchange.carries DATA_HDD_FILE_START
  · simp [start]
  · by_cases data : exchange.carries DATA_HDD_FILE_DATA
    · simp [start, data]
    · by_cases fail : exchange.carries FAIL <;> simp [start, data, fail]

end Exchange

theorem advanceAll_abort (log : List Exchange) : advanceAll .abort log = .abort := by
  induction log with
  | nil => rfl
  | cons exchange rest ih => rw [advanceAll_cons, Exchange.advance_abort, ih]

/-- The data phase lasts as long as nothing aborts it. -/
theorem advanceAll_data_iff {log : List Exchange} :
    advanceAll .data log = .data ↔ ∀ exchange ∈ log, ¬ exchange.aborts := by
  induction log with
  | nil => simp [advanceAll]
  | cons exchange rest ih =>
      rw [advanceAll_cons, Exchange.advance_data, List.forall_mem_cons]
      by_cases aborts : exchange.aborts
      · rw [if_pos aborts, advanceAll_abort]
        simp [aborts]
      · rw [if_neg aborts, ih]
        simp [aborts]

theorem transferring_cons_iff {exchange : Exchange} {rest : List Exchange} :
    Transferring (exchange :: rest) ↔
      exchange.carries DATA_HDD_FILE_START ∧ (∀ visited ∈ rest, ¬ visited.aborts) ∨
        ¬ exchange.carries DATA_HDD_FILE_START ∧ ¬ exchange.spoils ∧ Transferring rest := by
  constructor
  · rintro ⟨before, start, behind, split, carries, clean, kept⟩
    cases before with
    | nil =>
        obtain ⟨rfl, rfl⟩ := List.cons.inj split
        exact Or.inl ⟨carries, kept⟩
    | cons first before =>
        obtain ⟨rfl, rfl⟩ := List.cons.inj split
        have here := clean exchange List.mem_cons_self
        exact Or.inr ⟨here.1, here.2, before, start, behind, rfl, carries,
          fun visited member => clean visited (List.mem_cons_of_mem _ member), kept⟩
  · rintro (⟨carries, kept⟩ | ⟨notStart, notSpoils, before, start, behind, rfl, carries,
      clean, kept⟩)
    · exact ⟨[], exchange, rest, rfl, carries, by simp, kept⟩
    · refine ⟨exchange :: before, start, behind, rfl, carries, ?_, kept⟩
      rw [List.forall_mem_cons]
      exact ⟨⟨notStart, notSpoils⟩, clean⟩

/-- A download is in the data phase exactly while it transfers. -/
theorem advanceAll_start_iff {log : List Exchange} :
    advanceAll .start log = .data ↔ Transferring log := by
  induction log with
  | nil => simp [advanceAll, Transferring]
  | cons exchange rest ih =>
      rw [advanceAll_cons, Exchange.advance_start, transferring_cons_iff]
      by_cases start : exchange.carries DATA_HDD_FILE_START
      · rw [if_pos start, advanceAll_data_iff]
        simp only [start, true_and, not_true, false_and, or_false]
      · rw [if_neg start]
        by_cases spoils : exchange.spoils
        · rw [if_pos spoils, advanceAll_abort]
          simp only [start, spoils, false_and, not_true, and_false, or_false, reduceCtorEq]
        · rw [if_neg spoils, ih]
          simp only [start, spoils, false_and, not_false_iff, true_and, false_or]

/-! ## The bytes -/

/-- A packet with a whole offset field declares as many bytes as are written. -/
theorem dataLen_toNat {packet : Memory UInt8} (declared : 16 ≤ (packetLength packet).toNat) :
    (dataLen packet).toNat = payloadSize packet := by
  rw [dataLen, UInt16.toNat_sub_of_le _ _ (by rw [UInt16.le_iff_toNat_le]; exact declared)]
  rfl

namespace Exchange

/-- Outside the data phase nothing lands. -/
theorem Lawful.landed_eq_nil {state : GetState} {exchange : Exchange}
    (lawful : exchange.Lawful state)
    (idle : ¬ (state = .data ∧ exchange.carries DATA_HDD_FILE_DATA)) : exchange.landed = [] := by
  have none : exchange.write = none := by
    by_contra some
    exact idle (lawful.written.mp some)
  rw [landed, none]

/-- A payload that was written in full has landed. -/
theorem landed_of_writtenInFull {exchange : Exchange} (full : exchange.writtenInFull)
    (declared : 16 ≤ (packetLength exchange.packet).toNat) :
    exchange.landed = payload exchange.packet := by
  unfold writtenInFull at full
  rw [landed, full]
  simp only [dataLen_toNat declared, Int.toNat_natCast, payload]
  rw [List.take_of_length_le (by simp)]

/-- Of a payload that was cut short the front has landed. -/
theorem Lawful.landed_of_cut {state : GetState} {exchange : Exchange}
    (lawful : exchange.Lawful state) (cut : ¬ exchange.writtenInFull)
    (declared : 16 ≤ (packetLength exchange.packet).toNat) :
    exchange.landed = [] ∨
      exchange.landed <+: payload exchange.packet ∧
        exchange.landed.length < (payload exchange.packet).length := by
  cases written : exchange.write with
  | none =>
      rw [landed, written]
      exact Or.inl rfl
  | some w =>
      have size := dataLen_toNat declared
      have less : w < payloadSize exchange.packet := by
        have atMost := lawful.atMost w written
        rw [size] at atMost
        refine lt_of_le_of_ne atMost fun same => cut ?_
        rw [writtenInFull, written, size, same]
      have front : exchange.landed = (payload exchange.packet).take w.toNat := by
        rw [landed, written, payload, ← size]
      have length : (payload exchange.packet).length = payloadSize exchange.packet := by simp
      by_cases empty : payloadSize exchange.packet = 0
      · rw [front, List.eq_nil_of_length_eq_zero (length.trans empty)]
        exact Or.inl List.take_nil
      · rw [front, List.length_take, length]
        exact Or.inr ⟨List.take_prefix _ _, by omega⟩

end Exchange

/-- After an abort nothing lands. -/
theorem flatMap_landed_abort {log : List Exchange} (lawful : LawfulFrom .abort log) :
    log.flatMap Exchange.landed = [] := by
  induction log with
  | nil => rfl
  | cons exchange rest ih =>
      obtain ⟨here, behind⟩ := lawful
      rw [Exchange.advance_abort] at behind
      rw [List.flatMap_cons, here.landed_eq_nil (by simp), ih behind, List.append_nil]

/-- The front of the payload that was cut short, if any. -/
def TornOff (abort : Option Exchange) (torn : List UInt8) : Prop :=
  torn = [] ∨
    ∃ exchange, abort = some exchange ∧ exchange.carries DATA_HDD_FILE_DATA ∧
      torn <+: payload exchange.packet ∧ torn.length < (payload exchange.packet).length

/-- The data packets of a download declare at least their offset field. -/
def DeclaresPayload (log : List Exchange) : Prop :=
  ∀ exchange ∈ log, exchange.carries DATA_HDD_FILE_DATA →
    16 ≤ (packetLength exchange.packet).toNat

private theorem payloads_cons_of_data {exchange : Exchange} {rest : List Exchange}
    (data : exchange.carries DATA_HDD_FILE_DATA) :
    payloads (exchange :: rest) = payload exchange.packet ++ payloads rest := by
  simp [payloads, data]

private theorem payloads_cons_of_other {exchange : Exchange} {rest : List Exchange}
    (other : ¬ exchange.carries DATA_HDD_FILE_DATA) :
    payloads (exchange :: rest) = payloads rest := by
  simp [payloads, other]

/-- What lands in the data phase. -/
theorem flatMap_landed_data {log : List Exchange} (lawful : LawfulFrom .data log)
    (declared : DeclaresPayload log) :
    ∃ torn,
      log.flatMap Exchange.landed =
          payloads (log.takeWhile fun exchange => ¬ exchange.aborts) ++ torn ∧
        TornOff (log.dropWhile fun exchange => ¬ exchange.aborts).head? torn := by
  induction log with
  | nil => exact ⟨[], rfl, Or.inl rfl⟩
  | cons exchange rest ih =>
      obtain ⟨here, behind⟩ := lawful
      rw [Exchange.advance_data] at behind
      rw [List.flatMap_cons]
      by_cases aborts : exchange.aborts
      · rw [if_pos aborts] at behind
        rw [flatMap_landed_abort behind, List.append_nil,
          List.takeWhile_cons_of_neg (by simpa using aborts),
          List.dropWhile_cons_of_neg (by simpa using aborts)]
        refine ⟨exchange.landed, rfl, ?_⟩
        by_cases data : exchange.carries DATA_HDD_FILE_DATA
        · have cut : ¬ exchange.writtenInFull := by
            rcases aborts with fail | start | ⟨_, cut⟩
            · exact absurd data (Exchange.not_carries fail (by decide))
            · exact absurd data (Exchange.not_carries start (by decide))
            · exact cut
          have whole := declared exchange List.mem_cons_self data
          exact (here.landed_of_cut cut whole).imp_right
            fun front => ⟨exchange, rfl, data, front⟩
        · exact Or.inl (here.landed_eq_nil fun h => data h.2)
      · rw [if_neg aborts] at behind
        obtain ⟨torn, bytes, tornOff⟩ := ih behind
          (fun visited member => declared visited (List.mem_cons_of_mem _ member))
        rw [bytes, List.takeWhile_cons_of_pos (by simpa using aborts),
          List.dropWhile_cons_of_pos (by simpa using aborts)]
        refine ⟨torn, ?_, tornOff⟩
        by_cases data : exchange.carries DATA_HDD_FILE_DATA
        · have full : exchange.writtenInFull := by
            by_contra cut
            exact aborts (Or.inr (Or.inr ⟨data, cut⟩))
          rw [Exchange.landed_of_writtenInFull full (declared exchange List.mem_cons_self data),
            payloads_cons_of_data data, List.append_assoc]
        · rw [here.landed_eq_nil (fun h => data h.2), payloads_cons_of_other data,
            List.nil_append]

/-- Before the start nothing lands. -/
theorem flatMap_landed_start {log : List Exchange} (lawful : LawfulFrom .start log) :
    log.flatMap Exchange.landed = (behindStart log).flatMap Exchange.landed ∧
      LawfulFrom .data (behindStart log) ∧ behindStart log ⊆ log := by
  induction log with
  | nil => exact ⟨rfl, trivial, List.Subset.refl _⟩
  | cons exchange rest ih =>
      obtain ⟨here, behind⟩ := lawful
      rw [Exchange.advance_start] at behind
      rw [List.flatMap_cons, here.landed_eq_nil (by simp), List.nil_append, behindStart]
      by_cases start : exchange.carries DATA_HDD_FILE_START
      · rw [if_pos start] at behind ⊢
        exact ⟨rfl, behind, List.subset_cons_self _ _⟩
      · rw [if_neg start] at behind ⊢
        by_cases spoils : exchange.spoils
        · rw [if_pos spoils] at behind ⊢
          exact ⟨flatMap_landed_abort behind, trivial, List.nil_subset _⟩
        · rw [if_neg spoils] at behind ⊢
          obtain ⟨bytes, kept, subset⟩ := ih behind
          exact ⟨bytes, kept, List.subset_cons_of_subset _ subset⟩

/-- The exchanges that wrote are those of the data packets in the data phase. -/
theorem LawfulFrom.wrote_iff {log before after : List Exchange} {exchange : Exchange}
    (lawful : LawfulFrom .start log) (split : log = before ++ exchange :: after) :
    exchange.write ≠ none ↔ Transferring before ∧ exchange.carries DATA_HDD_FILE_DATA := by
  rw [split, lawfulFrom_append_iff] at lawful
  rw [lawful.2.1.written, advanceAll_start_iff]

/-- At every point of a download the destination holds the payloads of the data
packets behind the first accepted start and before the first abort, and at most
the front of the one payload whose write was cut short.  The data packets behind
an accepted start and before an abort are written, and no others. -/
theorem puppyHddFileGet_dst (env : Env σ) (fuel : Nat) (srcPath : CString) (buffers : Buffers)
    (outside : σ)
    (declared : DeclaresPayload (puppyHddFileGet env fuel srcPath buffers outside).view.log) :
    let loop := (puppyHddFileGet env fuel srcPath buffers outside).view
    (∃ torn, loop.dst = payloads (transferred loop.log) ++ torn ∧
      TornOff (firstAbort loop.log) torn) ∧
    ∀ before exchange after, loop.log = before ++ exchange :: after →
      (exchange.write ≠ none ↔ Transferring before ∧ exchange.carries DATA_HDD_FILE_DATA) := by
  have history := puppyHddFileGet_history env fuel srcPath buffers outside
  generalize puppyHddFileGet env fuel srcPath buffers outside = finished at declared history ⊢
  intro loop
  obtain ⟨bytes, lawful, subset⟩ := flatMap_landed_start history.lawful
  constructor
  · rw [history.dst, bytes]
    exact flatMap_landed_data lawful fun exchange member => declared exchange (subset member)
  · intro before exchange after split
    exact history.lawful.wrote_iff split

/-- Three passes of a download of what is queued. -/
def queuedRun (messages : List (List UInt8)) :
    Pass (GetLoop (Link Unit)) (Int × GetLoop (Link Unit)) :=
  puppyHddFileGet Link.muteEnv 3 pathA zeroBuffers
    { pending := [], queue := messages, device := () }

instance (log : List Exchange) : Decidable (DeclaresPayload log) :=
  inferInstanceAs (Decidable (∀ exchange ∈ log, _ → _))

/-- A packet of two bytes and one of one byte, and a third one behind a `FAIL`. -/
def abortedMessages : List (List UInt8) :=
  [wireImage (putU32 (putU16 (fun _ => 0) 0 122) 4 DATA_HDD_FILE_START),
    wireImage (dataPacket (Memory.store (fun _ => 0) 16 [0x2a, 0x2b]) 2 0),
    wireImage (dataPacket (Memory.store (fun _ => 0) 16 [0x2c]) 1 2),
    wireImage (putU32 (putU16 (fun _ => 0) 0 12) 4 FAIL),
    wireImage (dataPacket (Memory.store (fun _ => 0) 16 [0x2d]) 1 3)]

/-- What was written before the `FAIL` stays, and nothing is added. -/
theorem puppyHddFileGet_dst_aborted :
    let loop := (puppyHddFileGet Link.muteEnv 5 pathA zeroBuffers
      { pending := [], queue := abortedMessages, device := () }).view
    loop.dst = [0x2a, 0x2b, 0x2c] ∧ loop.log.length = 5 ∧
      (∃ torn, loop.dst = payloads (transferred loop.log) ++ torn ∧
        TornOff (firstAbort loop.log) torn) ∧
      ∀ before exchange after, loop.log = before ++ exchange :: after →
        (exchange.write ≠ none ↔ Transferring before ∧ exchange.carries DATA_HDD_FILE_DATA) :=
  ⟨by decide +kernel, by decide +kernel, puppyHddFileGet_dst Link.muteEnv 5 pathA zeroBuffers
    { pending := [], queue := abortedMessages, device := () } (by decide +kernel)⟩

end Puppy.Transfer
