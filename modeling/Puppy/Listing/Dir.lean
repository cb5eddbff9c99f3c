import Puppy.Usb.Command
import Puppy.Memory.Buffer

/-!
# Listing a directory

`puppy_hdd_dir` and `decode_dir` of `libpuppy.c`.  The records of every
`DATA_HDD_DIR` packet are appended to a growable buffer whose uninitialised
memory is an argument, and the array returned is a copy of that buffer.  The
loop state carries the sticky error of the handle and a log of the results of
`get_tf_packet`.
-/

namespace Puppy.Listing

open Transition
open Puppy.Wire Puppy.Usb Puppy.Time

universe u

variable {σ : Type u}

/-! ## Records -/

/-- The fields of `struct typefile` that listings show. -/
structure Typefile where
  stamp : TfDatetime
  filetype : UInt8
  size : UInt64
  name : CString

/-- The address of `entries[i]`. -/
def typefileOffset (i : Nat) : Nat := dataOffset + i * TYPEFILE_SIZE

/-- `entries[i]`.  A name without a NUL goes on behind its field, at most to
the end of the packet. -/
def getTypefile (packet : Memory UInt8) (i : Nat) : Typefile where
  stamp := getTfDatetime packet (typefileOffset i)
  filetype := packet (typefileOffset i + 5)
  size := getU64 packet (typefileOffset i + 6)
  name := CString.ofMemory packet (typefileOffset i + 14)
    (dataOffset + (MAXIMUM_PACKET_SIZE - PACKET_HEAD_SIZE) - (typefileOffset i + 14))

/-- `count` in both `decode_dir`s: the division is one of `size_t`s. -/
def dirCount (packet : Memory UInt8) : UInt16 :=
  (((packetLength packet).toUInt64 - UInt64.ofNat PACKET_HEAD_SIZE) /
    UInt64.ofNat TYPEFILE_SIZE).toUInt16

/-- The records of a packet. -/
def typefiles (packet : Memory UInt8) : List Typefile :=
  (List.range (dirCount packet).toNat).map (getTypefile packet)

/-! ## Entries -/

/-- `enum puppy_ftype` -/
def PUPPY_DIR : UInt32 := 0
def PUPPY_FILE : UInt32 := 1
def PUPPY_UNKNOWN : UInt32 := 2

/-- `struct puppy_dir_entry`, with whatever an uninitialised one holds. -/
structure DirEntry where
  ftype : UInt32
  time : Int
  size : Int
  name : Memory UInt8

/-- `sizeof(struct puppy_dir_entry)` -/
def PUPPY_DIR_ENTRY_SIZE : Nat := 120

/-- Conversion of a `__u64` to `long long int`. -/
def toLongLong (n : UInt64) : Int := Int.bmod n.toNat (2 ^ 64)

/-- What `decode_dir` stores in an entry. -/
def decodeEntry (env : Env σ) (record : Typefile) (entry : DirEntry) : DirEntry where
  ftype :=
    if record.filetype = 1 then PUPPY_DIR
    else if record.filetype = 2 then PUPPY_FILE
    else PUPPY_UNKNOWN
  time := tfdtToTime env.mktime record.stamp
  size := toLongLong record.size
  name := CString.copyTo entry.name 0 record.name

/-- One pass of the loop in `decode_dir`. -/
def decodeRecord (env : Env σ) (buffer : Buffer DirEntry) (record : Typefile) :
    Option (Buffer DirEntry) := do
  let (ptr, buffer) ← Buffer.add none buffer
  some (buffer.set ptr (decodeEntry env record (buffer.data ptr)))

/-- `decode_dir` of `libpuppy.c`: `none` when the buffer can not grow. -/
def decodeDir (env : Env σ) (packet : Memory UInt8) (buffer : Buffer DirEntry) :
    Option (Buffer DirEntry) :=
  (typefiles packet).foldlM (decodeRecord env) buffer

/-! ## The loop -/

/-- One call of `get_tf_packet`. -/
structure Arrival where
  ret : Int
  packet : Memory UInt8

/-- The result of `get_tf_packet` as an arrival. -/
def arrivalOf (got : Received σ) : Arrival := { ret := got.ret, packet := got.packet }

/-- A packet with this command arrived. -/
def Arrival.carries (cmd : UInt32) (arrival : Arrival) : Prop :=
  0 < arrival.ret ∧ packetCmd arrival.packet = cmd

instance (cmd : UInt32) (arrival : Arrival) : Decidable (arrival.carries cmd) :=
  inferInstanceAs (Decidable (_ ∧ _))

/-- The variables of the listing loop and what it has received so far. -/
structure DirLoop (σ : Type u) where
  /-- `p->error` -/
  error : Int
  finished : Bool
  reply : Memory UInt8
  /-- `buf`, with `none` for `NULL`. -/
  buffer : Option (Buffer DirEntry)
  outside : σ
  log : List Arrival
  stderr : List Diagnostic

def DirLoop.print (messages : List Diagnostic) (loop : DirLoop σ) : DirLoop σ :=
  { loop with stderr := loop.stderr ++ messages }

/-- The loop variables once `get_tf_packet` has returned. -/
def DirLoop.accept (got : Received σ) (loop : DirLoop σ) : DirLoop σ :=
  { loop.print got.stderr with
    reply := got.packet
    outside := got.state
    log := loop.log ++ [arrivalOf got] }

/-- The terminator. -/
def terminate (entry : DirEntry) : DirEntry where
  ftype := PUPPY_UNKNOWN
  time := 0
  size := 0
  name := Memory.store entry.name 0 [0]

/-- Everything behind the loop: the array returned, or `none` when the buffer
can not grow.  The array is copied before the terminator is filled in. -/
def dirExit (loop : DirLoop σ) : Option (List DirEntry) × DirLoop σ :=
  match loop.buffer.bind (Buffer.add none) with
  | none => (none, loop)
  | some (ptr, buffer) =>
      let array := buffer.dupValues
      let buffer := buffer.set ptr (terminate (buffer.data ptr))
      (some array, { loop with buffer := some buffer })

/-- The loop goes on: `!finished && p->error == 0`. -/
def DirLoop.Goes (loop : DirLoop σ) : Prop := loop.finished = false ∧ loop.error = 0

instance (loop : DirLoop σ) : Decidable loop.Goes :=
  inferInstanceAs (Decidable (_ ∧ _))

/-- The rest of one pass: receive a packet and act on it. -/
def dirTurn (env : Env σ) : Body (DirLoop σ) (Option (List DirEntry) × DirLoop σ) := fun loop =>
  let got := getTfPacket env loop.reply loop.outside
  let loop := loop.accept got
  if 0 < got.ret then
    let cmd := packetCmd loop.reply
    if cmd = DATA_HDD_DIR then
      match loop.buffer.bind (decodeDir env loop.reply) with
      | none => .leave (none, loop)
      | some buffer =>
          .again
            { loop with
              buffer := some buffer
              outside := (sendSuccess env loop.outside).state }
    else if cmd = DATA_HDD_DIR_END then .again { loop with finished := true }
    else if cmd = FAIL then
      .again { loop.print [.deviceReports (decodeError loop.reply)] with error := EPROTO }
    else .again { loop.print [.unhandledPacket none] with error := EPROTO }
  else .leave (dirExit loop)

/-- The loop of `puppy_hdd_dir`. -/
def dirBody (env : Env σ) : Body (DirLoop σ) (Option (List DirEntry) × DirLoop σ) :=
  whileLoop DirLoop.Goes dirExit (dirTurn env)

/-- The loop state before the first packet. -/
def dirInitial (error : Int) (reply : Memory UInt8) (heap : Memory DirEntry)
    (request : Requested σ) : DirLoop σ where
  error := if request.ret < 0 then EPROTO else error
  finished := false
  reply
  buffer := Buffer.init 10 PUPPY_DIR_ENTRY_SIZE heap
  outside := request.state
  log := []
  stderr := request.stderr

/-- `puppy_hdd_dir`, for at most `fuel` passes of its loop: `again` when the
loop is still going, `leave` with the returned array otherwise, or with `none`
when the program ends for lack of memory.  `req` and `heap` are uninitialised
memory. -/
def puppyHddDir (env : Env σ) (fuel : Nat) (heap : Memory DirEntry) (error : Int)
    (path : CString) (req reply : Memory UInt8) (outside : σ) :
    Pass (DirLoop σ) (Option (List DirEntry) × DirLoop σ) :=
  run (dirBody env) fuel (dirInitial error reply heap (sendCmdHddDir env req path outside))

/-- The scan `puppy-dir.c` and `puppy-get.c` make of a listing: the entries
before the first empty name, or `none` when it runs past the end of the
array. -/
def visits : List DirEntry → Option (List DirEntry)
  | [] => none
  | entry :: rest => if entry.name 0 = 0 then some [] else (visits rest).map (entry :: ·)

theorem dirExit_error (loop : DirLoop σ) : (dirExit loop).2.error = loop.error := by
  unfold dirExit
  split <;> rfl

/-! ## One turn -/

/-- The commands of an arrived packet exclude each other. -/
theorem Arrival.not_carries {arrival : Arrival} {cmd other : UInt32}
    (carries : arrival.carries cmd) (different : cmd ≠ other) : ¬ arrival.carries other :=
  fun also => different (carries.2.symm.trans also.2)

/-- What a turn can do with the result of `get_tf_packet`. -/
inductive DirTurn (env : Env σ) (loop : DirLoop σ) (got : Received σ) :
    Pass (DirLoop σ) (Option (List DirEntry) × DirLoop σ) → Prop
  | decoded {buffer : Buffer DirEntry} (carries : (arrivalOf got).carries DATA_HDD_DIR)
      (stored : loop.buffer.bind (decodeDir env got.packet) = some buffer) :
      DirTurn env loop got
        (.again
          { loop.accept got with
            buffer := some buffer
            outside := (sendSuccess env got.state).state })
  | exhausted (carries : (arrivalOf got).carries DATA_HDD_DIR)
      (full : loop.buffer.bind (decodeDir env got.packet) = none) :
      DirTurn env loop got (.leave (none, loop.accept got))
  | finished (carries : (arrivalOf got).carries DATA_HDD_DIR_END) :
      DirTurn env loop got (.again { loop.accept got with finished := true })
  | refused (messages : List Diagnostic) (accepted : 0 < got.ret)
      (notDir : ¬ (arrivalOf got).carries DATA_HDD_DIR)
      (notEnd : ¬ (arrivalOf got).carries DATA_HDD_DIR_END) :
      DirTurn env loop got (.again { (loop.accept got).print messages with error := EPROTO })
  | failed (failed : ¬ 0 < got.ret) : DirTurn env loop got (.leave (dirExit (loop.accept got)))

theorem dirTurn_cases (env : Env σ) (loop : DirLoop σ) :
    DirTurn env loop (getTfPacket env loop.reply loop.outside) (dirTurn env loop) := by
  unfold dirTurn
  simp only
  generalize getTfPacket env loop.reply loop.outside = got
  have reply : (loop.accept got).reply = got.packet := rfl
  have buffer : (loop.accept got).buffer = loop.buffer := rfl
  rw [reply, buffer]
  by_cases accepted : 0 < got.ret
  · rw [if_pos accepted]
    by_cases dir : packetCmd got.packet = DATA_HDD_DIR
    · rw [if_pos dir]
      cases stored : loop.buffer.bind (decodeDir env got.packet) with
      | none => exact .exhausted ⟨accepted, dir⟩ stored
      | some buffer => exact .decoded ⟨accepted, dir⟩ stored
    · rw [if_neg dir]
      by_cases atEnd : packetCmd got.packet = DATA_HDD_DIR_END
      · rw [if_pos atEnd]
        exact .finished ⟨accepted, atEnd⟩
      · rw [if_neg atEnd]
        by_cases fail : packetCmd got.packet = FAIL
        · rw [if_pos fail]
          exact .refused _ accepted (fun h => dir h.2) (fun h => atEnd h.2)
        · rw [if_neg fail]
          exact .refused _ accepted (fun h => dir h.2) (fun h => atEnd h.2)
  · rw [if_neg accepted]
    exact .failed accepted

section Turn

variable {env : Env σ} {loop : DirLoop σ} {got : Received σ}
  {pass : Pass (DirLoop σ) (Option (List DirEntry) × DirLoop σ)}

/-- A packet of the listing is decoded and acknowledged, unless the memory runs
out. -/
theorem DirTurn.of_dir (turn : DirTurn env loop got pass)
    (carries : (arrivalOf got).carries DATA_HDD_DIR) :
    (∃ buffer, loop.buffer.bind (decodeDir env got.packet) = some buffer ∧
      pass = .again
        { loop.accept got with
          buffer := some buffer
          outside := (sendSuccess env got.state).state }) ∨
    loop.buffer.bind (decodeDir env got.packet) = none ∧ pass = .leave (none, loop.accept got) := by
  cases turn with
  | decoded _ stored => exact Or.inl ⟨_, stored, rfl⟩
  | exhausted _ full => exact Or.inr ⟨full, rfl⟩
  | finished atEnd => exact absurd atEnd (Arrival.not_carries carries (by decide))
  | refused _ _ notDir _ => exact absurd carries notDir
  | failed failed => exact absurd carries.1 failed

/-- The terminator of the listing ends it. -/
theorem DirTurn.of_end (turn : DirTurn env loop got pass)
    (carries : (arrivalOf got).carries DATA_HDD_DIR_END) :
    pass = .again { loop.accept got with finished := true } := by
  cases turn with
  | decoded dir _ => exact absurd dir (Arrival.not_carries carries (by decide))
  | exhausted dir _ => exact absurd dir (Arrival.not_carries carries (by decide))
  | finished _ => rfl
  | refused _ _ _ notEnd => exact absurd carries notEnd
  | failed failed => exact absurd carries.1 failed

end Turn

end Puppy.Listing
