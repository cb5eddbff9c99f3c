import Puppy.Transition.Loop
import Puppy.Wire.Packet
import Puppy.Time.Mjd

/-!
# The surroundings of the process and its bulk transfers

Everything the transfer code asks of the kernel and the C library is a field of
`Env`, over an arbitrary state of the outside world: an answer may depend on
everything that happened before.  Results are typed so that a call never
transfers more than it was asked to.  The two chunking loops of `usb_io.c`
follow, with what every call of them returns.
-/

namespace Puppy.Usb

open Transition
open Puppy.Time

universe u

/-- The value of `errno` after a failed call. -/
abbrev Errno := { code : Int // 0 < code }

/-- `EPROTO`, and the values returned for it and for `ENODATA`. -/
def EPROTO : Int := 71
def negEPROTO : Int := -71
def negENODATA : Int := -61

theorem EPROTO_ne_zero : EPROTO ≠ 0 := by decide

theorem negEPROTO_ne_zero : negEPROTO ≠ 0 := by decide

/-- What lies outside the process, with `none` for the `-1` of a failed call. -/
structure Env (σ : Type u) where
  /-- `ioctl(fd, USBDEVFS_BULK)` on endpoint `0x01`: the bytes of the chunk
  that were taken. -/
  bulkOut : (chunk : List UInt8) → σ → Option (Fin (chunk.length + 1)) × σ
  /-- `ioctl(fd, USBDEVFS_BULK)` on endpoint `0x82`: the bytes that arrived. -/
  bulkIn : (len : Nat) → σ → Option { data : List UInt8 // data.length ≤ len } × σ
  /-- `open64` of a local file: `none` is success here. -/
  open64 : σ → Option Errno × σ
  /-- `fstat64` of the source file: `none` is success here. -/
  fstat64 : σ → Option Errno × σ
  /-- `read` when `count` bytes could be delivered. -/
  read : (count : Nat) → σ → Option (Fin (count + 1)) × σ
  /-- `write` to the destination file. -/
  write : (bytes : List UInt8) → σ → Option (Fin (bytes.length + 1)) × σ
  localtime : Int → Tm
  mktime : Tm → Int
  /-- The global `ignore_crc`. -/
  ignoreCrc : Bool

def MAX_READ : Nat := 4096
def MAX_WRITE : Nat := 4096

variable {σ : Type u}

/-- The value a loop over its own result type ended with. -/
def loopValue {α : Type u} : Pass α α → α
  | .again value => value
  | .leave value => value

theorem loopValue_map {α β : Type u} (view : α → β) (pass : Pass α α) :
    loopValue (pass.map view view) = view (loopValue pass) := by
  cases pass <;> rfl

/-- A loop that leaves within the passes it is given ends with its value. -/
theorem run_eq_leave_loopValue {α : Type u} {body : Body α α} {state result : α} {m n : Nat}
    (exit : run body m state = .leave result) (enough : m ≤ n) :
    run body n state = .leave (loopValue (run body n state)) ∧
      loopValue (run body n state) = result := by
  have full := run_add_of_leave exit (n - m)
  rw [Nat.add_sub_cancel' enough] at full
  rw [full]
  exact ⟨rfl, rfl⟩

/-! ## Writing -/

/-- `sent` and the surroundings in `usb_bulk_write`. -/
structure BulkOut (σ : Type u) where
  sent : Nat
  state : σ

/-- `bulk.len` in `usb_bulk_write`: `length - sent` in an `unsigned int`, at
most `MAX_WRITE`. -/
def writeLen (left : Nat) : Nat := min (left % 2 ^ 32) MAX_WRITE

theorem writeLen_le_max (left : Nat) : writeLen left ≤ MAX_WRITE := Nat.min_le_right _ _

/-- One pass of the `do` loop in `usb_bulk_write`. -/
def bulkWriteBody (env : Env σ) (bytes : List UInt8) : Body (BulkOut σ) (BulkOut σ) :=
  fun loop =>
    let chunk := (bytes.drop loop.sent).take (writeLen (bytes.length - loop.sent))
    match env.bulkOut chunk loop.state with
    | (none, state) => .leave { loop with state }
    | (some ret, state) =>
        let sent := loop.sent + ret
        if 0 < ret.val ∧ sent < bytes.length then .again { sent, state }
        else .leave { sent, state }

/-- `usb_bulk_write`.  Every pass that goes round again has sent something, so
`length + 1` passes are never used up. -/
def usbBulkWrite (env : Env σ) (bytes : List UInt8) (state : σ) : BulkOut σ :=
  loopValue (run (bulkWriteBody env bytes) (bytes.length + 1) { sent := 0, state })

/-- Below `2 ^ 32` bytes the `unsigned int` keeps the length. -/
theorem take_writeLen {bytes : List UInt8} (short : bytes.length < 2 ^ 32) (sent : Nat) :
    (bytes.drop sent).take (writeLen (bytes.length - sent)) =
      (bytes.drop sent).take MAX_WRITE := by
  have kept : (bytes.length - sent) % 2 ^ 32 = bytes.length - sent :=
    Nat.mod_eq_of_lt (by omega)
  rw [writeLen, kept, Nat.min_comm, ← List.take_take, ← List.length_drop, List.take_length]

theorem bulkWriteBody_cases (env : Env σ) (bytes : List UInt8) (loop : BulkOut σ)
    (bound : loop.sent ≤ bytes.length) :
    (∃ next, bulkWriteBody env bytes loop = .again next ∧
      loop.sent < next.sent ∧ next.sent ≤ bytes.length) ∨
    ∃ last, bulkWriteBody env bytes loop = .leave last ∧
      loop.sent ≤ last.sent ∧ last.sent ≤ bytes.length := by
  simp only [bulkWriteBody]
  split
  · rename_i state _
    exact Or.inr ⟨_, rfl, Nat.le_refl _, bound⟩
  · rename_i ret state _
    have retBound := ret.isLt
    simp only [List.length_take, List.length_drop] at retBound
    split
    · exact Or.inl ⟨_, rfl, by simp only; omega, by simp only; omega⟩
    · exact Or.inr ⟨_, rfl, by simp only; omega, by simp only; omega⟩

/-- The loop of `usb_bulk_write` ends, and never reports more than it was given. -/
theorem usbBulkWrite_exits (env : Env σ) (bytes : List UInt8) (state : σ) :
    run (bulkWriteBody env bytes) (bytes.length + 1) { sent := 0, state } =
      .leave (usbBulkWrite env bytes state) ∧
    (usbBulkWrite env bytes state).sent ≤ bytes.length := by
  have initial : (BulkOut.mk 0 state).sent ≤ bytes.length := Nat.zero_le _
  obtain ⟨n, result, fuel, exit, bound⟩ := run_leaves_of_measure
    (bulkWriteBody env bytes) (fun loop => loop.sent ≤ bytes.length)
    (fun last => last.sent ≤ bytes.length) (fun loop => bytes.length - loop.sent)
    (fun loop kept => by
      rcases bulkWriteBody_cases env bytes loop kept with
        ⟨next, pass, more, le⟩ | ⟨last, pass, _, le⟩
      · exact Or.inr ⟨next, pass, le, by omega⟩
      · exact Or.inl ⟨last, pass, le⟩)
    initial
  obtain ⟨full, value⟩ := run_eq_leave_loopValue exit (n := bytes.length + 1)
    (by simpa using fuel)
  refine ⟨full, ?_⟩
  rw [usbBulkWrite, value]
  exact bound

theorem usbBulkWrite_sent_le (env : Env σ) (bytes : List UInt8) (state : σ) :
    (usbBulkWrite env bytes state).sent ≤ bytes.length :=
  (usbBulkWrite_exits env bytes state).2

/-! ## Reading -/

/-- `retrieved`, the buffer and the surroundings in `usb_bulk_read`. -/
structure BulkIn (σ : Type u) where
  retrieved : Nat
  buffer : Memory UInt8
  state : σ

/-- One pass of the `do` loop in `usb_bulk_read`. -/
def bulkReadBody (env : Env σ) (size : Nat) : Body (BulkIn σ) (BulkIn σ) :=
  fun loop =>
    let requested := min (size - loop.retrieved) MAX_READ
    match env.bulkIn requested loop.state with
    | (none, state) => .leave { loop with state }
    | (some data, state) =>
        let next : BulkIn σ :=
          { retrieved := loop.retrieved + data.val.length
            buffer := Memory.store loop.buffer loop.retrieved data.val
            state }
        if 0 < data.val.length ∧ next.retrieved < size ∧ data.val.length = requested then
          .again next
        else .leave next

/-- `usb_bulk_read` into a buffer.  As with writing, `size + 1` passes are
never used up. -/
def usbBulkRead (env : Env σ) (buffer : Memory UInt8) (size : Nat) (state : σ) : BulkIn σ :=
  loopValue (run (bulkReadBody env size) (size + 1) { retrieved := 0, buffer, state })

theorem bulkReadBody_cases (env : Env σ) (size : Nat) (loop : BulkIn σ)
    (bound : loop.retrieved ≤ size) :
    (∃ next, bulkReadBody env size loop = .again next ∧
      loop.retrieved < next.retrieved ∧ next.retrieved ≤ size) ∨
    ∃ last, bulkReadBody env size loop = .leave last ∧
      loop.retrieved ≤ last.retrieved ∧ last.retrieved ≤ size := by
  simp only [bulkReadBody]
  split
  · exact Or.inr ⟨_, rfl, Nat.le_refl _, bound⟩
  · rename_i data state _
    have dataBound := data.property
    split
    · exact Or.inl ⟨_, rfl, by simp only; omega, by simp only; omega⟩
    · exact Or.inr ⟨_, rfl, by simp only; omega, by simp only; omega⟩

/-- The loop of `usb_bulk_read` ends, and never retrieves more than it has room
for. -/
theorem usbBulkRead_exits (env : Env σ) (buffer : Memory UInt8) (size : Nat) (state : σ) :
    run (bulkReadBody env size) (size + 1) { retrieved := 0, buffer, state } =
      .leave (usbBulkRead env buffer size state) ∧
    (usbBulkRead env buffer size state).retrieved ≤ size := by
  have initial : (BulkIn.mk 0 buffer state).retrieved ≤ size := Nat.zero_le _
  obtain ⟨n, result, fuel, exit, bound⟩ := run_leaves_of_measure
    (bulkReadBody env size) (fun loop => loop.retrieved ≤ size)
    (fun last => last.retrieved ≤ size) (fun loop => size - loop.retrieved)
    (fun loop kept => by
      rcases bulkReadBody_cases env size loop kept with
        ⟨next, pass, more, le⟩ | ⟨last, pass, _, le⟩
      · exact Or.inr ⟨next, pass, le, by omega⟩
      · exact Or.inl ⟨last, pass, le⟩)
    initial
  obtain ⟨full, value⟩ := run_eq_leave_loopValue exit (n := size + 1) (by simpa using fuel)
  refine ⟨full, ?_⟩
  rw [usbBulkRead, value]
  exact bound

/-- A read whose chunks concatenate to `data` stores `data` at the front of
whatever buffer it is given. -/
def Delivers (env : Env σ) (state : σ) (data : List UInt8) (after : σ) : Prop :=
  ∀ buffer, usbBulkRead env buffer Wire.MAXIMUM_PACKET_SIZE state =
    { retrieved := data.length, buffer := Memory.store buffer 0 data, state := after }

/-- Which bytes arrive and where the surroundings end up does not depend on
what the buffer held before. -/
private theorem run_bulkReadBody (env : Env σ) (size fuel : Nat) :
    ∀ (prior : List UInt8) (state : σ), prior.length ≤ size →
      ∃ data after, data.length ≤ size ∧ ∀ buffer,
        loopValue (run (bulkReadBody env size) fuel
          { retrieved := prior.length, buffer := Memory.store buffer 0 prior, state }) =
        { retrieved := data.length, buffer := Memory.store buffer 0 data, state := after } := by
  induction fuel with
  | zero =>
      intro prior state bound
      exact ⟨prior, state, bound, fun _ => rfl⟩
  | succ fuel ih =>
      intro prior state bound
      cases arrived : env.bulkIn (min (size - prior.length) MAX_READ) state with
      | mk result after =>
          cases result with
          | none =>
              refine ⟨prior, after, bound, fun buffer => ?_⟩
              have pass : bulkReadBody env size
                  { retrieved := prior.length, buffer := Memory.store buffer 0 prior, state } =
                  .leave { retrieved := prior.length, buffer := Memory.store buffer 0 prior,
                           state := after } := by
                simp only [bulkReadBody, arrived]
              rw [run_succ_of_leave pass]
              rfl
          | some data =>
              have dataBound := data.property
              have total : (prior ++ data.val).length ≤ size := by
                rw [List.length_append]
                omega
              let next buffer : BulkIn σ :=
                { retrieved := (prior ++ data.val).length
                  buffer := Memory.store buffer 0 (prior ++ data.val)
                  state := after }
              have pass : ∀ buffer, bulkReadBody env size
                  { retrieved := prior.length, buffer := Memory.store buffer 0 prior, state } =
                  if 0 < data.val.length ∧ prior.length + data.val.length < size ∧
                      data.val.length = min (size - prior.length) MAX_READ
                  then .again (next buffer) else .leave (next buffer) := by
                intro buffer
                simp only [bulkReadBody, arrived, Memory.store_front_append, next,
                  List.length_append]
              split at pass
              · obtain ⟨whole, final, wholeBound, rest⟩ := ih (prior ++ data.val) after total
                refine ⟨whole, final, wholeBound, fun buffer => ?_⟩
                rw [run_succ_of_again (pass buffer)]
                exact rest buffer
              · refine ⟨prior ++ data.val, after, total, fun buffer => ?_⟩
                rw [run_succ_of_leave (pass buffer)]
                rfl

/-- Every bulk read delivers some bytes. -/
theorem exists_delivers (env : Env σ) (state : σ) :
    ∃ data after, data.length ≤ Wire.MAXIMUM_PACKET_SIZE ∧ Delivers env state data after := by
  obtain ⟨data, after, bound, delivered⟩ := run_bulkReadBody env Wire.MAXIMUM_PACKET_SIZE
    (Wire.MAXIMUM_PACKET_SIZE + 1) [] state (Nat.zero_le _)
  refine ⟨data, after, bound, fun buffer => ?_⟩
  have read := delivered buffer
  rw [Memory.store_nil] at read
  exact read

end Puppy.Usb
