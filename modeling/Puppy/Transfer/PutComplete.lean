import Puppy.Transfer.PutStream

/-!
# What an upload that reports success has sent

`puppy_hdd_file_put` goes over to `END` after a failed `read`, never fails in
`START` or `END`, where `send_tf_packet` is compared with zero, and accepts a
data packet once as many bytes went out as its payload has.  A successful
upload has sent the whole file exactly when none of this mattered.
-/

namespace Puppy.Transfer

open Transition
open Puppy.Wire Puppy.Usb

universe u

variable {σ : Type u}

/-- The bulk pipe took a `typefile`, data packets with the whole file and an
end marker, all of them in full. -/
def WholeFileAccepted (contents : List UInt8) (sends : List Sent) : Prop :=
  ∃ request start datas finish,
    sends = request :: start :: datas ++ [finish] ∧
      packetCmd start.packet = DATA_HDD_FILE_START ∧
      (∀ data ∈ datas, packetCmd data.packet = DATA_HDD_FILE_DATA) ∧
      packetCmd finish.packet = DATA_HDD_FILE_END ∧
      streamBytes datas = contents ∧
      start.inFull ∧ (∀ data ∈ datas, data.inFull) ∧ finish.inFull

/-- The bulk pipe took the whole packet, or so little of a data packet that
`puppy_hdd_file_put` gives up. -/
def TakenOrReported (sent : Sent) : Prop :=
  sent.inFull ∨
    packetCmd sent.packet = DATA_HDD_FILE_DATA ∧ sent.ret < payloadSize sent.packet

theorem TakenOrReported.inFull_of_cmd {sent : Sent} (taken : TakenOrReported sent)
    (other : packetCmd sent.packet ≠ DATA_HDD_FILE_DATA) : sent.inFull :=
  taken.resolve_right fun reported => other reported.1

theorem TakenOrReported.inFull_of_payload {sent : Sent} (taken : TakenOrReported sent)
    (payload : payloadSize sent.packet ≤ sent.ret) : sent.inFull :=
  taken.resolve_right fun reported => Int.not_lt.mpr payload reported.2

/-- A finished upload sent the whole file exactly when no `read` failed and no
packet behind the request was cut short unnoticed. -/
private theorem wholeFileAccepted_iff_of_finished {contents : List UInt8} {request : Sent}
    {loop : PutLoop σ} (invariant : PutInvariant contents request loop)
    (finished : loop.state = .finished) :
    WholeFileAccepted contents loop.sends ↔
      -1 ∉ loop.reads ∧ ∀ sent ∈ loop.sends.tail, TakenOrReported sent := by
  cases invariant with
  | start state => simp [state] at finished
  | data _ _ state => simp [state] at finished
  | fileEnd _ _ state => simp [state] at finished
  | finished first datas finish state sends handed finishLength finishCmd whole =>
      have stream := handed.stream
      rw [sends]
      constructor
      · rintro ⟨_, _, others, _, same, _, _, _, bytes, startFull, datasFull, finishFull⟩
        simp only [List.cons_append, List.cons.injEq] at same
        obtain ⟨rfl, rfl, tails⟩ := same
        obtain ⟨rfl, lasts⟩ := List.append_inj' tails rfl
        obtain rfl : finish = _ := by simpa using lasts
        refine ⟨whole.mp (stream.bytes_eq_iff.mp bytes), ?_⟩
        intro sent member
        simp only [List.cons_append, List.tail_cons, List.mem_cons, List.mem_append,
          List.not_mem_nil, or_false] at member
        rcases member with rfl | inDatas | rfl
        · exact Or.inl startFull
        · exact Or.inl (datasFull sent inDatas)
        · exact Or.inl finishFull
      · rintro ⟨noError, taken⟩
        simp only [List.cons_append, List.tail_cons, List.mem_cons, List.mem_append,
          List.not_mem_nil, or_false] at taken
        refine ⟨request, first, datas, finish, rfl, handed.startCmd, ?_, finishCmd,
          stream.bytes_eq_iff.mpr (whole.mpr noError), ?_, ?_, ?_⟩
        · intro data member
          obtain ⟨_, packet⟩ := stream.mem member
          exact packet.cmd
        · refine (taken first (Or.inl rfl)).inFull_of_cmd ?_
          rw [handed.startCmd]
          decide
        · intro data member
          exact (taken data (Or.inr (Or.inl member))).inFull_of_payload
            (handed.taken data member)
        · refine (taken finish (Or.inr (Or.inr rfl))).inFull_of_cmd ?_
          rw [finishCmd]
          decide

/-- A successful upload ended in `FINISHED`. -/
theorem puppyHddFilePut_finished {env : Env σ} {fuel : Nat} {src : SourceFile}
    {dstPath : CString} {buffers : Buffers} {outside : σ}
    (success : (puppyHddFilePut env fuel src dstPath buffers outside).returned = some 0) :
    ∃ request,
      PutInvariant src.contents request
        (puppyHddFilePut env fuel src dstPath buffers outside).view ∧
      (puppyHddFilePut env fuel src dstPath buffers outside).view.state = .finished := by
  unfold puppyHddFilePut at success ⊢
  rcases putPrologue_cases env src dstPath buffers outside with
    ⟨result, left, _, failed⟩ | ⟨request, loop, entered, nonempty, requestCmd, initial⟩
  · rw [left] at success
    exact absurd (Option.some.inj success) failed
  · rw [entered] at success ⊢
    have outcome := run_putBody_outcome env src dstPath nonempty requestCmd initial fuel
    simp only at success ⊢
    cases result : run (putBody env src dstPath) fuel loop with
    | again last =>
        rw [result] at success
        cases success
    | leave last =>
        rw [result] at success outcome
        exact ⟨request, outcome.2 (Option.some.inj success)⟩

/-- An upload that reports success sent the whole file exactly when no `read`
failed and every packet behind the request was taken in full or cut so short
that the upload gave up. -/
theorem puppyHddFilePut_wholeFileAccepted_iff (env : Env σ) (fuel : Nat) (src : SourceFile)
    (dstPath : CString) (buffers : Buffers) (outside : σ)
    (success : (puppyHddFilePut env fuel src dstPath buffers outside).returned = some 0) :
    WholeFileAccepted src.contents
        (puppyHddFilePut env fuel src dstPath buffers outside).view.sends ↔
      -1 ∉ (puppyHddFilePut env fuel src dstPath buffers outside).view.reads ∧
        ∀ sent ∈ (puppyHddFilePut env fuel src dstPath buffers outside).view.sends.tail,
          TakenOrReported sent := by
  obtain ⟨request, invariant, finished⟩ := puppyHddFilePut_finished success
  exact wholeFileAccepted_iff_of_finished invariant finished

/-! ## Runs against a device that takes everything -/

/-- Every bulk write is taken in full and every bulk read finds a `SUCCESS`. -/
def obligingEnv (read : (count : Nat) → Option (Fin (count + 1))) : Env Unit where
  bulkOut chunk state := (some (Fin.last chunk.length), state)
  bulkIn len state := (some ⟨successPacket.take len, List.length_take_le len _⟩, state)
  open64 state := (none, state)
  fstat64 state := (none, state)
  read count state := (read count, state)
  write bytes state := (some (Fin.last bytes.length), state)
  localtime _ := ⟨0, 0, 0, 1, 0, 70⟩
  mktime _ := 0
  ignoreCrc := false

/-- A file of five bytes. -/
def fiveBytes : SourceFile := ⟨[0x70, 0x75, 0x70, 0x70, 0x79], 0, by decide⟩

/-- An upload of `fiveBytes` to `pathA` in packets of two bytes. -/
def fiveBytesRun : Pass (PutLoop Unit) (Int × PutLoop Unit) :=
  puppyHddFilePut (obligingEnv fun count => some ⟨min 2 count, by omega⟩) 7 fiveBytes pathA
    zeroBuffers ()

/-- The three packets arrive whole. -/
theorem puppyHddFilePut_wholeFileAccepted_iff_fiveBytesRun :
    fiveBytesRun.view.sends.length = 6 ∧
      (WholeFileAccepted fiveBytes.contents fiveBytesRun.view.sends ↔
        -1 ∉ fiveBytesRun.view.reads ∧
          ∀ sent ∈ fiveBytesRun.view.sends.tail, TakenOrReported sent) :=
  ⟨by decide +kernel, puppyHddFilePut_wholeFileAccepted_iff _ 7 fiveBytes pathA zeroBuffers ()
    (by decide +kernel)⟩

/-- A file of one byte. -/
def oneByte : SourceFile := ⟨[0x2a], 0, by decide⟩

/-- Five passes of an upload of `oneByte` to `pathA`. -/
def oneByteRun (read : (count : Nat) → Option (Fin (count + 1))) :
    Pass (PutLoop Unit) (Int × PutLoop Unit) :=
  puppyHddFilePut (obligingEnv read) 5 oneByte pathA zeroBuffers ()

/-- When the first `read` fails, the upload reports success without the file. -/
theorem not_wholeFileAccepted_of_failed_read :
    (oneByteRun fun _ => none).returned = some 0 ∧
      ¬ WholeFileAccepted oneByte.contents (oneByteRun fun _ => none).view.sends := by
  refine ⟨by decide +kernel, ?_⟩
  rintro ⟨request, start, datas, finish, sends, _, _, _, bytes, _⟩
  have length : (oneByteRun fun _ => none).view.sends.length = 3 := by decide +kernel
  rw [sends] at length
  obtain rfl : datas = [] := by simpa using length
  exact absurd bytes (by decide)

end Puppy.Transfer
