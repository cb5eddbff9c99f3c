import Puppy.Memory.Cells

/-!
# NUL-terminated strings in byte memories

A C string is a byte list without a NUL.  It can be copied into a memory
together with its terminator, and read back from any address up to a limit; the
two operations are inverse wherever the limit leaves room for the terminator.
-/

/-- The bytes of a C string before its NUL. -/
structure CString where
  bytes : List UInt8
  noNul : ∀ byte ∈ bytes, byte ≠ 0

namespace CString

theorem eq_iff_bytes {first second : CString} : first = second ↔ first.bytes = second.bytes := by
  cases first
  cases second
  simp

instance : DecidableEq CString := fun _ _ => decidable_of_iff _ eq_iff_bytes.symm

/-- The empty string. -/
def empty : CString := ⟨[], List.forall_mem_nil _⟩

/-- A string of one byte. -/
def single (byte : UInt8) (nonzero : byte ≠ 0) : CString where
  bytes := [byte]
  noNul _ member := List.mem_singleton.mp member ▸ nonzero

/-- `strlen` -/
def length (string : CString) : Nat := string.bytes.length

/-- `strcpy` to an address: the string and its NUL. -/
def copyTo (memory : Memory UInt8) (addr : Nat) (string : CString) : Memory UInt8 :=
  Memory.store memory addr (string.bytes ++ [0])

/-- A string that is not empty is copied as one. -/
theorem copyTo_ne_zero {string : CString} (nonempty : string.bytes ≠ [])
    (memory : Memory UInt8) (addr : Nat) : copyTo memory addr string addr ≠ 0 := by
  obtain ⟨byte, rest, bytes⟩ := List.exists_cons_of_ne_nil nonempty
  have first : copyTo memory addr string addr = byte := by
    simp [copyTo, Memory.store, bytes]
  rw [first]
  exact string.noNul byte (by rw [bytes]; exact List.mem_cons_self)

/-- The bytes from `addr` on up to the first NUL, looking at `limit` bytes. -/
def scan (memory : Memory UInt8) (addr : Nat) : Nat → List UInt8
  | 0 => []
  | limit + 1 =>
      if memory addr = 0 then [] else memory addr :: scan memory (addr + 1) limit

theorem scan_ne_zero {memory : Memory UInt8} {limit : Nat} :
    ∀ {addr : Nat}, ∀ byte ∈ scan memory addr limit, byte ≠ 0 := by
  induction limit with
  | zero =>
      intro addr byte member
      cases member
  | succ limit ih =>
      intro addr byte member
      simp only [scan] at member
      split at member
      · cases member
      · rename_i nonzero
        rcases List.mem_cons.mp member with rfl | inRest
        · exact nonzero
        · exact ih byte inRest

/-- Read the string at an address, looking at `limit` bytes. -/
def ofMemory (memory : Memory UInt8) (addr limit : Nat) : CString where
  bytes := scan memory addr limit
  noNul := scan_ne_zero

/-- A scan that has room for the terminator reads back what was copied. -/
theorem scan_store {limit : Nat} :
    ∀ {bytes : List UInt8} (memory : Memory UInt8) (addr : Nat),
      (∀ byte ∈ bytes, byte ≠ 0) → bytes.length < limit →
      scan (Memory.store memory addr (bytes ++ [0])) addr limit = bytes := by
  induction limit with
  | zero =>
      intro bytes memory addr _ room
      omega
  | succ limit ih =>
      intro bytes memory addr noNul room
      have first : Memory.store memory addr (bytes ++ [0]) (addr + 0) = (bytes ++ [0])[0] :=
        Memory.store_inside memory (by simp)
      rw [Nat.add_zero] at first
      cases bytes with
      | nil =>
          simp only [scan, first]
          simp
      | cons byte rest =>
          have nonzero : byte ≠ 0 := noNul byte List.mem_cons_self
          have tail : Memory.store memory addr (byte :: rest ++ [0]) =
              Memory.store (Memory.store memory addr [byte]) (addr + 1) (rest ++ [0]) :=
            (Memory.store_store_append memory addr [byte] (rest ++ [0])).symm
          simp only [scan, first]
          rw [if_neg (by simpa using nonzero), tail,
            ih _ _ (fun b member => noNul b (List.mem_cons_of_mem byte member))
              (by simpa using room)]
          simp

/-- A string that was copied to an address is read back from it. -/
theorem ofMemory_copyTo (memory : Memory UInt8) (addr : Nat) {limit : Nat} (string : CString)
    (room : string.length < limit) : ofMemory (copyTo memory addr string) addr limit = string :=
  eq_iff_bytes.mpr (scan_store memory addr string.noNul room)

/-! ## What a scan looks at -/

/-- A scan that meets a NUL does not depend on its limit, nor on anything behind
the NUL. -/
theorem scan_congr {small : Nat} :
    ∀ {first second : Memory UInt8} {addr nul large : Nat}, nul < small → nul < large →
      first (addr + nul) = 0 → (∀ k ≤ nul, second (addr + k) = first (addr + k)) →
      scan second addr large = scan first addr small := by
  induction small with
  | zero =>
      intro first second addr nul large inSmall
      cases inSmall
  | succ small ih =>
      intro first second addr nul large inSmall inLarge found agree
      obtain ⟨limit, rfl⟩ := Nat.exists_eq_succ_of_ne_zero (Nat.ne_zero_of_lt inLarge)
      have here : second addr = first addr := agree 0 (Nat.zero_le nul)
      rw [scan, scan, here]
      by_cases zero : first addr = 0
      · rw [if_pos zero, if_pos zero]
      · rw [if_neg zero, if_neg zero]
        cases nul with
        | zero => exact absurd found zero
        | succ nul =>
            rw [ih (Nat.lt_of_succ_lt_succ inSmall) (Nat.lt_of_succ_lt_succ inLarge)]
            · rw [Nat.add_right_comm]
              exact found
            · intro k below
              have same := agree (k + 1) (Nat.succ_le_succ below)
              rw [← Nat.add_assoc, Nat.add_right_comm] at same
              exact same

/-- A scan of at least `count` bytes has room for them and finds no NUL among them. -/
theorem le_length_scan_iff {count : Nat} :
    ∀ {memory : Memory UInt8} {addr limit : Nat},
      count ≤ (scan memory addr limit).length ↔
        count ≤ limit ∧ ∀ k < count, memory (addr + k) ≠ 0 := by
  induction count with
  | zero =>
      intro memory addr limit
      simp
  | succ count ih =>
      intro memory addr limit
      cases limit with
      | zero => simp [scan]
      | succ limit =>
          rw [scan]
          by_cases zero : memory addr = 0
          · rw [if_pos zero]
            refine iff_of_false (Nat.not_succ_le_zero count) ?_
            rintro ⟨_, nonzero⟩
            exact nonzero 0 (Nat.zero_lt_succ count) zero
          · rw [if_neg zero, List.length_cons, Nat.succ_le_succ_iff, ih, Nat.succ_le_succ_iff]
            refine and_congr_right fun _ => ?_
            constructor
            · intro later k below
              cases k with
              | zero => exact zero
              | succ k =>
                  rw [Nat.add_comm k 1, ← Nat.add_assoc]
                  exact later k (Nat.lt_of_succ_lt_succ below)
            · intro all k below
              rw [Nat.add_assoc, Nat.add_comm 1 k]
              exact all (k + 1) (Nat.succ_lt_succ below)

end CString
