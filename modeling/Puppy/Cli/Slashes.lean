import Puppy.Memory.CString
import Mathlib.Algebra.Ring.Parity
import Mathlib.Data.List.Induction

/-!
# convert_slashes

`tools.c` turns the slashes of a path into the backslashes the device uses, and
a backslash escapes the character behind it.  The string is traversed twice:
the first traversal counts the characters of the result, the second one writes
them into a buffer of that size.  The flag `escape` is set up once, before the
first traversal.
-/

namespace Puppy.Cli

/-- The character `\` -/
def backslash : UInt8 := 92

/-- The character `/` -/
def slash : UInt8 := 47

/-- `stage` of `convert_slashes` -/
inductive Stage where
  | count
  | write
  deriving DecidableEq, Repr

/-- The variables of `convert_slashes`, and the addresses in `buffer` that were
stored to. -/
structure Conversion where
  escape : Bool
  len : Nat
  buffer : Memory UInt8
  stores : List Nat

/-- `ch == '/' ? '\\' : ch` -/
def convertChar (ch : UInt8) : UInt8 := if ch = slash then backslash else ch

/-- One pass of the inner loop. -/
def convertStep (stage : Stage) (state : Conversion) (ch : UInt8) : Conversion :=
  if state.escape = true ∨ ch ≠ backslash then
    let written := match stage with
      | .count => state
      | .write =>
          { state with
            buffer := Memory.store state.buffer state.len [convertChar ch]
            stores := state.stores ++ [state.len] }
    { written with len := written.len + 1, escape := false }
  else { state with escape := true }

/-- The inner loop over a string. -/
def convertStage (stage : Stage) (aStr : CString) (state : Conversion) : Conversion :=
  aStr.bytes.foldl (convertStep stage) { state with len := 0 }

/-- What `convert_slashes` has done when it returns. -/
structure Converted where
  /-- `len` behind the first stage -/
  counted : Nat
  /-- `len` behind the second stage -/
  written : Nat
  stores : List Nat
  buffer : Memory UInt8

/-- The size given to `malloc`. -/
def Converted.allocated (converted : Converted) : Nat := converted.counted + 1

/-- The string in the buffer that is returned. -/
def Converted.result (converted : Converted) : CString :=
  CString.ofMemory converted.buffer 0 (converted.written + 1)

/-- `convert_slashes`, with what `malloc` happened to deliver in `heap`. -/
def convertSlashes (heap : Memory UInt8) (aStr : CString) : Converted :=
  let first := convertStage .count aStr
    { escape := false, len := 0, buffer := heap, stores := [] }
  let second := convertStage .write aStr first
  { counted := first.len
    written := second.len
    stores := second.stores ++ [second.len]
    buffer := Memory.store second.buffer second.len [0] }

/-! ## One pass -/

/-- The result of a single pass that starts in the given state. -/
def unescapeFrom : Bool → List UInt8 → List UInt8
  | _, [] => []
  | escape, ch :: rest =>
      if escape = true ∨ ch ≠ backslash then convertChar ch :: unescapeFrom false rest
      else unescapeFrom true rest

/-- The state a single pass ends in. -/
def endsEscaped : Bool → List UInt8 → Bool
  | escape, [] => escape
  | escape, ch :: rest =>
      if escape = true ∨ ch ≠ backslash then endsEscaped false rest else endsEscaped true rest

theorem unescapeFrom_ne_zero {bytes : List UInt8} (noNul : ∀ byte ∈ bytes, byte ≠ 0) :
    ∀ escape, ∀ byte ∈ unescapeFrom escape bytes, byte ≠ 0 := by
  induction bytes with
  | nil =>
      intro escape byte member
      cases member
  | cons ch rest ih =>
      have inRest := ih fun byte member => noNul byte (List.mem_cons_of_mem ch member)
      intro escape byte member
      simp only [unescapeFrom] at member
      split at member
      · rcases List.mem_cons.mp member with rfl | later
        · unfold convertChar
          split
          · decide
          · exact noNul ch List.mem_cons_self
        · exact inRest false byte later
      · exact inRest true byte member

/-- The first stage only counts. -/
theorem foldl_count (bytes : List UInt8) (state : Conversion) :
    bytes.foldl (convertStep .count) state =
      { state with
        escape := endsEscaped state.escape bytes
        len := state.len + (unescapeFrom state.escape bytes).length } := by
  induction bytes generalizing state with
  | nil => rfl
  | cons ch rest ih =>
      rw [List.foldl_cons, ih]
      by_cases taken : state.escape = true ∨ ch ≠ backslash
      · simp only [convertStep, unescapeFrom, endsEscaped, if_pos taken, List.length_cons]
        congr 1
        omega
      · simp only [convertStep, unescapeFrom, endsEscaped, if_neg taken]

/-- The second stage writes what a pass from its state results in. -/
theorem foldl_write (bytes : List UInt8) (state : Conversion) :
    bytes.foldl (convertStep .write) state =
      { escape := endsEscaped state.escape bytes
        len := state.len + (unescapeFrom state.escape bytes).length
        buffer := Memory.store state.buffer state.len (unescapeFrom state.escape bytes)
        stores := state.stores ++
          List.range' state.len (unescapeFrom state.escape bytes).length } := by
  induction bytes generalizing state with
  | nil => simp [endsEscaped, unescapeFrom]
  | cons ch rest ih =>
      rw [List.foldl_cons, ih]
      by_cases taken : state.escape = true ∨ ch ≠ backslash
      · have stored := Memory.store_store_append state.buffer state.len [convertChar ch]
          (unescapeFrom false rest)
        simp only [convertStep, unescapeFrom, endsEscaped, if_pos taken, List.length_cons,
          List.append_assoc, List.singleton_append, List.range'_succ] at stored ⊢
        rw [← stored]
        congr 1
        omega
      · simp only [convertStep, unescapeFrom, endsEscaped, if_neg taken]

/-- What the two stages leave: the second one starts where the first one ended. -/
theorem convertSlashes_eq (heap : Memory UInt8) (aStr : CString) :
    convertSlashes heap aStr =
      let again := unescapeFrom (endsEscaped false aStr.bytes) aStr.bytes
      { counted := (unescapeFrom false aStr.bytes).length
        written := again.length
        stores := List.range (again.length + 1)
        buffer := Memory.store heap 0 (again ++ [0]) } := by
  have stored := Memory.store_store_append heap 0
    (unescapeFrom (endsEscaped false aStr.bytes) aStr.bytes) [0]
  simp only [convertSlashes, convertStage, foldl_count, foldl_write, Nat.zero_add,
    List.nil_append, ← List.range_eq_range', List.range_succ] at stored ⊢
  rw [stored]

/-- The string that is returned is the result of the second pass. -/
theorem result_convertSlashes (heap : Memory UInt8) (aStr : CString) :
    (convertSlashes heap aStr).result.bytes =
      unescapeFrom (endsEscaped false aStr.bytes) aStr.bytes := by
  rw [convertSlashes_eq]
  exact CString.scan_store heap 0 (unescapeFrom_ne_zero aStr.noNul _) (Nat.lt_succ_self _)

example :
    (convertSlashes (fun _ => 0)
      ⟨[slash, backslash, slash], by simp [slash, backslash]⟩).result.bytes =
      [backslash, backslash] := by decide

/-! ## Runs of backslashes -/

/-- The number of backslashes a string begins with. -/
def leadingBackslashes (bytes : List UInt8) : Nat :=
  (bytes.takeWhile fun byte => byte = backslash).length

/-- The number of backslashes a string ends with. -/
def trailingBackslashes (bytes : List UInt8) : Nat := leadingBackslashes bytes.reverse

theorem leadingBackslashes_cons_self (rest : List UInt8) :
    leadingBackslashes (backslash :: rest) = leadingBackslashes rest + 1 := by
  simp [leadingBackslashes]

theorem leadingBackslashes_cons_of_ne {ch : UInt8} (other : ch ≠ backslash)
    (rest : List UInt8) : leadingBackslashes (ch :: rest) = 0 := by
  simp [leadingBackslashes, other]

/-- Starting escaped takes one more character out of an odd run of backslashes
and makes no other difference. -/
theorem unescapeFrom_true (bytes : List UInt8) :
    unescapeFrom true bytes =
      if Odd (leadingBackslashes bytes) then backslash :: unescapeFrom false bytes
      else unescapeFrom false bytes := by
  induction bytes with
  | nil => rfl
  | cons ch rest ih =>
      by_cases same : ch = backslash
      · subst same
        have first : unescapeFrom true (backslash :: rest) =
            backslash :: unescapeFrom false rest := rfl
        have second : unescapeFrom false (backslash :: rest) = unescapeFrom true rest := rfl
        rw [leadingBackslashes_cons_self, first, second, ih]
        by_cases odd : Odd (leadingBackslashes rest)
        · rw [if_pos odd, if_neg (by rwa [Nat.odd_add_one, not_not])]
        · rw [if_neg odd, if_pos (by rwa [Nat.odd_add_one])]
      · have equal : unescapeFrom true (ch :: rest) = unescapeFrom false (ch :: rest) := by
          simp [unescapeFrom, same]
        rw [leadingBackslashes_cons_of_ne same, equal, if_neg (by decide)]

theorem endsEscaped_append (escape : Bool) (bytes : List UInt8) (ch : UInt8) :
    endsEscaped escape (bytes ++ [ch]) = (ch = backslash ∧ endsEscaped escape bytes = false) := by
  induction bytes generalizing escape with
  | nil => cases escape <;> simp [endsEscaped]
  | cons first rest ih =>
      rw [List.cons_append]
      by_cases taken : escape = true ∨ first ≠ backslash
      · simp only [endsEscaped, if_pos taken, ih]
      · simp only [endsEscaped, if_neg taken, ih]

/-- A pass ends escaped behind an odd run of backslashes. -/
theorem endsEscaped_false_iff (bytes : List UInt8) :
    endsEscaped false bytes = true ↔ Odd (trailingBackslashes bytes) := by
  induction bytes using List.reverseRecOn with
  | nil => decide
  | append_singleton bytes ch ih =>
      rw [endsEscaped_append, trailingBackslashes, List.reverse_append, List.reverse_singleton,
        List.singleton_append]
      by_cases same : ch = backslash
      · subst same
        rw [leadingBackslashes_cons_self, Nat.odd_add_one, ← trailingBackslashes, ← ih]
        simp
      · rw [leadingBackslashes_cons_of_ne same]
        simp [same]

/-- The second stage writes what the first one counted, inside the buffer, and
the result is that of a single pass, unless the string begins and ends with odd
runs of backslashes. -/
theorem convertSlashes_counts_iff (heap : Memory UInt8) (aStr : CString) :
    ((convertSlashes heap aStr).written = (convertSlashes heap aStr).counted ∧
      (∀ address ∈ (convertSlashes heap aStr).stores,
        address < (convertSlashes heap aStr).allocated) ∧
      (convertSlashes heap aStr).result.bytes = unescapeFrom false aStr.bytes) ↔
    ¬ (Odd (leadingBackslashes aStr.bytes) ∧ Odd (trailingBackslashes aStr.bytes)) := by
  rw [result_convertSlashes, convertSlashes_eq, ← endsEscaped_false_iff]
  simp only [Converted.allocated, List.mem_range]
  constructor
  · rintro ⟨same, _, _⟩ ⟨odd, escaped⟩
    rw [escaped, unescapeFrom_true, if_pos odd, List.length_cons] at same
    omega
  · intro fine
    have equal : unescapeFrom (endsEscaped false aStr.bytes) aStr.bytes =
        unescapeFrom false aStr.bytes := by
      cases escaped : endsEscaped false aStr.bytes with
      | false => rfl
      | true =>
          rw [unescapeFrom_true, if_neg]
          intro odd
          exact fine ⟨odd, escaped⟩
    rw [equal]
    exact ⟨rfl, fun address below => below, rfl⟩

/-- Behind a lone backslash the second stage stores its character and the NUL
into a buffer of one byte. -/
theorem convertSlashes_lone_backslash :
    ¬ ∀ address ∈ (convertSlashes (fun _ => 0) (CString.single backslash (by decide))).stores,
        address <
          (convertSlashes (fun _ => 0) (CString.single backslash (by decide))).allocated := by
  decide

/-! ## Escaped paths -/

/-- A character with a backslash before it if it is a backslash or a slash. -/
def escapeChar (ch : UInt8) : List UInt8 :=
  if ch = backslash ∨ ch = slash then [backslash, ch] else [ch]

/-- A path spelled so that no character of it should be converted. -/
def escape (string : CString) : CString where
  bytes := string.bytes.flatMap escapeChar
  noNul := by
    intro byte member
    obtain ⟨ch, inside, written⟩ := List.mem_flatMap.mp member
    have nonzero := string.noNul ch inside
    rw [escapeChar] at written
    split at written
    · rcases List.mem_cons.mp written with rfl | last
      · decide
      · exact List.mem_singleton.mp last ▸ nonzero
    · exact List.mem_singleton.mp written ▸ nonzero

/-- A pass over an escaped character takes it, converts it and ends unescaped. -/
theorem unescapeFrom_escapeChar (ch : UInt8) (rest : List UInt8) :
    unescapeFrom false (escapeChar ch ++ rest) = convertChar ch :: unescapeFrom false rest ∧
      endsEscaped false (escapeChar ch ++ rest) = endsEscaped false rest := by
  rw [escapeChar]
  split
  · constructor
    · simp [unescapeFrom]
    · simp [endsEscaped]
  · rename_i plain
    have other : ch ≠ backslash := fun same => plain (Or.inl same)
    constructor
    · simp [unescapeFrom, other]
    · simp [endsEscaped, other]

/-- Both stages convert every character of the path, escaped or not. -/
theorem unescapeFrom_escape (bytes : List UInt8) :
    unescapeFrom false (bytes.flatMap escapeChar) = bytes.map convertChar ∧
      endsEscaped false (bytes.flatMap escapeChar) = false := by
  induction bytes with
  | nil => exact ⟨rfl, rfl⟩
  | cons ch rest ih =>
      obtain ⟨taken, ends⟩ := unescapeFrom_escapeChar ch (rest.flatMap escapeChar)
      rw [List.flatMap_cons, taken, ends, ih.1, List.map_cons]
      exact ⟨rfl, ih.2⟩

theorem convertChar_eq_self_iff {ch : UInt8} : convertChar ch = ch ↔ ch ≠ slash := by
  rw [convertChar]
  split
  · rename_i same
    subst same
    exact iff_of_false (by decide) (not_not_intro rfl)
  · rename_i other
    exact iff_of_true rfl other

theorem map_convertChar_eq_self_iff {bytes : List UInt8} :
    bytes.map convertChar = bytes ↔ slash ∉ bytes := by
  have each := List.map_inj_left (l := bytes) (f := convertChar) (g := id)
  rw [List.map_id] at each
  rw [each]
  constructor
  · intro fixed member
    exact convertChar_eq_self_iff.mp (fixed slash member) rfl
  · intro absent ch member
    apply convertChar_eq_self_iff.mpr
    rintro rfl
    exact absent member

/-- Converting an escaped path restores it exactly when it holds no slash: the
flag `escape` keeps a backslash, but not a slash, as it is. -/
theorem convertSlashes_escape_iff (heap : Memory UInt8) (string : CString) :
    (convertSlashes heap (escape string)).result = string ↔ slash ∉ string.bytes := by
  obtain ⟨taken, ends⟩ := unescapeFrom_escape string.bytes
  rw [CString.eq_iff_bytes, result_convertSlashes, escape, ends, taken,
    map_convertChar_eq_self_iff]

/-- An escaped slash comes back as a backslash. -/
theorem convertSlashes_escaped_slash :
    (convertSlashes (fun _ => 0) (escape (CString.single slash (by decide)))).result ≠
      CString.single slash (by decide) := by
  decide

end Puppy.Cli
