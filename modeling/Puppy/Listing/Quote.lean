import Puppy.Listing.Tool
import Mathlib.Logic.Function.Basic

/-!
# Quoted names

`quote_xml` writes a name with percent escapes.  Decoding the escapes restores
the name, and no byte of what is written has a meaning inside an attribute.
-/

namespace Puppy.Listing

/-! ## Percent decoding -/

/-- The value of a hexadecimal digit. -/
def hexValue (ch : UInt8) : Option UInt8 :=
  if 0x30 ≤ ch ∧ ch ≤ 0x39 then some (ch - 0x30)
  else if 0x61 ≤ ch ∧ ch ≤ 0x66 then some (ch - 0x61 + 10)
  else if 0x41 ≤ ch ∧ ch ≤ 0x46 then some (ch - 0x41 + 10)
  else none

/-- Replace every `%hh` by the byte `hh`. -/
def percentDecode : List UInt8 → List UInt8
  | ch :: high :: low :: rest =>
      if ch = 0x25 then
        match hexValue high, hexValue low with
        | some upper, some lower => (upper * 16 + lower) :: percentDecode rest
        | _, _ => ch :: percentDecode (high :: low :: rest)
      else ch :: percentDecode (high :: low :: rest)
  | short => short

theorem percentDecode_cons_of_ne {ch : UInt8} (plain : ch ≠ 0x25) (rest : List UInt8) :
    percentDecode (ch :: rest) = ch :: percentDecode rest := by
  rcases rest with _ | ⟨high, _ | ⟨low, rest⟩⟩
  · rfl
  · rfl
  · rw [percentDecode, if_neg plain]

theorem percentDecode_escape {high low upper lower : UInt8} (first : hexValue high = some upper)
    (second : hexValue low = some lower) (rest : List UInt8) :
    percentDecode (0x25 :: high :: low :: rest) = (upper * 16 + lower) :: percentDecode rest := by
  rw [percentDecode, if_pos rfl, first, second]

/-! ## What `quote_xml` writes -/

/-- The bytes of one character. -/
def quoteChar (ch : UInt8) : List UInt8 :=
  if isValidChar ch then [ch] else [0x25, hexDigit (ch / 16), hexDigit (ch % 16)]

theorem quoteXml_eq (name : CString) : quoteXml name = name.bytes.flatMap quoteChar := rfl

/-- Letters, digits and the characters `_ '-+.%`. -/
def Harmless (ch : UInt8) : Prop :=
  (0x61 ≤ ch ∧ ch ≤ 0x7A) ∨ (0x41 ≤ ch ∧ ch ≤ 0x5A) ∨ (0x30 ≤ ch ∧ ch ≤ 0x39) ∨
    ch ∈ [0x5F, 0x20, 0x27, 0x2D, 0x2B, 0x2E, 0x25]

instance : DecidablePred Harmless := fun _ => inferInstanceAs (Decidable (_ ∨ _ ∨ _ ∨ _))

/-- Every value of four bits is one of sixteen. -/
theorem forall_nibble (holds : UInt8 → Prop)
    (each : ∀ n : Fin 16, holds (UInt8.ofNat n.val)) {n : UInt8} (small : n.toNat < 16) :
    holds n := by
  have value := each ⟨n.toNat, small⟩
  rwa [UInt8.ofNat_toNat] at value

theorem hexValue_hexDigit {n : UInt8} (small : n.toNat < 16) : hexValue (hexDigit n) = some n :=
  forall_nibble (fun n => hexValue (hexDigit n) = some n) (by decide) small

theorem harmless_hexDigit {n : UInt8} (small : n.toNat < 16) : Harmless (hexDigit n) :=
  forall_nibble (fun n => Harmless (hexDigit n)) (by decide) small

theorem div_sixteen_lt (ch : UInt8) : (ch / 16).toNat < 16 := by
  have bound := UInt8.toNat_lt ch
  rw [UInt8.toNat_div]
  exact Nat.div_lt_of_lt_mul (by simpa using bound)

theorem mod_sixteen_lt (ch : UInt8) : (ch % 16).toNat < 16 := by
  rw [UInt8.toNat_mod]
  exact Nat.mod_lt _ (by decide)

theorem div_mul_add_mod_sixteen (ch : UInt8) : ch / 16 * 16 + ch % 16 = ch := by
  have bound := UInt8.toNat_lt ch
  apply UInt8.toNat_inj.mp
  simp only [UInt8.toNat_add, UInt8.toNat_mul, UInt8.toNat_div, UInt8.toNat_mod,
    show (16 : UInt8).toNat = 16 from rfl]
  omega

theorem harmless_of_isValidChar {ch : UInt8} (valid : isValidChar ch = true) : Harmless ch := by
  have each : ∀ n ∈ validChars.toList.map Char.toNat, Harmless (UInt8.ofNat n) := by
    decide +kernel
  have listed := each ch.toNat (by simpa [isValidChar] using valid)
  rwa [UInt8.ofNat_toNat] at listed

theorem ne_percent_of_isValidChar {ch : UInt8} (valid : isValidChar ch = true) : ch ≠ 0x25 := by
  rintro rfl
  revert valid
  decide +kernel

theorem harmless_quoteChar (ch : UInt8) : ∀ written ∈ quoteChar ch, Harmless written := by
  rw [quoteChar]
  split
  · rename_i valid
    rw [List.forall_mem_singleton]
    exact harmless_of_isValidChar valid
  · have percent : Harmless 0x25 := by decide
    simp only [List.forall_mem_cons, List.not_mem_nil, false_implies, implies_true, and_true]
    exact ⟨percent, harmless_hexDigit (div_sixteen_lt ch), harmless_hexDigit (mod_sixteen_lt ch)⟩

theorem percentDecode_quoteChar (ch : UInt8) (rest : List UInt8) :
    percentDecode (quoteChar ch ++ rest) = ch :: percentDecode rest := by
  rw [quoteChar]
  split
  · rename_i valid
    exact percentDecode_cons_of_ne (ne_percent_of_isValidChar valid) rest
  · have escaped := percentDecode_escape (hexValue_hexDigit (div_sixteen_lt ch))
      (hexValue_hexDigit (mod_sixteen_lt ch)) rest
    rw [div_mul_add_mod_sixteen] at escaped
    exact escaped

theorem percentDecode_quoteXml (name : CString) : percentDecode (quoteXml name) = name.bytes := by
  rw [quoteXml_eq]
  induction name.bytes with
  | nil => rfl
  | cons ch rest ih => rw [List.flatMap_cons, percentDecode_quoteChar, ih]

/-- Nothing harmless ends an attribute, begins markup, controls anything or
lies outside ASCII. -/
theorem Harmless.printable {ch : UInt8} (harmless : Harmless ch) :
    ch ≠ 0x22 ∧ ch ≠ 0x3C ∧ ch ≠ 0x26 ∧ 0x20 ≤ ch ∧ ch < 0x7F := by
  simp only [Harmless, List.mem_cons, List.not_mem_nil, or_false, Ne, ← UInt8.toNat_inj,
    UInt8.le_iff_toNat_le, UInt8.lt_iff_toNat_lt, UInt8.reduceToNat] at harmless ⊢
  omega

/-- A quoted name is harmless inside an attribute and decodes to the name, so
that different names have different quotations. -/
theorem quoteXml_harmless_reversible :
    (∀ name, ∀ ch ∈ quoteXml name, Harmless ch ∧
      ch ≠ 0x22 ∧ ch ≠ 0x3C ∧ ch ≠ 0x26 ∧ 0x20 ≤ ch ∧ ch < 0x7F) ∧
    (∀ name, percentDecode (quoteXml name) = name.bytes) ∧
    Function.Injective quoteXml := by
  constructor
  · intro name written quoted
    rw [quoteXml_eq, List.mem_flatMap] at quoted
    obtain ⟨ch, -, quoted⟩ := quoted
    have harmless := harmless_quoteChar ch written quoted
    exact ⟨harmless, harmless.printable⟩
  · constructor
    · exact percentDecode_quoteXml
    · intro first second same
      have decoded := congrArg percentDecode same
      rw [percentDecode_quoteXml, percentDecode_quoteXml] at decoded
      exact CString.eq_iff_bytes.mpr decoded

end Puppy.Listing
