import Mathlib.Data.List.Basic

/-!
# Cell memories

A memory is a total assignment of cells to addresses, counted from the start of
one object.  Nothing is assumed about cells that were never stored to, so
"whatever the memory held before" is a variable like any other.  The file
supplies consecutive loads and stores, the exchange of neighbouring cells, and
the frame lemmas that connect them.
-/

universe u

/-- Cells addressed from the start of an object. -/
abbrev Memory (α : Type u) := Nat → α

namespace Memory

variable {α : Type u}

/-- The `count` cells from `start` on. -/
def load (memory : Memory α) (start count : Nat) : List α :=
  (List.range count).map fun offset => memory (start + offset)

/-- Overwrite the cells from `start` on by the entries of a list. -/
def store (memory : Memory α) (start : Nat) (cells : List α) : Memory α :=
  fun address =>
    if start ≤ address then cells.getD (address - start) (memory address)
    else memory address

@[simp]
theorem load_length (memory : Memory α) (start count : Nat) :
    (load memory start count).length = count := by
  simp [load]

@[simp]
theorem load_zero (memory : Memory α) (start : Nat) : load memory start 0 = [] :=
  rfl

@[simp]
theorem getElem_load (memory : Memory α) (start count index : Nat)
    (bound : index < (load memory start count).length) :
    (load memory start count)[index] = memory (start + index) := by
  simp [load]

theorem load_append (memory : Memory α) (start first second : Nat) :
    load memory start (first + second) =
      load memory start first ++ load memory (start + first) second := by
  simp [load, List.range_add, Function.comp_def, Nat.add_assoc]

theorem load_take (memory : Memory α) (start count kept : Nat) :
    (load memory start count).take kept = load memory start (min kept count) := by
  apply List.ext_getElem
  · simp
  · intro index _ _
    simp

/-- Loads agree exactly when the memories agree on the loaded cells. -/
theorem load_eq_load_iff (first second : Memory α) (start count : Nat) :
    load first start count = load second start count ↔
      ∀ offset < count, first (start + offset) = second (start + offset) := by
  simp [load]

theorem load_congr {first second : Memory α} {start count : Nat}
    (agree : ∀ address, start ≤ address → address < start + count →
      first address = second address) :
    load first start count = load second start count := by
  rw [load_eq_load_iff]
  intro offset bound
  exact agree _ (Nat.le_add_right start offset) (by omega)

/-! ## Stores -/

theorem store_below (memory : Memory α) {start address : Nat} (cells : List α)
    (below : address < start) : store memory start cells address = memory address := by
  simp [store, Nat.not_le.mpr below]

theorem store_above (memory : Memory α) {start address : Nat} {cells : List α}
    (above : start + cells.length ≤ address) :
    store memory start cells address = memory address := by
  have past : cells.length ≤ address - start := by omega
  simp [store, List.getD_eq_getElem?_getD, List.getElem?_eq_none past]

theorem store_outside (memory : Memory α) {start address : Nat} {cells : List α}
    (outside : address < start ∨ start + cells.length ≤ address) :
    store memory start cells address = memory address := by
  rcases outside with below | above
  · exact store_below memory cells below
  · exact store_above memory above

theorem store_inside (memory : Memory α) {start offset : Nat} {cells : List α}
    (bound : offset < cells.length) :
    store memory start cells (start + offset) = cells[offset] := by
  simp [store, bound]

/-- Inside the stored range the previous contents do not matter. -/
theorem store_agree (first second : Memory α) {start address : Nat} {cells : List α}
    (above : start ≤ address) (below : address < start + cells.length) :
    store first start cells address = store second start cells address := by
  obtain ⟨offset, rfl⟩ := Nat.exists_eq_add_of_le above
  rw [store_inside first (by omega), store_inside second (by omega)]

/-- A store keeps an agreement it does not overwrite, and makes one where it does. -/
theorem store_agree_of_agree {first second : Memory α} {address : Nat}
    (agree : first address = second address) (start : Nat) (cells : List α) :
    store first start cells address = store second start cells address := by
  simp only [store, agree]

@[simp]
theorem store_nil (memory : Memory α) (start : Nat) : store memory start [] = memory := by
  funext address
  simp [store]

/-- Storing a second list right behind a first one stores their
concatenation. -/
theorem store_store_append (memory : Memory α) (start : Nat) (first second : List α) :
    store (store memory start first) (start + first.length) second =
      store memory start (first ++ second) := by
  funext address
  rcases Nat.lt_or_ge address start with below | above
  · rw [store_below _ _ (by omega), store_below _ _ below, store_below _ _ below]
  · obtain ⟨offset, rfl⟩ := Nat.exists_eq_add_of_le above
    rcases Nat.lt_or_ge offset first.length with inFirst | past
    · rw [store_below _ _ (by omega), store_inside _ inFirst,
        store_inside _ (by rw [List.length_append]; omega),
        List.getElem_append_left inFirst]
    · rcases Nat.lt_or_ge offset (first.length + second.length) with inSecond | beyond
      · obtain ⟨rest, rfl⟩ := Nat.exists_eq_add_of_le past
        rw [← Nat.add_assoc, store_inside _ (by omega), Nat.add_assoc,
          store_inside _ (by rw [List.length_append]; omega)]
        simp
      · rw [store_above _ (by omega), store_above _ (by omega),
          store_above _ (by rw [List.length_append]; omega)]

/-- Storing behind what has been stored at the front. -/
theorem store_front_append (memory : Memory α) (first second : List α) :
    store (store memory 0 first) first.length second = store memory 0 (first ++ second) := by
  have joined := store_store_append memory 0 first second
  rwa [Nat.zero_add] at joined

/-- A load of exactly the stored range returns the stored cells. -/
theorem load_store_self (memory : Memory α) (start : Nat) (cells : List α) :
    load (store memory start cells) start cells.length = cells := by
  apply List.ext_getElem
  · simp
  · intro index _ bound
    rw [getElem_load, store_inside memory bound]

/-- A load that begins a stored range returns the stored prefix. -/
theorem load_store_take (memory : Memory α) (start : Nat) (cells : List α) {count : Nat}
    (bound : count ≤ cells.length) :
    load (store memory start cells) start count = cells.take count := by
  rw [← Nat.min_eq_left bound, ← load_take, load_store_self, Nat.min_eq_left bound]

/-- A load disjoint from the stored range is unaffected. -/
theorem load_store_disjoint (memory : Memory α) (cells : List α) {start count target : Nat}
    (disjoint : start + count ≤ target ∨ target + cells.length ≤ start) :
    load (store memory target cells) start count = load memory start count := by
  apply load_congr
  intro address lower upper
  exact store_outside memory (by omega)

/-! ## Exchanging neighbours -/

/-- The other address of the pair `2k, 2k + 1` an address belongs to. -/
def neighbour (address : Nat) : Nat :=
  if address % 2 = 0 then address + 1 else address - 1

@[simp]
theorem neighbour_neighbour (address : Nat) : neighbour (neighbour address) = address := by
  unfold neighbour
  split <;> split <;> omega

theorem neighbour_lt_iff {address pairs : Nat} :
    neighbour address < 2 * pairs ↔ address < 2 * pairs := by
  unfold neighbour
  split <;> omega

/-- Exchange the two cells of each of the first `pairs` pairs. -/
def exchange (memory : Memory α) (pairs : Nat) : Memory α := fun address =>
  if address < 2 * pairs then memory (neighbour address) else memory address

theorem exchange_inside (memory : Memory α) {pairs address : Nat}
    (bound : address < 2 * pairs) :
    exchange memory pairs address = memory (neighbour address) := by
  simp [exchange, bound]

theorem exchange_outside (memory : Memory α) {pairs address : Nat}
    (bound : 2 * pairs ≤ address) :
    exchange memory pairs address = memory address := by
  simp [exchange, Nat.not_lt.mpr bound]

/-- Exchanging the same pairs twice restores the memory. -/
@[simp]
theorem exchange_exchange (memory : Memory α) (pairs : Nat) :
    exchange (exchange memory pairs) pairs = memory := by
  funext address
  rcases Nat.lt_or_ge address (2 * pairs) with inside | outside
  · rw [exchange_inside _ inside, exchange_inside _ (neighbour_lt_iff.mpr inside),
      neighbour_neighbour]
  · rw [exchange_outside _ outside, exchange_outside _ outside]

end Memory
