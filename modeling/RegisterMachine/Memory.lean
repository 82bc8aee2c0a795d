import RegisterMachine.Word

/-!
# Memory

A memory is a row of cells of fixed number. Reading outside it gives 0 and
writing outside it does nothing, so no address is an error; whether an address
lies inside is a question of its own (`InRange`).

Written values are wrapped to words. `overlay` is the exception: it places
cells as they are.
-/

set_option autoImplicit false

namespace RegisterMachine

/-- A row of cells. -/
structure Memory where
  cells : Array Int := #[]
  deriving DecidableEq, Repr, Inhabited

namespace Memory

/-- Numbers of cells lie below this bound, `2 ^ 63`. -/
def countable : Nat := 9223372036854775808

/-- The number of bytes that a cell takes. -/
def bytesPerCell : Nat := 8

/-- There is room for fewer cells than this, `2 ^ 60`: the number of their bytes lies below
`countable` as well. Below this bound no size is refused. -/
def capacity : Nat := countable / bytesPerCell

/-- The number of cells. -/
def size (m : Memory) : Nat := m.cells.size

/-- A memory of the given size that holds only zeros. -/
def blank (size : Nat) : Memory := ⟨Array.replicate size 0⟩

/-- The addresses of the cells. -/
def InRange (m : Memory) (address : Int) : Prop :=
  0 ≤ address ∧ address < m.size

instance (m : Memory) (address : Int) : Decidable (m.InRange address) :=
  inferInstanceAs (Decidable (_ ∧ _))

/-- The content of a cell; 0 outside the memory. -/
def read (m : Memory) (address : Int) : Int :=
  if 0 ≤ address then m.cells.getD address.toNat 0 else 0

/-- The memory with a word placed at an address, if there is a cell. -/
def write (m : Memory) (address value : Int) : Memory :=
  if 0 ≤ address then ⟨m.cells.setIfInBounds address.toNat (Word.wrap value)⟩ else m

/-- The memory with the given cells, as they are, in front. -/
def overlay (m : Memory) (front : List Int) : Memory :=
  let kept := front.take m.size
  ⟨kept.toArray ++ m.cells.extract kept.length m.size⟩

/-! ## What the operations do to a cell -/

/-- Outside the memory every cell reads as 0. -/
theorem read_of_not_inRange {m : Memory} {address : Int} (outside : ¬ m.InRange address) :
    m.read address = 0 := by
  unfold read
  split
  · have : m.cells.size ≤ address.toNat := by
      simp only [InRange, size] at outside
      omega
    simp [Array.getD, Nat.not_lt.2 this]
  · rfl

/-- Reading after writing. Writing outside the memory changes nothing. -/
theorem read_write (m : Memory) (address value other : Int) :
    (m.write address value).read other =
      if other = address ∧ m.InRange address then Word.wrap value else m.read other := by
  unfold write
  split
  · unfold read
    by_cases nonneg : 0 ≤ other
    · simp only [nonneg, if_true, InRange, size]
      by_cases same : other = address
      · subst same
        by_cases inside : other.toNat < m.cells.size
        · have : other < (m.cells.size : Int) := by omega
          simp [Array.getD_eq_getD_getElem?, inside, this, nonneg]
        · have : ¬ other < (m.cells.size : Int) := by omega
          simp [Array.getD_eq_getD_getElem?, inside, this]
      · have : address.toNat ≠ other.toNat := by omega
        simp [Array.getD_eq_getD_getElem?, this, same]
    · have : ¬ (other = address ∧ m.InRange address) := by
        simp only [InRange]
        omega
      simp [nonneg, this]
  · have : ¬ m.InRange address := by
      simp only [InRange]
      omega
    simp [this]

/-- Writing outside the memory changes nothing. -/
theorem write_of_not_inRange {m : Memory} {address : Int} (outside : ¬ m.InRange address)
    (value : Int) : m.write address value = m := by
  unfold write
  split
  · have beyond : m.cells.size ≤ address.toNat := by
      simp only [InRange, size] at outside
      omega
    rw [Array.setIfInBounds_eq_of_size_le beyond]
  · rfl

/-- Writing keeps the number of cells. -/
@[simp] theorem size_write (m : Memory) (address value : Int) :
    (m.write address value).size = m.size := by
  unfold write size
  split <;> simp

/-- Placing cells in front keeps the number of cells. -/
@[simp] theorem size_overlay (m : Memory) (front : List Int) :
    (m.overlay front).size = m.size := by
  simp only [overlay, size, Array.size_append, List.size_toArray, List.length_take,
    Array.size_extract]
  omega

/-- Reading after placing cells in front. -/
theorem read_overlay (m : Memory) (front : List Int) (address : Int) :
    (m.overlay front).read address =
      if m.InRange address ∧ address.toNat < front.length then front.getD address.toNat 0
      else m.read address := by
  by_cases inside : m.InRange address
  · have lower : 0 ≤ address := inside.1
    have upper : address.toNat < m.cells.size := by
      have := inside.2
      simp only [size] at this
      omega
    simp only [read, overlay, lower, if_true, size, Array.getD_eq_getD_getElem?,
      Array.getElem?_append, List.size_toArray, List.length_take]
    by_cases covered : address.toNat < front.length
    · have : address.toNat < min m.cells.size front.length := by omega
      simp [inside, covered, this]
    · have : ¬ address.toNat < min m.cells.size front.length := by omega
      simp only [this, if_false, covered, and_false, Array.getElem?_extract]
      have : min m.cells.size front.length + (address.toNat - min m.cells.size front.length)
          = address.toNat := by omega
      rw [this]
      split
      · rfl
      · omega
  · rw [read_of_not_inRange inside, read_of_not_inRange (m := m.overlay front)]
    · simp [inside]
    · simpa [InRange] using inside

/-- A blank memory has the size asked for. -/
@[simp] theorem size_blank (size : Nat) : (blank size).size = size := by
  simp [blank, Memory.size]

/-- A blank memory reads as 0 everywhere. -/
@[simp] theorem read_blank (size : Nat) (address : Int) : (blank size).read address = 0 := by
  unfold read blank
  split
  · simp only [Array.getD_eq_getD_getElem?, Array.getElem?_replicate]
    split <;> rfl
  · rfl

end Memory

end RegisterMachine
