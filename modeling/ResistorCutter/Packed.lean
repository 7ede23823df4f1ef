import Mathlib.Data.List.Count

/-!
Bits packed into the bytes of an array. A cell is the index of a byte and the number of a bit in
it; the cells of an array can be read, written and flipped one by one.
-/

namespace Packed

/-! One byte. -/

def testBit (byte : UInt8) (bit : Nat) : Bool := (byte >>> UInt8.ofNat bit) &&& 1 != 0

def setBit (byte : UInt8) (bit : Nat) (value : Bool) : UInt8 :=
  if value then byte ||| 1 <<< UInt8.ofNat bit else byte &&& ~~~(1 <<< UInt8.ofNat bit)

theorem testBit_eq {bit : Nat} (small : bit < 8) (byte : UInt8) :
    testBit byte bit = byte.toBitVec.getLsbD bit := by
  have amount : bit % 256 % 8 = bit := by omega
  rw [← BitVec.testBit_toNat, UInt8.toNat_toBitVec, Nat.testBit, testBit, Bool.eq_iff_iff]
  simp [← UInt8.toNat_inj, amount, Nat.and_comm]

theorem testBit_setBit {bit other : Nat} (small : bit < 8) (below : other < 8) (byte : UInt8)
    (value : Bool) :
    testBit (setBit byte bit value) other = if other = bit then value else testBit byte other := by
  have mask : (1 <<< UInt8.ofNat bit : UInt8).toBitVec.getLsbD other = decide (other = bit) := by
    have inside : bit ≤ other ∧ other - bit = 0 ↔ other = bit := by omega
    rw [Bool.eq_iff_iff]
    simpa [UInt8.toBitVec_shiftLeft, below, Nat.mod_eq_of_lt small] using inside
  rw [testBit_eq below, testBit_eq below, setBit]
  cases value with
  | false =>
      simp only [Bool.false_eq_true, if_false, UInt8.toBitVec_and, UInt8.toBitVec_not,
        BitVec.getLsbD_and, BitVec.getLsbD_not, mask, below]
      by_cases same : other = bit <;> simp [same]
  | true =>
      simp only [if_true, UInt8.toBitVec_or, BitVec.getLsbD_or, mask]
      by_cases same : other = bit <;> simp [same]

theorem eq_of_testBit {byte other : UInt8}
    (same : ∀ bit < 8, testBit byte bit = testBit other bit) : byte = other := by
  apply UInt8.toBitVec_inj.mp
  apply BitVec.eq_of_getLsbD_eq
  intro bit below
  rw [← testBit_eq below, ← testBit_eq below]
  exact same bit below

/-! Arrays of bytes. -/

abbrev Cell := Nat × Nat

variable {size : Nat}

def Cell.Valid (size : Nat) (cell : Cell) : Prop := cell.1 < size ∧ cell.2 < 8

def read (bytes : Vector UInt8 size) (cell : Cell) : Bool :=
  testBit (bytes[cell.1]?.getD 0) cell.2

def write (bytes : Vector UInt8 size) (cell : Cell) (value : Bool) : Vector UInt8 size :=
  bytes.setIfInBounds cell.1 (setBit (bytes[cell.1]?.getD 0) cell.2 value)

theorem read_write {cell other : Cell} (valid : cell.Valid size) (below : other.2 < 8)
    (bytes : Vector UInt8 size) (value : Bool) :
    read (write bytes cell value) other = if other = cell then value else read bytes other := by
  obtain ⟨index, bit⟩ := cell
  obtain ⟨place, number⟩ := other
  by_cases same : place = index
  · subst same
    have inside : place < size := valid.1
    simp [read, write, inside, testBit_setBit valid.2 below]
  · have apart : index ≠ place := fun equal => same equal.symm
    simp [read, write, same, apart]

theorem read_replicate (cell : Cell) : read (Vector.replicate size 0) cell = false := by
  have zero : (Vector.replicate size (0 : UInt8))[cell.1]?.getD 0 = 0 := by
    rw [Vector.getElem?_replicate]
    split <;> rfl
  rw [read, zero, testBit]
  simp

theorem ext_read {bytes others : Vector UInt8 size}
    (same : ∀ cell : Cell, cell.Valid size → read bytes cell = read others cell) :
    bytes = others := by
  apply Vector.ext
  intro index below
  apply eq_of_testBit
  intro bit small
  simpa [read, below] using same (index, bit) ⟨below, small⟩

/-! Flipping. -/

def flip (bytes : Vector UInt8 size) (cell : Cell) : Vector UInt8 size :=
  write bytes cell !read bytes cell

theorem read_flip {cell other : Cell} (valid : cell.Valid size) (below : other.2 < 8)
    (bytes : Vector UInt8 size) :
    read (flip bytes cell) other = (read bytes other ^^ decide (other = cell)) := by
  rw [flip, read_write valid below]
  by_cases same : other = cell <;> simp [same]

def flipAll (bytes : Vector UInt8 size) (cells : List Cell) : Vector UInt8 size :=
  cells.foldl flip bytes

theorem flipAll_append (bytes : Vector UInt8 size) (first second : List Cell) :
    flipAll bytes (first ++ second) = flipAll (flipAll bytes first) second :=
  List.foldl_append

/-- A bit ends up inverted if its cell occurs an odd number of times. -/
theorem read_flipAll {cells : List Cell} (valid : ∀ cell ∈ cells, cell.Valid size) {other : Cell}
    (below : other.2 < 8) (bytes : Vector UInt8 size) :
    read (flipAll bytes cells) other =
      (read bytes other ^^ decide (cells.count other % 2 = 1)) := by
  induction cells generalizing bytes with
  | nil => simp [flipAll]
  | cons cell rest ih =>
      have now := read_flip (valid cell (by simp)) below bytes
      have later := ih (fun next member => valid next (by simp [member])) (flip bytes cell)
      rw [flipAll] at later ⊢
      rw [List.foldl_cons, later, now, List.count_cons]
      by_cases same : cell = other
      · subst same
        have parity := Nat.mod_two_eq_zero_or_one (rest.count cell)
        rcases parity with even | odd
        · simp [even, Nat.add_mod]
        · simp [odd, Nat.add_mod]
      · have apart : ¬other = cell := fun equal => same equal.symm
        simp [same, apart]

theorem flipAll_congr {first second : List Cell} (validFirst : ∀ cell ∈ first, cell.Valid size)
    (validSecond : ∀ cell ∈ second, cell.Valid size)
    (parity : ∀ cell, first.count cell % 2 = second.count cell % 2) (bytes : Vector UInt8 size) :
    flipAll bytes first = flipAll bytes second := by
  apply ext_read
  intro cell valid
  rw [read_flipAll validFirst valid.2, read_flipAll validSecond valid.2, parity]

theorem flipAll_comm {first second : List Cell} (validFirst : ∀ cell ∈ first, cell.Valid size)
    (validSecond : ∀ cell ∈ second, cell.Valid size) (bytes : Vector UInt8 size) :
    flipAll (flipAll bytes first) second = flipAll (flipAll bytes second) first := by
  rw [← flipAll_append, ← flipAll_append]
  have together : ∀ cell ∈ first ++ second, cell.Valid size := by
    intro cell member
    exact (List.mem_append.mp member).elim (validFirst cell) (validSecond cell)
  have swapped : ∀ cell ∈ second ++ first, cell.Valid size := by
    intro cell member
    exact together cell (List.mem_append.mpr (List.mem_append.mp member).symm)
  apply flipAll_congr together swapped
  intro cell
  simp only [List.count_append, Nat.add_comm]

theorem flipAll_twice {cells : List Cell} (valid : ∀ cell ∈ cells, cell.Valid size)
    (bytes : Vector UInt8 size) : flipAll (flipAll bytes cells) cells = bytes := by
  rw [← flipAll_append]
  have doubled : ∀ cell ∈ cells ++ cells, cell.Valid size := by
    intro cell member
    exact (List.mem_append.mp member).elim (valid cell) (valid cell)
  have none : ∀ cell ∈ ([] : List Cell), cell.Valid size := by simp
  apply flipAll_congr doubled none
  intro cell
  simp only [List.count_append, List.count_nil]
  omega

end Packed
