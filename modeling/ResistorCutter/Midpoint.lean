import Mathlib.Tactic.Linarith
import Mathlib.Tactic.Ring

/-!
The line through two points of a grid, drawn column by column with an error term instead of a
division: in column `k` it is within half a row of the true line.
-/

namespace Midpoint

/-- Rows passed so far, and the error. -/
structure Cursor where
  row : Int
  err : Int

def advance (dx dy : Int) (cursor : Cursor) : Cursor :=
  if cursor.err - dy < 0 then ⟨cursor.row + 1, cursor.err - dy + dx⟩
  else ⟨cursor.row, cursor.err - dy⟩

def cursor (dx dy : Int) : Nat → Cursor
  | 0 => ⟨0, dx / 2⟩
  | k + 1 => advance dx dy (cursor dx dy k)

variable {dx dy : Int}

/-- The error is the distance to the true line, in units of `1 / dx` of a row. -/
theorem cursor_err (k : Nat) :
    (cursor dx dy k).err = dx / 2 - dy * k + dx * (cursor dx dy k).row := by
  induction k with
  | zero => simp [cursor]
  | succ k ih =>
      rw [cursor, advance]
      push_cast
      split
      · simp only [ih]
        ring
      · simp only [ih]
        ring

theorem cursor_bounds (flat : 0 ≤ dy) (slope : dy ≤ dx) (k : Nat) :
    0 ≤ (cursor dx dy k).err ∧ (cursor dx dy k).err ≤ dx ∧
      (0 < dx → (cursor dx dy k).err < dx) := by
  induction k with
  | zero =>
      simp only [cursor]
      omega
  | succ k ih =>
      rw [cursor, advance]
      split
      · simp only
        omega
      · simp only
        omega

/-- Half a row at most. -/
theorem cursor_near (flat : 0 ≤ dy) (slope : dy ≤ dx) (k : Nat) :
    2 * (dy * k - dx * (cursor dx dy k).row) ≤ dx ∧
      -dx ≤ 2 * (dy * k - dx * (cursor dx dy k).row) := by
  have err := @cursor_err dx dy k
  have bounds := cursor_bounds flat slope k
  omega

theorem cursor_level (wide : 0 ≤ dx) (k : Nat) : (cursor dx 0 k).row = 0 := by
  induction k with
  | zero => rfl
  | succ k ih =>
      have bounds := cursor_bounds (Int.le_refl 0) wide k
      rw [cursor, advance, if_neg (by omega)]
      exact ih

/-- Between the ends the line does not leave the rows between them. -/
theorem cursor_row (flat : 0 ≤ dy) (slope : dy ≤ dx) {k : Nat} (inside : (k : Int) ≤ dx) :
    0 ≤ (cursor dx dy k).row ∧ (cursor dx dy k).row ≤ dy := by
  rcases Int.lt_or_eq_of_le (Int.le_trans flat slope) with wide | point
  · have err := @cursor_err dx dy k
    obtain ⟨lower, -, upper⟩ := cursor_bounds flat slope k
    have below := upper wide
    have climbed : dy * k ≤ dy * dx := Int.mul_le_mul_of_nonneg_left inside flat
    have start : 0 ≤ dy * k := Int.mul_nonneg flat (Int.natCast_nonneg k)
    constructor
    · by_contra negative
      have under : dx * (cursor dx dy k).row ≤ dx * -1 :=
        Int.mul_le_mul_of_nonneg_left (by omega) (by omega)
      omega
    · by_contra beyond
      have above : dx * (dy + 1) ≤ dx * (cursor dx dy k).row :=
        Int.mul_le_mul_of_nonneg_left (by omega) (by omega)
      have expanded : dx * (dy + 1) = dy * dx + dx := by ring
      omega
  · obtain rfl : dy = 0 := by omega
    rw [cursor_level slope k]
    omega

/-- The line ends in the row it is drawn to. -/
theorem cursor_last (flat : 0 ≤ dy) (slope : dy ≤ dx) {k : Nat} (last : (k : Int) = dx) :
    (cursor dx dy k).row = dy := by
  obtain ⟨lower, upper⟩ := cursor_row flat slope (Int.le_of_eq last)
  rcases Int.lt_or_eq_of_le (Int.le_trans flat slope) with wide | point
  · obtain ⟨near, -⟩ := cursor_near flat slope k
    by_contra short
    have gap : dx * 1 ≤ dx * (dy - (cursor dx dy k).row) :=
      Int.mul_le_mul_of_nonneg_left (by omega) (by omega)
    have same : dx * (dy - (cursor dx dy k).row) = dy * k - dx * (cursor dx dy k).row := by
      rw [last]
      ring
    omega
  · obtain rfl : dy = 0 := by omega
    exact cursor_level slope k

end Midpoint
