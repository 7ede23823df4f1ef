import Mathlib.Tactic.LinearCombination
import ResistorCutter.GfxCore
import ResistorCutter.Midpoint
import ResistorCutter.PanelChecks

/-!
What `writeLine` draws: one pixel in each column, or in each row of a steep line, none of them
further than half a pixel from the line between the two points.
-/

namespace ResistorCutter

/-! Sums of 16 bits that do not overflow. -/

theorem toInt_sum {a b : Int16} (lower : -32768 ≤ a.toInt + b.toInt)
    (upper : a.toInt + b.toInt < 32768) : (a + b).toInt = a.toInt + b.toInt := by
  rw [Int16.toInt_add]
  exact Int.bmod_eq_of_le (by omega) (by omega)

theorem toInt_difference {a b : Int16} (lower : -32768 ≤ a.toInt - b.toInt)
    (upper : a.toInt - b.toInt < 32768) : (a - b).toInt = a.toInt - b.toInt := by
  rw [Int16.toInt_sub]
  exact Int.bmod_eq_of_le (by omega) (by omega)

theorem toInt_one : (1 : Int16).toInt = 1 := rfl

namespace Nokia

/-! The pixels of a line after the swaps, and the calls that draw them. -/

/-- The `k`-th pixel; the row moves by `turn`, one way or the other. -/
def linePoint (steep : Bool) (left row : Int) (turn dx dy : Int) (k : Nat) : Int16 × Int16 :=
  let x := Int16.ofInt (left + k)
  let y := Int16.ofInt (row + turn * (Midpoint.cursor dx dy k).row)
  if steep then (y, x) else (x, y)

def drawAll (color : Color) (lcd : Nokia) (points : List (Int16 × Int16)) : Nokia :=
  points.foldl (fun lcd point => lcd.drawPixel point.1 point.2 color) lcd

theorem drawAll_cons (color : Color) (lcd : Nokia) (point : Int16 × Int16)
    (rest : List (Int16 × Int16)) :
    drawAll color lcd (point :: rest) =
      drawAll color (lcd.drawPixel point.1 point.2 color) rest := rfl

variable {steep : Bool} {left row turn dx dy : Int} {x1 width height ystep : Int16} {color : Color}

/-- The loop from column `k` on: `count` columns are left, and no sum overflows. -/
theorem plot_eq (last : x1.toInt = left + dx) (inside : x1.toInt < 32767) (wide : width.toInt = dx)
    (high : height.toInt = dy) (turned : ystep = Int16.ofInt turn) (flat : 0 ≤ dy)
    (slope : dy ≤ dx) (count : Nat) :
    ∀ (fuel k : Nat) (x0 y0 err : Int16) (lcd : Nokia), count < fuel → k + count = dx + 1 →
      x0.toInt = left + k → y0 = Int16.ofInt (row + turn * (Midpoint.cursor dx dy k).row) →
      err.toInt = (Midpoint.cursor dx dy k).err →
      plot steep x1 width height ystep color fuel x0 y0 err lcd =
        some (drawAll color lcd
          ((List.range' k count).map (linePoint steep left row turn dx dy))) := by
  induction count with
  | zero =>
      intro fuel k x0 y0 err lcd enough done column _ _
      obtain ⟨fuel, rfl⟩ := Nat.exists_eq_add_one.mpr (Nat.zero_lt_of_lt enough)
      rw [plot, if_neg]
      · rfl
      · rw [Int16.le_iff_toInt_le]
        omega
  | succ count ih =>
      intro fuel k x0 y0 err lcd enough left' column line error
      obtain ⟨fuel, rfl⟩ := Nat.exists_eq_add_one.mpr (Nat.zero_lt_of_lt enough)
      have more : x0 ≤ x1 := by
        rw [Int16.le_iff_toInt_le]
        omega
      have boundary := x0.le_toInt
      have first := x1.le_toInt
      have next : (x0 + 1).toInt = left + (k + 1 : Nat) := by
        rw [toInt_sum (by rw [toInt_one]; omega) (by rw [toInt_one]; omega), toInt_one]
        omega
      obtain ⟨lower, upper, -⟩ := Midpoint.cursor_bounds flat slope k
      have small := width.toInt_lt
      have lowered : (err - height).toInt = (Midpoint.cursor dx dy k).err - dy := by
        rw [toInt_difference (by omega) (by omega), error, high]
      have point : (if steep then lcd.drawPixel y0 x0 color else lcd.drawPixel x0 y0 color) =
          lcd.drawPixel (linePoint steep left row turn dx dy k).1
            (linePoint steep left row turn dx dy k).2 color := by
        have same : x0 = Int16.ofInt (left + k) := by
          rw [← column, Int16.ofInt_toInt]
        rw [linePoint, ← same, ← line]
        cases steep <;> rfl
      have advanced := @Midpoint.cursor.eq_2 dx dy k
      rw [Midpoint.advance] at advanced
      rw [plot, if_pos more, List.range'_succ, List.map_cons, drawAll_cons, ← point]
      simp only
      by_cases negative : (Midpoint.cursor dx dy k).err - dy < 0
      · rw [if_pos negative] at advanced
        have under : err - height < 0 := by
          rw [Int16.lt_iff_toInt_lt, lowered, Int16.toInt_zero]
          exact negative
        rw [if_pos under]
        apply ih fuel (k + 1) (x0 + 1) _ _ _ (by omega) (by omega) next
        · rw [advanced, line, turned, ← Int16.ofInt_add]
          congr 1
          ring
        · rw [advanced, toInt_sum (by omega) (by omega), lowered, wide]
      · rw [if_neg negative] at advanced
        have settled : ¬err - height < 0 := by
          rw [Int16.lt_iff_toInt_lt, lowered, Int16.toInt_zero]
          exact negative
        rw [if_neg settled]
        apply ih fuel (k + 1) (x0 + 1) _ _ _ (by omega) (by omega) next
        · rw [advanced, line]
        · rw [advanced, lowered]

/-- Which way the rows go. -/
def slope (y0 y1 : Int16) : Int := if y0 < y1 then 1 else -1

theorem toInt_end (y0 y1 : Int16) :
    y0.toInt + slope y0 y1 * (y1.toInt - y0.toInt).natAbs = y1.toInt := by
  rw [slope]
  split <;> rename_i order <;> rw [Int16.lt_iff_toInt_lt] at order <;> omega

variable {x0 y0 y1 : Int16}

theorem writeSorted_eq (sorted : x0.toInt ≤ x1.toInt) (span : x1.toInt - x0.toInt ≤ 32767)
    (inside : x1.toInt < 32767)
    (shallow : (y1.toInt - y0.toInt).natAbs ≤ x1.toInt - x0.toInt) (lcd : Nokia) :
    writeSorted steep x0 y0 x1 y1 color lcd = some (drawAll color lcd
      ((List.range' 0 ((x1.toInt - x0.toInt).toNat + 1)).map
        (linePoint steep x0.toInt y0.toInt (slope y0 y1) (x1.toInt - x0.toInt)
          (y1.toInt - y0.toInt).natAbs))) := by
  have wide : (x1 - x0).toInt = x1.toInt - x0.toInt := toInt_difference (by omega) (by omega)
  have high : (Int16.ofNat (y1.toInt - y0.toInt).natAbs).toInt = (y1.toInt - y0.toInt).natAbs :=
    Int16.toInt_ofNat_of_lt (by omega)
  have turned : (if y0 < y1 then 1 else -1 : Int16) = Int16.ofInt (slope y0 y1) := by
    rw [slope]
    split <;> rfl
  rw [writeSorted]
  apply plot_eq (by omega) inside wide high turned (by omega) shallow
  · simp only [rounds]
    omega
  · omega
  · simp
  · simp [Midpoint.cursor]
  · have two : (2 : Int16).toInt = 2 := rfl
    rw [Int16.toInt_div_of_ne_right _ _ (by decide), wide, two,
      Int.tdiv_eq_ediv_of_nonneg (by omega)]
    rfl

/-- The pixel in column `k` of a line that is sorted. -/
theorem linePoint_spec (shallow : (y1.toInt - y0.toInt).natAbs ≤ x1.toInt - x0.toInt) {k : Nat}
    (inside : k ≤ x1.toInt - x0.toInt) :
    ∃ x y : Int16, linePoint steep x0.toInt y0.toInt (slope y0 y1) (x1.toInt - x0.toInt)
        (y1.toInt - y0.toInt).natAbs k = (if steep then (y, x) else (x, y)) ∧
      x.toInt = x0.toInt + k ∧
      min y0.toInt y1.toInt ≤ y.toInt ∧ y.toInt ≤ max y0.toInt y1.toInt ∧
      2 * ((x.toInt - x0.toInt) * (y1.toInt - y0.toInt) -
        (y.toInt - y0.toInt) * (x1.toInt - x0.toInt)).natAbs ≤ x1.toInt - x0.toInt ∧
      (k = 0 → y = y0) ∧ (k = x1.toInt - x0.toInt → y = y1) := by
  let row := (Midpoint.cursor (x1.toInt - x0.toInt) (y1.toInt - y0.toInt).natAbs k).row
  obtain ⟨lower, upper⟩ : 0 ≤ row ∧ row ≤ (y1.toInt - y0.toInt).natAbs :=
    Midpoint.cursor_row (by omega) shallow inside
  have near : 2 * ((y1.toInt - y0.toInt).natAbs * k - (x1.toInt - x0.toInt) * row) ≤
        x1.toInt - x0.toInt ∧ -(x1.toInt - x0.toInt) ≤
      2 * ((y1.toInt - y0.toInt).natAbs * k - (x1.toInt - x0.toInt) * row) :=
    Midpoint.cursor_near (by omega) shallow k
  have final := toInt_end y0 y1
  have turns : slope y0 y1 = 1 ∨ slope y0 y1 = -1 := by
    rw [slope]
    split
    · exact .inl rfl
    · exact .inr rfl
  have least := x0.le_toInt
  have most := x1.toInt_lt
  have least' := y0.le_toInt
  have most' := y0.toInt_lt
  have least'' := y1.le_toInt
  have most'' := y1.toInt_lt
  have between : min y0.toInt y1.toInt ≤ y0.toInt + slope y0 y1 * row ∧
      y0.toInt + slope y0 y1 * row ≤ max y0.toInt y1.toInt := by
    rcases turns with turn | turn <;> rw [turn] at final ⊢ <;> omega
  have column : (Int16.ofInt (x0.toInt + k)).toInt = x0.toInt + k :=
    Int16.toInt_ofInt_of_le (by omega) (by omega)
  have line : (Int16.ofInt (y0.toInt + slope y0 y1 * row)).toInt =
      y0.toInt + slope y0 y1 * row := Int16.toInt_ofInt_of_le (by omega) (by omega)
  refine ⟨_, _, rfl, column, ?_, ?_, ?_, ?_, ?_⟩
  · rw [line]
    exact between.1
  · rw [line]
    exact between.2
  · have cross : (x0.toInt + k - x0.toInt) * (y1.toInt - y0.toInt) -
        (y0.toInt + slope y0 y1 * row - y0.toInt) * (x1.toInt - x0.toInt) =
          slope y0 y1 *
            ((y1.toInt - y0.toInt).natAbs * k - (x1.toInt - x0.toInt) * row) := by
      have rise : y1.toInt - y0.toInt = slope y0 y1 * (y1.toInt - y0.toInt).natAbs := by
        linarith
      linear_combination (k : Int) * rise
    rw [column, line, cross]
    rcases turns with turn | turn <;> rw [turn] <;> omega
  · intro first
    subst first
    have top : row = 0 := rfl
    rw [← Int16.toInt_inj, line, top]
    omega
  · intro last
    have bottom : row = (y1.toInt - y0.toInt).natAbs :=
      Midpoint.cursor_last (by omega) shallow last
    rw [← Int16.toInt_inj, line, bottom, final]

/-! Lines between any two points. -/

def Steep (x0 y0 x1 y1 : Int16) : Prop :=
  (y1.toInt - y0.toInt).natAbs > (x1.toInt - x0.toInt).natAbs

instance (x0 y0 x1 y1 : Int16) : Decidable (Steep x0 y0 x1 y1) :=
  inferInstanceAs (Decidable (_ > _))

/-- The number of columns, or of rows of a steep line, behind the first. -/
def extentOf (x0 y0 x1 y1 : Int16) : Nat :=
  max (x1.toInt - x0.toInt).natAbs (y1.toInt - y0.toInt).natAbs

structure IsLine (x0 y0 x1 y1 : Int16) (points : List (Int16 × Int16)) : Prop where
  length : points.length = extentOf x0 y0 x1 y1 + 1
  along : ∀ (k : Nat) point, points[k]? = some point →
    if Steep x0 y0 x1 y1 then point.2.toInt = min y0.toInt y1.toInt + k
    else point.1.toInt = min x0.toInt x1.toInt + k
  across : ∀ point ∈ points, min x0.toInt x1.toInt ≤ point.1.toInt ∧
    point.1.toInt ≤ max x0.toInt x1.toInt ∧
    min y0.toInt y1.toInt ≤ point.2.toInt ∧ point.2.toInt ≤ max y0.toInt y1.toInt
  near : ∀ point ∈ points, 2 * ((point.1.toInt - x0.toInt) * (y1.toInt - y0.toInt) -
    (point.2.toInt - y0.toInt) * (x1.toInt - x0.toInt)).natAbs ≤ extentOf x0 y0 x1 y1
  first : (x0, y0) ∈ points
  last : (x1, y1) ∈ points

theorem IsLine.reverse {x0 y0 x1 y1 : Int16} {points : List (Int16 × Int16)}
    (line : IsLine x1 y1 x0 y0 points) : IsLine x0 y0 x1 y1 points := by
  have span : extentOf x1 y1 x0 y0 = extentOf x0 y0 x1 y1 := by
    simp only [extentOf]
    omega
  have steep : Steep x1 y1 x0 y0 ↔ Steep x0 y0 x1 y1 := by
    simp only [Steep]
    omega
  refine ⟨line.length.trans (by rw [span]), fun k point found => ?_, fun point member => ?_,
    fun point member => ?_, line.last, line.first⟩
  · have along := line.along k point found
    simp only [steep] at along
    rw [min_comm y0.toInt, min_comm x0.toInt]
    exact along
  · rw [min_comm y0.toInt, min_comm x0.toInt, max_comm y0.toInt, max_comm x0.toInt]
    exact line.across point member
  · have cross := line.near point member
    rw [span] at cross
    have same : (point.1.toInt - x0.toInt) * (y1.toInt - y0.toInt) -
        (point.2.toInt - y0.toInt) * (x1.toInt - x0.toInt) =
          -((point.1.toInt - x1.toInt) * (y0.toInt - y1.toInt) -
            (point.2.toInt - y1.toInt) * (x0.toInt - x1.toInt)) := by ring
    rw [same, Int.natAbs_neg]
    exact cross

/-- A line that is flat stands on end when its coordinates are exchanged. -/
theorem IsLine.transpose {x0 y0 x1 y1 : Int16} {points : List (Int16 × Int16)}
    (line : IsLine x0 y0 x1 y1 points)
    (flat : (y1.toInt - y0.toInt).natAbs < (x1.toInt - x0.toInt).natAbs) :
    IsLine y0 x0 y1 x1 (points.map Prod.swap) := by
  have span : extentOf y0 x0 y1 x1 = extentOf x0 y0 x1 y1 := max_comm _ _
  refine ⟨?_, fun k point found => ?_, fun point member => ?_, fun point member => ?_, ?_, ?_⟩
  · rw [List.length_map, span]
    exact line.length
  · rw [List.getElem?_map, Option.map_eq_some_iff] at found
    obtain ⟨origin, found, rfl⟩ := found
    have along := line.along k origin found
    have lying : ¬Steep x0 y0 x1 y1 := Nat.not_lt.mpr (Nat.le_of_lt flat)
    have standing : Steep y0 x0 y1 x1 := flat
    rw [if_neg lying] at along
    rw [if_pos standing]
    exact along
  · obtain ⟨origin, drawn, rfl⟩ := List.mem_map.mp member
    obtain ⟨left, right, top, bottom⟩ := line.across origin drawn
    exact ⟨top, bottom, left, right⟩
  · obtain ⟨origin, drawn, rfl⟩ := List.mem_map.mp member
    have cross := line.near origin drawn
    have same : (origin.2.toInt - y0.toInt) * (x1.toInt - x0.toInt) -
        (origin.1.toInt - x0.toInt) * (y1.toInt - y0.toInt) =
          -((origin.1.toInt - x0.toInt) * (y1.toInt - y0.toInt) -
            (origin.2.toInt - y0.toInt) * (x1.toInt - x0.toInt)) := by ring
    rw [Prod.fst_swap, Prod.snd_swap, same, Int.natAbs_neg, span]
    exact cross
  · exact List.mem_map.mpr ⟨_, line.first, rfl⟩
  · exact List.mem_map.mpr ⟨_, line.last, rfl⟩

variable {x0 y0 x1 y1 : Int16}

/-- The pixels of `writeSorted`. -/
def sortedPoints (steep : Bool) (x0 y0 x1 y1 : Int16) : List (Int16 × Int16) :=
  (List.range' 0 ((x1.toInt - x0.toInt).toNat + 1)).map
    (linePoint steep x0.toInt y0.toInt (slope y0 y1) (x1.toInt - x0.toInt)
      (y1.toInt - y0.toInt).natAbs)

theorem sortedPoints_swap (x0 y0 x1 y1 : Int16) :
    (sortedPoints false x0 y0 x1 y1).map Prod.swap = sortedPoints true x0 y0 x1 y1 := by
  rw [sortedPoints, sortedPoints, List.map_map]
  rfl

theorem isLine_sorted (sorted : x0.toInt ≤ x1.toInt)
    (shallow : (y1.toInt - y0.toInt).natAbs ≤ x1.toInt - x0.toInt) :
    IsLine x0 y0 x1 y1 (sortedPoints false x0 y0 x1 y1) := by
  have span : extentOf x0 y0 x1 y1 = (x1.toInt - x0.toInt).toNat := by
    simp only [extentOf]
    omega
  have flat : ¬Steep x0 y0 x1 y1 := by
    simp only [Steep]
    omega
  have length : (sortedPoints false x0 y0 x1 y1).length = (x1.toInt - x0.toInt).toNat + 1 := by
    simp [sortedPoints]
  have each {k : Nat} {point : Int16 × Int16}
      (found : (sortedPoints false x0 y0 x1 y1)[k]? = some point) :
      k ≤ x1.toInt - x0.toInt ∧ point = linePoint false x0.toInt y0.toInt (slope y0 y1)
        (x1.toInt - x0.toInt) (y1.toInt - y0.toInt).natAbs k := by
    have below : k < (sortedPoints false x0 y0 x1 y1).length :=
      (List.getElem?_eq_some_iff.mp found).1
    have inside : k < (x1.toInt - x0.toInt).toNat + 1 := length ▸ below
    rw [sortedPoints, List.getElem?_map, List.getElem?_range' inside] at found
    simp only [Option.map_some, Option.some.injEq] at found
    refine ⟨by omega, ?_⟩
    rw [← found]
    congr 1
    omega
  have pixel {point : Int16 × Int16} (member : point ∈ sortedPoints false x0 y0 x1 y1) :
      ∃ k : Nat, k ≤ x1.toInt - x0.toInt ∧ point = linePoint false x0.toInt y0.toInt (slope y0 y1)
        (x1.toInt - x0.toInt) (y1.toInt - y0.toInt).natAbs k := by
    obtain ⟨k, found⟩ := List.mem_iff_getElem?.mp member
    exact ⟨k, each found⟩
  have drawn {k : Nat} (inside : k ≤ x1.toInt - x0.toInt) :
      linePoint false x0.toInt y0.toInt (slope y0 y1) (x1.toInt - x0.toInt)
        (y1.toInt - y0.toInt).natAbs k ∈ sortedPoints false x0 y0 x1 y1 := by
    rw [sortedPoints]
    apply List.mem_map_of_mem
    rw [List.mem_range'_1]
    omega
  refine ⟨by rw [length, span], fun k point found => ?_, fun point member => ?_,
    fun point member => ?_, ?_, ?_⟩
  · obtain ⟨inside, rfl⟩ := each found
    obtain ⟨x, y, place, column, -⟩ := @linePoint_spec false _ _ _ _ shallow k inside
    rw [if_neg flat, place]
    simp only [Bool.false_eq_true, if_false]
    omega
  · obtain ⟨k, inside, rfl⟩ := pixel member
    obtain ⟨x, y, place, column, top, bottom, -⟩ :=
      @linePoint_spec false _ _ _ _ shallow k inside
    rw [place]
    simp only [Bool.false_eq_true, if_false]
    omega
  · obtain ⟨k, inside, rfl⟩ := pixel member
    obtain ⟨x, y, place, -, -, -, near, -⟩ := @linePoint_spec false _ _ _ _ shallow k inside
    rw [place]
    simp only [Bool.false_eq_true, if_false]
    omega
  · obtain ⟨x, y, place, column, -, -, -, first, -⟩ :=
      @linePoint_spec false x1 x0 y0 y1 shallow 0 (by omega)
    have same : x = x0 := by
      rw [← Int16.toInt_inj, column]
      omega
    have member := drawn (k := 0) (by omega)
    rw [place, same, first rfl] at member
    exact member
  · obtain ⟨x, y, place, column, -, -, -, -, last⟩ :=
      @linePoint_spec false x1 x0 y0 y1 shallow (x1.toInt - x0.toInt).toNat (by omega)
    have same : x = x1 := by
      rw [← Int16.toInt_inj, column]
      omega
    have member := drawn (k := (x1.toInt - x0.toInt).toNat) (by omega)
    rw [place, same, last (by omega)] at member
    exact member

/-! `writeLine` -/

/-- Where the loop variable of `writeLine` stops. -/
def lineEnd (x0 y0 x1 y1 : Int16) : Int :=
  if Steep x0 y0 x1 y1 then max y0.toInt y1.toInt else max x0.toInt x1.toInt

/-- The four ways through the swaps. -/
theorem writeLine_cases (x0 y0 x1 y1 : Int16) :
    ∃ (steep : Bool) (a0 b0 a1 b1 : Int16), (steep = true ↔ Steep x0 y0 x1 y1) ∧
      a0.toInt ≤ a1.toInt ∧ a1.toInt = lineEnd x0 y0 x1 y1 ∧
      (∀ color lcd, writeLine x0 y0 x1 y1 color lcd = writeSorted steep a0 b0 a1 b1 color lcd) ∧
      ((if steep then (b0, a0, b1, a1) else (a0, b0, a1, b1)) = (x0, y0, x1, y1) ∨
        (if steep then (b0, a0, b1, a1) else (a0, b0, a1, b1)) = (x1, y1, x0, y0)) := by
  by_cases steep : (y1.toInt - y0.toInt).natAbs > (x1.toInt - x0.toInt).natAbs
  · have tall : Steep x0 y0 x1 y1 := steep
    by_cases order : y0 > y1
    · refine ⟨true, y1, x1, y0, x0, by simp [tall], ?_, ?_, fun color lcd => ?_, .inr rfl⟩
      · exact Int.le_of_lt (Int16.lt_iff_toInt_lt.mp order)
      · rw [lineEnd, if_pos tall, max_eq_left (Int.le_of_lt (Int16.lt_iff_toInt_lt.mp order))]
      · simp [writeLine, steep, order]
    · have sorted : y0.toInt ≤ y1.toInt := Int.not_lt.mp (order ∘ Int16.lt_iff_toInt_lt.mpr)
      refine ⟨true, y0, x0, y1, x1, by simp [tall], sorted, ?_, fun color lcd => ?_, .inl rfl⟩
      · rw [lineEnd, if_pos tall, max_eq_right sorted]
      · simp [writeLine, steep, order]
  · have lying : ¬Steep x0 y0 x1 y1 := steep
    by_cases order : x0 > x1
    · refine ⟨false, x1, y1, x0, y0, by simp [lying], ?_, ?_, fun color lcd => ?_, .inr rfl⟩
      · exact Int.le_of_lt (Int16.lt_iff_toInt_lt.mp order)
      · rw [lineEnd, if_neg lying, max_eq_left (Int.le_of_lt (Int16.lt_iff_toInt_lt.mp order))]
      · simp [writeLine, steep, order]
    · have sorted : x0.toInt ≤ x1.toInt := Int.not_lt.mp (order ∘ Int16.lt_iff_toInt_lt.mpr)
      refine ⟨false, x0, y0, x1, y1, by simp [lying], sorted, ?_, fun color lcd => ?_, .inl rfl⟩
      · rw [lineEnd, if_neg lying, max_eq_right sorted]
      · simp [writeLine, steep, order]

theorem plot_endless {x1 dx dy ystep : Int16} (last : x1.toInt = 32767) (fuel : Nat) :
    ∀ (x0 y0 err : Int16) (lcd : Nokia),
      plot steep x1 dx dy ystep color fuel x0 y0 err lcd = none := by
  induction fuel with
  | zero => exact fun _ _ _ _ => rfl
  | succ fuel ih =>
      intro x0 y0 err lcd
      have more : x0 ≤ x1 := by
        rw [Int16.le_iff_toInt_le]
        have most := x0.toInt_lt
        omega
      rw [plot, if_pos more]
      simp only
      split
      · exact ih _ _ _ _
      · exact ih _ _ _ _

theorem plot_ends {x1 dx dy ystep : Int16} (inside : x1.toInt < 32767) (fuel : Nat) :
    ∀ (x0 y0 err : Int16) (lcd : Nokia), x1.toInt - x0.toInt + 1 < fuel → 0 < fuel →
      (plot steep x1 dx dy ystep color fuel x0 y0 err lcd).isSome := by
  induction fuel with
  | zero =>
      intro _ _ _ _ _ impossible
      omega
  | succ fuel ih =>
      intro x0 y0 err lcd enough _
      rw [plot]
      by_cases more : x0 ≤ x1
      · rw [if_pos more]
        rw [Int16.le_iff_toInt_le] at more
        have least := x0.le_toInt
        have next : (x0 + 1).toInt = x0.toInt + 1 :=
          toInt_sum (by rw [toInt_one]; omega) (by rw [toInt_one]; omega)
        simp only
        split
        · exact ih _ _ _ _ (by omega) (by omega)
        · exact ih _ _ _ _ (by omega) (by omega)
      · rw [if_neg more]
        rfl

theorem writeLine_returns_iff (x0 y0 x1 y1 : Int16) (color : Color) (lcd : Nokia) :
    (writeLine x0 y0 x1 y1 color lcd).isSome ↔ lineEnd x0 y0 x1 y1 ≠ 32767 := by
  obtain ⟨steep, a0, b0, a1, b1, -, -, stop, same, -⟩ := writeLine_cases x0 y0 x1 y1
  have most := a1.toInt_lt
  have least := a0.le_toInt
  rw [same, ← stop, writeSorted]
  by_cases last : a1.toInt = 32767
  · rw [plot_endless last]
    simp [last]
  · simp only [ne_eq, last, not_false_iff, iff_true]
    apply plot_ends (by omega)
    · simp only [rounds]
      omega
    · simp [rounds]

theorem writeLine_points {x0 y0 x1 y1 : Int16} (fits : extentOf x0 y0 x1 y1 ≤ 32767)
    (inside : lineEnd x0 y0 x1 y1 ≠ 32767) :
    ∃ points, IsLine x0 y0 x1 y1 points ∧
      ∀ color lcd, writeLine x0 y0 x1 y1 color lcd = some (drawAll color lcd points) := by
  obtain ⟨steep, a0, b0, a1, b1, standing, sorted, stop, same, ends⟩ :=
    writeLine_cases x0 y0 x1 y1
  have most := a1.toInt_lt
  have least := a0.le_toInt
  rw [← stop] at inside
  simp only [extentOf] at fits
  cases steep with
  | false =>
      simp only [Bool.false_eq_true, false_iff, Steep] at standing
      have place : a0 = x0 ∧ b0 = y0 ∧ a1 = x1 ∧ b1 = y1 ∨
          a0 = x1 ∧ b0 = y1 ∧ a1 = x0 ∧ b1 = y0 := by simpa using ends
      have shallow : (b1.toInt - b0.toInt).natAbs ≤ a1.toInt - a0.toInt := by
        rcases place with ⟨rfl, rfl, rfl, rfl⟩ | ⟨rfl, rfl, rfl, rfl⟩ <;> omega
      have span : a1.toInt - a0.toInt ≤ 32767 := by
        rcases place with ⟨rfl, rfl, rfl, rfl⟩ | ⟨rfl, rfl, rfl, rfl⟩ <;> omega
      have line := isLine_sorted sorted shallow
      refine ⟨sortedPoints false a0 b0 a1 b1, ?_, fun color lcd => ?_⟩
      · rcases place with ⟨rfl, rfl, rfl, rfl⟩ | ⟨rfl, rfl, rfl, rfl⟩
        · exact line
        · exact line.reverse
      · rw [same]
        exact writeSorted_eq sorted span (by omega) shallow lcd
  | true =>
      simp only [true_iff, Steep] at standing
      have place : b0 = x0 ∧ a0 = y0 ∧ b1 = x1 ∧ a1 = y1 ∨
          b0 = x1 ∧ a0 = y1 ∧ b1 = x0 ∧ a1 = y0 := by simpa using ends
      have shallow : (b1.toInt - b0.toInt).natAbs < (a1.toInt - a0.toInt).natAbs := by
        rcases place with ⟨rfl, rfl, rfl, rfl⟩ | ⟨rfl, rfl, rfl, rfl⟩ <;> omega
      have span : a1.toInt - a0.toInt ≤ 32767 := by
        rcases place with ⟨rfl, rfl, rfl, rfl⟩ | ⟨rfl, rfl, rfl, rfl⟩ <;> omega
      have line := (isLine_sorted sorted (by omega)).transpose shallow
      rw [sortedPoints_swap] at line
      refine ⟨sortedPoints true a0 b0 a1 b1, ?_, fun color lcd => ?_⟩
      · rcases place with ⟨rfl, rfl, rfl, rfl⟩ | ⟨rfl, rfl, rfl, rfl⟩
        · exact line
        · exact line.reverse
      · rw [same]
        exact writeSorted_eq sorted span (by omega) (by omega) lcd

/-- `writeLine` returns unless the line ends at the last value of the loop variable. Where the
differences of the coordinates fit into 16 bits, it then draws one pixel in each column (in each
row of a steep line) from end to end, both ends among them, and every pixel is within half a pixel
of the line between them. -/
theorem writeLine_exact (x0 y0 x1 y1 : Int16) :
    (∀ color lcd, (writeLine x0 y0 x1 y1 color lcd).isSome ↔ lineEnd x0 y0 x1 y1 ≠ 32767) ∧
      (extentOf x0 y0 x1 y1 ≤ 32767 → lineEnd x0 y0 x1 y1 ≠ 32767 →
        ∃ points, IsLine x0 y0 x1 y1 points ∧
          ∀ color lcd, writeLine x0 y0 x1 y1 color lcd = some (drawAll color lcd points)) :=
  ⟨writeLine_returns_iff x0 y0 x1 y1, fun fits inside => writeLine_points fits inside⟩

theorem writeLine_exact_steep : ∃ points, IsLine 3 10 (-2) (-20) points ∧
    ∀ color lcd, writeLine 3 10 (-2) (-20) color lcd = some (drawAll color lcd points) :=
  (writeLine_exact 3 10 (-2) (-20)).2 (by decide) (by decide)

end Nokia

end ResistorCutter
