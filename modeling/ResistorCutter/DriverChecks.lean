import Mathlib.Data.List.Nodup
import Mathlib.Data.List.ProdSigma
import ResistorCutter.DriverCore
import ResistorCutter.Runs

/-!
What `invertRect` does to the bytes of the frame buffer, whatever its arguments are. The loop
variables that narrowing turns around become negative and so leave the screen: none of them is
taken for another pixel.
-/

namespace ResistorCutter

namespace AdafruitPCD8544

variable (lcd : AdafruitPCD8544)

/-! From pixels to cells of the buffer. -/

theorem offScreen_iff (x y : Int16) : ¬lcd.OffScreen x y ↔
    0 ≤ x.toInt ∧ x.toInt < lcd._width.toInt ∧ 0 ≤ y.toInt ∧ y.toInt < lcd._height.toInt := by
  simp only [OffScreen, Int16.lt_iff_toInt_lt, ge_iff_le, Int16.le_iff_toInt_le, Int16.toInt_zero]
  omega

theorem toInt_mirrored {edge x : Int16} (lower : 0 ≤ x.toInt) (upper : x.toInt ≤ edge.toInt) :
    (edge - x).toInt = edge.toInt - x.toInt :=
  Int16.toInt_sub_of_le edge x (Int16.le_iff_toInt_le.mpr lower) (Int16.le_iff_toInt_le.mpr upper)

theorem toInt_width : (Int16.ofNat LCDWIDTH - 1).toInt = 83 := rfl

theorem toInt_height : (Int16.ofNat LCDHEIGHT - 1).toInt = 47 := rfl

/-- What the switch does to the pixels of the screen, in each of the four rotations. -/
theorem rotated_spec :
    (∀ x y, ¬lcd.OffScreen x y → x.toInt < 84 ∧ y.toInt < 48 ∧
      (lcd.rotated x y).1.toInt = x.toInt ∧ (lcd.rotated x y).2.toInt = y.toInt) ∨
    (∀ x y, ¬lcd.OffScreen x y → x.toInt < 48 ∧ y.toInt < 84 ∧
      (lcd.rotated x y).1.toInt = y.toInt ∧ (lcd.rotated x y).2.toInt = 47 - x.toInt) ∨
    (∀ x y, ¬lcd.OffScreen x y → x.toInt < 84 ∧ y.toInt < 48 ∧
      (lcd.rotated x y).1.toInt = 83 - x.toInt ∧ (lcd.rotated x y).2.toInt = 47 - y.toInt) ∨
    (∀ x y, ¬lcd.OffScreen x y → x.toInt < 48 ∧ y.toInt < 84 ∧
      (lcd.rotated x y).1.toInt = 83 - y.toInt ∧ (lcd.rotated x y).2.toInt = x.toInt) := by
  have long : (84 : Int16).toInt = 84 := rfl
  have short : (48 : Int16).toInt = 48 := rfl
  rcases lcd.oriented with ⟨upright | turned, width, height⟩ | ⟨upright | turned, width, height⟩
  · left
    intro x y on
    rw [offScreen_iff, width, height, long, short] at on
    simp only [rotated, upright]
    exact ⟨on.2.1, on.2.2.2, rfl, rfl⟩
  · right; right; left
    intro x y on
    rw [offScreen_iff, width, height, long, short] at on
    obtain ⟨left, right, top, bottom⟩ := on
    simp only [rotated, turned]
    rw [toInt_mirrored left (by rw [toInt_width]; omega),
      toInt_mirrored top (by rw [toInt_height]; omega)]
    exact ⟨right, bottom, rfl, rfl⟩
  · right; left
    intro x y on
    rw [offScreen_iff, width, height, long, short] at on
    obtain ⟨left, right, top, bottom⟩ := on
    simp only [rotated, upright]
    rw [toInt_mirrored left (by rw [toInt_height]; omega)]
    exact ⟨right, bottom, trivial, rfl⟩
  · right; right; right
    intro x y on
    rw [offScreen_iff, width, height, long, short] at on
    obtain ⟨left, right, top, bottom⟩ := on
    simp only [rotated, turned]
    rw [toInt_mirrored top (by rw [toInt_width]; omega)]
    exact ⟨right, bottom, rfl, trivial⟩

/-- Eight rows of a column to a byte, the columns of eight rows next to each other. -/
theorem place_eq {x y : Int16} (left : 0 ≤ x.toInt) (top : 0 ≤ y.toInt) :
    place x y = (x.toInt.toNat + y.toInt.toNat / 8 * 84, y.toInt.toNat % 8) := by
  rw [place, Int.tdiv_eq_ediv_of_nonneg top, Int.tmod_eq_emod_of_nonneg top, Prod.mk.injEq]
  simp only [LCDWIDTH]
  omega

def cell (x y : Int16) : Packed.Cell := place (lcd.rotated x y).1 (lcd.rotated x y).2

theorem rotated_inside {x y : Int16} (on : ¬lcd.OffScreen x y) :
    0 ≤ (lcd.rotated x y).1.toInt ∧ (lcd.rotated x y).1.toInt < 84 ∧
      0 ≤ (lcd.rotated x y).2.toInt ∧ (lcd.rotated x y).2.toInt < 48 := by
  have corner := (lcd.offScreen_iff x y).mp on
  rcases lcd.rotated_spec with spec | spec | spec | spec <;>
    have turned := spec x y on <;> omega

theorem rotated_injective {x y x' y' : Int16} (on : ¬lcd.OffScreen x y)
    (on' : ¬lcd.OffScreen x' y') (same : lcd.rotated x y = lcd.rotated x' y') :
    x = x' ∧ y = y' := by
  simp only [← Int16.toInt_inj]
  rcases lcd.rotated_spec with spec | spec | spec | spec <;>
    · have turned := spec x y on
      have turned' := spec x' y' on'
      rw [same] at turned
      omega

theorem cell_valid {x y : Int16} (on : ¬lcd.OffScreen x y) :
    (lcd.cell x y).Valid (LCDWIDTH * LCDHEIGHT / 8) := by
  obtain ⟨left, right, top, bottom⟩ := lcd.rotated_inside on
  rw [cell, place_eq left top]
  simp only [Packed.Cell.Valid, LCDWIDTH, LCDHEIGHT]
  omega

theorem cell_injective {x y x' y' : Int16} (on : ¬lcd.OffScreen x y)
    (on' : ¬lcd.OffScreen x' y') (same : lcd.cell x y = lcd.cell x' y') : x = x' ∧ y = y' := by
  obtain ⟨left, right, top, bottom⟩ := lcd.rotated_inside on
  obtain ⟨left', right', top', bottom'⟩ := lcd.rotated_inside on'
  rw [cell, cell, place_eq left top, place_eq left' top', Prod.mk.injEq] at same
  apply lcd.rotated_injective on on'
  apply Prod.ext <;> rw [← Int16.toInt_inj] <;> omega

/-! One call of `setPixel` in the loop. -/

/-- The body of the loops in `invertRect`. -/
def flip (point : Int16 × Int16) : AdafruitPCD8544 :=
  if lcd.getPixel point.1 point.2 then lcd.setPixel point.1 point.2 (WHITE != 0)
  else lcd.setPixel point.1 point.2 (BLACK != 0)

/-- The arguments of the calls in the order of the loops. -/
def visits (x y w h : Int16) : List (Int16 × Int16) :=
  (Int.range x.toInt (x.toInt + w.toInt) ×ˢ Int.range y.toInt (y.toInt + h.toInt)).map
    fun (i, j) => (Int16.ofInt i, Int16.ofInt j)

theorem invertRect_eq (x y w h : Int16) :
    lcd.invertRect x y w h = Runs.run flip lcd (visits x y w h) := by
  simp only [invertRect, Runs.run, visits, List.foldl_map, SProd.sprod, List.product,
    List.foldl_flatMap]
  rfl

def cell? (point : Int16 × Int16) : Option Packed.Cell :=
  if lcd.OffScreen point.1 point.2 then none else some (lcd.cell point.1 point.2)

theorem cell?_eq_some {point : Int16 × Int16} {cell : Packed.Cell} :
    lcd.cell? point = some cell ↔
      ¬lcd.OffScreen point.1 point.2 ∧ lcd.cell point.1 point.2 = cell := by
  simp only [cell?, ite_eq_iff, reduceCtorEq, and_false, Option.some.injEq, false_or]

theorem cell?_valid (point : Int16 × Int16) :
    ∀ cell ∈ (lcd.cell? point).toList, cell.Valid (LCDWIDTH * LCDHEIGHT / 8) := by
  intro cell member
  obtain ⟨on, rfl⟩ := lcd.cell?_eq_some.mp (Option.mem_toList.mp member)
  exact lcd.cell_valid on

theorem setPixel_frame (x y : Int16) (color : Bool) :
    (lcd.setPixel x y color).rotation = lcd.rotation ∧
      (lcd.setPixel x y color)._width = lcd._width ∧
      (lcd.setPixel x y color)._height = lcd._height := by
  rw [setPixel]
  split <;> exact ⟨rfl, rfl, rfl⟩

theorem setPixel_buffer (x y : Int16) (color : Bool) :
    (lcd.setPixel x y color).pcd8544_buffer =
      if lcd.OffScreen x y then lcd.pcd8544_buffer
      else Packed.write lcd.pcd8544_buffer (lcd.cell x y) color := by
  rw [setPixel]
  split <;> rfl

theorem cell?_congr {left right : AdafruitPCD8544} (rotation : left.rotation = right.rotation)
    (width : left._width = right._width) (height : left._height = right._height) :
    left.cell? = right.cell? := by
  cases left
  cases right
  simp only at rotation width height
  subst rotation width height
  rfl

theorem cell?_setPixel (x y : Int16) (color : Bool) :
    (lcd.setPixel x y color).cell? = lcd.cell? := by
  obtain ⟨rotation, width, height⟩ := lcd.setPixel_frame x y color
  exact cell?_congr rotation width height

theorem flip_eq (point : Int16 × Int16) :
    lcd.flip point = lcd.setPixel point.1 point.2 !lcd.getPixel point.1 point.2 := by
  rw [flip]
  cases lcd.getPixel point.1 point.2 <;> rfl

theorem flip_spec (point : Int16 × Int16) :
    (lcd.flip point).cell? = lcd.cell? ∧
      (lcd.flip point).pcd8544_buffer =
        Packed.flipAll lcd.pcd8544_buffer (lcd.cell? point).toList := by
  rw [flip_eq, cell?_setPixel, setPixel_buffer, cell?, getPixel]
  refine ⟨rfl, ?_⟩
  split <;> rfl

/-! The bounding box, so that two calls can be exchanged. -/

theorem toNat_min (a b : UInt8) : (min a b).toNat = min a.toNat b.toNat := by
  have unfolded : min a b = if a ≤ b then a else b := rfl
  rw [unfolded]
  split <;> rename_i order <;> rw [UInt8.le_iff_toNat_le] at order <;> omega

theorem toNat_max (a b : UInt8) : (max a b).toNat = max a.toNat b.toNat := by
  have unfolded : max a b = if a ≤ b then b else a := rfl
  rw [unfolded]
  split <;> rename_i order <;> rw [UInt8.le_iff_toNat_le] at order <;> omega

theorem updateBoundingBox_comm (left bottom right top left' bottom' right' top' : UInt8) :
    (lcd.updateBoundingBox left bottom right top).updateBoundingBox left' bottom' right' top' =
      (lcd.updateBoundingBox left' bottom' right' top').updateBoundingBox
        left bottom right top := by
  simp only [updateBoundingBox, AdafruitPCD8544.mk.injEq, true_and, ← UInt8.toNat_inj, toNat_min,
    toNat_max]
  omega

/-- The call of `updateBoundingBox` in `setPixel`. -/
def touch (point : Int16 × Int16) : AdafruitPCD8544 :=
  if lcd.OffScreen point.1 point.2 then lcd
  else
    let (x, y) := lcd.rotated point.1 point.2
    lcd.updateBoundingBox x.toUInt16.toUInt8 y.toUInt16.toUInt8 x.toUInt16.toUInt8
      y.toUInt16.toUInt8

variable {lcd} in
theorem touch_off {point : Int16 × Int16} (off : lcd.OffScreen point.1 point.2) :
    lcd.touch point = lcd := if_pos off

variable {lcd} in
theorem touch_on {point : Int16 × Int16} (on : ¬lcd.OffScreen point.1 point.2) :
    lcd.touch point = lcd.updateBoundingBox
      (lcd.rotated point.1 point.2).1.toUInt16.toUInt8
      (lcd.rotated point.1 point.2).2.toUInt16.toUInt8
      (lcd.rotated point.1 point.2).1.toUInt16.toUInt8
      (lcd.rotated point.1 point.2).2.toUInt16.toUInt8 := if_neg on

def withBuffer (buffer : Vector UInt8 (LCDWIDTH * LCDHEIGHT / 8)) : AdafruitPCD8544 :=
  { lcd with pcd8544_buffer := buffer }

theorem touch_withBuffer (point : Int16 × Int16)
    (buffer : Vector UInt8 (LCDWIDTH * LCDHEIGHT / 8)) :
    (lcd.withBuffer buffer).touch point = (lcd.touch point).withBuffer buffer := by
  by_cases off : lcd.OffScreen point.1 point.2
  · rw [touch_off off]
    exact touch_off off
  · rw [touch_on off]
    exact touch_on off

theorem touch_updateBoundingBox (left bottom right top : UInt8) (point : Int16 × Int16) :
    (lcd.updateBoundingBox left bottom right top).touch point =
      (lcd.touch point).updateBoundingBox left bottom right top := by
  by_cases off : lcd.OffScreen point.1 point.2
  · rw [touch_off off]
    exact touch_off off
  · rw [touch_on off, updateBoundingBox_comm]
    exact touch_on off

theorem touch_comm (point other : Int16 × Int16) :
    (lcd.touch point).touch other = (lcd.touch other).touch point := by
  by_cases off : lcd.OffScreen other.1 other.2
  · rw [touch_off off]
    by_cases off' : lcd.OffScreen point.1 point.2
    · rw [touch_off off', touch_off off]
    · rw [touch_on off', touch_updateBoundingBox, touch_off off]
  · rw [touch_on off, touch_updateBoundingBox]
    by_cases off' : lcd.OffScreen point.1 point.2
    · rw [touch_off off', touch_on off]
    · rw [touch_on off', touch_updateBoundingBox, touch_on off]
      exact updateBoundingBox_comm _ _ _ _ _ _ _ _ _

theorem flip_eq_touch (point : Int16 × Int16) :
    lcd.flip point = (lcd.touch point).withBuffer (lcd.flip point).pcd8544_buffer := by
  rw [flip_eq, setPixel, touch]
  split <;> rfl

theorem touch_flip (point other : Int16 × Int16) :
    (lcd.flip point).touch other =
      ((lcd.touch point).touch other).withBuffer (lcd.flip point).pcd8544_buffer := by
  rw [flip_eq_touch, touch_withBuffer]
  rfl

theorem flip_comm (point other : Int16 × Int16) :
    (lcd.flip point).flip other = (lcd.flip other).flip point := by
  have same : ((lcd.flip point).flip other).pcd8544_buffer =
      ((lcd.flip other).flip point).pcd8544_buffer := by
    obtain ⟨kept, flipped⟩ := lcd.flip_spec point
    obtain ⟨kept', flipped'⟩ := lcd.flip_spec other
    rw [(flip_spec (lcd.flip point) other).2, (flip_spec (lcd.flip other) point).2, kept, kept',
      flipped, flipped']
    exact Packed.flipAll_comm (lcd.cell?_valid point) (lcd.cell?_valid other) _
  calc (lcd.flip point).flip other
      = ((lcd.flip point).touch other).withBuffer ((lcd.flip point).flip other).pcd8544_buffer :=
        flip_eq_touch _ other
    _ = ((lcd.touch point).touch other).withBuffer
          ((lcd.flip other).flip point).pcd8544_buffer := by
        rw [same, touch_flip]
        rfl
    _ = ((lcd.flip other).touch point).withBuffer
          ((lcd.flip other).flip point).pcd8544_buffer := by
        rw [touch_comm, touch_flip]
        rfl
    _ = (lcd.flip other).flip point := (flip_eq_touch _ point).symm

/-! All calls together. -/

theorem run_flip (points : List (Int16 × Int16)) :
    (Runs.run flip lcd points).cell? = lcd.cell? ∧
      (Runs.run flip lcd points).pcd8544_buffer =
        Packed.flipAll lcd.pcd8544_buffer (points.filterMap lcd.cell?) := by
  induction points generalizing lcd with
  | nil => exact ⟨rfl, rfl⟩
  | cons point rest ih =>
      obtain ⟨kept, flipped⟩ := lcd.flip_spec point
      obtain ⟨keptAll, flippedAll⟩ := ih (lcd.flip point)
      refine ⟨keptAll.trans kept, ?_⟩
      rw [Runs.run_cons, flippedAll, flipped, kept, ← Packed.flipAll_append]
      cases found : lcd.cell? point <;> simp [found]

theorem filterMap_valid (points : List (Int16 × Int16)) :
    ∀ cell ∈ points.filterMap lcd.cell?, cell.Valid (LCDWIDTH * LCDHEIGHT / 8) := by
  intro cell member
  obtain ⟨point, _, found⟩ := List.mem_filterMap.mp member
  exact lcd.cell?_valid point cell (Option.mem_toList.mpr found)

theorem count_cells {px py : Int16} (on : ¬lcd.OffScreen px py) (points : List (Int16 × Int16)) :
    (points.filterMap lcd.cell?).count (lcd.cell px py) = points.count (px, py) := by
  rw [List.count_filterMap, List.count]
  apply List.countP_congr
  rintro ⟨x, y⟩ _
  simp only [beq_iff_eq, Prod.mk.injEq, cell?_eq_some]
  constructor
  · rintro ⟨shown, same⟩
    exact lcd.cell_injective shown on same
  · rintro ⟨rfl, rfl⟩
    exact ⟨on, rfl⟩

/-! How often the loops come to a pixel. -/

/-- In integers, where the sums do not overflow. -/
def Inside (x y w h px py : Int16) : Prop :=
  x.toInt ≤ px.toInt ∧ px.toInt < x.toInt + w.toInt ∧
    y.toInt ≤ py.toInt ∧ py.toInt < y.toInt + h.toInt

instance (x y w h px py : Int16) : Decidable (Inside x y w h px py) :=
  inferInstanceAs (Decidable (_ ∧ _ ∧ _ ∧ _))

theorem nodup_range (first last : Int) : (Int.range first last).Nodup := by
  refine List.Nodup.map (fun i j same => ?_) List.nodup_range
  have equal : first + (i : Int) = first + j := same
  omega

/-- The sum of two arguments stays below 65534, so that narrowing does not reach the screen again
from the other side. -/
theorem narrowed_iff {x w px : Int16} {i : Int}
    (member : i ∈ Int.range x.toInt (x.toInt + w.toInt)) (on : 0 ≤ px.toInt) :
    Int16.ofInt i = px ↔ i = px.toInt := by
  obtain ⟨lower, upper⟩ := Int.mem_range_iff.mp member
  have least := x.le_toInt
  have most := x.toInt_lt
  have size := w.toInt_lt
  have small := px.toInt_lt
  rw [← Int16.toInt_inj, Int16.toInt_ofInt]
  have modulus : Int16.size = 65536 := rfl
  rw [modulus, Int.bmod_def]
  omega

theorem count_visits {px py : Int16} (on : ¬lcd.OffScreen px py) (x y w h : Int16) :
    (visits x y w h).count (px, py) = if Inside x y w h px py then 1 else 0 := by
  obtain ⟨left, -, top, -⟩ := (lcd.offScreen_iff px py).mp on
  have once : (Int.range x.toInt (x.toInt + w.toInt) ×ˢ
      Int.range y.toInt (y.toInt + h.toInt)).Nodup :=
    (nodup_range _ _).product (nodup_range _ _)
  have same : (visits x y w h).count (px, py) = (Int.range x.toInt (x.toInt + w.toInt) ×ˢ
      Int.range y.toInt (y.toInt + h.toInt)).count (px.toInt, py.toInt) := by
    rw [visits, List.count, List.countP_map, List.count]
    apply List.countP_congr
    rintro ⟨i, j⟩ member
    obtain ⟨column, row⟩ := List.mem_product.mp member
    simp only [Function.comp_apply, beq_iff_eq, Prod.mk.injEq]
    rw [narrowed_iff column left, narrowed_iff row top]
  rw [same, once.count]
  have inside : (px.toInt, py.toInt) ∈ Int.range x.toInt (x.toInt + w.toInt) ×ˢ
      Int.range y.toInt (y.toInt + h.toInt) ↔ Inside x y w h px py := by
    rw [List.mem_product, Int.mem_range_iff, Int.mem_range_iff, Inside, and_assoc]
  by_cases member : Inside x y w h px py
  · rw [if_pos (inside.mpr member), if_pos member]
  · rw [if_neg (member ∘ inside.mp), if_neg member]

/-! The rectangle as a whole. -/

theorem invertRect_cell? (x y w h : Int16) : (lcd.invertRect x y w h).cell? = lcd.cell? := by
  rw [invertRect_eq]
  exact (lcd.run_flip (visits x y w h)).1

theorem invertRect_buffer (x y w h : Int16) :
    (lcd.invertRect x y w h).pcd8544_buffer =
      Packed.flipAll lcd.pcd8544_buffer ((visits x y w h).filterMap lcd.cell?) := by
  rw [invertRect_eq]
  exact (lcd.run_flip (visits x y w h)).2

theorem getPixel_eq (px py : Int16) :
    lcd.getPixel px py = (lcd.cell? (px, py)).elim false (Packed.read lcd.pcd8544_buffer) := by
  rw [getPixel, cell?]
  split <;> rfl

theorem getPixel_invertRect {px py : Int16} (on : ¬lcd.OffScreen px py) (x y w h : Int16) :
    (lcd.invertRect x y w h).getPixel px py =
      (lcd.getPixel px py ^^ decide (Inside x y w h px py)) := by
  have valid := lcd.cell_valid on
  rw [getPixel_eq, getPixel_eq, invertRect_cell?, invertRect_buffer, cell?, if_neg on]
  simp only [Option.elim_some]
  rw [Packed.read_flipAll (lcd.filterMap_valid _) valid.2, lcd.count_cells on, lcd.count_visits on]
  by_cases inside : Inside x y w h px py <;> simp [inside]

theorem read_invertRect {cell : Packed.Cell} (below : cell.2 < 8) (x y w h : Int16) :
    Packed.read (lcd.invertRect x y w h).pcd8544_buffer cell ≠ Packed.read lcd.pcd8544_buffer cell ↔
      ∃ px py, ¬lcd.OffScreen px py ∧ Inside x y w h px py ∧ lcd.cell px py = cell := by
  rw [invertRect_buffer, Packed.read_flipAll (lcd.filterMap_valid _) below]
  constructor
  · intro changed
    have odd : ((visits x y w h).filterMap lcd.cell?).count cell % 2 = 1 := by
      by_contra even
      simp [even] at changed
    have visited : cell ∈ (visits x y w h).filterMap lcd.cell? := by
      apply List.count_pos_iff.mp
      omega
    obtain ⟨⟨px, py⟩, _, found⟩ := List.mem_filterMap.mp visited
    obtain ⟨on, rfl⟩ := lcd.cell?_eq_some.mp found
    rw [lcd.count_cells on, lcd.count_visits on] at odd
    refine ⟨px, py, on, ?_, rfl⟩
    by_contra outside
    simp [outside] at odd
  · rintro ⟨px, py, on, inside, rfl⟩
    rw [lcd.count_cells on, lcd.count_visits on, if_pos inside]
    simp

/-- `invertRect` runs through its calls, inverts each pixel of the screen in the rectangle with one
of them, the others with none, and changes no bit but those of the former. Doing it twice undoes
it, and two rectangles can be taken in either order. -/
theorem invertRect_exact (x y w h : Int16) :
    lcd.invertRect x y w h = Runs.run flip lcd (visits x y w h) ∧
    (∀ px py, ¬lcd.OffScreen px py →
      (visits x y w h).count (px, py) = (if Inside x y w h px py then 1 else 0) ∧
      (lcd.invertRect x y w h).getPixel px py =
        (lcd.getPixel px py ^^ decide (Inside x y w h px py))) ∧
    (∀ cell : Packed.Cell, cell.Valid (LCDWIDTH * LCDHEIGHT / 8) →
      (Packed.read (lcd.invertRect x y w h).pcd8544_buffer cell ≠
          Packed.read lcd.pcd8544_buffer cell ↔
        ∃ px py, ¬lcd.OffScreen px py ∧ Inside x y w h px py ∧ lcd.cell px py = cell)) ∧
    ((lcd.invertRect x y w h).invertRect x y w h).pcd8544_buffer = lcd.pcd8544_buffer ∧
    ∀ x' y' w' h', (lcd.invertRect x y w h).invertRect x' y' w' h' =
      (lcd.invertRect x' y' w' h').invertRect x y w h := by
  refine ⟨lcd.invertRect_eq x y w h, ?_, ?_, ?_, ?_⟩
  · intro px py on
    exact ⟨lcd.count_visits on x y w h, lcd.getPixel_invertRect on x y w h⟩
  · intro cell valid
    exact lcd.read_invertRect valid.2 x y w h
  · rw [invertRect_buffer, invertRect_buffer, invertRect_cell?]
    exact Packed.flipAll_twice (lcd.filterMap_valid _) _
  · intro x' y' w' h'
    simp only [invertRect_eq]
    exact Runs.run_comm flip_comm lcd (visits x y w h) (visits x' y' w' h')

/-! The picture that the other modules draw on, for the rotation that the sketch uses. -/

def picture : Framebuffer := fun px py => lcd.getPixel (Int16.ofNat px) (Int16.ofNat py)

theorem invertRect_picture (upright : lcd.rotation = 0) (x y w h : Int16) :
    (lcd.invertRect x y w h).picture =
      Raster.invert x.toInt y.toInt w.toInt h.toInt lcd.picture := by
  funext px py
  have right : px.val < 84 := px.isLt
  have bottom : py.val < 48 := py.isLt
  have column : (Int16.ofNat px).toInt = px.val := Int16.toInt_ofNat_of_lt (by omega)
  have row : (Int16.ofNat py).toInt = py.val := Int16.toInt_ofNat_of_lt (by omega)
  have wide : lcd._width.toInt = 84 ∧ lcd._height.toInt = 48 := by
    rcases lcd.oriented with ⟨-, width, height⟩ | ⟨turned, -, -⟩
    · rw [width, height]
      exact ⟨rfl, rfl⟩
    · simp [upright] at turned
  have shown : ¬lcd.OffScreen (Int16.ofNat px) (Int16.ofNat py) := by
    rw [offScreen_iff, wide.1, wide.2, column, row]
    omega
  rw [picture, lcd.getPixel_invertRect shown, Raster.invert, picture]
  have inside : Inside x y w h (Int16.ofNat px) (Int16.ofNat py) ↔
      Raster.rect x.toInt y.toInt w.toInt h.toInt px py := by
    rw [Inside, Raster.rect, column, row]
  by_cases member : Raster.rect x.toInt y.toInt w.toInt h.toInt px py
  · simp [inside, member]
  · simp [inside, member]

end AdafruitPCD8544

end ResistorCutter
