import ResistorCutter.PanelChecks

/-!
`scroll` turns the picture around both edges of the screen, in any rotation: what it does is one
shift, so that shifts add up and undo each other.
-/

namespace ResistorCutter

namespace AdafruitPCD8544

variable (lcd : AdafruitPCD8544)

/-! Many pixels. -/

/-- Pixels set one after the other. -/
theorem getPixel_setAll {ι : Type*} (lit : ι → Bool) (target : ι → Int16 × Int16)
    (points : List ι) {px py : Int16} (on : ¬lcd.OffScreen px py) :
    (points.foldl (fun drawn point =>
      if lit point then drawn.setPixel (target point).1 (target point).2 true else drawn)
        lcd).getPixel px py =
      (lcd.getPixel px py || points.any fun point => lit point && target point == (px, py)) := by
  induction points generalizing lcd with
  | nil => simp
  | cons point rest ih =>
      rw [List.foldl_cons, List.any_cons]
      by_cases drawn : lit point = true
      · have still : ¬(lcd.setPixel (target point).1 (target point).2 true).OffScreen px py := by
          rw [offScreen_setPixel]
          exact on
        rw [if_pos drawn, ih _ still, lcd.getPixel_setPixel on, drawn]
        by_cases same : target point = (px, py)
        · simp [same]
        · have apart : (target point == (px, py)) = false := beq_eq_false_iff_ne.mpr same
          rw [if_neg same, apart]
          simp
      · rw [if_neg drawn, ih _ on]
        simp [drawn]

theorem setAll_frame {ι : Type*} (lit : ι → Bool) (target : ι → Int16 × Int16)
    (points : List ι) :
    let drawn := points.foldl (fun drawn point =>
      if lit point then drawn.setPixel (target point).1 (target point).2 true else drawn) lcd
    drawn.rotation = lcd.rotation ∧ drawn._width = lcd._width ∧ drawn._height = lcd._height := by
  induction points generalizing lcd with
  | nil => exact ⟨rfl, rfl, rfl⟩
  | cons point rest ih =>
      rw [List.foldl_cons]
      split
      · obtain ⟨rotation, width, height⟩ :=
          lcd.setPixel_frame (target point).1 (target point).2 true
        obtain ⟨rotation', width', height'⟩ :=
          ih (lcd.setPixel (target point).1 (target point).2 true)
        exact ⟨rotation'.trans rotation, width'.trans width, height'.trans height⟩
      · exact ih lcd

/-- The buffer has no bits but those of the pixels on the screen. -/
theorem cell_surjective {cell : Packed.Cell} (valid : cell.Valid (LCDWIDTH * LCDHEIGHT / 8)) :
    ∃ px py, ¬lcd.OffScreen px py ∧ lcd.cell px py = cell := by
  obtain ⟨inside, bit⟩ := valid
  simp only [LCDWIDTH, LCDHEIGHT] at inside
  suffices turned : ∃ px py : Int16, ¬lcd.OffScreen px py ∧
      (lcd.rotated px py).1.toInt = (cell.1 % 84 : Nat) ∧
      (lcd.rotated px py).2.toInt = (cell.1 / 84 * 8 + cell.2 : Nat) by
    obtain ⟨px, py, on, column, row⟩ := turned
    refine ⟨px, py, on, ?_⟩
    rw [AdafruitPCD8544.cell, place_eq (by omega) (by omega), column, row]
    ext <;> simp only <;> omega
  have long : (84 : Int16).toInt = 84 := rfl
  have short : (48 : Int16).toInt = 48 := rfl
  have small {n : Nat} (below : n < 84) : (Int16.ofNat n).toInt = n :=
    Int16.toInt_ofNat_of_lt (by omega)
  have across {n : Nat} (below : n ≤ 83) :
      (Int16.ofNat LCDWIDTH - 1 - Int16.ofNat (83 - n)).toInt = n := by
    have inner : (Int16.ofNat (83 - n)).toInt = (83 - n : Nat) := small (by omega)
    rw [toInt_mirrored (by omega) (by rw [toInt_width]; omega), toInt_width, inner]
    omega
  have down {n : Nat} (below : n ≤ 47) :
      (Int16.ofNat LCDHEIGHT - 1 - Int16.ofNat (47 - n)).toInt = n := by
    have inner : (Int16.ofNat (47 - n)).toInt = (47 - n : Nat) := small (by omega)
    rw [toInt_mirrored (by omega) (by rw [toInt_height]; omega), toInt_height, inner]
    omega
  rcases lcd.oriented with ⟨upright | turned, width, height⟩ | ⟨upright | turned, width, height⟩
  · refine ⟨Int16.ofNat (cell.1 % 84), Int16.ofNat (cell.1 / 84 * 8 + cell.2), ?_, ?_⟩
    · rw [offScreen_iff, width, height, long, short, small (by omega), small (by omega)]
      omega
    · simp only [rotated, upright]
      exact ⟨small (by omega), small (by omega)⟩
  · refine ⟨Int16.ofNat (83 - cell.1 % 84), Int16.ofNat (47 - (cell.1 / 84 * 8 + cell.2)), ?_, ?_⟩
    · rw [offScreen_iff, width, height, long, short, small (by omega), small (by omega)]
      omega
    · simp only [rotated, turned]
      exact ⟨across (by omega), down (by omega)⟩
  · refine ⟨Int16.ofNat (47 - (cell.1 / 84 * 8 + cell.2)), Int16.ofNat (cell.1 % 84), ?_, ?_⟩
    · rw [offScreen_iff, width, height, long, short, small (by omega), small (by omega)]
      omega
    · simp only [rotated, upright]
      exact ⟨small (by omega), down (by omega)⟩
  · refine ⟨Int16.ofNat (cell.1 / 84 * 8 + cell.2), Int16.ofNat (83 - cell.1 % 84), ?_, ?_⟩
    · rw [offScreen_iff, width, height, long, short, small (by omega), small (by omega)]
      omega
    · simp only [rotated, turned]
      exact ⟨across (by omega), small (by omega)⟩

theorem buffer_ext {left right : AdafruitPCD8544} (frame : left.cell? = right.cell?)
    (same : ∀ px py, ¬left.OffScreen px py → left.getPixel px py = right.getPixel px py) :
    left.pcd8544_buffer = right.pcd8544_buffer := by
  apply Packed.ext_read
  intro cell valid
  obtain ⟨px, py, on, rfl⟩ := left.cell_surjective valid
  have found : left.cell? (px, py) = some (left.cell px py) := if_neg on
  have pixel := same px py on
  rw [getPixel_eq, getPixel_eq, ← frame, found] at pixel
  exact pixel

/-! The loops of `scroll`. -/

/-- Where the pixel that `scroll` brings to a place comes from. -/
def origin (xpixels ypixels : Int) (px py : Int16) : Int16 × Int16 :=
  (Int16.ofInt ((px.toInt - xpixels) % lcd._width.toInt),
    Int16.ofInt ((py.toInt - ypixels) % lcd._height.toInt))

def blank : AdafruitPCD8544 := { lcd with pcd8544_buffer := Vector.replicate _ 0 }

def lights (point : Int × Int) : Bool :=
  lcd.getPixel (Int16.ofInt point.1) (Int16.ofInt point.2)

def target (xpixels ypixels : Int8) (point : Int × Int) : Int16 × Int16 :=
  (Int16.ofInt ((point.1 + xpixels.toInt).tmod lcd._width.toInt),
    Int16.ofInt ((point.2 + ypixels.toInt).tmod lcd._height.toInt))

def screen : List (Int × Int) :=
  Int.range 0 lcd._width.toInt ×ˢ Int.range 0 lcd._height.toInt

theorem moved_eq (xpixels ypixels : Int8) : Nokia.moved xpixels ypixels lcd =
    lcd.screen.foldl (fun drawn point =>
      if lcd.lights point then
        drawn.setPixel (lcd.target xpixels ypixels point).1 (lcd.target xpixels ypixels point).2
          true
      else drawn) lcd.blank := by
  simp only [Nokia.moved, screen, SProd.sprod, List.product, List.foldl_flatMap, List.foldl_map,
    lights, target, blank]
  rfl

theorem moved_frame (xpixels ypixels : Int8) :
    (Nokia.moved xpixels ypixels lcd).rotation = lcd.rotation ∧
      (Nokia.moved xpixels ypixels lcd)._width = lcd._width ∧
      (Nokia.moved xpixels ypixels lcd)._height = lcd._height := by
  rw [moved_eq]
  exact lcd.blank.setAll_frame lcd.lights _ _

theorem getPixel_blank (px py : Int16) : lcd.blank.getPixel px py = false := by
  rw [getPixel]
  split
  · rfl
  · exact Packed.read_replicate _

theorem toInt_small {i : Int} (lower : 0 ≤ i) (upper : i < 84) : (Int16.ofInt i).toInt = i :=
  Int16.toInt_ofInt_of_le (by omega) (by omega)

theorem getPixel_moved {xpixels ypixels : Int8}
    (across : 0 ≤ xpixels.toInt ∧ xpixels.toInt < lcd._width.toInt)
    (down : 0 ≤ ypixels.toInt ∧ ypixels.toInt < lcd._height.toInt) {px py : Int16}
    (on : ¬lcd.OffScreen px py) :
    (Nokia.moved xpixels ypixels lcd).getPixel px py =
      lcd.getPixel (lcd.origin xpixels.toInt ypixels.toInt px py).1
        (lcd.origin xpixels.toInt ypixels.toInt px py).2 := by
  obtain ⟨left, right, top, bottom⟩ := (lcd.offScreen_iff px py).mp on
  rw [moved_eq, lcd.blank.getPixel_setAll lcd.lights _ _ on, getPixel_blank, Bool.false_or,
    Bool.eq_iff_iff, List.any_eq_true]
  -- The only point that the loops bring to the place is its origin.
  have unique (point : Int × Int) (member : point ∈ lcd.screen) :
      lcd.target xpixels ypixels point = (px, py) ↔
        point = ((px.toInt - xpixels.toInt) % lcd._width.toInt,
          (py.toInt - ypixels.toInt) % lcd._height.toInt) := by
    obtain ⟨column, row⟩ := List.mem_product.mp member
    rw [Int.mem_range_iff] at column row
    rw [target, Prod.mk.injEq, ← Int16.toInt_inj, ← Int16.toInt_inj, Prod.ext_iff]
    rcases Nokia.extent lcd with ⟨width, height⟩ | ⟨width, height⟩
    · rw [width] at right across column ⊢
      rw [height] at bottom down row ⊢
      rw [Int.tmod_eq_emod_of_nonneg (by omega), Int.tmod_eq_emod_of_nonneg (by omega),
        toInt_small (by omega) (by omega), toInt_small (by omega) (by omega)]
      simp only
      omega
    · rw [width] at right across column ⊢
      rw [height] at bottom down row ⊢
      rw [Int.tmod_eq_emod_of_nonneg (by omega), Int.tmod_eq_emod_of_nonneg (by omega),
        toInt_small (by omega) (by omega), toInt_small (by omega) (by omega)]
      simp only
      omega
  constructor
  · rintro ⟨point, member, shown⟩
    rw [Bool.and_eq_true, beq_iff_eq, unique point member] at shown
    obtain ⟨lit, rfl⟩ := shown
    exact lit
  · intro lit
    have member : ((px.toInt - xpixels.toInt) % lcd._width.toInt,
        (py.toInt - ypixels.toInt) % lcd._height.toInt) ∈ lcd.screen := by
      rw [screen, List.mem_product, Int.mem_range_iff, Int.mem_range_iff]
      have wide := Int.emod_nonneg (px.toInt - xpixels.toInt) (show lcd._width.toInt ≠ 0 by omega)
      have high := Int.emod_nonneg (py.toInt - ypixels.toInt) (show lcd._height.toInt ≠ 0 by omega)
      have wide' := Int.emod_lt_of_pos (px.toInt - xpixels.toInt)
        (show 0 < lcd._width.toInt by omega)
      have high' := Int.emod_lt_of_pos (py.toInt - ypixels.toInt)
        (show 0 < lcd._height.toInt by omega)
      exact ⟨⟨wide, wide'⟩, high, high'⟩
    refine ⟨_, member, ?_⟩
    rw [Bool.and_eq_true, beq_iff_eq, unique _ member]
    exact ⟨lit, rfl⟩

end AdafruitPCD8544

namespace Nokia

open AdafruitPCD8544

variable (lcd : Nokia)

/-- `scroll` by offsets of either sign returns, and moves the pixels of the screen around its
edges. -/
theorem scroll_spec (xpixels ypixels : Int8) :
    ∃ next, lcd.scroll xpixels ypixels = some next ∧
      next.rotation = lcd.rotation ∧ next._width = lcd._width ∧ next._height = lcd._height ∧
      ∀ px py, ¬lcd.OffScreen px py → next.getPixel px py =
        lcd.getPixel (lcd.origin xpixels.toInt ypixels.toInt px py).1
          (lcd.origin xpixels.toInt ypixels.toInt px py).2 := by
  obtain ⟨across, down, wide, high, done⟩ := scroll_eq lcd xpixels ypixels
  have across' : 0 ≤ across.toInt ∧ across.toInt < lcd._width.toInt := by
    rw [wide]
    rcases extent lcd.toAdafruitPCD8544 with ⟨width, -⟩ | ⟨width, -⟩ <;> rw [width] <;> omega
  have down' : 0 ≤ down.toInt ∧ down.toInt < lcd._height.toInt := by
    rw [high]
    rcases extent lcd.toAdafruitPCD8544 with ⟨-, height⟩ | ⟨-, height⟩ <;> rw [height] <;> omega
  obtain ⟨rotation, width, height⟩ := lcd.toAdafruitPCD8544.moved_frame across down
  refine ⟨_, done, rotation, width, height, fun px py on => ?_⟩
  have same : lcd.origin across.toInt down.toInt px py =
      lcd.origin xpixels.toInt ypixels.toInt px py := by
    rw [origin, origin, wide, high, Int.sub_emod_emod, Int.sub_emod_emod]
  rw [← same]
  exact lcd.toAdafruitPCD8544.getPixel_moved across' down' on

theorem origin_spec (xpixels ypixels : Int) (px py : Int16) :
    ¬lcd.OffScreen (lcd.origin xpixels ypixels px py).1 (lcd.origin xpixels ypixels px py).2 ∧
      (lcd.origin xpixels ypixels px py).1.toInt = (px.toInt - xpixels) % lcd._width.toInt ∧
      (lcd.origin xpixels ypixels px py).2.toInt = (py.toInt - ypixels) % lcd._height.toInt := by
  rw [offScreen_iff, origin]
  rcases extent lcd.toAdafruitPCD8544 with ⟨width, height⟩ | ⟨width, height⟩
  · rw [width, height, toInt_small (by omega) (by omega), toInt_small (by omega) (by omega)]
    omega
  · rw [width, height, toInt_small (by omega) (by omega), toInt_small (by omega) (by omega)]
    omega

theorem origin_origin {a b c d e f : Int} (across : (a + c - e) % lcd._width.toInt = 0)
    (down : (b + d - f) % lcd._height.toInt = 0) (px py : Int16) :
    lcd.origin a b (lcd.origin c d px py).1 (lcd.origin c d px py).2 = lcd.origin e f px py := by
  obtain ⟨-, column, row⟩ := origin_spec lcd c d px py
  obtain ⟨-, column', row'⟩ :=
    origin_spec lcd a b (lcd.origin c d px py).1 (lcd.origin c d px py).2
  obtain ⟨-, column'', row''⟩ := origin_spec lcd e f px py
  rw [column] at column'
  rw [row] at row'
  rcases extent lcd.toAdafruitPCD8544 with ⟨width, height⟩ | ⟨width, height⟩
  all_goals
    rw [width] at across column' column''
    rw [height] at down row' row''
    apply Prod.ext
    · rw [← Int16.toInt_inj]
      omega
    · rw [← Int16.toInt_inj]
      omega

theorem origin_turn {e f : Int} (across : e % lcd._width.toInt = 0)
    (down : f % lcd._height.toInt = 0) {px py : Int16} (on : ¬lcd.OffScreen px py) :
    lcd.origin e f px py = (px, py) := by
  obtain ⟨-, column, row⟩ := origin_spec lcd e f px py
  obtain ⟨left, right, top, bottom⟩ := (lcd.offScreen_iff px py).mp on
  rcases extent lcd.toAdafruitPCD8544 with ⟨width, height⟩ | ⟨width, height⟩
  all_goals
    rw [width] at across column right
    rw [height] at down row bottom
    apply Prod.ext
    · simp only [← Int16.toInt_inj]
      omega
    · simp only [← Int16.toInt_inj]
      omega

/-- A scroll moves every pixel of the screen by the offsets and around the edges; one after another
is the same as a single one by any offsets that differ from the sums by whole turns, and one by
whole turns leaves the buffer as it was. -/
theorem scroll_scroll (a b c d e f : Int8)
    (across : (a.toInt + c.toInt - e.toInt) % lcd._width.toInt = 0)
    (down : (b.toInt + d.toInt - f.toInt) % lcd._height.toInt = 0) :
    ∃ between twice once, lcd.scroll a b = some between ∧ between.scroll c d = some twice ∧
      lcd.scroll e f = some once ∧ once.rotation = lcd.rotation ∧
      (∀ px py, ¬lcd.OffScreen px py → once.getPixel px py =
        lcd.getPixel (Int16.ofInt ((px.toInt - e.toInt) % lcd._width.toInt))
          (Int16.ofInt ((py.toInt - f.toInt) % lcd._height.toInt))) ∧
      twice.pcd8544_buffer = once.pcd8544_buffer ∧
      (e.toInt % lcd._width.toInt = 0 → f.toInt % lcd._height.toInt = 0 →
        once.pcd8544_buffer = lcd.pcd8544_buffer) := by
  obtain ⟨between, first, rotation, width, height, moved⟩ := scroll_spec lcd a b
  obtain ⟨twice, second, rotation', width', height', moved'⟩ := scroll_spec between c d
  obtain ⟨once, single, rotation'', width'', height'', moved''⟩ := scroll_spec lcd e f
  refine ⟨between, twice, once, first, second, single, rotation'', moved'', ?_, ?_⟩
  · apply buffer_ext
    · apply cell?_congr
      · rw [rotation', rotation, rotation'']
      · rw [width', width, width'']
      · rw [height', height, height'']
    · intro px py on
      have shown : ¬lcd.OffScreen px py := by
        rw [OffScreen, width', height', width, height] at on
        exact on
      have still : ¬between.OffScreen px py := by
        rw [OffScreen, width, height]
        exact shown
      have turned : between.origin c.toInt d.toInt px py = lcd.origin c.toInt d.toInt px py := by
        rw [origin, origin, width, height]
      rw [moved' px py still, moved'' px py shown, turned,
        moved _ _ (origin_spec lcd c.toInt d.toInt px py).1, origin_origin lcd across down]
  · intro turnX turnY
    apply buffer_ext
    · exact cell?_congr rotation'' width'' height''
    · intro px py on
      have shown : ¬lcd.OffScreen px py := by
        rw [OffScreen, width'', height''] at on
        exact on
      rw [moved'' px py shown, origin_turn lcd turnX turnY shown]

/-- A picture whose columns all differ from their neighbours. -/
def ramp : Vector UInt8 (LCDWIDTH * LCDHEIGHT / 8) := Vector.ofFn fun i => UInt8.ofNat i.val

theorem scroll_scroll_back : ∃ between twice once,
    (construct (fun _ => 0) ramp 4).scroll (-100) 7 = some between ∧
      between.scroll 19 (-5) = some twice ∧
      (construct (fun _ => 0) ramp 4).scroll 3 (-46) = some once ∧ once.rotation = 0 ∧
      (∀ px py, ¬(construct (fun _ => 0) ramp 4).OffScreen px py → once.getPixel px py =
        (construct (fun _ => 0) ramp 4).getPixel (Int16.ofInt ((px.toInt - 3) % 84))
          (Int16.ofInt ((py.toInt + 46) % 48))) ∧
      twice.pcd8544_buffer = once.pcd8544_buffer ∧
      ((3 : Int8).toInt % 84 = 0 → (-46 : Int8).toInt % 48 = 0 →
        once.pcd8544_buffer = ramp) :=
  scroll_scroll (construct (fun _ => 0) ramp 4) (-100) 7 19 (-5) 3 (-46) (by decide) (by decide)

end Nokia

end ResistorCutter
