import ResistorCutter.LineChecks

/-!
The drawing calls of `Adafruit_GFX.cpp`: what they fill, in any rotation, and what that is in the
rotation of the sketch, on the pictures that the other modules draw on.
-/

namespace ResistorCutter

namespace Nokia

open AdafruitPCD8544

/-- Columns and rows from the first to the last. -/
def block (left right top bottom : Int) : Set (Int16 × Int16) :=
  {point | left ≤ point.1.toInt ∧ point.1.toInt ≤ right ∧
    top ≤ point.2.toInt ∧ point.2.toInt ≤ bottom}

theorem mem_block {left right top bottom : Int} {px py : Int16} :
    (px, py) ∈ block left right top bottom ↔
      left ≤ px.toInt ∧ px.toInt ≤ right ∧ top ≤ py.toInt ∧ py.toInt ≤ bottom := Iff.rfl

/-- A call has filled: on the screen the pixels of the region have the colour and the others are as
they were, and of the rest only the box to send may have changed. -/
structure Fills (before after : Nokia) (region : Set (Int16 × Int16)) (lit : Bool) : Prop where
  frame : after = { before with toAdafruitPCD8544 := after.toAdafruitPCD8544 }
  rotation : after.rotation = before.rotation
  grows : Grows before.toAdafruitPCD8544 after.toAdafruitPCD8544
  inside : ∀ px py, ¬before.OffScreen px py → (px, py) ∈ region → after.getPixel px py = lit
  outside : ∀ px py, ¬before.OffScreen px py → (px, py) ∉ region →
    after.getPixel px py = before.getPixel px py

theorem size_rotation {lcd next : AdafruitPCD8544} (same : next.rotation = lcd.rotation) :
    next._width = lcd._width ∧ next._height = lcd._height := by
  have turned := lcd.oriented
  have turned' := next.oriented
  rw [same] at turned'
  rcases turned with ⟨either, width, height⟩ | ⟨either, width, height⟩
  · rcases turned' with ⟨-, width', height'⟩ | ⟨other, -, -⟩
    · exact ⟨width'.trans width.symm, height'.trans height.symm⟩
    · rcases either with zero | two <;> simp_all
  · rcases turned' with ⟨other, -, -⟩ | ⟨-, width', height'⟩
    · rcases either with one | three <;> simp_all
    · exact ⟨width'.trans width.symm, height'.trans height.symm⟩

variable {before between after lcd : Nokia} {region other : Set (Int16 × Int16)} {lit : Bool}

theorem Fills.shown (fills : Fills before after region lit) {px py : Int16}
    (on : ¬before.OffScreen px py) : ¬after.OffScreen px py := by
  obtain ⟨width, height⟩ := size_rotation fills.rotation
  rw [OffScreen, width, height]
  exact on

theorem Fills.empty (lcd : Nokia) (lit : Bool) : Fills lcd lcd ∅ lit :=
  ⟨rfl, rfl, Grows.refl _, fun _ _ _ member => absurd member (Set.notMem_empty _),
    fun _ _ _ _ => rfl⟩

theorem Fills.trans (first : Fills before between region lit)
    (second : Fills between after other lit) : Fills before after (region ∪ other) lit := by
  refine ⟨?_, second.rotation.trans first.rotation, first.grows.trans second.grows, ?_, ?_⟩
  · rw [second.frame, first.frame]
  · intro px py on member
    by_cases later : (px, py) ∈ other
    · exact second.inside px py (first.shown on) later
    · rw [second.outside px py (first.shown on) later]
      exact first.inside px py on (member.resolve_right later)
  · intro px py on absent
    rw [Set.mem_union, not_or] at absent
    rw [second.outside px py (first.shown on) absent.2, first.outside px py on absent.1]

theorem Fills.congr (fills : Fills before after region lit)
    (same : ∀ px py, (px, py) ∈ region ↔ (px, py) ∈ other) : Fills before after other lit := by
  have equal : region = other := Set.ext fun point => same point.1 point.2
  rw [← equal]
  exact fills

theorem drawPixel_fills (lcd : Nokia) (x y : Int16) (color : Color) :
    Fills lcd (lcd.drawPixel x y color) {(x, y)} (color != 0) := by
  refine ⟨rfl, (lcd.setPixel_frame x y _).1, lcd.setPixel_grows x y _, ?_, ?_⟩
  · intro px py on member
    exact (lcd.getPixel_setPixel on x y _).trans (if_pos (Set.mem_singleton_iff.mp member).symm)
  · intro px py on absent
    exact (lcd.getPixel_setPixel on x y _).trans
      (if_neg fun same => absent (Set.mem_singleton_iff.mpr same.symm))

theorem drawAll_fills (lcd : Nokia) (color : Color) (points : List (Int16 × Int16)) :
    Fills lcd (drawAll color lcd points) {point | point ∈ points} (color != 0) := by
  induction points generalizing lcd with
  | nil => exact (Fills.empty lcd _).congr (by simp)
  | cons point rest ih =>
      exact ((drawPixel_fills lcd point.1 point.2 color).trans (ih _)).congr (by simp)

/-! Level and upright lines. -/

theorem IsLine.column {x y y' : Int16} {points : List (Int16 × Int16)}
    (line : IsLine x y x y' points) (px py : Int16) : (px, py) ∈ points ↔
      (px, py) ∈ block x.toInt x.toInt (min y.toInt y'.toInt) (max y.toInt y'.toInt) := by
  have length := line.length
  simp only [extentOf] at length
  rw [mem_block]
  constructor
  · intro member
    have across := line.across _ member
    simp only at across
    omega
  · rintro ⟨left, right, top, bottom⟩
    -- A line of one pixel is not steep: it has that pixel in its only column.
    have below : (if Steep x y x y' then (py.toInt - min y.toInt y'.toInt).toNat else 0) <
        points.length := by
      split <;> omega
    have member := List.getElem_mem below
    have across := line.across _ member
    have along := line.along _ _ (List.getElem?_eq_getElem below)
    have same : points[if Steep x y x y' then (py.toInt - min y.toInt y'.toInt).toNat else 0] =
        (px, py) := by
      rw [Prod.ext_iff, ← Int16.toInt_inj, ← Int16.toInt_inj]
      by_cases steep : Steep x y x y'
      · rw [if_pos steep] at along
        simp only [if_pos steep] at along across ⊢
        omega
      · simp only [Steep] at steep
        simp only at across ⊢
        omega
    exact same ▸ member

theorem IsLine.row {x x' y : Int16} {points : List (Int16 × Int16)}
    (line : IsLine x y x' y points) (px py : Int16) : (px, py) ∈ points ↔
      (px, py) ∈ block (min x.toInt x'.toInt) (max x.toInt x'.toInt) y.toInt y.toInt := by
  have length := line.length
  simp only [extentOf] at length
  have flat : ¬Steep x y x' y := by
    simp only [Steep]
    omega
  rw [mem_block]
  constructor
  · intro member
    have across := line.across _ member
    simp only at across
    omega
  · rintro ⟨left, right, top, bottom⟩
    have below : (px.toInt - min x.toInt x'.toInt).toNat < points.length := by omega
    have member := List.getElem_mem below
    have across := line.across _ member
    have along := line.along _ _ (List.getElem?_eq_getElem below)
    rw [if_neg flat] at along
    have same : points[(px.toInt - min x.toInt x'.toInt).toNat] = (px, py) := by
      rw [Prod.ext_iff, ← Int16.toInt_inj, ← Int16.toInt_inj]
      simp only
      omega
    exact same ▸ member

variable {x y w h : Int16}

theorem drawFastVLine_fills (fits : ((y + h - 1).toInt - y.toInt).natAbs ≤ 32767)
    (ends : lineEnd x y x (y + h - 1) ≠ 32767) (color : Color) (lcd : Nokia) :
    ∃ after, lcd.drawFastVLine x y h color = some after ∧
      Fills lcd after (block x.toInt x.toInt (min y.toInt (y + h - 1).toInt)
        (max y.toInt (y + h - 1).toInt)) (color != 0) := by
  have extent : extentOf x y x (y + h - 1) ≤ 32767 := by
    simp only [extentOf]
    omega
  obtain ⟨points, line, drawn⟩ := writeLine_points extent ends
  exact ⟨_, drawn color lcd, (drawAll_fills lcd color points).congr line.column⟩

theorem drawFastHLine_fills (fits : ((x + w - 1).toInt - x.toInt).natAbs ≤ 32767)
    (ends : lineEnd x y (x + w - 1) y ≠ 32767) (color : Color) (lcd : Nokia) :
    ∃ after, lcd.drawFastHLine x y w color = some after ∧
      Fills lcd after (block (min x.toInt (x + w - 1).toInt) (max x.toInt (x + w - 1).toInt)
        y.toInt y.toInt) (color != 0) := by
  have extent : extentOf x y (x + w - 1) y ≤ 32767 := by
    simp only [extentOf]
    omega
  obtain ⟨points, line, drawn⟩ := writeLine_points extent ends
  exact ⟨_, drawn color lcd, (drawAll_fills lcd color points).congr line.row⟩

/-! Rectangles. -/

/-- A column from `y` on does not end at the last value of the loop variable of its line. -/
def Stops (y h : Int16) : Prop := h = 1 ∨ y.toInt ≠ 32767 ∧ (y + h - 1).toInt ≠ 32767

instance (y h : Int16) : Decidable (Stops y h) := inferInstanceAs (Decidable (_ ∨ _))

theorem lineEnd_column (inside : x.toInt < 32767) (y h : Int16) :
    lineEnd x y x (y + h - 1) ≠ 32767 ↔ Stops y h := by
  have single : h = 1 ↔ (y + h - 1).toInt = y.toInt := by
    have least := h.le_toInt
    have most := h.toInt_lt
    have least' := y.le_toInt
    have most' := y.toInt_lt
    rw [← Int16.toInt_inj, Int16.toInt_sub, Int16.toInt_add, toInt_one, Int.bmod_def, Int.bmod_def]
    omega
  have most := y.toInt_lt
  have most' := (y + h - 1).toInt_lt
  rw [Stops, single, lineEnd]
  by_cases steep : Steep x y x (y + h - 1)
  · rw [if_pos steep]
    simp only [Steep] at steep
    omega
  · rw [if_neg steep]
    simp only [Steep] at steep
    omega

theorem fillColumns_spec (stops : Stops y h) (color : Color) {bound : Int}
    (inside : bound ≤ 32767) (fuel : Nat) :
    ∀ (i : Int16) (lcd : Nokia), bound - i.toInt < fuel → 0 < fuel →
      ∃ after, fillColumns y h color bound fuel i lcd = some after ∧
        (((y + h - 1).toInt - y.toInt).natAbs ≤ 32767 →
          Fills lcd after (block i.toInt (bound - 1) (min y.toInt (y + h - 1).toInt)
            (max y.toInt (y + h - 1).toInt)) (color != 0)) := by
  induction fuel with
  | zero =>
      intro _ _ _ impossible
      omega
  | succ fuel ih =>
      intro i lcd enough _
      rw [fillColumns]
      by_cases more : i.toInt < bound
      · have least := i.le_toInt
        have next : (i + 1).toInt = i.toInt + 1 :=
          toInt_sum (by rw [toInt_one]; omega) (by rw [toInt_one]; omega)
        have ends := (lineEnd_column (by omega : i.toInt < 32767) y h).mpr stops
        obtain ⟨between, drawn⟩ :=
          Option.isSome_iff_exists.mp ((writeLine_returns_iff i y i (y + h - 1) color lcd).mpr ends)
        obtain ⟨after, done, later⟩ := ih (i + 1) between (by omega) (by omega)
        refine ⟨after, ?_, fun fits => ?_⟩
        · rw [if_pos more, drawFastVLine, drawn]
          exact done
        · obtain ⟨same, first, column⟩ := drawFastVLine_fills fits ends color lcd
          obtain rfl : between = same := Option.some.inj (drawn.symm.trans first)
          refine (column.trans (later fits)).congr fun px py => ?_
          rw [Set.mem_union, mem_block, mem_block, mem_block, next]
          omega
      · refine ⟨lcd, if_neg more, fun _ => (Fills.empty lcd _).congr fun px py => ?_⟩
        rw [mem_block]
        simp only [Set.mem_empty_iff_false, false_iff]
        omega

theorem fillColumns_endless (y h : Int16) (color : Color) {bound : Int} (beyond : 32767 < bound)
    (fuel : Nat) : ∀ (i : Int16) (lcd : Nokia), fillColumns y h color bound fuel i lcd = none := by
  induction fuel with
  | zero => exact fun _ _ => rfl
  | succ fuel ih =>
      intro i lcd
      have most := i.toInt_lt
      rw [fillColumns, if_pos (by omega)]
      cases lcd.drawFastVLine i y h color with
      | none => rfl
      | some after => exact ih (i + 1) after

theorem fillRect_spec (inside : x.toInt + w.toInt ≤ 32767) (stops : Stops y h) (color : Color)
    (lcd : Nokia) :
    ∃ after, lcd.fillRect x y w h color = some after ∧
      (((y + h - 1).toInt - y.toInt).natAbs ≤ 32767 →
        Fills lcd after (block x.toInt (x.toInt + w.toInt - 1)
          (min y.toInt (y + h - 1).toInt) (max y.toInt (y + h - 1).toInt)) (color != 0)) := by
  have most := w.toInt_lt
  exact fillColumns_spec stops color inside rounds x lcd (by simp only [rounds]; omega)
    (by simp [rounds])

theorem fillRect_empty (empty : w.toInt ≤ 0) (x y h : Int16) (color : Color) (lcd : Nokia) :
    lcd.fillRect x y w h color = some lcd := by
  rw [fillRect, rounds, fillColumns, if_neg]
  omega

/-- `fillRect` does not return if the columns go on beyond the last value of its loop variable, or
if one of them ends at the last value of the variable in its line. Otherwise, if the 16-bit number
of the last row is not more than 32767 from that of the first, it fills the columns between these
two rows. A rectangle with no height or a negative one goes back from its start, two pixels high or
more. -/
theorem fillRect_exact (lcd : Nokia) (x y w h : Int16) (color : Color) :
    ((lcd.fillRect x y w h color).isSome ↔
      x.toInt + w.toInt ≤ 32767 ∧ (0 < w.toInt → Stops y h)) ∧
      ∀ after, lcd.fillRect x y w h color = some after →
        ((y + h - 1).toInt - y.toInt).natAbs ≤ 32767 →
          Fills lcd after (block x.toInt (x.toInt + w.toInt - 1)
            (min y.toInt (y + h - 1).toInt) (max y.toInt (y + h - 1).toInt)) (color != 0) := by
  by_cases inside : x.toInt + w.toInt ≤ 32767
  · by_cases empty : w.toInt ≤ 0
    · have nothing := fillRect_empty empty x y h color lcd
      rw [nothing]
      refine ⟨by simp [inside, Int.not_lt.mpr empty], fun after done _ => ?_⟩
      obtain rfl : lcd = after := Option.some.inj done
      refine (Fills.empty lcd _).congr fun px py => ?_
      rw [mem_block]
      simp only [Set.mem_empty_iff_false, false_iff]
      omega
    · by_cases stops : Stops y h
      · obtain ⟨after, done, fills⟩ := fillRect_spec inside stops color lcd
        rw [done]
        refine ⟨by simp [inside, stops], fun same equal fits => ?_⟩
        obtain rfl : after = same := Option.some.inj equal
        exact fills fits
      · have first : lcd.fillRect x y w h color = none := by
          have more : x.toInt < x.toInt + w.toInt := by omega
          have endless := (lineEnd_column (by omega : x.toInt < 32767) y h).not.mpr stops
          rw [← writeLine_returns_iff x y x (y + h - 1) color lcd, Option.not_isSome_iff_eq_none]
            at endless
          rw [fillRect, rounds, fillColumns, if_pos more, drawFastVLine, endless]
          rfl
        rw [first]
        refine ⟨?_, fun _ impossible => by cases impossible⟩
        simp only [Option.isSome_none, Bool.false_eq_true, false_iff, not_and]
        exact fun _ ends => stops (ends (Int.not_le.mp empty))
  · rw [fillRect, fillColumns_endless y h color (Int.not_le.mp inside)]
    exact ⟨by simp [inside], fun _ impossible => by cases impossible⟩

/-- A rectangle without a height, from a corner outside, on a screen turned on its side. -/
theorem fillRect_exact_flat : ∃ after,
    ((construct (fun _ => 0) (Vector.replicate _ 0x35) 4).setRotation 1).fillRect (-3) 7 5 0 BLACK =
        some after ∧
      Fills ((construct (fun _ => 0) (Vector.replicate _ 0x35) 4).setRotation 1) after
        (block (-3) 1 6 7) true := by
  let lcd := (construct (fun _ => 0) (Vector.replicate _ 0x35) 4).setRotation 1
  obtain ⟨after, done⟩ :=
    Option.isSome_iff_exists.mp ((fillRect_exact lcd (-3) 7 5 0 BLACK).1.mpr (by decide))
  exact ⟨after, done, (fillRect_exact lcd (-3) 7 5 0 BLACK).2 after done (by decide)⟩

/-- A call has drawn: nothing else has changed, and `paint` is what it did to the picture. -/
structure Painted (before after : Nokia) (paint : Framebuffer → Framebuffer) : Prop where
  frame : after = { before with toAdafruitPCD8544 := after.toAdafruitPCD8544 }
  upright : after.rotation = 0
  grows : Grows before.toAdafruitPCD8544 after.toAdafruitPCD8544
  picture : after.picture = paint before.picture

theorem Painted.refl {lcd : Nokia} (upright : lcd.rotation = 0) : Painted lcd lcd id :=
  ⟨rfl, upright, Grows.refl _, rfl⟩

theorem Painted.trans {first second third : Nokia} {paint next : Framebuffer → Framebuffer}
    (left : Painted first second paint) (right : Painted second third next) :
    Painted first third (next ∘ paint) := by
  refine ⟨?_, right.upright, left.grows.trans right.grows, ?_⟩
  · rw [right.frame, left.frame]
  · rw [right.picture, left.picture]
    rfl

theorem Painted.congr {before after : Nokia} {paint other : Framebuffer → Framebuffer}
    (painted : Painted before after paint)
    (same : paint before.picture = other before.picture) : Painted before after other :=
  ⟨painted.frame, painted.upright, painted.grows, painted.picture.trans same⟩

theorem Painted.font {before after : Nokia} {paint : Framebuffer → Framebuffer}
    (painted : Painted before after paint) : after.font = before.font := by
  rw [painted.frame]

theorem painted_foldlM {ι : Type*} {step : Nokia → ι → Option Nokia}
    {paint : ι → Framebuffer → Framebuffer} {font : Font} (inputs : List ι)
    (each : ∀ lcd : Nokia, lcd.rotation = 0 → lcd.font = font → ∀ input ∈ inputs,
      ∃ after, step lcd input = some after ∧ Painted lcd after (paint input))
    {lcd : Nokia} (upright : lcd.rotation = 0) (same : lcd.font = font) :
    ∃ after, inputs.foldlM step lcd = some after ∧ Painted lcd after fun picture =>
      inputs.foldl (fun picture input => paint input picture) picture := by
  induction inputs generalizing lcd with
  | nil => exact ⟨lcd, rfl, Painted.refl upright⟩
  | cons input rest ih =>
      obtain ⟨between, taken, painted⟩ := each lcd upright same input (by simp)
      obtain ⟨after, done, painted'⟩ :=
        ih (fun lcd upright same later member => each lcd upright same later (by simp [member]))
          painted.upright (painted.font.trans same)
      refine ⟨after, ?_, painted.trans painted'⟩
      rw [List.foldlM_cons, taken]
      exact done

/-! The rotation of the sketch. -/

theorem upright_size {lcd : AdafruitPCD8544} (upright : lcd.rotation = 0) :
    lcd._width.toInt = 84 ∧ lcd._height.toInt = 48 := by
  rcases lcd.oriented with ⟨-, width, height⟩ | ⟨turned, -, -⟩
  · rw [width, height]
    exact ⟨rfl, rfl⟩
  · simp [upright] at turned

theorem shown_iff {lcd : AdafruitPCD8544} (upright : lcd.rotation = 0) (x y : Int16) :
    ¬lcd.OffScreen x y ↔
      0 ≤ x.toInt ∧ x.toInt < 84 ∧ 0 ≤ y.toInt ∧ y.toInt < 48 := by
  rw [offScreen_iff, (upright_size upright).1, (upright_size upright).2]

theorem Fills.painted {left right top bottom : Int}
    (fills : Fills before after (block left right top bottom) lit)
    (upright : before.rotation = 0) : Painted before after
      (Raster.fill left top (right - left + 1) (bottom - top + 1) lit) := by
  refine ⟨fills.frame, fills.rotation.trans upright, fills.grows, ?_⟩
  funext px py
  have edge : px.val < 84 := px.isLt
  have foot : py.val < 48 := py.isLt
  have column : (Int16.ofNat px).toInt = px.val := Int16.toInt_ofNat_of_lt (by omega)
  have row : (Int16.ofNat py).toInt = py.val := Int16.toInt_ofNat_of_lt (by omega)
  have shown : ¬before.OffScreen (Int16.ofNat px) (Int16.ofNat py) := by
    rw [shown_iff upright, column, row]
    omega
  have same : (Int16.ofNat px, Int16.ofNat py) ∈ block left right top bottom ↔
      Raster.rect left top (right - left + 1) (bottom - top + 1) px py := by
    rw [mem_block, column, row, Raster.rect]
    omega
  rw [Raster.fill, picture]
  by_cases member : Raster.rect left top (right - left + 1) (bottom - top + 1) px py
  · rw [if_pos member]
    exact fills.inside _ _ shown (same.mpr member)
  · rw [if_neg member]
    exact fills.outside _ _ shown (member ∘ same.mp)

theorem drawPixel_painted (upright : lcd.rotation = 0) (x y : Int16) (color : Color) :
    Painted lcd (lcd.drawPixel x y color) (Raster.fill x.toInt y.toInt 1 1 (color != 0)) := by
  have fills : Fills lcd (lcd.drawPixel x y color) (block x.toInt x.toInt y.toInt y.toInt)
      (color != 0) := (drawPixel_fills lcd x y color).congr fun px py => by
    rw [mem_block, Set.mem_singleton_iff, Prod.mk.injEq, ← Int16.toInt_inj, ← Int16.toInt_inj]
    omega
  have drawn := fills.painted upright
  rw [Int.sub_self, Int.sub_self] at drawn
  exact drawn

/-! Sizes that are positive. -/

structure Room (start size : Int16) : Prop where
  lower : -32767 ≤ start.toInt
  upper : start.toInt + size.toInt ≤ 32767
  positive : 0 < size.toInt

theorem Room.stop {start size : Int16} (room : Room start size) :
    (start + size - 1).toInt = start.toInt + size.toInt - 1 := by
  obtain ⟨lower, upper, positive⟩ := room
  rw [Int16.toInt_sub, Int16.toInt_add, toInt_one, Int.bmod_def, Int.bmod_def]
  omega

theorem Room.stops {start size : Int16} (room : Room start size) : Stops start size := by
  have stop := room.stop
  obtain ⟨lower, upper, positive⟩ := room
  rw [Stops, stop]
  omega

theorem Room.fits {start size : Int16} (room : Room start size) :
    ((start + size - 1).toInt - start.toInt).natAbs ≤ 32767 := by
  have stop := room.stop
  have most := size.toInt_lt
  obtain ⟨lower, upper, positive⟩ := room
  omega

theorem Room.span {start size : Int16} (room : Room start size) :
    min start.toInt (start + size - 1).toInt = start.toInt ∧
      max start.toInt (start + size - 1).toInt - start.toInt + 1 = size.toInt := by
  have stop := room.stop
  have positive := room.positive
  omega

theorem fillRect_room (upright : lcd.rotation = 0) (across : Room x w) (down : Room y h)
    (color : Color) :
    ∃ after, lcd.fillRect x y w h color = some after ∧
      Painted lcd after (Raster.fill x.toInt y.toInt w.toInt h.toInt (color != 0)) := by
  obtain ⟨after, done, fills⟩ := fillRect_spec across.upper down.stops color lcd
  have painted := (fills down.fits).painted upright
  have width : x.toInt + w.toInt - 1 - x.toInt + 1 = w.toInt := by omega
  rw [width, down.span.1, down.span.2] at painted
  exact ⟨after, done, painted⟩

theorem drawFastHLine_room (upright : lcd.rotation = 0) (across : Room x w) (y : Int16)
    (color : Color) :
    ∃ after, lcd.drawFastHLine x y w color = some after ∧
      Painted lcd after (Raster.fill x.toInt y.toInt w.toInt 1 (color != 0)) := by
  have flat : ¬Steep x y (x + w - 1) y := by
    simp only [Steep]
    omega
  have ends : lineEnd x y (x + w - 1) y ≠ 32767 := by
    have stop := across.stop
    obtain ⟨lower, upper, positive⟩ := across
    rw [lineEnd, if_neg flat]
    omega
  obtain ⟨after, done, fills⟩ := drawFastHLine_fills across.fits ends color lcd
  have painted := fills.painted upright
  rw [across.span.1, across.span.2, Int.sub_self] at painted
  exact ⟨after, done, painted⟩

theorem drawFastVLine_room (upright : lcd.rotation = 0) (down : Room y h)
    (inside : x.toInt < 32767) (color : Color) :
    ∃ after, lcd.drawFastVLine x y h color = some after ∧
      Painted lcd after (Raster.fill x.toInt y.toInt 1 h.toInt (color != 0)) := by
  have ends := (lineEnd_column inside y h).mpr down.stops
  obtain ⟨after, done, fills⟩ := drawFastVLine_fills down.fits ends color lcd
  have painted := fills.painted upright
  rw [down.span.1, down.span.2, Int.sub_self] at painted
  exact ⟨after, done, painted⟩

theorem drawRect_room (upright : lcd.rotation = 0) (pen : Pen) (across : Room x w)
    (down : Room y h) (color : Color) :
    ∃ after, lcd.drawRect x y w h color = some after ∧
      Painted lcd after fun picture =>
        (Lcd.drawRect x.toInt y.toInt w.toInt h.toInt color ⟨pen, picture⟩).picture := by
  have bottom : (y + h - 1).toInt = y.toInt + h.toInt - 1 := down.stop
  have right : (x + w - 1).toInt = x.toInt + w.toInt - 1 := across.stop
  have least := x.le_toInt
  have wide := across.positive
  have fits := across.upper
  obtain ⟨first, drawn, painted⟩ := drawFastHLine_room upright across y color
  obtain ⟨second, drawn', painted'⟩ :=
    drawFastHLine_room painted.upright across (y + h - 1) color
  obtain ⟨third, drawn'', painted''⟩ :=
    drawFastVLine_room painted'.upright (x := x) down (by omega) color
  obtain ⟨fourth, last, paintedLast⟩ :=
    drawFastVLine_room painted''.upright (x := x + w - 1) down (by omega) color
  refine ⟨fourth, ?_, (((painted.trans painted').trans painted'').trans paintedLast).congr ?_⟩
  · simp only [drawRect, drawn, drawn', drawn'', last, Option.bind_eq_bind, Option.bind_some]
  · rw [bottom, right]
    rfl

end Nokia

end ResistorCutter
