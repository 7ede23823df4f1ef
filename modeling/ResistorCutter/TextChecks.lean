import ResistorCutter.GfxChecks

/-!
Text: the loops of `drawChar` over the bits of a glyph draw the cell that the other modules know,
`write` wraps and moves the cursor as they do.
-/

namespace ResistorCutter

namespace Nokia

open AdafruitPCD8544

/-! The dots of a glyph. -/

/-- Far enough from the ends of 16 bits for a character of any size. -/
def Near (v : Int16) : Prop := -30000 ≤ v.toInt ∧ v.toInt ≤ 30000

theorem toInt_ofNat_size (size : UInt8) : (Int16.ofNat size.toNat).toInt = size.toNat :=
  Int16.toInt_ofNat_of_lt (by have := size.toNat_lt; omega)

def dot (x y : Int) (size_x size_y : Nat) (cell : Nat × Nat) (lit : Bool) :
    Framebuffer → Framebuffer :=
  Raster.fill (x + cell.1 * size_x) (y + cell.2 * size_y) size_x size_y lit

theorem drawDot_spec {lcd : Nokia} (upright : lcd.rotation = 0) {x y : Int16} (nearX : Near x)
    (nearY : Near y) {i j : Nat} (column : i < 6) (row : j < 8) (color : Color)
    {size_x size_y : UInt8} (wide : 0 < size_x.toNat) (high : 0 < size_y.toNat) :
    ∃ after, lcd.drawDot x y i j color size_x size_y = some after ∧
      Painted lcd after
        (dot x.toInt y.toInt size_x.toNat size_y.toNat (i, j) (color != 0)) := by
  obtain ⟨left, right⟩ := nearX
  obtain ⟨top, bottom⟩ := nearY
  have smallX := size_x.toNat_lt
  have smallY := size_y.toNat_lt
  have offX : i * size_x.toNat ≤ 5 * 255 := Nat.mul_le_mul (by omega) (by omega)
  have offY : j * size_y.toNat ≤ 7 * 255 := Nat.mul_le_mul (by omega) (by omega)
  rw [drawDot]
  split
  · next single =>
    obtain ⟨rfl, rfl⟩ := single
    have exactX : (x + Int16.ofNat i).toInt = x.toInt + i := by
      have value : (Int16.ofNat i).toInt = i := Int16.toInt_ofNat_of_lt (by omega)
      rw [toInt_sum (by omega) (by omega), value]
    have exactY : (y + Int16.ofNat j).toInt = y.toInt + j := by
      have value : (Int16.ofNat j).toInt = j := Int16.toInt_ofNat_of_lt (by omega)
      rw [toInt_sum (by omega) (by omega), value]
    refine ⟨_, rfl, (drawPixel_painted upright _ _ color).congr ?_⟩
    rw [exactX, exactY, dot]
    simp
  · have exactX : (Int16.ofInt (x.toInt + (i * size_x.toNat : Nat))).toInt =
        x.toInt + (i * size_x.toNat : Nat) := Int16.toInt_ofInt_of_le (by omega) (by omega)
    have exactY : (Int16.ofInt (y.toInt + (j * size_y.toNat : Nat))).toInt =
        y.toInt + (j * size_y.toNat : Nat) := Int16.toInt_ofInt_of_le (by omega) (by omega)
    have sizeX := toInt_ofNat_size size_x
    have sizeY := toInt_ofNat_size size_y
    push_cast at exactX exactY
    have across : Room (Int16.ofInt (x.toInt + i * size_x.toNat)) (Int16.ofNat size_x.toNat) := by
      constructor <;> omega
    have down : Room (Int16.ofInt (y.toInt + j * size_y.toNat)) (Int16.ofNat size_y.toNat) := by
      constructor <;> omega
    obtain ⟨after, done, painted⟩ := fillRect_room upright across down color
    rw [exactX, exactY, sizeX, sizeY] at painted
    exact ⟨after, done, painted⟩

theorem drawGap_spec {lcd : Nokia} (upright : lcd.rotation = 0) {x y : Int16} (nearX : Near x)
    (nearY : Near y) (bg : Color) {size_x size_y : UInt8} (wide : 0 < size_x.toNat)
    (high : 0 < size_y.toNat) :
    ∃ after, lcd.drawGap x y bg size_x size_y = some after ∧
      Painted lcd after (Raster.fill (x.toInt + 5 * size_x.toNat) y.toInt size_x.toNat
        (8 * size_y.toNat) (bg != 0)) := by
  obtain ⟨left, right⟩ := nearX
  obtain ⟨top, bottom⟩ := nearY
  have smallX := size_x.toNat_lt
  have smallY := size_y.toNat_lt
  rw [drawGap]
  split
  · next single =>
    obtain ⟨rfl, rfl⟩ := single
    have five : (5 : Int16).toInt = 5 := rfl
    have eight : (8 : Int16).toInt = 8 := rfl
    have exactX : (x + 5).toInt = x.toInt + 5 := by
      rw [toInt_sum (by omega) (by omega), five]
    have down : Room y 8 := by
      constructor <;> omega
    obtain ⟨after, done, painted⟩ := drawFastVLine_room upright (x := x + 5) down (by omega) bg
    rw [exactX, eight] at painted
    exact ⟨after, done, painted⟩
  · have exactX : (Int16.ofInt (x.toInt + 5 * size_x.toNat)).toInt =
        x.toInt + 5 * size_x.toNat := Int16.toInt_ofInt_of_le (by omega) (by omega)
    have exactH : (Int16.ofInt (8 * size_y.toNat)).toInt = 8 * size_y.toNat :=
      Int16.toInt_ofInt_of_le (by omega) (by omega)
    have sizeX := toInt_ofNat_size size_x
    have across : Room (Int16.ofInt (x.toInt + 5 * size_x.toNat)) (Int16.ofNat size_x.toNat) := by
      constructor <;> omega
    have down : Room y (Int16.ofInt (8 * size_y.toNat)) := by
      constructor <;> omega
    obtain ⟨after, done, painted⟩ := fillRect_room upright across down bg
    rw [exactX, exactH, sizeX] at painted
    exact ⟨after, done, painted⟩

/-! The cell of a character. -/

theorem dot_iff {x y : Int} {size_x size_y : Nat} (wide : 0 < size_x) (high : 0 < size_y)
    (cell : Nat × Nat) (px : Fin LCDWIDTH) (py : Fin LCDHEIGHT) :
    Raster.rect (x + cell.1 * size_x) (y + cell.2 * size_y) size_x size_y px py ↔
      ((px.val - x) / size_x, (py.val - y) / size_y) = ((cell.1 : Int), (cell.2 : Int)) := by
  rw [Prod.mk.injEq, Int.ediv_eq_iff_of_pos (by omega), Int.ediv_eq_iff_of_pos (by omega),
    Raster.rect]
  omega

/-- Dots drawn one after the other: a place has what the one dot over it gives it. -/
theorem foldl_dots {x y : Int} {size_x size_y : Nat} (value : Nat × Nat → Option Bool)
    (cells : List (Nat × Nat)) (picture : Framebuffer) {target : Nat × Nat}
    {px : Fin LCDWIDTH} {py : Fin LCDHEIGHT}
    (covers : ∀ cell ∈ cells,
      Raster.rect (x + cell.1 * size_x) (y + cell.2 * size_y) size_x size_y px py ↔
        cell = target) :
    cells.foldl (fun picture cell =>
      (value cell).elim picture fun lit => dot x y size_x size_y cell lit picture) picture px py =
        if target ∈ cells then (value target).getD (picture px py) else picture px py := by
  induction cells generalizing picture with
  | nil => simp
  | cons cell rest ih =>
      have here := covers cell (by simp)
      have drawn : (value cell).elim picture (fun lit => dot x y size_x size_y cell lit picture)
          px py = if cell = target then (value target).getD (picture px py) else picture px py := by
        by_cases same : cell = target
        · subst same
          rw [if_pos rfl]
          cases value cell with
          | none => rfl
          | some lit => exact if_pos (here.mpr rfl)
        · rw [if_neg same]
          cases value cell with
          | none => rfl
          | some lit => exact if_neg (same ∘ here.mp)
      rw [List.foldl_cons, ih _ fun cell member => covers cell (by simp [member]), drawn]
      by_cases same : cell = target
      · subst same
        cases value cell <;> simp
      · have apart : target ≠ cell := fun equal => same equal.symm
        simp [same, apart]

/-- What the loops do with a bit of the glyph. -/
def glyphValue (font : Font) (code : Nat) (color bg : Color) (cell : Nat × Nat) : Option Bool :=
  if Packed.testBit (font (code * 5 + cell.1)) cell.2 then some (color != 0)
  else if bg ≠ color then some (bg != 0)
  else none

theorem glyph_spec {lcd : Nokia} (upright : lcd.rotation = 0) {x y : Int16} (nearX : Near x)
    (nearY : Near y) (code : Nat) (color bg : Color) {size_x size_y : UInt8}
    (wide : 0 < size_x.toNat) (high : 0 < size_y.toNat) :
    ∃ after, (List.range 5).foldlM (fun (lcd : Nokia) i =>
        (List.range 8).foldlM (fun (lcd' : Nokia) j =>
          if Packed.testBit (lcd.font (code * 5 + i)) j then
            lcd'.drawDot x y i j color size_x size_y
          else if bg ≠ color then lcd'.drawDot x y i j bg size_x size_y
          else some lcd') lcd) lcd = some after ∧
      Painted lcd after fun picture => (List.range 5 ×ˢ List.range 8).foldl (fun picture cell =>
        (glyphValue lcd.font code color bg cell).elim picture fun lit =>
          dot x.toInt y.toInt size_x.toNat size_y.toNat cell lit picture) picture := by
  have row (before : Nokia) (still : before.rotation = 0) (same : before.font = lcd.font)
      (i : Nat) (column : i ∈ List.range 5) :
      ∃ after, (List.range 8).foldlM (fun (lcd' : Nokia) j =>
          if Packed.testBit (before.font (code * 5 + i)) j then
            lcd'.drawDot x y i j color size_x size_y
          else if bg ≠ color then lcd'.drawDot x y i j bg size_x size_y
          else some lcd') before = some after ∧
        Painted before after fun picture => (List.range 8).foldl (fun picture j =>
          (glyphValue lcd.font code color bg (i, j)).elim picture fun lit =>
            dot x.toInt y.toInt size_x.toNat size_y.toNat (i, j) lit picture) picture := by
    refine painted_foldlM (List.range 8) ?_ still same
    intro lcd' still' _ j member
    rw [List.mem_range] at column member
    rw [same, glyphValue]
    split
    · exact drawDot_spec still' nearX nearY (by omega) member color wide high
    · split
      · exact drawDot_spec still' nearX nearY (by omega) member bg wide high
      · exact ⟨lcd', rfl, Painted.refl still'⟩
  obtain ⟨after, done, painted⟩ := painted_foldlM (List.range 5) row upright rfl
  refine ⟨after, done, painted.congr ?_⟩
  simp only [SProd.sprod, List.product, List.foldl_flatMap, List.foldl_map]

/-- The number of the glyph. -/
def glyphCode (c : Char) : Nat := if c.toNat ≥ 176 then c.toNat + 1 else c.toNat

theorem toNat_toUInt8 {c : Char} (latin : c.toNat < 255) : c.toUInt8.toNat = c.toNat := by
  rw [Char.toUInt8, UInt32.toNat_toUInt8]
  exact Nat.mod_eq_of_lt (Nat.lt_succ_of_lt latin)

theorem glyphCode_eq {c : Char} (latin : c.toNat < 255) :
    (if decide (c.toUInt8 ≥ 176) then c.toUInt8 + 1 else c.toUInt8).toNat = glyphCode c := by
  have value := toNat_toUInt8 latin
  have order : c.toUInt8 ≥ 176 ↔ c.toNat ≥ 176 := by
    rw [ge_iff_le, UInt8.le_iff_toNat_le, value]
    rfl
  simp only [glyphCode, order, decide_eq_true_eq]
  split
  · rw [UInt8.toNat_add, value]
    simp only [UInt8.reduceToNat]
    omega
  · exact value

/-- The dots and the gap make up what `Lcd.drawChar` says of the cell. -/
theorem cell_eq (pen : Pen) {x y : Int} {c : Char} (color bg : Color) {size_x size_y : Nat}
    (wide : 0 < size_x) (high : 0 < size_y) (picture : Framebuffer) :
    (if bg ≠ color then Raster.fill (x + 5 * size_x) y size_x (8 * size_y) (bg != 0) else id)
      ((List.range 5 ×ˢ List.range 8).foldl (fun picture cell =>
        (glyphValue pen.font (glyphCode c) color bg cell).elim picture fun lit =>
          dot x y size_x size_y cell lit picture) picture) =
      (Lcd.drawChar x y c color bg size_x size_y ⟨pen, picture⟩).picture := by
  funext px py
  have columns (n : Nat) : ((px.val : Int) - x) / size_x < n ↔ (px.val : Int) < x + n * size_x := by
    rw [Int.ediv_lt_iff_lt_mul (by omega)]
    omega
  have rows (n : Nat) : ((py.val : Int) - y) / size_y < n ↔ (py.val : Int) < y + n * size_y := by
    rw [Int.ediv_lt_iff_lt_mul (by omega)]
    omega
  have left : 0 ≤ ((px.val : Int) - x) / size_x ↔ x ≤ px.val := by
    rw [Int.le_ediv_iff_mul_le (by omega)]
    omega
  have top : 0 ≤ ((py.val : Int) - y) / size_y ↔ y ≤ py.val := by
    rw [Int.le_ediv_iff_mul_le (by omega)]
    omega
  have whole : Raster.rect x y (6 * size_x) (8 * size_y) px py ↔
      0 ≤ ((px.val : Int) - x) / size_x ∧ ((px.val : Int) - x) / size_x < (6 : Nat) ∧
        0 ≤ ((py.val : Int) - y) / size_y ∧ ((py.val : Int) - y) / size_y < (8 : Nat) := by
    rw [columns, rows, left, top, Raster.rect]
    omega
  have gap : Raster.rect (x + 5 * size_x) y size_x (8 * size_y) px py ↔
      Raster.rect x y (6 * size_x) (8 * size_y) px py ∧
        ¬((px.val : Int) - x) / size_x < (5 : Nat) := by
    rw [columns]
    simp only [Raster.rect]
    omega
  have dots (cell : Nat × Nat) := @dot_iff x y size_x size_y wide high cell px py
  have drawn (target : Nat × Nat) (covers : ∀ cell ∈ List.range 5 ×ˢ List.range 8,
      Raster.rect (x + cell.1 * size_x) (y + cell.2 * size_y) size_x size_y px py ↔
        cell = target) :=
    foldl_dots (glyphValue pen.font (glyphCode c) color bg) _ picture covers
  have bits (i j : Nat) : Lcd.lit pen.font c i j =
      (decide (i < 5) && (pen.font (glyphCode c * 5 + i)).toNat.testBit j) := rfl
  simp only [Lcd.drawChar, bits]
  generalize ((px.val : Int) - x) / size_x = column at *
  generalize ((py.val : Int) - y) / size_y = row at *
  by_cases inside : Raster.rect x y (6 * size_x) (8 * size_y) px py
  · obtain ⟨first, last, above, below⟩ := whole.mp inside
    obtain ⟨i, rfl⟩ := Int.eq_ofNat_of_zero_le first
    obtain ⟨j, rfl⟩ := Int.eq_ofNat_of_zero_le above
    have small : j < 8 := by omega
    have bit : Packed.testBit (pen.font (glyphCode c * 5 + i)) j =
        (pen.font (glyphCode c * 5 + i)).toNat.testBit j := by
      rw [Packed.testBit_eq small, ← BitVec.testBit_toNat, UInt8.toNat_toBitVec]
    have place := drawn (i, j) fun cell _ => by
      rw [dots, Prod.mk.injEq, Prod.ext_iff]
      omega
    rw [if_pos inside]
    simp only [Int.toNat_natCast]
    by_cases early : i < 5
    · have member : (i, j) ∈ List.range 5 ×ˢ List.range 8 := by
        rw [List.mem_product, List.mem_range, List.mem_range]
        exact ⟨early, small⟩
      have ungapped : ¬Raster.rect (x + 5 * size_x) y size_x (8 * size_y) px py := by
        rw [gap]
        omega
      rw [if_pos member, glyphValue, bit] at place
      simp only [early, decide_true, Bool.true_and]
      split
      · rw [Raster.fill, if_neg ungapped, place]
        split
        · rfl
        · simp [*]
      · rw [id, place]
        split
        · rfl
        · simp [*]
    · have absent : (i, j) ∉ List.range 5 ×ˢ List.range 8 := by
        rw [List.mem_product, List.mem_range]
        exact fun member => early member.1
      have gapped : Raster.rect (x + 5 * size_x) y size_x (8 * size_y) px py := by
        rw [gap]
        exact ⟨inside, by omega⟩
      rw [if_neg absent] at place
      simp only [early, decide_false, Bool.false_and, Bool.false_eq_true, if_false]
      split
      · rw [Raster.fill, if_pos gapped]
      · rw [id, place]
  · have ungapped : ¬Raster.rect (x + 5 * size_x) y size_x (8 * size_y) px py :=
      inside ∘ And.left ∘ gap.mp
    have place := drawn (5, 0) fun cell member => by
      rw [List.mem_product, List.mem_range, List.mem_range] at member
      rw [dots, Prod.mk.injEq, Prod.ext_iff]
      rw [whole] at inside
      simp only
      omega
    rw [if_neg (by decide)] at place
    rw [if_neg inside]
    split
    · rw [Raster.fill, if_neg ungapped, place]
    · rw [id, place]

theorem drawChar_spec {lcd : Nokia} (upright : lcd.rotation = 0) (classic : lcd._cp437 = false)
    {x y : Int16} (nearX : Near x) (nearY : Near y) {c : Char} (latin : c.toNat < 255)
    (color bg : Color) {size_x size_y : UInt8} (wide : 0 < size_x.toNat) (high : 0 < size_y.toNat)
    {pen : Pen} (font : pen.font = lcd.font) :
    ∃ after, lcd.drawChar x y c.toUInt8 color bg size_x size_y = some after ∧
      Painted lcd after fun picture =>
        (Lcd.drawChar x.toInt y.toInt c color bg size_x.toNat size_y.toNat
          ⟨pen, picture⟩).picture := by
  obtain ⟨width, height⟩ := upright_size upright
  by_cases clipped : x ≥ lcd._width ∨ y ≥ lcd._height ∨ x.toInt + 6 * size_x.toNat - 1 < 0 ∨
      y.toInt + 8 * size_y.toNat - 1 < 0
  · refine ⟨lcd, if_pos clipped, (Painted.refl upright).congr ?_⟩
    rw [ge_iff_le, ge_iff_le, Int16.le_iff_toInt_le, Int16.le_iff_toInt_le, width, height]
      at clipped
    funext px py
    have right : px.val < 84 := px.isLt
    have bottom : py.val < 48 := py.isLt
    have outside : ¬Raster.rect x.toInt y.toInt (6 * size_x.toNat) (8 * size_y.toNat) px py := by
      simp only [Raster.rect]
      omega
    exact (if_neg outside).symm
  · obtain ⟨after, done, painted⟩ :=
      glyph_spec upright nearX nearY (glyphCode c) color bg wide high
    have code := glyphCode_eq latin
    have ended : ∃ last, (if bg ≠ color then after.drawGap x y bg size_x size_y else some after) =
        some last ∧ Painted after last
          (if bg ≠ color then Raster.fill (x.toInt + 5 * size_x.toNat) y.toInt size_x.toNat
            (8 * size_y.toNat) (bg != 0) else id) := by
      split
      · exact drawGap_spec painted.upright nearX nearY bg wide high
      · exact ⟨after, rfl, Painted.refl painted.upright⟩
    obtain ⟨last, gap, paintedGap⟩ := ended
    refine ⟨last, ?_, (painted.trans paintedGap).congr ?_⟩
    · rw [drawChar, if_neg clipped, classic]
      simp only [Bool.not_false, Bool.true_and, code, done, Option.bind_eq_bind, Option.bind_some]
      exact gap
    · rw [Function.comp_apply, ← font]
      exact cell_eq pen color bg wide high lcd.picture

/-! The calls one after the other, on the canvas of the other modules. -/

/-- The object and a canvas with the same picture and the same pen. -/
structure Shows (lcd : Nokia) (canvas : Lcd) : Prop where
  upright : lcd.rotation = 0
  wrap : lcd.wrap = true
  classic : lcd._cp437 = false
  pen : canvas.pen = ⟨lcd.font, lcd.cursor_x.toInt, lcd.cursor_y.toInt, lcd.textcolor,
    lcd.textbgcolor, lcd.textsize_x.toNat, lcd.textsize_y.toNat⟩
  picture : canvas.picture = lcd.picture
  sized : 0 < lcd.textsize_x.toNat ∧ 0 < lcd.textsize_y.toNat

/-- The object shows the canvas, and the glass follows the object. -/
structure Mirrors (resets : Panel → Panel) (glass : Panel) (lcd : Nokia) (canvas : Lcd) :
    Prop where
  shows : Shows lcd canvas
  follows : Follows resets glass lcd

variable {resets : Panel → Panel} {glass : Panel} {lcd : Nokia} {canvas : Lcd}

theorem Mirrors.paint (mirrors : Mirrors resets glass lcd canvas) {after : Nokia}
    {paint : Framebuffer → Framebuffer} (painted : Painted lcd after paint) :
    Mirrors resets glass after { canvas with picture := paint canvas.picture } := by
  obtain ⟨⟨upright, wrap, classic, pen, picture, sized⟩, panel, heard, tracks⟩ := mirrors
  obtain ⟨frame, still, grows, drawn⟩ := painted
  generalize after.toAdafruitPCD8544 = next at frame
  subst frame
  refine ⟨⟨still, wrap, classic, pen, ?_, sized⟩, panel, heard, tracks.paint grows⟩
  rw [drawn, picture]

/-- The members that text alone uses. -/
theorem Follows.text (follows : Follows resets glass lcd) (x y : Int16) (c bg : Color)
    (width height : UInt8) :
    Follows resets glass { lcd with
      cursor_x := x
      cursor_y := y
      textcolor := c
      textbgcolor := bg
      textsize_x := width
      textsize_y := height } := by
  obtain ⟨panel, heard, tracks⟩ := follows
  exact ⟨panel, heard, tracks.boxed, ⟨tracks.configured.mode, tracks.configured.vop,
    tracks.configured.bias, tracks.configured.control⟩, tracks.agree, tracks.resets⟩

theorem Mirrors.setCursor (mirrors : Mirrors resets glass lcd canvas) (x y : Int16) :
    Mirrors resets glass (lcd.setCursor x y) (canvas.setCursor x.toInt y.toInt) := by
  obtain ⟨⟨upright, wrap, classic, pen, picture, sized⟩, follows⟩ := mirrors
  refine ⟨⟨upright, wrap, classic, ?_, picture, sized⟩, follows.text _ _ _ _ _ _⟩
  rw [Lcd.setCursor, pen]
  rfl

theorem Mirrors.setTextColor (mirrors : Mirrors resets glass lcd canvas) (c bg : Color) :
    Mirrors resets glass (lcd.setTextColor c bg) (canvas.setTextColor c bg) := by
  obtain ⟨⟨upright, wrap, classic, pen, picture, sized⟩, follows⟩ := mirrors
  refine ⟨⟨upright, wrap, classic, ?_, picture, sized⟩, follows.text _ _ _ _ _ _⟩
  rw [Lcd.setTextColor, pen]
  rfl

theorem Mirrors.setTextSize (mirrors : Mirrors resets glass lcd canvas) {s : UInt8}
    (positive : 0 < s) :
    Mirrors resets glass (lcd.setTextSize s) (canvas.setTextSize s.toNat) := by
  obtain ⟨⟨upright, wrap, classic, pen, picture, -⟩, follows⟩ := mirrors
  have size : 0 < s.toNat := UInt8.lt_iff_toNat_lt.mp positive
  have kept : lcd.setTextSize s = { lcd with textsize_x := s, textsize_y := s } := by
    rw [Nokia.setTextSize, if_pos positive]
  rw [kept]
  refine ⟨⟨upright, wrap, classic, ?_, picture, size, size⟩, follows.text _ _ _ _ _ _⟩
  rw [Lcd.setTextSize, if_pos size, pen]

/-- The cursor is on the screen or below it, and `lines` lines further down are still far from the
end of 16 bits. -/
structure Margin (lines : Nat) (lcd : Nokia) : Prop where
  left : 0 ≤ lcd.cursor_x.toInt
  right : lcd.cursor_x.toInt ≤ 2000
  top : 0 ≤ lcd.cursor_y.toInt
  bottom : lcd.cursor_y.toInt + (8 * lcd.textsize_y.toNat * lines : Nat) ≤ 28000

theorem Mirrors.newline (mirrors : Mirrors resets glass lcd canvas) {lines : Nat}
    (margin : Margin (lines + 1) lcd) :
    Mirrors resets glass lcd.newline canvas.newline ∧ Margin lines lcd.newline := by
  obtain ⟨left, right, top, bottom⟩ := margin
  have split : 8 * lcd.textsize_y.toNat * (lines + 1) =
      8 * lcd.textsize_y.toNat * lines + 8 * lcd.textsize_y.toNat := Nat.mul_succ _ _
  have exact : (Int16.ofInt (lcd.cursor_y.toInt + lcd.textsize_y.toNat * 8)).toInt =
      lcd.cursor_y.toInt + lcd.textsize_y.toNat * 8 :=
    Int16.toInt_ofInt_of_le (by omega) (by omega)
  constructor
  · have moved := mirrors.setCursor 0
      (Int16.ofInt (lcd.cursor_y.toInt + lcd.textsize_y.toNat * 8))
    rw [exact] at moved
    have same : canvas.newline =
        canvas.setCursor 0 (lcd.cursor_y.toInt + lcd.textsize_y.toNat * 8) := by
      rw [Lcd.newline, mirrors.shows.pen]
    rw [same]
    exact moved
  · have column : lcd.newline.cursor_x.toInt = 0 := rfl
    have row : lcd.newline.cursor_y.toInt = lcd.cursor_y.toInt + lcd.textsize_y.toNat * 8 := exact
    have size : lcd.newline.textsize_y = lcd.textsize_y := rfl
    constructor
    · omega
    · omega
    · omega
    · rw [row, size]
      omega

theorem toUInt8_eq_iff {c d : Char} (latin : c.toNat < 255) (other : d.toNat < 255) :
    c.toUInt8 = d.toUInt8 ↔ c = d := by
  rw [← UInt8.toNat_inj, toNat_toUInt8 latin, toNat_toUInt8 other]
  exact Char.toNat_inj

theorem Margin.fewer {lines : Nat} (margin : Margin (lines + 1) lcd) : Margin lines lcd := by
  obtain ⟨left, right, top, bottom⟩ := margin
  have split : 8 * lcd.textsize_y.toNat * (lines + 1) =
      8 * lcd.textsize_y.toNat * lines + 8 * lcd.textsize_y.toNat := Nat.mul_succ _ _
  exact ⟨left, right, top, by omega⟩

/-- The beginning of `write`: a new line if the character does not fit into this one. -/
theorem wrap_mirrors (mirrors : Mirrors resets glass lcd canvas) {lines : Nat}
    (margin : Margin (lines + 1) lcd) :
    ∃ after, (if lcd.wrap && decide (lcd.cursor_x.toInt + lcd.textsize_x.toNat * 6 >
        lcd._width.toInt) then lcd.newline else lcd) = after ∧
      Mirrors resets glass after
        (if canvas.pen.cursor_x + canvas.pen.textsize_x * 6 > LCDWIDTH then canvas.newline
          else canvas) ∧
      Margin lines after ∧
      after.cursor_x.toInt + after.textsize_x.toNat * 6 ≤ 2000 ∧
      after.textsize_y = lcd.textsize_y := by
  have width := (upright_size mirrors.shows.upright).1
  have large := lcd.textsize_x.toNat_lt
  rw [mirrors.shows.wrap, Bool.true_and, width, mirrors.shows.pen]
  simp only [LCDWIDTH, Nat.cast_ofNat, decide_eq_true_eq]
  by_cases full : lcd.cursor_x.toInt + lcd.textsize_x.toNat * 6 > 84
  · rw [if_pos full, if_pos full]
    obtain ⟨mirrors', margin'⟩ := mirrors.newline margin
    refine ⟨_, rfl, mirrors', margin', ?_, rfl⟩
    have column : lcd.newline.cursor_x.toInt = 0 := rfl
    have size : lcd.newline.textsize_x = lcd.textsize_x := rfl
    rw [column, size]
    omega
  · rw [if_neg full, if_neg full]
    exact ⟨_, rfl, mirrors, margin.fewer, by omega, rfl⟩

theorem write_mirrors (mirrors : Mirrors resets glass lcd canvas) {lines : Nat}
    (margin : Margin (lines + 1) lcd) {c : Char} (latin : c.toNat < 255) :
    ∃ after, lcd.write c.toUInt8 = some after ∧ Mirrors resets glass after (canvas.write c) ∧
      Margin lines after := by
  have line := @toUInt8_eq_iff c '\n' latin (by decide)
  have back := @toUInt8_eq_iff c '\r' latin (by decide)
  rw [Nokia.write, Lcd.write]
  simp only [line, ne_eq, back]
  by_cases newline : c = '\n'
  · rw [if_pos newline, if_pos newline]
    exact ⟨_, rfl, mirrors.newline margin⟩
  · rw [if_neg newline, if_neg newline]
    by_cases visible : c = '\r'
    · rw [if_neg (not_not_intro visible), if_neg (not_not_intro visible)]
      exact ⟨lcd, rfl, mirrors, margin.fewer⟩
    · rw [if_pos visible, if_pos visible]
      obtain ⟨wrapped, place, mirrors', ⟨left, right, top, bottom⟩, fits, same⟩ :=
        wrap_mirrors mirrors margin
      rw [place]
      generalize (if canvas.pen.cursor_x + canvas.pen.textsize_x * 6 > LCDWIDTH then
        canvas.newline else canvas) = canvas' at mirrors' ⊢
      have size := mirrors'.shows.sized
      obtain ⟨drawn, done, painted⟩ := @drawChar_spec wrapped mirrors'.shows.upright
        mirrors'.shows.classic wrapped.cursor_x wrapped.cursor_y ⟨by omega, by omega⟩
        ⟨by omega, by omega⟩ c latin wrapped.textcolor wrapped.textbgcolor wrapped.textsize_x
        wrapped.textsize_y size.1 size.2 canvas'.pen (by rw [mirrors'.shows.pen])
      have pen := mirrors'.shows.pen
      have column : drawn.cursor_x = wrapped.cursor_x := by rw [painted.frame]
      have row : drawn.cursor_y = wrapped.cursor_y := by rw [painted.frame]
      have across : drawn.textsize_x = wrapped.textsize_x := by rw [painted.frame]
      have down : drawn.textsize_y = wrapped.textsize_y := by rw [painted.frame]
      have exact : (Int16.ofInt (wrapped.cursor_x.toInt + wrapped.textsize_x.toNat * 6)).toInt =
          wrapped.cursor_x.toInt + wrapped.textsize_x.toNat * 6 :=
        Int16.toInt_ofInt_of_le (by omega) (by omega)
      have moved := (mirrors'.paint painted).setCursor
        (Int16.ofInt (drawn.cursor_x.toInt + drawn.textsize_x.toNat * 6)) drawn.cursor_y
      refine ⟨drawn.setCursor (Int16.ofInt (drawn.cursor_x.toInt + drawn.textsize_x.toNat * 6))
        drawn.cursor_y, ?_, ?_, ?_⟩
      · simp only [done, Option.bind_eq_bind, Option.bind_some]
      · rw [column, row, across, exact] at moved
        rw [column, row, across]
        simp only [Lcd.drawChar, pen] at moved ⊢
        exact moved
      · have columnEnd : (drawn.setCursor (Int16.ofInt (drawn.cursor_x.toInt +
            drawn.textsize_x.toNat * 6)) drawn.cursor_y).cursor_x.toInt =
              wrapped.cursor_x.toInt + wrapped.textsize_x.toNat * 6 := by
          rw [column, across]
          exact exact
        have rowEnd : (drawn.setCursor (Int16.ofInt (drawn.cursor_x.toInt +
            drawn.textsize_x.toNat * 6)) drawn.cursor_y).cursor_y = wrapped.cursor_y := row
        have sizeEnd : (drawn.setCursor (Int16.ofInt (drawn.cursor_x.toInt +
            drawn.textsize_x.toNat * 6)) drawn.cursor_y).textsize_y = wrapped.textsize_y := down
        constructor
        · omega
        · omega
        · rw [rowEnd]
          exact top
        · rw [rowEnd, sizeEnd]
          exact bottom

theorem print_mirrors (text : List Char) (latin : ∀ c ∈ text, c.toNat < 255)
    (mirrors : Mirrors resets glass lcd canvas) (margin : Margin text.length lcd) :
    ∃ after, lcd.print text = some after ∧ Mirrors resets glass after (canvas.print text) := by
  rw [Nokia.print]
  induction text generalizing lcd canvas with
  | nil => exact ⟨lcd, rfl, mirrors⟩
  | cons c rest ih =>
      obtain ⟨between, written, mirrors', margin'⟩ :=
        write_mirrors mirrors margin (latin c (by simp))
      obtain ⟨after, done, shown⟩ :=
        ih (fun c member => latin c (by simp [member])) mirrors' margin'
      refine ⟨after, ?_, shown⟩
      rw [List.map_cons, List.foldlM_cons, written]
      exact done

end Nokia

end ResistorCutter
