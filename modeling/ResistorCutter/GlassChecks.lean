import ResistorCutter.RefreshChecks
import ResistorCutter.RepaintChecks
import ResistorCutter.TextChecks

/-!
From the calls of `Display.h` to the glass: what the controller holds after any of them is the
picture that the other modules reason about.
-/

namespace ResistorCutter

namespace Nokia

open AdafruitPCD8544

variable {resets : Panel → Panel} {glass : Panel} {lcd : Nokia} {canvas : Lcd}

/-! The calls between the texts. -/

theorem Mirrors.fillRect (mirrors : Mirrors resets glass lcd canvas) {x y w h : Int16}
    (across : Room x w) (down : Room y h) (color : Color) :
    ∃ after, lcd.fillRect x y w h color = some after ∧ Mirrors resets glass after
      (canvas.fillRect x.toInt y.toInt w.toInt h.toInt color) := by
  obtain ⟨after, done, painted⟩ := fillRect_room mirrors.shows.upright across down color
  exact ⟨after, done, mirrors.paint painted⟩

theorem Mirrors.drawRect (mirrors : Mirrors resets glass lcd canvas) {x y w h : Int16}
    (across : Room x w) (down : Room y h) (color : Color) :
    ∃ after, lcd.drawRect x y w h color = some after ∧ Mirrors resets glass after
      (canvas.drawRect x.toInt y.toInt w.toInt h.toInt color) := by
  obtain ⟨after, done, painted⟩ :=
    drawRect_room mirrors.shows.upright canvas.pen across down color
  exact ⟨after, done, mirrors.paint painted⟩

theorem Mirrors.drawFastHLine (mirrors : Mirrors resets glass lcd canvas) {x y w : Int16}
    (across : Room x w) (color : Color) :
    ∃ after, lcd.drawFastHLine x y w color = some after ∧ Mirrors resets glass after
      (canvas.drawFastHLine x.toInt y.toInt w.toInt color) := by
  obtain ⟨after, done, painted⟩ := drawFastHLine_room mirrors.shows.upright across y color
  exact ⟨after, done, mirrors.paint painted⟩

theorem Mirrors.invertRect (mirrors : Mirrors resets glass lcd canvas) (x y w h : Int16) :
    Mirrors resets glass (lcd.invertRect x y w h)
      (canvas.invertRect x.toInt y.toInt w.toInt h.toInt) := by
  have upright := mirrors.shows.upright
  have flips (lcd : AdafruitPCD8544) (point : Int16 × Int16) (still : lcd.rotation = 0) :
      (lcd.flip point).rotation = 0 := by
    rw [flip_eq]
    exact (lcd.setPixel_frame _ _ _).1.trans still
  have still : (lcd.toAdafruitPCD8544.invertRect x y w h).rotation = 0 := by
    rw [invertRect_eq]
    exact Runs.invariant_run_always flips upright (visits x y w h)
  exact mirrors.paint ⟨rfl, still, lcd.invertRect_grows x y w h,
    lcd.invertRect_picture upright x y w h⟩

theorem Mirrors.clearDisplay (mirrors : Mirrors resets glass lcd canvas) :
    Mirrors resets glass lcd.clearDisplay canvas.clearDisplay := by
  obtain ⟨⟨upright, wrap, classic, pen, picture, sized⟩, follows⟩ := mirrors
  obtain ⟨next, done, followsNext⟩ :=
    @perform_follows resets glass lcd follows .clearDisplay trivial
  have same : lcd.clearDisplay = next := Option.some.inj done
  rw [← same] at followsNext
  refine ⟨⟨upright, wrap, classic, ?_, ?_, sized⟩, followsNext⟩
  · rw [Lcd.clearDisplay, pen]
    rfl
  · funext px py
    have dark : lcd.clearDisplay.getPixel (Int16.ofNat px) (Int16.ofNat py) = false := by
      rw [getPixel]
      split
      · rfl
      · exact Packed.read_replicate _
    exact dark.symm

/-! `display` -/

/-- The controller holds the picture, all of it. -/
structure Lit (resets : Panel → Panel) (glass : Panel) (lcd : Nokia) (canvas : Lcd) : Prop where
  mirrors : Mirrors resets glass lcd canvas
  sent : ∃ panel, Heard resets glass lcd panel ∧ panel.ram = lcd.pcd8544_buffer

theorem Mirrors.display (mirrors : Mirrors resets glass lcd canvas) :
    ∃ after, lcd.display = some after ∧ Lit resets glass after canvas := by
  obtain ⟨⟨upright, wrap, classic, pen, picture, sized⟩, panel, heard, tracks⟩ := mirrors
  obtain ⟨after, panel', done, heard', tracks', same, kept, text, rotation, width, height⟩ :=
    display_spec heard tracks
  simp only [face, Prod.mk.injEq] at text
  obtain ⟨penKept, -, -, sizeX, sizeY, wrapKept, classicKept⟩ := text
  have shown : after.picture = lcd.picture := by
    funext px py
    rw [AdafruitPCD8544.picture, AdafruitPCD8544.picture, getPixel_eq, getPixel_eq, kept,
      cell?_congr rotation width height]
  refine ⟨after, done, ⟨⟨⟨rotation.trans upright, wrapKept.trans wrap, classicKept.trans classic,
    pen.trans penKept.symm, picture.trans shown.symm, ?_⟩, panel', heard', tracks'⟩, panel',
    heard', same⟩⟩
  rw [sizeX, sizeY]
  exact sized

theorem margin_setCursor (lcd : Nokia) {x y : Int16} {lines : Nat} (left : 0 ≤ x.toInt)
    (right : x.toInt ≤ 2000) (top : 0 ≤ y.toInt) (bottom : y.toInt ≤ 100) (few : lines ≤ 13) :
    Margin lines (lcd.setCursor x y) := by
  have size := lcd.textsize_y.toNat_lt
  have below : 8 * lcd.textsize_y.toNat * lines ≤ 8 * 255 * 13 :=
    Nat.mul_le_mul (by omega) few
  refine ⟨left, right, top, ?_⟩
  have row : (lcd.setCursor x y).cursor_y = y := rfl
  have kept : (lcd.setCursor x y).textsize_y = lcd.textsize_y := rfl
  rw [row, kept]
  omega

theorem decimal_latin (n : Int) : ∀ c ∈ decimal n, c.toNat < 255 := by
  intro c member
  rcases digit_of_mem_decimal member with digit | rfl
  · have upper := (Char.isDigit_iff_toNat.mp digit).2
    have nine : '9'.toNat = 57 := rfl
    omega
  · decide

theorem Mirrors.printAt (mirrors : Mirrors resets glass lcd canvas) {x y : Int16}
    (left : 0 ≤ x.toInt) (right : x.toInt ≤ 100) (top : 0 ≤ y.toInt) (bottom : y.toInt ≤ 100)
    {text : List Char} (latin : ∀ c ∈ text, c.toNat < 255) (short : text.length ≤ 13) :
    ∃ after, (lcd.setCursor x y).print text = some after ∧
      Mirrors resets glass after ((canvas.setCursor x.toInt y.toInt).print text) :=
  print_mirrors text latin (mirrors.setCursor x y)
    (margin_setCursor lcd left (by omega) top bottom short)

theorem Mirrors.printField (mirrors : Mirrors resets glass lcd canvas) {x y : Int16}
    (across : Room x 15) (down : Room y 11) (highlighted running : Bool) :
    ∃ after, lcd.printField x y highlighted running = some after ∧ Mirrors resets glass after
      (Display.printField x.toInt y.toInt highlighted running canvas) := by
  rw [Nokia.printField, Display.printField]
  cases running
  · cases highlighted
    · obtain ⟨after, done, drawn⟩ := mirrors.drawRect across down BLACK
      refine ⟨after.setTextColor BLACK BLACK, ?_, drawn.setTextColor BLACK BLACK⟩
      simp [done]
    · obtain ⟨after, done, drawn⟩ := mirrors.fillRect across down BLACK
      refine ⟨after.setTextColor WHITE BLACK, ?_, drawn.setTextColor WHITE BLACK⟩
      simp [done]
  · exact ⟨lcd, rfl, mirrors⟩

/-! The painters. Each ends with `display`. -/

def line (label : List Char) (labelColumn field top column : Int16) (number : Int)
    (highlighted running : Bool) (lcd : Nokia) : Option Nokia := do
  let lcd ← lcd.fillRect 0 top 84 11 WHITE
  let lcd ← ((lcd.setTextColor BLACK BLACK).setCursor labelColumn (top + 2)).print label
  let lcd ← lcd.printField field top highlighted running
  let lcd ← (lcd.setCursor column (top + 2)).print (decimal number)
  lcd.display

theorem printLn1_eq (number : Int) (highlighted running : Bool) (lcd : Nokia) :
    lcd.printLn1 number highlighted running =
      lcd.line "R per kit:".toList 4 64 0 (if number < 10 then 69 else 65) number highlighted
        running := by
  simp only [Nokia.printLn1, line]
  split <;> rfl

theorem printLn2_eq (number : Int) (highlighted running : Bool) (lcd : Nokia) :
    lcd.printLn2 number highlighted running =
      lcd.line "Kits:".toList 20 50 12 (if number < 10 then 55 else 52) number highlighted
        running := by
  simp only [Nokia.printLn2, line]
  split <;> rfl

/-- A place on the screen. -/
def OnScreen (v : Int16) : Prop := 0 ≤ v.toInt ∧ v.toInt ≤ 84

instance (v : Int16) : Decidable (OnScreen v) := inferInstanceAs (Decidable (_ ∧ _))

/-- A row with its label, its field and its number, in the column for one digit or for two. -/
theorem line_lit (mirrors : Mirrors resets glass lcd canvas) {label : List Char}
    {labelColumn field top one two : Int16}
    (on : OnScreen labelColumn ∧ OnScreen field ∧ OnScreen top ∧ OnScreen one ∧ OnScreen two)
    (plain : ∀ c ∈ label, c.toNat < 255) (few : label.length ≤ 13) {number : Int}
    (lower : -2147483648 ≤ number) (upper : number < 2147483648) (highlighted running : Bool) :
    ∃ after, lcd.line label labelColumn field top (if number < 10 then one else two) number
        highlighted running = some after ∧
      Lit resets glass after (Display.line label labelColumn.toInt field.toInt top.toInt
        (if number < 10 then one.toInt else two.toInt) number highlighted running canvas) := by
  obtain ⟨labelOn, fieldOn, ⟨first, last⟩, oneOn, twoOn⟩ := on
  obtain ⟨column, chosen, columnOn⟩ :
      ∃ column, (if number < 10 then one else two) = column ∧ OnScreen column := by
    split
    · exact ⟨one, rfl, oneOn⟩
    · exact ⟨two, rfl, twoOn⟩
  have same : (if number < 10 then one.toInt else two.toInt) = column.toInt := by
    rw [← chosen, apply_ite Int16.toInt]
  rw [chosen, same]
  have gap : (2 : Int16).toInt = 2 := rfl
  have eleven : (11 : Int16).toInt = 11 := rfl
  have fifteen : (15 : Int16).toInt = 15 := rfl
  have below : (top + 2).toInt = top.toInt + 2 := by
    rw [toInt_sum (by omega) (by omega), gap]
  have down : Room top 11 := by
    constructor <;> omega
  have across : Room field 15 := by
    obtain ⟨left, right⟩ := fieldOn
    constructor <;> omega
  obtain ⟨cleared, clear, mirrors1⟩ := @Mirrors.fillRect resets glass lcd canvas mirrors 0 top 84 11
    (by constructor <;> decide) down WHITE
  obtain ⟨labelled, title, mirrors2⟩ := @Mirrors.printAt resets glass _ _
    (mirrors1.setTextColor BLACK BLACK) labelColumn (top + 2) labelOn.1
    (by have := labelOn.2; omega) (by omega) (by omega) label plain few
  obtain ⟨framed, frame, mirrors3⟩ := mirrors2.printField across down highlighted running
  have short := decimal_short lower upper
  obtain ⟨numbered, print, mirrors4⟩ := @Mirrors.printAt resets glass _ _ mirrors3 column (top + 2)
    columnOn.1 (by have := columnOn.2; omega) (by omega) (by omega) (decimal number)
    (decimal_latin number) (by omega)
  obtain ⟨after, done, lit⟩ := mirrors4.display
  refine ⟨after, ?_, ?_⟩
  · simp only [line, clear, title, frame, print, done, Option.bind_eq_bind, Option.bind_some]
  · rw [below] at lit
    exact lit

theorem printLn1_lit (mirrors : Mirrors resets glass lcd canvas) {number : Int}
    (lower : -2147483648 ≤ number) (upper : number < 2147483648) (highlighted running : Bool) :
    ∃ after, lcd.printLn1 number highlighted running = some after ∧
      Lit resets glass after (Display.printLn1 number highlighted running canvas) := by
  rw [printLn1_eq, Display.printLn1_eq]
  exact line_lit mirrors (by decide) (by decide) (by decide) lower upper highlighted running

theorem printLn2_lit (mirrors : Mirrors resets glass lcd canvas) {number : Int}
    (lower : -2147483648 ≤ number) (upper : number < 2147483648) (highlighted running : Bool) :
    ∃ after, lcd.printLn2 number highlighted running = some after ∧
      Lit resets glass after (Display.printLn2 number highlighted running canvas) := by
  rw [printLn2_eq, Display.printLn2_eq]
  exact line_lit mirrors (by decide) (by decide) (by decide) lower upper highlighted running

/-- The bar is this long, in an `int16_t`. -/
theorem toInt_bar {percent : Int} (lower : -43690 ≤ percent) (upper : percent ≤ 100) :
    (Int16.ofInt (Int.tdiv (percent * 75) 100)).toInt = Int.tdiv (percent * 75) 100 := by
  have unit : Int.sign 100 = 1 := rfl
  apply Int16.toInt_ofInt_of_le
  · rw [Int.tdiv_eq_ediv, unit]
    split <;> omega
  · rw [Int.tdiv_eq_ediv, unit]
    split <;> omega

theorem printProgress_lit (lit : Lit resets glass lcd canvas) {percent : Int}
    (lower : -43690 ≤ percent) (running : Bool) :
    ∃ after, lcd.printProgress percent running = some after ∧
      Lit resets glass after (Display.printProgress percent running canvas) := by
  cases running with
  | false => exact ⟨lcd, rfl, lit⟩
  | true =>
      obtain ⟨bar, capped, same⟩ : ∃ bar, (if percent > 100 then 100 else percent) = bar ∧
          -43690 ≤ bar ∧ bar ≤ 100 := by
        split
        · exact ⟨100, rfl, by omega, by omega⟩
        · exact ⟨percent, rfl, by omega, by omega⟩
      obtain ⟨cleared, clear, mirrors1⟩ := @Mirrors.fillRect resets glass lcd canvas lit.mirrors
        0 24 84 11 (by constructor <;> decide) (by constructor <;> decide) WHITE
      obtain ⟨framed, frame, mirrors2⟩ := @Mirrors.drawRect resets glass _ _ mirrors1 4 24 77 11
        (by constructor <;> decide) (by constructor <;> decide) BLACK
      obtain ⟨column, on, device, model⟩ : ∃ column : Int16, OnScreen column ∧
          (∀ lcd : Nokia, (if bar < 10 then lcd.setCursor 36 26
            else if bar < 100 then lcd.setCursor 33 26 else lcd.setCursor 30 26) =
              lcd.setCursor column 26) ∧
          ∀ canvas : Lcd, (if bar < 10 then canvas.setCursor 36 26
            else if bar < 100 then canvas.setCursor 33 26 else canvas.setCursor 30 26) =
              canvas.setCursor column.toInt 26 := by
        split
        · exact ⟨36, by decide, fun _ => rfl, fun _ => rfl⟩
        · split
          · exact ⟨33, by decide, fun _ => rfl, fun _ => rfl⟩
          · exact ⟨30, by decide, fun _ => rfl, fun _ => rfl⟩
      have latin : ∀ c ∈ decimal bar ++ ['%'], c.toNat < 255 := by
        intro c member
        rcases List.mem_append.mp member with digit | sign
        · exact decimal_latin bar c digit
        · obtain rfl := List.mem_singleton.mp sign
          decide
      have short := @decimal_short bar (by omega) (by omega)
      obtain ⟨numbered, print, mirrors3⟩ := @Mirrors.printAt resets glass _ _
        (mirrors2.setTextColor BLACK BLACK) column 26 on.1 (by have := on.2; omega) (by decide)
        (by decide) (decimal bar ++ ['%']) latin
        (by simp only [List.length_append, List.length_singleton]; omega)
      obtain ⟨after, done, lit⟩ :=
        (mirrors3.invertRect 5 25 (Int16.ofInt (Int.tdiv (bar * 75) 100)) 9).display
      refine ⟨after, ?_, ?_⟩
      · simp only [Nokia.printProgress, Bool.not_true, Bool.false_eq_true, if_false, capped, clear,
          frame, device, print, done, Option.bind_eq_bind, Option.bind_some]
      · rw [toInt_bar same.1 same.2] at lit
        simp only [Display.printProgress, Display.paintProgress, Bool.not_true, Bool.false_eq_true,
          if_false, capped, model]
        exact lit

theorem printButton_eq (highlighted running : Bool) (lcd : Nokia) :
    lcd.printButton highlighted running = (lcd.fillRect 25 37 33 11 WHITE).bind fun lcd =>
      (if highlighted then (lcd.fillRect 25 37 33 11 BLACK).map (setTextColor WHITE BLACK)
        else (lcd.drawRect 25 37 33 11 BLACK).map (setTextColor BLACK BLACK)).bind fun lcd =>
      (if running then (lcd.setCursor 30 39).print "Stop".toList
        else (lcd.setCursor 27 39).print "Start".toList).bind Nokia.display := by
  cases highlighted <;> cases running <;> rfl

theorem printButton_lit (mirrors : Mirrors resets glass lcd canvas) (highlighted running : Bool) :
    ∃ after, lcd.printButton highlighted running = some after ∧
      Lit resets glass after (Display.printButton highlighted running canvas) := by
  obtain ⟨cleared, clear, mirrors1⟩ := @Mirrors.fillRect resets glass lcd canvas mirrors 25 37
    33 11 (by constructor <;> decide) (by constructor <;> decide) WHITE
  obtain ⟨framed, frame, mirrors2⟩ : ∃ after, (if highlighted then
        (cleared.fillRect 25 37 33 11 BLACK).map (setTextColor WHITE BLACK)
      else (cleared.drawRect 25 37 33 11 BLACK).map (setTextColor BLACK BLACK)) =
        some after ∧
      Mirrors resets glass after
        (Display.box 25 37 33 11 highlighted (canvas.fillRect 25 37 33 11 WHITE)) := by
    cases highlighted with
    | true =>
        obtain ⟨after, done, drawn⟩ := @Mirrors.fillRect resets glass _ _ mirrors1 25 37
          33 11 (by constructor <;> decide) (by constructor <;> decide) BLACK
        exact ⟨after.setTextColor WHITE BLACK, by simp only [if_true, done, Option.map_some],
          drawn.setTextColor WHITE BLACK⟩
    | false =>
        obtain ⟨after, done, drawn⟩ := @Mirrors.drawRect resets glass _ _ mirrors1 25 37
          33 11 (by constructor <;> decide) (by constructor <;> decide) BLACK
        exact ⟨after.setTextColor BLACK BLACK,
          by simp only [Bool.false_eq_true, if_false, done, Option.map_some],
          drawn.setTextColor BLACK BLACK⟩
  obtain ⟨labelled, label, mirrors3⟩ : ∃ after, (if running then
        (framed.setCursor 30 39).print "Stop".toList
      else (framed.setCursor 27 39).print "Start".toList) = some after ∧
      Mirrors resets glass after (Display.printButton highlighted running canvas) := by
    rw [Display.printButton_eq]
    cases running with
    | true =>
        exact @Mirrors.printAt resets glass _ _ mirrors2 30 39 (by decide) (by decide) (by decide)
          (by decide) "Stop".toList (by decide) (by decide)
    | false =>
        exact @Mirrors.printAt resets glass _ _ mirrors2 27 39 (by decide) (by decide) (by decide)
          (by decide) "Start".toList (by decide) (by decide)
  obtain ⟨after, done, lit⟩ := mirrors3.display
  refine ⟨after, ?_, lit⟩
  rw [printButton_eq, clear, Option.bind_some, frame, Option.bind_some, label]
  exact done

theorem drawLine_level (lcd : Nokia) {x0 x1 : Int16} (less : x0 < x1) (y : Int16) (color : Color) :
    lcd.drawLine x0 y x1 y color = lcd.drawFastHLine x0 y (x1 - x0 + 1) color := by
  have apart : x0 ≠ x1 := Int16.ne_of_lt less
  have sorted : ¬x0 > x1 := Int16.not_lt.mpr (Int16.le_of_lt less)
  simp only [drawLine, if_neg apart, if_neg sorted, if_true]

theorem showPaused_lit (mirrors : Mirrors resets glass lcd canvas) :
    ∃ after, lcd.showPaused = some after ∧
      Lit resets glass after (Display.showPaused canvas) := by
  obtain ⟨titled, title, mirrors1⟩ := @Mirrors.printAt resets glass _ _
    ((mirrors.clearDisplay.setTextColor BLACK BLACK).setTextSize (s := 2) (by decide)) 7 0
    (by decide) (by decide) (by decide) (by decide) "PAUSED".toList (by decide) (by decide)
  obtain ⟨ruled, rule, mirrors2⟩ := @Mirrors.drawFastHLine resets glass _ _ mirrors1 0 15 85
    (by constructor <;> decide) BLACK
  have level : titled.drawLine 0 15 84 15 BLACK = some ruled :=
    (drawLine_level titled (by decide) 15 BLACK).trans rule
  have mirrors3 := (mirrors2.setTextSize (s := 1) (by decide)).setCursor 0 17
  have margin : Margin Display.pausedText.length ((ruled.setTextSize 1).setCursor 0 17) := by
    have column : ((ruled.setTextSize 1).setCursor 0 17).cursor_x.toInt = 0 := rfl
    have row : ((ruled.setTextSize 1).setCursor 0 17).cursor_y.toInt = 17 := rfl
    have size : ((ruled.setTextSize 1).setCursor 0 17).textsize_y.toNat = 1 := rfl
    have length : Display.pausedText.length = 53 := rfl
    have bottom : 17 + ((8 * 1 * 53 : Nat) : Int) ≤ 28000 := by decide
    refine ⟨by omega, by omega, by omega, ?_⟩
    rw [row, size, length]
    exact bottom
  obtain ⟨explained, explain, mirrors4⟩ :=
    print_mirrors Display.pausedText (by decide) mirrors3 margin
  obtain ⟨after, done, lit⟩ := mirrors4.display
  refine ⟨after, ?_, lit⟩
  rw [Nokia.showPaused]
  dsimp only
  rw [title, Option.bind_eq_bind, Option.bind_some, level, Option.bind_some, explain,
    Option.bind_some]
  exact done

theorem updateAll_lit (mirrors : Mirrors resets glass lcd canvas)
    {highlightNum rPerKit kits percent running : Int} (first : -2147483648 ≤ rPerKit)
    (first' : rPerKit < 2147483648) (second : -2147483648 ≤ kits) (second' : kits < 2147483648)
    (third : -43690 ≤ percent) :
    ∃ after, lcd.updateAll highlightNum rPerKit kits percent running = some after ∧
      Lit resets glass after
        (Display.updateAll highlightNum rPerKit kits percent running canvas) := by
  rw [Nokia.updateAll, Display.updateAll]
  split
  · exact showPaused_lit mirrors
  · obtain ⟨lcd1, done1, lit1⟩ := printLn1_lit mirrors.clearDisplay first first'
      (decide (highlightNum = 0)) (decide (running ≠ 0))
    obtain ⟨lcd2, done2, lit2⟩ := printLn2_lit lit1.mirrors second second'
      (decide (highlightNum = 1)) (decide (running ≠ 0))
    obtain ⟨lcd3, done3, lit3⟩ := printProgress_lit lit2 third (decide (running ≠ 0))
    obtain ⟨after, done, lit⟩ := printButton_lit lit3.mirrors (decide (highlightNum = 2))
      (decide (running ≠ 0))
    refine ⟨after, ?_, lit⟩
    dsimp only
    rw [done1, Option.bind_eq_bind, Option.bind_some, done2, Option.bind_some, done3,
      Option.bind_some]
    exact done

/-! Runs. -/

theorem picture_eq {lcd : AdafruitPCD8544} (upright : lcd.rotation = 0) (px : Fin LCDWIDTH)
    (py : Fin LCDHEIGHT) :
    lcd.picture px py =
      Packed.read lcd.pcd8544_buffer (LCDWIDTH * (py.val / 8) + px.val, py.val % 8) := by
  have right : px.val < 84 := px.isLt
  have bottom : py.val < 48 := py.isLt
  obtain ⟨width, height⟩ := upright_size upright
  have exactX : (Int16.ofNat px.val).toInt = px.val := Int16.toInt_ofNat_of_lt (by omega)
  have exactY : (Int16.ofNat py.val).toInt = py.val := Int16.toInt_ofNat_of_lt (by omega)
  have on : ¬lcd.OffScreen (Int16.ofNat px) (Int16.ofNat py) := by
    rw [shown_iff upright, exactX, exactY]
    omega
  have still : lcd.rotated (Int16.ofNat px) (Int16.ofNat py) =
      (Int16.ofNat px.val, Int16.ofNat py.val) := by
    rw [rotated, upright]
    rfl
  have cell : place (Int16.ofNat px.val) (Int16.ofNat py.val) =
      (LCDWIDTH * (py.val / 8) + px.val, py.val % 8) := by
    rw [place, exactX, exactY, Int.tdiv_eq_ediv_of_nonneg (by omega),
      Int.tmod_eq_emod_of_nonneg (by omega), Prod.mk.injEq]
    simp only [LCDWIDTH]
    omega
  rw [AdafruitPCD8544.picture, getPixel, if_neg on, still]
  exact congrArg (Packed.read lcd.pcd8544_buffer) cell

/-- The constructor of `Display`: the arguments of `begin` are its defaults. -/
def constructDisplay (font : Font) (buffer : Vector UInt8 (LCDWIDTH * LCDHEIGHT / 8))
    (rst : Int8) : Option Nokia :=
  ((construct font buffer rst).begin 40 4).map (setTextSize 1)

def performDisplay (lcd : Nokia) : Display.Call → Option Nokia
  | .part (.ln1 number highlighted running) => lcd.printLn1 number highlighted running
  | .part (.ln2 number highlighted running) => lcd.printLn2 number highlighted running
  | .part (.progress percent running) => lcd.printProgress percent running
  | .part (.button highlighted running) => lcd.printButton highlighted running
  | .updateAll highlightNum rPerKit kits percent running =>
      lcd.updateAll highlightNum rPerKit kits percent running
  | .showPaused => lcd.showPaused

/-- The numbers are an `int` and the bar does not go further to the left than 16 bits allow. -/
def Fits : Display.Call → Prop
  | .part (.ln1 number _ _) => -2147483648 ≤ number ∧ number < 2147483648
  | .part (.ln2 number _ _) => -2147483648 ≤ number ∧ number < 2147483648
  | .part (.progress percent _) => -43690 ≤ percent
  | .part (.button _ _) => True
  | .updateAll _ rPerKit kits percent _ =>
      (-2147483648 ≤ rPerKit ∧ rPerKit < 2147483648) ∧
        (-2147483648 ≤ kits ∧ kits < 2147483648) ∧ -43690 ≤ percent
  | .showPaused => True

theorem performDisplay_lit (lit : Lit resets glass lcd canvas) {call : Display.Call}
    (fits : Fits call) :
    ∃ after, lcd.performDisplay call = some after ∧
      Lit resets glass after (Display.perform canvas call) := by
  cases call with
  | part part =>
      cases part with
      | ln1 number highlighted running =>
          exact printLn1_lit lit.mirrors fits.1 fits.2 highlighted running
      | ln2 number highlighted running =>
          exact printLn2_lit lit.mirrors fits.1 fits.2 highlighted running
      | progress percent running => exact printProgress_lit lit fits running
      | button highlighted running => exact printButton_lit lit.mirrors highlighted running
  | updateAll highlightNum rPerKit kits percent running =>
      obtain ⟨⟨first, first'⟩, ⟨second, second'⟩, third⟩ := fits
      exact updateAll_lit lit.mirrors first first' second second' third
  | showPaused => exact showPaused_lit lit.mirrors

theorem constructDisplay_lit (font : Font) (buffer : Vector UInt8 (LCDWIDTH * LCDHEIGHT / 8))
    (rst : Int8) (glass : Panel) :
    ∃ lcd, constructDisplay font buffer rst = some lcd ∧
      Lit resets glass lcd
        (Display.construct font (AdafruitPCD8544.construct buffer).picture) := by
  obtain ⟨lcd, panel, begun, heard, tracks, ram, drawn, text, rotation⟩ :=
    @begin_spec resets font buffer rst 40 4 glass
  simp only [face, Prod.mk.injEq] at text
  obtain ⟨pen, -, -, sizeX, sizeY, wrap, classic⟩ := text
  have shown : (AdafruitPCD8544.construct buffer).picture = lcd.picture := by
    funext px py
    rw [picture_eq rotation, picture_eq rfl, drawn]
    rfl
  have mirrors : Mirrors resets glass lcd
      (Lcd.construct font (AdafruitPCD8544.construct buffer).picture) := by
    refine ⟨⟨rotation, wrap, classic, ?_, shown, ?_⟩, panel, heard, tracks⟩
    · rw [pen]
      rfl
    · rw [sizeX, sizeY]
      exact ⟨Nat.one_pos, Nat.one_pos⟩
  refine ⟨lcd.setTextSize 1, ?_, mirrors.setTextSize (s := 1) (by decide), panel, heard, ram⟩
  rw [constructDisplay, begun]
  rfl

theorem lit_run (font : Font) (buffer : Vector UInt8 (LCDWIDTH * LCDHEIGHT / 8)) (rst : Int8)
    (glass : Panel) {calls : List Display.Call} (fits : ∀ call ∈ calls, Fits call) :
    ∃ lcd, (constructDisplay font buffer rst).bind (calls.foldlM performDisplay) = some lcd ∧
      Lit resets glass lcd (Runs.run Display.perform
        (Display.construct font (AdafruitPCD8544.construct buffer).picture) calls) := by
  obtain ⟨lcd, begun, lit⟩ := @constructDisplay_lit resets font buffer rst glass
  have keeps (lcd : Nokia) (canvas : Lcd) (call : Display.Call) (lit : Lit resets glass lcd canvas)
      (fits : Fits call) :
      ∃ after, lcd.performDisplay call = some after ∧
        Lit resets glass after (Display.perform canvas call) := performDisplay_lit lit fits
  rw [begun]
  exact Runs.simulation_foldlM (Lit resets glass) keeps lit fits

theorem Lit.panel (lit : Lit resets glass lcd canvas) :
    ∃ panel, glass.hearAll resets lcd.sent = some panel ∧ panel.picture = canvas.picture := by
  obtain ⟨mirrors, panel, heard, same⟩ := lit
  refine ⟨panel, heard, ?_⟩
  rw [mirrors.shows.picture]
  funext px py
  rw [picture_eq mirrors.shows.upright, Panel.picture, same]

/-- Whatever is called on a `Display`, on a glass in any state: no call fails or is endless, the
controller takes every byte, and what it then has is the picture of the calls, all of it. -/
theorem glass_pictures (font : Font) (buffer : Vector UInt8 (LCDWIDTH * LCDHEIGHT / 8))
    (rst : Int8) (glass : Panel) (resets : Panel → Panel) (calls : List Display.Call)
    (fits : ∀ call ∈ calls, Fits call) :
    ∃ lcd panel, (constructDisplay font buffer rst).bind (calls.foldlM performDisplay) =
        some lcd ∧
      glass.hearAll resets lcd.sent = some panel ∧
      panel.picture = (Runs.run Display.perform
        (Display.construct font (AdafruitPCD8544.construct buffer).picture) calls).picture := by
  obtain ⟨lcd, done, lit⟩ := @lit_run resets font buffer rst glass calls fits
  obtain ⟨panel, heard, same⟩ := lit.panel
  exact ⟨lcd, panel, done, heard, same⟩

theorem glass_pictures_paused : ∃ lcd panel,
    (constructDisplay (fun n => UInt8.ofNat (n * 37)) (Vector.replicate _ 0x18) 4).bind
      (List.foldlM performDisplay · [.part (.progress 250 true), .updateAll 1 10 50 99 1,
        .part (.ln2 (-2147483648) true false), .showPaused]) = some lcd ∧
      Panel.hearAll id lcd.sent ⟨Vector.replicate _ 0xFF, none, none, none, none, none, none⟩ =
        some panel ∧
      panel.picture = (Runs.run Display.perform (Display.construct (fun n => UInt8.ofNat (n * 37))
        (AdafruitPCD8544.construct (Vector.replicate _ 0x18)).picture)
        [.part (.progress 250 true), .updateAll 1 10 50 99 1,
          .part (.ln2 (-2147483648) true false), .showPaused]).picture :=
  glass_pictures _ _ 4 _ id _ (by simp [Fits])

end Nokia

end ResistorCutter
