import Mathlib.Data.Nat.Digits.Defs
import ResistorCutter.DisplayCore

/-!
Where the parts of the screen are drawn, and what they depend on. Of the text state only the
glyph table and the text size outlive a part, since each sets its own colours and cursor.
-/

namespace ResistorCutter

open Raster

/-- What of the text state outlives a part of the screen: glyph table and text size. -/
def Pen.face (pen : Pen) : Font × Nat × Nat := (pen.font, pen.textsize_x, pen.textsize_y)

def Pen.Small (pen : Pen) : Prop := pen.face.2 = (1, 1)

namespace Lcd

variable (lcd : Lcd)

@[simp] theorem face_setCursor (x y : Int) : (setCursor x y lcd).pen.face = lcd.pen.face := rfl
@[simp] theorem face_setTextColor (c bg : Color) :
    (setTextColor c bg lcd).pen.face = lcd.pen.face := rfl
@[simp] theorem face_clearDisplay : lcd.clearDisplay.pen.face = lcd.pen.face := rfl
@[simp] theorem face_fillRect (x y w h : Int) (color : Color) :
    (fillRect x y w h color lcd).pen.face = lcd.pen.face := rfl
@[simp] theorem face_drawRect (x y w h : Int) (color : Color) :
    (drawRect x y w h color lcd).pen.face = lcd.pen.face := rfl
@[simp] theorem face_invertRect (x y w h : Int) :
    (invertRect x y w h lcd).pen.face = lcd.pen.face := rfl
@[simp] theorem face_setTextSize (s : Nat) (positive : 0 < s) :
    (setTextSize s lcd).pen.face = (lcd.pen.face.1, s, s) := by
  simp [setTextSize, Pen.face, positive]

@[simp] theorem face_write (c : Char) : (lcd.write c).pen.face = lcd.pen.face := by
  simp only [write]
  split
  · rfl
  · split
    · split <;> rfl
    · rfl

@[simp] theorem face_print (text : List Char) : (lcd.print text).pen.face = lcd.pen.face := by
  induction text generalizing lcd with
  | nil => rfl
  | cons c rest ih => exact (ih (lcd.write c)).trans (face_write lcd c)

structure Matches (first second : Lcd) : Prop where
  face : first.pen.face = second.pen.face
  picture : first.picture = second.picture

theorem Matches.fillRect {first second : Lcd} (same : Matches first second) (x y w h : Int)
    (color : Color) : Matches (fillRect x y w h color first) (fillRect x y w h color second) :=
  ⟨same.face, by simp only [Lcd.fillRect, same.picture]⟩

theorem Matches.drawRect {first second : Lcd} (same : Matches first second) (x y w h : Int)
    (color : Color) : Matches (drawRect x y w h color first) (drawRect x y w h color second) :=
  (((same.fillRect _ _ _ _ _).fillRect _ _ _ _ _).fillRect _ _ _ _ _).fillRect _ _ _ _ _

theorem Matches.setCursor_setTextColor {first second : Lcd} (same : Matches first second)
    (x y : Int) (c bg : Color) :
    setCursor x y (setTextColor c bg first) = setCursor x y (setTextColor c bg second) := by
  obtain ⟨⟨font, _, _, _, _, size_x, size_y⟩, picture⟩ := first
  obtain ⟨⟨_, _, _, _, _, _, _⟩, _⟩ := second
  obtain ⟨faces, rfl⟩ := same
  simp only [Pen.face, Prod.mk.injEq] at faces
  obtain ⟨rfl, rfl, rfl⟩ := faces
  rfl

/-! Where drawing goes. -/

variable {area : Area LCDWIDTH LCDHEIGHT} {pen : Pen}

theorem draws_fillRect (x y w h : Int) (color : Color)
    (inside : ∀ px py, rect x y w h px py → area px py) :
    Draws area pen (fillRect x y w h color) pen :=
  ⟨fun _ => rfl, (fill_overwrites x y w h (color != 0)).confined.mono inside⟩

theorem draws_drawRect (x y w h : Int) (color : Color) (wide : 0 < w) (high : 0 < h)
    (inside : ∀ px py, rect x y w h px py → area px py) :
    Draws area pen (drawRect x y w h color) pen := by
  have upper : Draws area pen (drawFastHLine x y w color) pen := by
    refine draws_fillRect x y w 1 color fun px py member => inside px py ?_
    simp only [rect] at member ⊢
    omega
  have lower : Draws area pen (drawFastHLine x (y + h - 1) w color) pen := by
    refine draws_fillRect x (y + h - 1) w 1 color fun px py member => inside px py ?_
    simp only [rect] at member ⊢
    omega
  have left : Draws area pen (drawFastVLine x y h color) pen := by
    refine draws_fillRect x y 1 h color fun px py member => inside px py ?_
    simp only [rect] at member ⊢
    omega
  have right : Draws area pen (drawFastVLine (x + w - 1) y h color) pen := by
    refine draws_fillRect (x + w - 1) y 1 h color fun px py member => inside px py ?_
    simp only [rect] at member ⊢
    omega
  exact ((upper.comp lower).comp left).comp right

theorem draws_invertRect (x y w h : Int) (inside : ∀ px py, rect x y w h px py → area px py) :
    Draws area pen (invertRect x y w h) pen :=
  ⟨fun _ => rfl, (invert_confined x y w h).mono inside⟩

theorem draws_drawChar (x y : Int) (c : Char) (color bg : Color) (size_x size_y : Nat)
    (inside : ∀ px py, rect x y (6 * size_x) (8 * size_y) px py → area px py) :
    Draws area pen (drawChar x y c color bg size_x size_y) pen := by
  refine ⟨fun _ => rfl, Confined.mono ?_ inside⟩
  constructor
  · intro picture px py absent
    simp [drawChar, absent]
  · intro first second same px py member
    simp only [drawChar, same px py member]

theorem draws_setCursor (x y : Int) :
    Draws area pen (setCursor x y) { pen with cursor_x := x, cursor_y := y } :=
  Draws.of_pen fun _ => rfl

theorem draws_setTextColor (c bg : Color) :
    Draws area pen (setTextColor c bg) { pen with textcolor := c, textbgcolor := bg } :=
  Draws.of_pen fun _ => rfl

theorem draws_write (c : Char) (small : pen.Small) (plain : c ≠ '\n' ∧ c ≠ '\r')
    (fits : pen.cursor_x + 6 ≤ 84) (inside : ∀ px py,
      rect pen.cursor_x pen.cursor_y 6 8 px py → area px py) :
    Draws area pen (fun lcd => write lcd c) { pen with cursor_x := pen.cursor_x + 6 } := by
  obtain ⟨font, x, y, color, bg, size_x, size_y⟩ := pen
  obtain ⟨rfl, rfl⟩ : size_x = 1 ∧ size_y = 1 := by simpa [Pen.Small, Pen.face] using small
  simp only at fits inside
  have stays : ¬x + 6 > 84 := by omega
  have draws : Draws area ⟨font, x, y, color, bg, 1, 1⟩ (drawChar x y c color bg 1 1)
      ⟨font, x, y, color, bg, 1, 1⟩ := draws_drawChar x y c color bg 1 1 inside
  refine (draws.comp (draws_setCursor (x + 6) y)).congr fun picture => ?_
  simp [write, plain, stays, drawChar]

theorem draws_print (pen : Pen) (text : List Char) (small : pen.Small)
    (plain : ∀ c ∈ text, c ≠ '\n' ∧ c ≠ '\r')
    (fits : pen.cursor_x + 6 * text.length ≤ 84) (inside : ∀ px py,
      rect pen.cursor_x pen.cursor_y (6 * text.length) 8 px py → area px py) :
    Draws area pen (print text) { pen with cursor_x := pen.cursor_x + 6 * text.length } := by
  induction text generalizing pen with
  | nil => exact Draws.of_pen fun picture => by simp [print]
  | cons c rest ih =>
      simp only [List.length_cons, Nat.cast_add, Nat.cast_one] at fits inside
      have first : Draws area pen (fun lcd => write lcd c)
          { pen with cursor_x := pen.cursor_x + 6 } := by
        refine draws_write c small (plain c (by simp)) (by omega) fun px py member => ?_
        apply inside
        simp only [rect] at member ⊢
        omega
      have later := ih { pen with cursor_x := pen.cursor_x + 6 }
        small (fun d member => plain d (by simp [member])) (by simp only; omega)
        (fun px py member => inside px py (by simp only [rect] at member ⊢; omega))
      have whole := first.comp later
      have moved : pen.cursor_x + 6 + 6 * (rest.length : Int) =
          pen.cursor_x + 6 * ((c :: rest).length : Int) := by
        simp only [List.length_cons, Nat.cast_add, Nat.cast_one]
        omega
      simp only [moved] at whole
      exact whole

theorem draws_setCursor_print (pen : Pen) (text : List Char) (x y : Int) (small : pen.Small)
    (plain : ∀ c ∈ text, c ≠ '\n' ∧ c ≠ '\r') (fits : x + 6 * text.length ≤ 84)
    (inside : ∀ px py, rect x y (6 * text.length) 8 px py → area px py) :
    Draws area pen (print text ∘ setCursor x y)
      { pen with cursor_x := x + 6 * text.length, cursor_y := y } :=
  (draws_setCursor x y).comp
    (draws_print { pen with cursor_x := x, cursor_y := y } text small plain fits inside)

theorem draws_text (pen : Pen) (text : List Char) (x y : Int) (c bg : Color) (small : pen.Small)
    (plain : ∀ c ∈ text, c ≠ '\n' ∧ c ≠ '\r') (fits : x + 6 * text.length ≤ 84)
    (inside : ∀ px py, rect x y (6 * text.length) 8 px py → area px py) :
    Draws area pen (print text ∘ setCursor x y ∘ setTextColor c bg)
      { pen with
        cursor_x := x + 6 * text.length, cursor_y := y, textcolor := c, textbgcolor := bg } :=
  (draws_setTextColor c bg).comp (draws_setCursor_print
    { pen with textcolor := c, textbgcolor := bg } text x y small plain fits inside)

end Lcd

theorem decimal_plain (n : Int) : ∀ c ∈ decimal n, c ≠ '\n' ∧ c ≠ '\r' := by
  intro c member
  constructor
  · rintro rfl
    simpa using digit_of_mem_decimal member
  · rintro rfl
    simpa using digit_of_mem_decimal member

theorem decimal_length (n : Int) (digits : Nat) (lower : 0 ≤ n)
    (upper : n.natAbs < 10 ^ digits) (positive : 0 < digits) : (decimal n).length ≤ digits := by
  rw [decimal, if_neg (by omega)]
  exact Nat.toDigits_length 10 n.natAbs digits positive upper

namespace Display

open Lcd

variable (display : Display)

/-! What the parts do to the text state. -/

@[simp] theorem face_printField (x y : Int) (highlighted running : Bool) :
    (printField x y highlighted running display).pen.face = display.pen.face := by
  cases highlighted <;> cases running <;> rfl

@[simp] theorem face_printLn1 (number : Int) (highlighted running : Bool) :
    (printLn1 number highlighted running display).pen.face = display.pen.face := by
  simp only [printLn1, face_print]
  split <;> simp

@[simp] theorem face_printLn2 (number : Int) (highlighted running : Bool) :
    (printLn2 number highlighted running display).pen.face = display.pen.face := by
  simp only [printLn2, face_print]
  split <;> simp

def progressColumn (percent : Int) : Int :=
  if percent < 10 then 36 else if percent < 100 then 33 else 30

def paintBar (percent : Int) : Display → Display :=
  invertRect 5 25 (Int.tdiv (percent * 75) 100) 9 ∘ print (decimal percent ++ ['%']) ∘
    setCursor (progressColumn percent) 26 ∘ setTextColor BLACK BLACK ∘ drawRect 4 24 77 11 BLACK

theorem paintProgress_eq (percent : Int) :
    paintProgress percent display =
      paintBar (if percent > 100 then 100 else percent) (fillRect 0 24 84 11 WHITE display) := by
  simp only [paintProgress, paintBar, progressColumn, Function.comp_apply]
  generalize (if percent > 100 then 100 else percent) = shown
  split
  · rfl
  · split <;> rfl

@[simp] theorem face_paintProgress (percent : Int) :
    (paintProgress percent display).pen.face = display.pen.face := by
  simp [paintProgress_eq, paintBar]

@[simp] theorem face_printProgress (percent : Int) (running : Bool) :
    (printProgress percent running display).pen.face = display.pen.face := by
  cases running <;> simp [printProgress]

@[simp] theorem face_printButton (highlighted running : Bool) :
    (printButton highlighted running display).pen.face = display.pen.face := by
  cases highlighted <;> cases running <;> simp [printButton]

theorem face_showPaused : (showPaused display).pen.face = (display.pen.face.1, 1, 1) := by
  simp [showPaused, drawFastHLine]

theorem face_updateAll (highlightNum rPerKit kits percent running : Int)
    (small : display.pen.Small) :
    (updateAll highlightNum rPerKit kits percent running display).pen.face = display.pen.face := by
  simp only [updateAll]
  split
  · rw [face_showPaused, ← small]
  · simp

/-! What the parts depend on. -/

variable {first second : Display}

theorem paintProgress_congr (percent : Int) (same : Matches first second) :
    paintProgress percent first = paintProgress percent second := by
  simp only [paintProgress_eq, paintBar, Function.comp_apply]
  rw [((same.fillRect 0 24 84 11 WHITE).drawRect 4 24 77 11 BLACK).setCursor_setTextColor]

theorem printButton_congr (highlighted running : Bool) (same : Matches first second) :
    printButton highlighted running first = printButton highlighted running second := by
  have cleared := same.fillRect 25 37 (6 * 5 + 3) (8 * 1 + 3) WHITE
  cases highlighted with
  | false =>
      have framed := cleared.drawRect 25 37 (6 * 5 + 3) (8 * 1 + 3) BLACK
      simp only [printButton, Bool.false_eq_true, ↓reduceIte, framed.setCursor_setTextColor]
  | true =>
      have filled := cleared.fillRect 25 37 (6 * 5 + 3) (8 * 1 + 3) BLACK
      simp only [printButton, ↓reduceIte, filled.setCursor_setTextColor]

theorem clearDisplay_matches (faces : first.pen.face = second.pen.face) :
    Matches first.clearDisplay second.clearDisplay := ⟨faces, rfl⟩

theorem showPaused_congr (faces : first.pen.face = second.pen.face) :
    showPaused first = showPaused second := by
  have sized : Matches (setTextSize 2 first.clearDisplay) (setTextSize 2 second.clearDisplay) := by
    refine ⟨?_, rfl⟩
    simp [faces]
  have placed := sized.setCursor_setTextColor 7 0 BLACK BLACK
  have swap (display : Display) : setTextSize 2 (setTextColor BLACK BLACK display) =
      setTextColor BLACK BLACK (setTextSize 2 display) := rfl
  simp only [showPaused, swap, placed]

theorem updateAll_congr (highlightNum rPerKit kits percent running : Int)
    (faces : first.pen.face = second.pen.face) :
    updateAll highlightNum rPerKit kits percent running first =
      updateAll highlightNum rPerKit kits percent running second := by
  simp only [updateAll]
  split
  · exact showPaused_congr faces
  · have cleared := (clearDisplay_matches faces).fillRect 0 0 84 11 WHITE
    simp only [printLn1, cleared.setCursor_setTextColor]

end Display

end ResistorCutter
