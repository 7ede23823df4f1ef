import ResistorCutter.Raster
import ResistorCutter.BoardCore

/-!
`Display.h` over the pixel-level behaviour of the `Adafruit_GFX` and `Adafruit_PCD8544` calls
it makes: rotation 0, the classic font, wrapping at the right edge, clipping at every edge.
`display.display()` sends the buffer to the glass and changes nothing here.
-/

namespace ResistorCutter

abbrev LCDWIDTH : Nat := 84
abbrev LCDHEIGHT : Nat := 48

abbrev Framebuffer := Raster.Picture LCDWIDTH LCDHEIGHT

abbrev Color := UInt16

def BLACK : Color := 1
def WHITE : Color := 0

/-- The glyph table `font[]`: byte `c * 5 + i` is column `i` of character `c`. -/
abbrev Font := Nat → UInt8

structure Pen where
  font : Font
  cursor_x : Int
  cursor_y : Int
  textcolor : Color
  textbgcolor : Color
  textsize_x : Nat
  textsize_y : Nat

abbrev Lcd := Raster.Canvas Pen LCDWIDTH LCDHEIGHT

namespace Lcd

/-- The constructor of `Adafruit_GFX`; `buffer` is what `pcd8544_buffer` holds, a logo. -/
def construct (font : Font) (buffer : Framebuffer) : Lcd :=
  ⟨⟨font, 0, 0, 0xFFFF, 0xFFFF, 1, 1⟩, buffer⟩

def setCursor (x y : Int) (lcd : Lcd) : Lcd :=
  { lcd with pen := { lcd.pen with cursor_x := x, cursor_y := y } }

def setTextColor (c bg : Color) (lcd : Lcd) : Lcd :=
  { lcd with pen := { lcd.pen with textcolor := c, textbgcolor := bg } }

def setTextSize (s : Nat) (lcd : Lcd) : Lcd :=
  let size := if s > 0 then s else 1
  { lcd with pen := { lcd.pen with textsize_x := size, textsize_y := size } }

def clearDisplay (lcd : Lcd) : Lcd :=
  { pen := { lcd.pen with cursor_x := 0, cursor_y := 0 }, picture := fun _ _ => false }

def fillRect (x y w h : Int) (color : Color) (lcd : Lcd) : Lcd :=
  { lcd with picture := Raster.fill x y w h (color != 0) lcd.picture }

def drawFastHLine (x y w : Int) (color : Color) (lcd : Lcd) : Lcd := fillRect x y w 1 color lcd

def drawFastVLine (x y h : Int) (color : Color) (lcd : Lcd) : Lcd := fillRect x y 1 h color lcd

def drawRect (x y w h : Int) (color : Color) (lcd : Lcd) : Lcd :=
  let lcd := drawFastHLine x y w color lcd
  let lcd := drawFastHLine x (y + h - 1) w color lcd
  let lcd := drawFastVLine x y h color lcd
  drawFastVLine (x + w - 1) y h color lcd

def invertRect (x y w h : Int) (lcd : Lcd) : Lcd :=
  { lcd with picture := Raster.invert x y w h lcd.picture }

def lit (font : Font) (c : Char) (column row : Nat) : Bool :=
  let code := if c.toNat ≥ 176 then c.toNat + 1 else c.toNat
  decide (column < 5) && (font (code * 5 + column)).toNat.testBit row

/-- `drawChar`: pixels of the glyph take `color`; the rest of the cell takes `bg`, or stays as it
is if the two are equal. -/
def drawChar (x y : Int) (c : Char) (color bg : Color) (size_x size_y : Nat) (lcd : Lcd) : Lcd :=
  { lcd with
    picture := fun px py =>
      if Raster.rect x y (6 * size_x) (8 * size_y) px py then
        let column := (px.val - x) / size_x
        let row := (py.val - y) / size_y
        if lit lcd.pen.font c column.toNat row.toNat then color != 0
        else if bg ≠ color then bg != 0
        else lcd.picture px py
      else lcd.picture px py }

def newline (lcd : Lcd) : Lcd :=
  setCursor 0 (lcd.pen.cursor_y + lcd.pen.textsize_y * 8) lcd

def write (lcd : Lcd) (c : Char) : Lcd :=
  if c = '\n' then newline lcd
  else if c ≠ '\r' then
    let lcd := if lcd.pen.cursor_x + lcd.pen.textsize_x * 6 > LCDWIDTH then newline lcd else lcd
    let lcd := drawChar lcd.pen.cursor_x lcd.pen.cursor_y c lcd.pen.textcolor lcd.pen.textbgcolor
      lcd.pen.textsize_x lcd.pen.textsize_y lcd
    setCursor (lcd.pen.cursor_x + lcd.pen.textsize_x * 6) lcd.pen.cursor_y lcd
  else lcd

def print (text : List Char) (lcd : Lcd) : Lcd := text.foldl write lcd

end Lcd

/-! `Display.h` -/

abbrev Display := Lcd

namespace Display

open Lcd

def construct (font : Font) (buffer : Framebuffer) : Display :=
  setTextSize 1 (Lcd.construct font buffer)

def printField (x y : Int) (highlighted running : Bool) (display : Display) : Display :=
  if !running then
    if highlighted then setTextColor WHITE BLACK (fillRect x y 15 11 BLACK display)
    else setTextColor BLACK BLACK (drawRect x y 15 11 BLACK display)
  else display

def printLn1 (number : Int) (highlighted running : Bool) (display : Display) : Display :=
  let display := fillRect 0 0 84 11 WHITE display
  let display := setTextColor BLACK BLACK display
  let display := setCursor 4 2 display
  let display := print "R per kit:".toList display
  let display := printField 64 0 highlighted running display
  let display := if number < 10 then setCursor 69 2 display else setCursor 65 2 display
  print (decimal number) display

def printLn2 (number : Int) (highlighted running : Bool) (display : Display) : Display :=
  let display := fillRect 0 12 84 11 WHITE display
  let display := setTextColor BLACK BLACK display
  let display := setCursor 20 14 display
  let display := print "Kits:".toList display
  let display := printField 50 12 highlighted running display
  let display := if number < 10 then setCursor 55 14 display else setCursor 52 14 display
  print (decimal number) display

def paintProgress (percent : Int) (display : Display) : Display :=
  let percent := if percent > 100 then 100 else percent
  let display := fillRect 0 24 84 11 WHITE display
  let display := drawRect 4 24 77 11 BLACK display
  let display := setTextColor BLACK BLACK display
  let display :=
    if percent < 10 then setCursor 36 26 display
    else if percent < 100 then setCursor 33 26 display
    else setCursor 30 26 display
  let display := print (decimal percent ++ ['%']) display
  invertRect 5 25 (Int.tdiv (percent * 75) 100) 9 display

def printProgress (percent : Int) (running : Bool) (display : Display) : Display :=
  if !running then display else paintProgress percent display

def printButton (highlighted running : Bool) (display : Display) : Display :=
  let display := fillRect 25 37 (6 * 5 + 3) (8 * 1 + 3) WHITE display
  let display :=
    if highlighted then
      setTextColor WHITE BLACK (fillRect 25 37 (6 * 5 + 3) (8 * 1 + 3) BLACK display)
    else setTextColor BLACK BLACK (drawRect 25 37 (6 * 5 + 3) (8 * 1 + 3) BLACK display)
  if running then print "Stop".toList (setCursor 30 39 display)
  else print "Start".toList (setCursor 27 39 display)

def pausedText : List Char :=
  "Safety switch flipped;      please resolve\nthe issue!".toList

/-- `drawLine(0, 15, 84, 15)` is level, so GFX draws it as a horizontal line of 85 pixels. -/
def showPaused (display : Display) : Display :=
  let display := clearDisplay display
  let display := setTextColor BLACK BLACK display
  let display := setTextSize 2 display
  let display := setCursor 7 0 display
  let display := print "PAUSED".toList display
  let display := drawFastHLine 0 15 85 BLACK display
  let display := setTextSize 1 display
  let display := setCursor 0 17 display
  print pausedText display

def updateAll (highlightNum rPerKit kits percent running : Int) (display : Display) : Display :=
  if running = 2 then showPaused display
  else
    let display := clearDisplay display
    let display := printLn1 rPerKit (decide (highlightNum = 0)) (decide (running ≠ 0)) display
    let display := printLn2 kits (decide (highlightNum = 1)) (decide (running ≠ 0)) display
    let display := printProgress percent (decide (running ≠ 0)) display
    printButton (decide (highlightNum = 2)) (decide (running ≠ 0)) display

end Display

end ResistorCutter
