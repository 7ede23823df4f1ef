import ResistorCutter.PanelCore

/-!
The drawing calls of `Adafruit_GFX.cpp` that `Display.h` makes, in the 16-bit arithmetic of the
source, down to the pixels that `Adafruit_PCD8544` draws; and `Display.h` over them. A call has no
result where the loop in the source does not end.
-/

namespace ResistorCutter

namespace Nokia

/-- More rounds than a loop makes whose variable of 16 bits reaches its last value. -/
def rounds : Nat := 65536

/-- The loop of `writeLine`: `for (; x0 <= x1; x0++)`. -/
def plot (steep : Bool) (x1 dx dy ystep : Int16) (color : Color) :
    Nat → Int16 → Int16 → Int16 → Nokia → Option Nokia
  | 0, _, _, _, _ => none
  | fuel + 1, x0, y0, err, lcd =>
      if x0 ≤ x1 then
        let lcd := if steep then lcd.drawPixel y0 x0 color else lcd.drawPixel x0 y0 color
        let err := err - dy
        if err < 0 then plot steep x1 dx dy ystep color fuel (x0 + 1) (y0 + ystep) (err + dx) lcd
        else plot steep x1 dx dy ystep color fuel (x0 + 1) y0 err lcd
      else some lcd

/-- The part of `writeLine` after the swaps. -/
def writeSorted (steep : Bool) (x0 y0 x1 y1 : Int16) (color : Color) (lcd : Nokia) :
    Option Nokia :=
  let dx := x1 - x0
  let dy := Int16.ofNat (y1.toInt - y0.toInt).natAbs
  let err := dx / 2
  let ystep := if y0 < y1 then 1 else -1
  plot steep x1 dx dy ystep color rounds x0 y0 err lcd

def writeLine (x0 y0 x1 y1 : Int16) (color : Color) (lcd : Nokia) : Option Nokia :=
  let steep := decide ((y1.toInt - y0.toInt).natAbs > (x1.toInt - x0.toInt).natAbs)
  let (x0, y0) := if steep then (y0, x0) else (x0, y0)
  let (x1, y1) := if steep then (y1, x1) else (x1, y1)
  if x0 > x1 then writeSorted steep x1 y1 x0 y0 color lcd
  else writeSorted steep x0 y0 x1 y1 color lcd

def drawFastVLine (x y h : Int16) (color : Color) (lcd : Nokia) : Option Nokia :=
  writeLine x y x (y + h - 1) color lcd

def drawFastHLine (x y w : Int16) (color : Color) (lcd : Nokia) : Option Nokia :=
  writeLine x y (x + w - 1) y color lcd

/-- `for (int16_t i = x; i < x + w; i++)`; the bound is an `int`. -/
def fillColumns (y h : Int16) (color : Color) (bound : Int) :
    Nat → Int16 → Nokia → Option Nokia
  | 0, _, _ => none
  | fuel + 1, i, lcd =>
      if i.toInt < bound then
        (lcd.drawFastVLine i y h color).bind (fillColumns y h color bound fuel (i + 1))
      else some lcd

def fillRect (x y w h : Int16) (color : Color) (lcd : Nokia) : Option Nokia :=
  fillColumns y h color (x.toInt + w.toInt) rounds x lcd

def drawRect (x y w h : Int16) (color : Color) (lcd : Nokia) : Option Nokia := do
  let lcd ← lcd.drawFastHLine x y w color
  let lcd ← lcd.drawFastHLine x (y + h - 1) w color
  let lcd ← lcd.drawFastVLine x y h color
  lcd.drawFastVLine (x + w - 1) y h color

def drawLine (x0 y0 x1 y1 : Int16) (color : Color) (lcd : Nokia) : Option Nokia :=
  if x0 = x1 then
    let (y0, y1) := if y0 > y1 then (y1, y0) else (y0, y1)
    lcd.drawFastVLine x0 y0 (y1 - y0 + 1) color
  else if y0 = y1 then
    let (x0, x1) := if x0 > x1 then (x1, x0) else (x0, x1)
    lcd.drawFastHLine x0 y0 (x1 - x0 + 1) color
  else lcd.writeLine x0 y0 x1 y1 color

/-- The pixel of the glyph in column `i` and row `j`, or what a larger font makes of it. -/
def drawDot (x y : Int16) (i j : Nat) (color : Color) (size_x size_y : UInt8) (lcd : Nokia) :
    Option Nokia :=
  if size_x = 1 ∧ size_y = 1 then
    some (lcd.drawPixel (x + Int16.ofNat i) (y + Int16.ofNat j) color)
  else
    lcd.fillRect (Int16.ofInt (x.toInt + i * size_x.toNat))
      (Int16.ofInt (y.toInt + j * size_y.toNat)) (Int16.ofNat size_x.toNat)
      (Int16.ofNat size_y.toNat) color

/-- The line for the last column of a glyph. -/
def drawGap (x y : Int16) (bg : Color) (size_x size_y : UInt8) (lcd : Nokia) : Option Nokia :=
  if size_x = 1 ∧ size_y = 1 then lcd.drawFastVLine (x + 5) y 8 bg
  else
    lcd.fillRect (Int16.ofInt (x.toInt + 5 * size_x.toNat)) y (Int16.ofNat size_x.toNat)
      (Int16.ofInt (8 * size_y.toNat)) bg

def drawChar (x y : Int16) (c : UInt8) (color bg : Color) (size_x size_y : UInt8) (lcd : Nokia) :
    Option Nokia :=
  if x ≥ lcd._width ∨ y ≥ lcd._height ∨ x.toInt + 6 * size_x.toNat - 1 < 0 ∨
      y.toInt + 8 * size_y.toNat - 1 < 0 then
    some lcd
  else do
    let c := if !lcd._cp437 && decide (c ≥ 176) then c + 1 else c
    let lcd ← (List.range 5).foldlM (fun lcd i =>
      let line := lcd.font (c.toNat * 5 + i)
      (List.range 8).foldlM (fun lcd j =>
        if Packed.testBit line j then lcd.drawDot x y i j color size_x size_y
        else if bg ≠ color then lcd.drawDot x y i j bg size_x size_y
        else some lcd) lcd) lcd
    if bg ≠ color then lcd.drawGap x y bg size_x size_y else some lcd

def setCursor (x y : Int16) (lcd : Nokia) : Nokia := { lcd with cursor_x := x, cursor_y := y }

def setTextColor (c bg : Color) (lcd : Nokia) : Nokia :=
  { lcd with textcolor := c, textbgcolor := bg }

def setTextSize (s : UInt8) (lcd : Nokia) : Nokia :=
  let size := if s > 0 then s else 1
  { lcd with textsize_x := size, textsize_y := size }

def newline (lcd : Nokia) : Nokia :=
  lcd.setCursor 0 (Int16.ofInt (lcd.cursor_y.toInt + lcd.textsize_y.toNat * 8))

def write (lcd : Nokia) (c : UInt8) : Option Nokia :=
  if c = '\n'.toUInt8 then some lcd.newline
  else if c ≠ '\r'.toUInt8 then do
    let lcd := if lcd.wrap && decide (lcd.cursor_x.toInt + lcd.textsize_x.toNat * 6 >
      lcd._width.toInt) then lcd.newline else lcd
    let lcd ← lcd.drawChar lcd.cursor_x lcd.cursor_y c lcd.textcolor lcd.textbgcolor lcd.textsize_x
      lcd.textsize_y
    some (lcd.setCursor (Int16.ofInt (lcd.cursor_x.toInt + lcd.textsize_x.toNat * 6)) lcd.cursor_y)
  else some lcd

def print (text : List Char) (lcd : Nokia) : Option Nokia :=
  (text.map Char.toUInt8).foldlM write lcd

end Nokia

/-! `Display.h`, whose member `display` is the object. -/

namespace Nokia

def printField (x y : Int16) (highlighted running : Bool) (lcd : Nokia) : Option Nokia :=
  if !running then
    if highlighted then (lcd.fillRect x y 15 11 BLACK).map (setTextColor WHITE BLACK)
    else (lcd.drawRect x y 15 11 BLACK).map (setTextColor BLACK BLACK)
  else some lcd

def printLn1 (number : Int) (highlighted running : Bool) (lcd : Nokia) : Option Nokia := do
  let lcd ← lcd.fillRect 0 0 84 11 WHITE
  let lcd := lcd.setTextColor BLACK BLACK
  let lcd := lcd.setCursor 4 2
  let lcd ← lcd.print "R per kit:".toList
  let lcd ← lcd.printField 64 0 highlighted running
  let lcd := if number < 10 then lcd.setCursor 69 2 else lcd.setCursor 65 2
  let lcd ← lcd.print (decimal number)
  lcd.display

def printLn2 (number : Int) (highlighted running : Bool) (lcd : Nokia) : Option Nokia := do
  let lcd ← lcd.fillRect 0 12 84 11 WHITE
  let lcd := lcd.setTextColor BLACK BLACK
  let lcd := lcd.setCursor 20 14
  let lcd ← lcd.print "Kits:".toList
  let lcd ← lcd.printField 50 12 highlighted running
  let lcd := if number < 10 then lcd.setCursor 55 14 else lcd.setCursor 52 14
  let lcd ← lcd.print (decimal number)
  lcd.display

def printProgress (percent : Int) (running : Bool) (lcd : Nokia) : Option Nokia :=
  if !running then some lcd
  else do
    let percent := if percent > 100 then 100 else percent
    let lcd ← lcd.fillRect 0 24 84 11 WHITE
    let lcd ← lcd.drawRect 4 24 77 11 BLACK
    let lcd := lcd.setTextColor BLACK BLACK
    let lcd :=
      if percent < 10 then lcd.setCursor 36 26
      else if percent < 100 then lcd.setCursor 33 26
      else lcd.setCursor 30 26
    let lcd ← lcd.print (decimal percent ++ ['%'])
    let lcd := lcd.invertRect 5 25 (Int16.ofInt (Int.tdiv (percent * 75) 100)) 9
    lcd.display

def printButton (highlighted running : Bool) (lcd : Nokia) : Option Nokia := do
  let lcd ← lcd.fillRect 25 37 (6 * 5 + 3) (8 * 1 + 3) WHITE
  let lcd ←
    if highlighted then
      (lcd.fillRect 25 37 (6 * 5 + 3) (8 * 1 + 3) BLACK).map (setTextColor WHITE BLACK)
    else (lcd.drawRect 25 37 (6 * 5 + 3) (8 * 1 + 3) BLACK).map (setTextColor BLACK BLACK)
  let lcd ←
    if running then (lcd.setCursor 30 39).print "Stop".toList
    else (lcd.setCursor 27 39).print "Start".toList
  lcd.display

def showPaused (lcd : Nokia) : Option Nokia := do
  let lcd := lcd.clearDisplay
  let lcd := lcd.setTextColor BLACK BLACK
  let lcd := lcd.setTextSize 2
  let lcd := lcd.setCursor 7 0
  let lcd ← lcd.print "PAUSED".toList
  let lcd ← lcd.drawLine 0 15 84 15 BLACK
  let lcd := lcd.setTextSize 1
  let lcd := lcd.setCursor 0 17
  let lcd ← lcd.print Display.pausedText
  lcd.display

def updateAll (highlightNum rPerKit kits percent running : Int) (lcd : Nokia) : Option Nokia :=
  if running = 2 then lcd.showPaused
  else do
    let lcd := lcd.clearDisplay
    let lcd ← lcd.printLn1 rPerKit (decide (highlightNum = 0)) (decide (running ≠ 0))
    let lcd ← lcd.printLn2 kits (decide (highlightNum = 1)) (decide (running ≠ 0))
    let lcd ← lcd.printProgress percent (decide (running ≠ 0))
    lcd.printButton (decide (highlightNum = 2)) (decide (running ≠ 0))

end Nokia

end ResistorCutter
