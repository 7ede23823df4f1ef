import ResistorCutter.DriverCore

/-!
`Adafruit_PCD8544.cpp` as a whole: the part of the frame buffer that `display` sends, the commands
around it, and the controller of the glass as far as the constants of `Adafruit_PCD8544.h`
describe it.
-/

namespace ResistorCutter

def PCD8544_ENTRYMODE : UInt8 := 0x02
def PCD8544_EXTENDEDINSTRUCTION : UInt8 := 0x01
def PCD8544_DISPLAYNORMAL : UInt8 := 0x4
def PCD8544_DISPLAYINVERTED : UInt8 := 0x5
def PCD8544_FUNCTIONSET : UInt8 := 0x20
def PCD8544_DISPLAYCONTROL : UInt8 := 0x08
def PCD8544_SETYADDR : UInt8 := 0x40
def PCD8544_SETXADDR : UInt8 := 0x80
def PCD8544_SETBIAS : UInt8 := 0x10
def PCD8544_SETVOP : UInt8 := 0x80

/-- A pulse on the RST pin, or one call of `spi_dev->write` with the level of the DC pin. -/
inductive Signal
  | reset
  | command (c : UInt8)
  | data (bytes : List UInt8)
  deriving DecidableEq

/-! The controller. -/

/-- What is `none` nothing has set since the last reset. -/
structure Panel where
  ram : Vector UInt8 (LCDWIDTH * LCDHEIGHT / 8)
  mode : Option UInt8
  y : Option Nat
  x : Option Nat
  vop : Option UInt8
  bias : Option UInt8
  control : Option UInt8

namespace Panel

/-- The dots that the glass shows. -/
def picture (panel : Panel) : Framebuffer := fun px py =>
  Packed.read panel.ram (LCDWIDTH * (py.val / 8) + px.val, py.val % 8)

def basic (c : UInt8) (panel : Panel) : Option Panel :=
  if c &&& PCD8544_SETXADDR ≠ 0 then
    let x := (c &&& 0x7F).toNat
    if x ≤ 83 then some { panel with x := some x } else none
  else if c &&& PCD8544_SETYADDR ≠ 0 then
    let y := (c &&& 0x3F).toNat
    if y ≤ 5 then some { panel with y := some y } else none
  else if c &&& 0xFA = PCD8544_DISPLAYCONTROL then some { panel with control := some (c &&& 0x5) }
  else none

def extended (c : UInt8) (panel : Panel) : Option Panel :=
  if c &&& PCD8544_SETVOP ≠ 0 then some { panel with vop := some (c &&& 0x7F) }
  else if c &&& 0xF8 = PCD8544_SETBIAS then some { panel with bias := some (c &&& 0x7) }
  else none

/-- `none` is a byte that the header does not allow where it comes. -/
def command (c : UInt8) (panel : Panel) : Option Panel :=
  if c &&& 0xF8 = PCD8544_FUNCTIONSET then some { panel with mode := some (c &&& 0x7) }
  else panel.mode.bind fun mode =>
    if mode &&& PCD8544_EXTENDEDINSTRUCTION = 0 then panel.basic c else panel.extended c

/-- The next column is addressed after a byte. What follows the last column is left open: the
driver may not rely on it. -/
def store (byte : UInt8) (panel : Panel) : Option Panel := do
  let mode ← panel.mode
  let y ← panel.y
  let x ← panel.x
  if mode &&& PCD8544_ENTRYMODE = 0 then
    some { panel with
      ram := panel.ram.setIfInBounds (LCDWIDTH * y + x) byte
      x := if x = 83 then none else some (x + 1) }
  else none

/-- A reset pulse has the effect `resets`. -/
def hear (resets : Panel → Panel) (panel : Panel) : Signal → Option Panel
  | .reset => some (resets panel)
  | .command c => panel.command c
  | .data bytes => bytes.foldlM (fun panel byte => panel.store byte) panel

def hearAll (resets : Panel → Panel) (signals : List Signal) (panel : Panel) : Option Panel :=
  signals.foldlM (hear resets) panel

end Panel

/-! The driver. -/

/-- An object of class `Adafruit_PCD8544`, with the members it has from `Adafruit_GFX`, and all
that it has put on its pins. -/
structure Nokia extends AdafruitPCD8544 where
  font : Font
  cursor_x : Int16
  cursor_y : Int16
  textcolor : Color
  textbgcolor : Color
  textsize_x : UInt8
  textsize_y : UInt8
  wrap : Bool
  _cp437 : Bool
  _rstpin : Int8
  _contrast : UInt8
  _bias : UInt8
  _reinit_interval : UInt8
  _display_count : UInt8
  sent : List Signal

namespace Nokia

/-- The object is a global one: members without an initial value are zero. -/
def construct (font : Font) (buffer : Vector UInt8 (LCDWIDTH * LCDHEIGHT / 8)) (rst_pin : Int8) :
    Nokia where
  toAdafruitPCD8544 := AdafruitPCD8544.construct buffer
  font := font
  cursor_x := 0
  cursor_y := 0
  textcolor := 0xFFFF
  textbgcolor := 0xFFFF
  textsize_x := 1
  textsize_y := 1
  wrap := true
  _cp437 := false
  _rstpin := rst_pin
  _contrast := 0
  _bias := 0
  _reinit_interval := 0
  _display_count := 0
  sent := []

def put (signal : Signal) (lcd : Nokia) : Nokia := { lcd with sent := lcd.sent ++ [signal] }

def command (c : UInt8) (lcd : Nokia) : Nokia := lcd.put (.command c)

def setContrast (val : UInt8) (lcd : Nokia) : Nokia :=
  let val := if val > 0x7f then 0x7f else val
  let lcd := { lcd with _contrast := val }
  let lcd := lcd.command (PCD8544_FUNCTIONSET ||| PCD8544_EXTENDEDINSTRUCTION)
  let lcd := lcd.command (PCD8544_SETVOP ||| val)
  lcd.command PCD8544_FUNCTIONSET

def setBias (val : UInt8) (lcd : Nokia) : Nokia :=
  let val := if val > 0x07 then 0x07 else val
  let lcd := { lcd with _bias := val }
  let lcd := lcd.command (PCD8544_FUNCTIONSET ||| PCD8544_EXTENDEDINSTRUCTION)
  let lcd := lcd.command (PCD8544_SETBIAS ||| val)
  lcd.command PCD8544_FUNCTIONSET

def setReinitInterval (val : UInt8) (lcd : Nokia) : Nokia := { lcd with _reinit_interval := val }

def initDisplay (lcd : Nokia) : Nokia :=
  let lcd := if lcd._rstpin ≥ 0 then lcd.put .reset else lcd
  let lcd := lcd.setBias lcd._bias
  let lcd := lcd.setContrast lcd._contrast
  let lcd := lcd.command PCD8544_FUNCTIONSET
  lcd.command (PCD8544_DISPLAYCONTROL ||| PCD8544_DISPLAYNORMAL)

def invertDisplay (i : Bool) (lcd : Nokia) : Nokia :=
  let lcd := lcd.command PCD8544_FUNCTIONSET
  lcd.command (PCD8544_DISPLAYCONTROL |||
    if i then PCD8544_DISPLAYINVERTED else PCD8544_DISPLAYNORMAL)

def updateBoundingBox (xmin ymin xmax ymax : UInt8) (lcd : Nokia) : Nokia :=
  { lcd with
    toAdafruitPCD8544 := lcd.toAdafruitPCD8544.updateBoundingBox xmin ymin xmax ymax }

/-- What `spi_dev->write` reads from `pcd8544_buffer + first`; `none` if that is not all inside
the buffer. The length is a `size_t` of 32 bits. -/
def span (first : Nat) (length : Int) (lcd : Nokia) : Option (List UInt8) :=
  let length := (length % 2 ^ 32).toNat
  if first + length ≤ LCDWIDTH * LCDHEIGHT / 8 then
    some ((lcd.pcd8544_buffer.toList.drop first).take length)
  else none

/-- The body of the loop in `display`. -/
def sendPage (lcd : Nokia) (page : Nat) : Option Nokia :=
  let lcd := lcd.command (PCD8544_SETYADDR ||| UInt8.ofNat page)
  let startcol := lcd.xUpdateMin
  let endcol := lcd.xUpdateMax
  let lcd := lcd.command (PCD8544_SETXADDR ||| startcol)
  (lcd.span (LCDWIDTH * page + startcol.toNat) (endcol.toNat - startcol.toNat + 1)).map
    fun bytes => lcd.put (.data bytes)

/-- The counter at the beginning of `display`. -/
def reinit (lcd : Nokia) : Nokia :=
  if lcd._reinit_interval ≠ 0 then
    let lcd := { lcd with _display_count := lcd._display_count + 1 }
    if lcd._display_count ≥ lcd._reinit_interval then
      initDisplay { lcd with _display_count := 0 }
    else lcd
  else lcd

/-- The end of `display`. The box is left empty: any pixel drawn widens it. -/
def emptyBox (lcd : Nokia) : Nokia :=
  { lcd.command PCD8544_SETYADDR with
    xUpdateMin := UInt8.ofNat (LCDWIDTH - 1)
    xUpdateMax := 0
    yUpdateMin := UInt8.ofNat (LCDHEIGHT - 1)
    yUpdateMax := 0 }

def display (lcd : Nokia) : Option Nokia := do
  let lcd := lcd.reinit
  let first := lcd.yUpdateMin.toNat / 8
  let last := lcd.yUpdateMax.toNat / 8 + 1
  let lcd ← (List.range' first (last - first)).foldlM sendPage lcd
  some lcd.emptyBox

def begin (contrast bias : UInt8) (lcd : Nokia) : Option Nokia :=
  let lcd := { lcd with
    _bias := bias
    _contrast := contrast
    _reinit_interval := 0
    _display_count := 0 }
  let lcd := lcd.initDisplay
  let lcd := lcd.updateBoundingBox 0 0 (UInt8.ofNat (LCDWIDTH - 1)) (UInt8.ofNat (LCDHEIGHT - 1))
  lcd.display

def clearDisplay (lcd : Nokia) : Nokia :=
  let lcd := { lcd with pcd8544_buffer := Vector.replicate _ 0 }
  let lcd := lcd.updateBoundingBox 0 0 (UInt8.ofNat (LCDWIDTH - 1)) (UInt8.ofNat (LCDHEIGHT - 1))
  { lcd with cursor_x := 0, cursor_y := 0 }

def drawPixel (x y : Int16) (color : Color) (lcd : Nokia) : Nokia :=
  { lcd with toAdafruitPCD8544 := lcd.toAdafruitPCD8544.setPixel x y (color != 0) }

def invertRect (x y w h : Int16) (lcd : Nokia) : Nokia :=
  { lcd with toAdafruitPCD8544 := lcd.toAdafruitPCD8544.invertRect x y w h }

def setRotation (x : UInt8) (lcd : Nokia) : Nokia :=
  { lcd with toAdafruitPCD8544 := lcd.toAdafruitPCD8544.setRotation x }

/-- `while (pixels < 0) pixels += size;` and no result if that takes more rounds than `fuel`. -/
def raise (size : Int16) : Nat → Int8 → Option Int8
  | 0, _ => none
  | fuel + 1, pixels =>
      if pixels < 0 then raise size fuel (Int8.ofInt (pixels.toInt + size.toInt))
      else some pixels

/-- `pixels %= size;` -/
def reduce (size : Int16) (pixels : Int8) : Int8 :=
  Int8.ofInt (pixels.toInt.tmod size.toInt)

/-- The loops of `scroll`, which draw on a buffer of their own. -/
def moved (xpixels ypixels : Int8) (lcd : AdafruitPCD8544) : AdafruitPCD8544 :=
  let new_buffer := { lcd with pcd8544_buffer := Vector.replicate _ 0 }
  (Int.range 0 lcd._width.toInt).foldl (fun drawn x =>
    (Int.range 0 lcd._height.toInt).foldl (fun drawn y =>
      if lcd.getPixel (Int16.ofInt x) (Int16.ofInt y) then
        let new_x := (x + xpixels.toInt).tmod lcd._width.toInt
        let new_y := (y + ypixels.toInt).tmod lcd._height.toInt
        drawn.setPixel (Int16.ofInt new_x) (Int16.ofInt new_y) true
      else drawn) drawn) new_buffer

def scroll (xpixels ypixels : Int8) (lcd : Nokia) : Option Nokia := do
  let ypixels := reduce lcd._height (← raise lcd._height 128 ypixels)
  let xpixels := reduce lcd._width (← raise lcd._width 128 xpixels)
  let lcd := { lcd with toAdafruitPCD8544 := moved xpixels ypixels lcd.toAdafruitPCD8544 }
  some (lcd.updateBoundingBox 0 0 (UInt8.ofNat (LCDWIDTH - 1)) (UInt8.ofNat (LCDHEIGHT - 1)))

/-- The calls that reach the frame buffer, the box around its changes or the pins. -/
inductive Call
  | drawPixel (x y : Int16) (color : Color)
  | invertRect (x y w h : Int16)
  | clearDisplay
  | scroll (xpixels ypixels : Int8)
  | setRotation (x : UInt8)
  | updateBoundingBox (xmin ymin xmax ymax : UInt8)
  | setContrast (val : UInt8)
  | setBias (val : UInt8)
  | setReinitInterval (val : UInt8)
  | invertDisplay (i : Bool)
  | display

def perform (lcd : Nokia) : Call → Option Nokia
  | .drawPixel x y color => some (lcd.drawPixel x y color)
  | .invertRect x y w h => some (lcd.invertRect x y w h)
  | .clearDisplay => some lcd.clearDisplay
  | .scroll xpixels ypixels => lcd.scroll xpixels ypixels
  | .setRotation x => some (lcd.setRotation x)
  | .updateBoundingBox xmin ymin xmax ymax => some (lcd.updateBoundingBox xmin ymin xmax ymax)
  | .setContrast val => some (lcd.setContrast val)
  | .setBias val => some (lcd.setBias val)
  | .setReinitInterval val => some (lcd.setReinitInterval val)
  | .invertDisplay i => some (lcd.invertDisplay i)
  | .display => lcd.display

end Nokia

end ResistorCutter
