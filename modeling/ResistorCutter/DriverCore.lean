import ResistorCutter.DisplayCore
import ResistorCutter.Packed
import Mathlib.Data.Int.Range

/-!
`Adafruit_PCD8544.cpp` at the level of its frame buffer: 504 bytes, each of them eight rows of one
column, reached through 16-bit coordinates that the rotation turns.
-/

namespace ResistorCutter

theorem and_three_cases (x : UInt8) : x &&& 3 = 0 ∨ x &&& 3 = 1 ∨ x &&& 3 = 2 ∨ x &&& 3 = 3 := by
  have low : (x &&& 3).toNat = x.toNat % 4 := by
    rw [UInt8.toNat_and]
    exact Nat.and_two_pow_sub_one_eq_mod x.toNat 2
  simp only [← UInt8.toNat_inj, low, UInt8.reduceToNat]
  omega

@[ext]
structure AdafruitPCD8544 where
  rotation : UInt8
  _width : Int16
  _height : Int16
  pcd8544_buffer : Vector UInt8 (LCDWIDTH * LCDHEIGHT / 8)
  xUpdateMin : UInt8
  xUpdateMax : UInt8
  yUpdateMin : UInt8
  yUpdateMax : UInt8
  oriented : (rotation = 0 ∨ rotation = 2) ∧ _width = 84 ∧ _height = 48 ∨
    (rotation = 1 ∨ rotation = 3) ∧ _width = 48 ∧ _height = 84

namespace AdafruitPCD8544

/-- `buffer` is what `pcd8544_buffer` holds, a logo. -/
def construct (buffer : Vector UInt8 (LCDWIDTH * LCDHEIGHT / 8)) : AdafruitPCD8544 where
  rotation := 0
  _width := 84
  _height := 48
  pcd8544_buffer := buffer
  xUpdateMin := 0
  xUpdateMax := 0
  yUpdateMin := 0
  yUpdateMax := 0
  oriented := .inl ⟨.inl rfl, rfl, rfl⟩

def setRotation (x : UInt8) (lcd : AdafruitPCD8544) : AdafruitPCD8544 :=
  let rotation := x &&& 3
  if upright : rotation = 0 ∨ rotation = 2 then
    { lcd with
      rotation := rotation
      _width := 84
      _height := 48
      oriented := .inl ⟨upright, rfl, rfl⟩ }
  else
    { lcd with
      rotation := rotation
      _width := 48
      _height := 84
      oriented := by
        have cases := and_three_cases x
        have turned : rotation = 1 ∨ rotation = 3 := by tauto
        exact .inr ⟨turned, rfl, rfl⟩ }

def updateBoundingBox (xmin ymin xmax ymax : UInt8) (lcd : AdafruitPCD8544) : AdafruitPCD8544 :=
  { lcd with
    xUpdateMin := min lcd.xUpdateMin xmin
    xUpdateMax := max lcd.xUpdateMax xmax
    yUpdateMin := min lcd.yUpdateMin ymin
    yUpdateMax := max lcd.yUpdateMax ymax }

def OffScreen (lcd : AdafruitPCD8544) (x y : Int16) : Prop :=
  x < 0 ∨ x ≥ lcd._width ∨ y < 0 ∨ y ≥ lcd._height

instance (lcd : AdafruitPCD8544) (x y : Int16) : Decidable (lcd.OffScreen x y) :=
  inferInstanceAs (Decidable (_ ∨ _ ∨ _ ∨ _))

/-- The switch over `rotation` in `setPixel` and `getPixel`. -/
def rotated (lcd : AdafruitPCD8544) (x y : Int16) : Int16 × Int16 :=
  match lcd.rotation with
  | 1 => (y, Int16.ofNat LCDHEIGHT - 1 - x)
  | 2 => (Int16.ofNat LCDWIDTH - 1 - x, Int16.ofNat LCDHEIGHT - 1 - y)
  | 3 => (Int16.ofNat LCDWIDTH - 1 - y, x)
  | _ => (x, y)

/-- `buffer[x + (y / 8) * LCDWIDTH]` and `y % 8`, in `int`. -/
def place (x y : Int16) : Packed.Cell :=
  ((x.toInt + y.toInt.tdiv 8 * LCDWIDTH).toNat, (y.toInt.tmod 8).toNat)

def setPixel (x y : Int16) (color : Bool) (lcd : AdafruitPCD8544) : AdafruitPCD8544 :=
  if lcd.OffScreen x y then lcd
  else
    let (x, y) := lcd.rotated x y
    let lcd := lcd.updateBoundingBox x.toUInt16.toUInt8 y.toUInt16.toUInt8
      x.toUInt16.toUInt8 y.toUInt16.toUInt8
    { lcd with pcd8544_buffer := Packed.write lcd.pcd8544_buffer (place x y) color }

def getPixel (x y : Int16) (lcd : AdafruitPCD8544) : Bool :=
  if lcd.OffScreen x y then false
  else
    let (x, y) := lcd.rotated x y
    Packed.read lcd.pcd8544_buffer (place x y)

/-- The loop variables are of type `int`; the calls narrow them. -/
def invertRect (x y w h : Int16) (lcd : AdafruitPCD8544) : AdafruitPCD8544 :=
  (Int.range x.toInt (x.toInt + w.toInt)).foldl (fun lcd i =>
    (Int.range y.toInt (y.toInt + h.toInt)).foldl (fun lcd j =>
      if lcd.getPixel (Int16.ofInt i) (Int16.ofInt j) then
        lcd.setPixel (Int16.ofInt i) (Int16.ofInt j) (WHITE != 0)
      else lcd.setPixel (Int16.ofInt i) (Int16.ofInt j) (BLACK != 0)) lcd) lcd

end AdafruitPCD8544

end ResistorCutter
