import ResistorCutter.SerialLine
import ResistorCutter.PanelCore

/-!
`Adafruit_SPIDevice.cpp` without SPI hardware and without a MISO pin, as `Adafruit_PCD8544` sets
it up, and the five pins of the glass.
-/

namespace ResistorCutter

inductive BusIOBitOrder | MSBFIRST | LSBFIRST
  deriving DecidableEq

inductive DataMode | SPI_MODE0 | SPI_MODE1 | SPI_MODE2 | SPI_MODE3
  deriving DecidableEq

structure SPIDevice where
  _dataOrder : BusIOBitOrder
  _dataMode : DataMode

namespace SPIDevice

open SerialLine

def begin (device : SPIDevice) : Levels :=
  [(.cs, true),
    (.sck, !(device._dataMode = .SPI_MODE0 || device._dataMode = .SPI_MODE1)),
    (.mosi, true)]

def startbit (device : SPIDevice) : UInt8 := if device._dataOrder = .LSBFIRST then 0x1 else 0x80

/-- The values of `b` in the inner loop of `transfer`. -/
def masks (device : SPIDevice) : Nat → UInt8 → List UInt8
  | 0, _ => []
  | fuel + 1, b =>
      if b ≠ 0 then
        b :: masks device fuel (if device._dataOrder = .LSBFIRST then b <<< 1 else b >>> 1)
      else []

/-- The body of the inner loop, with `lastmosi` before and after it. -/
def transferBit (device : SPIDevice) (send : UInt8) (lastmosi : Bool) (b : UInt8) :
    Levels × Bool :=
  if device._dataMode = .SPI_MODE0 ∨ device._dataMode = .SPI_MODE2 then
    let towrite := send &&& b != 0
    ((if lastmosi ≠ towrite then [(.mosi, towrite)] else []) ++ [(.sck, true), (.sck, false)],
      towrite)
  else ([(.sck, true), (.mosi, send &&& b != 0), (.sck, false)], lastmosi)

def transferBits (device : SPIDevice) (send : UInt8) : Bool → List UInt8 → Levels × Bool
  | lastmosi, [] => ([], lastmosi)
  | lastmosi, b :: rest =>
      let now := device.transferBit send lastmosi b
      let later := transferBits device send now.2 rest
      (now.1 ++ later.1, later.2)

def transferBytes (device : SPIDevice) : Bool → List UInt8 → Levels
  | _, [] => []
  | lastmosi, send :: rest =>
      let now := device.transferBits send lastmosi (device.masks 9 device.startbit)
      now.1 ++ transferBytes device now.2 rest

/-- What is read past the end of an empty buffer has no effect. -/
def transfer (device : SPIDevice) (buffer : List UInt8) : Levels :=
  device.transferBytes (!((buffer.headD 0) &&& device.startbit != 0)) buffer

def write (device : SPIDevice) (buffer : List UInt8) : Levels :=
  [(.cs, false)] ++ buffer.flatMap (fun send => device.transfer [send]) ++ [(.cs, true)]

/-- `write_and_read`; without a MISO pin nothing is read. -/
def writeAndRead (device : SPIDevice) (buffer : List UInt8) : Levels :=
  [(.cs, false)] ++ device.transfer buffer ++ [(.cs, true)]

/-- The byte that a receiver makes of eight bits. -/
def byteOf (device : SPIDevice) (bits : List Bool) : UInt8 :=
  let first := if device._dataOrder = .LSBFIRST then bits.reverse else bits
  first.foldl (fun byte bit => byte <<< 1 ||| bit.toUInt8) 0

/-- The edge at which a receiver in the mode takes the data, as the mode is understood: the
clock idles high in 2 and 3, and the second edge counts in 1 and 3. -/
def edge (device : SPIDevice) : Bool :=
  device._dataMode = .SPI_MODE0 || device._dataMode = .SPI_MODE3

end SPIDevice

/-! The glass on its pins. -/

namespace Nokia

open SerialLine

inductive Pin
  | spi (wire : Wire)
  | dc
  | rst

/-- The device that the constructor makes. -/
def spi_dev : SPIDevice := ⟨.MSBFIRST, .SPI_MODE0⟩

def onPins (levels : Levels) : List (Pin × Bool) :=
  levels.map fun event => (.spi event.1, event.2)

/-- What puts the signal on the pins: the pulse of `initDisplay`, or the level of DC and a call of
`write`. -/
def levels : Signal → List (Pin × Bool)
  | .reset => [(.rst, false), (.rst, true)]
  | .command c => (.dc, false) :: onPins (spi_dev.write [c])
  | .data bytes => (.dc, true) :: onPins (spi_dev.write bytes)

/-- Everything on the pins from `begin` on. -/
def pins (signals : List Signal) : List (Pin × Bool) :=
  onPins spi_dev.begin ++ signals.flatMap levels

end Nokia

namespace Panel

open SerialLine Nokia

/-- The controller behind its pins. -/
structure Chip where
  line : Line
  dc : Bool
  panel : Panel

def take (dc : Bool) (bits : List Bool) (panel : Panel) : Option Panel :=
  let byte := spi_dev.byteOf bits
  if dc then panel.store byte else panel.command byte

/-- A low level on RST resets the controller. -/
def Chip.hear (resets : Panel → Panel) (chip : Chip) (event : Pin × Bool) : Option Chip :=
  let (pin, level) := event
  match pin with
  | .spi wire =>
      (SerialLine.hear 8 true (take chip.dc) (chip.line, chip.panel) (wire, level)).map
        fun next => { chip with line := next.1, panel := next.2 }
  | .dc => some { chip with dc := level }
  | .rst => some (if level then chip else { chip with panel := resets chip.panel })

def Chip.hearAll (resets : Panel → Panel) (chip : Chip) (events : List (Pin × Bool)) :
    Option Chip :=
  events.foldlM (Chip.hear resets) chip

end Panel

end ResistorCutter
