import ResistorCutter.DisplayCore
import ResistorCutter.WebCore

/-!
`Interface.h`. A method that ends in `callbackFn(running)` returns the argument of that call:
nothing follows the call in `handleSwitch` or in `update`, so what the callback does comes
next and the method then returns without touching the object again.
-/

namespace ResistorCutter

structure Interface where
  board : Board
  display : Display
  safetySwitch : SafetySwitch
  localHost : LocalHost
  lastUpdate : UInt32
  currentSelection : UInt8
  rPerKit : UInt32
  kits : UInt32
  percent : UInt32
  prevRunning : UInt32
  running : UInt32
  debounced : Bool
  switchPressed : Bool

/-- What power-up decides: the glyph table, the buffer's first content and the level that the
constructor of the safety switch reads. -/
structure PowerUp where
  font : Font
  buffer : Framebuffer
  safe : Bool

def PowerUp.released : PowerUp := ⟨fun _ => 0, fun _ _ => false, false⟩

namespace Interface

def load (readings : Readings) (interface : Interface) : Interface :=
  { interface with board := Board.load readings }

/-- The two calls that follow every change of a displayed field:
`display.updateAll(currentSelection, rPerKit, kits, percent, running)` and
`localHost.updatePageInfo(rPerKit, kits, running)`. -/
def refresh (interface : Interface) : Interface :=
  { interface with
    display := interface.display.updateAll interface.currentSelection.toNat
      (signed interface.rPerKit) (signed interface.kits) (signed interface.percent)
      (signed interface.running)
    localHost := interface.localHost.updatePageInfo (signed interface.rPerKit)
      (signed interface.kits) (signed interface.running) (-1) }

/-- The constructor, over memory with arbitrary content. The statement
`lastUpdate = currentSelection = percent = prevRunning, running = 0` assigns `prevRunning` to
the first three and 0 to `running` only. -/
def construct (power : PowerUp) (memory : Interface) : Interface :=
  let interface := { memory with
    display := Display.construct power.font power.buffer
    safetySwitch := SafetySwitch.construct power.safe
    localHost := LocalHost.construct }
  let interface := { interface with percent := interface.prevRunning }
  let interface := { interface with currentSelection := interface.percent.toUInt8 }
  let interface := { interface with lastUpdate := interface.currentSelection.toUInt32 }
  let interface := { interface with running := 0 }
  let interface := { interface with kits := 1 }
  let interface := { interface with rPerKit := interface.kits }
  let interface := { interface with debounced := true }
  let interface := { interface with switchPressed := false }
  interface.refresh

def zeroed (power : PowerUp) : Interface where
  board := Board.load {}
  display := Lcd.construct power.font power.buffer
  safetySwitch := ⟨false⟩
  localHost := LocalHost.construct
  lastUpdate := 0
  currentSelection := 0
  rPerKit := 0
  kits := 0
  percent := 0
  prevRunning := 0
  running := 0
  debounced := false
  switchPressed := false

def setPausedStatus (paused : Bool) (interface : Interface) : Interface :=
  let interface :=
    if paused then
      let interface :=
        if interface.running ≠ 2 then { interface with prevRunning := interface.running }
        else interface
      { interface with running := 2 }
    else { interface with running := interface.prevRunning }
  interface.refresh

def doneRunning (interface : Interface) : Interface :=
  if interface.running ≠ 0 then
    let interface :=
      if interface.running ≠ 2 then { interface with running := 0 }
      else { interface with prevRunning := 0 }
    let interface := { interface with percent := 0 }
    interface.refresh
  else interface

def debounce (interface : Interface) (limit : UInt32) (board : Board) : Bool × Board :=
  if interface.debounced then (true, board)
  else
    let now := board.millis
    (decide (now.1 - interface.lastUpdate ≥ limit), now.2)

def stamp (interface : Interface) : Interface :=
  let now := interface.board.millis
  { interface with board := now.2, lastUpdate := now.1, debounced := false }

def moveVertical (interface : Interface) : Interface :=
  let up := Joystick.getUp interface.board
  let interface := { interface with board := up.2 }
  if up.1 then
    { interface with
      currentSelection := UInt8.ofNat ((interface.currentSelection.toNat + 2) % 3) }
  else
    let down := Joystick.getDown interface.board
    let interface := { interface with board := down.2 }
    if down.1 then
      { interface with currentSelection := (interface.currentSelection + 1) % 3 }
    else interface

def moveHorizontal (interface : Interface) : Interface :=
  if interface.currentSelection = 0 then
    let left := Joystick.getLeft interface.board
    let interface := { interface with board := left.2 }
    if left.1 then { interface with rPerKit := (interface.rPerKit + 8) % 10 + 1 }
    else { interface with rPerKit := interface.rPerKit % 10 + 1 }
  else if interface.currentSelection = 1 then
    let left := Joystick.getLeft interface.board
    let interface := { interface with board := left.2 }
    if left.1 then { interface with kits := (interface.kits + 48) % 50 + 1 }
    else { interface with kits := interface.kits % 50 + 1 }
  else interface

def handleJoystick (interface : Interface) : Interface :=
  let vertical := both Joystick.getVertical (interface.debounce 500) interface.board
  let interface := { interface with board := vertical.2 }
  if vertical.1 then interface.stamp.moveVertical.refresh
  else
    let horizontal := both (both Joystick.getHorizontal (interface.debounce 250))
      (negate Joystick.getVertical) interface.board
    let interface := { interface with board := horizontal.2 }
    if horizontal.1 then interface.stamp.moveHorizontal.refresh else interface

def toggleRunning (interface : Interface) : Interface :=
  let interface := { interface with switchPressed := true }
  let interface := { interface with running := if interface.running = 0 then 1 else 0 }
  interface.refresh

def handleSwitch (interface : Interface) : Interface × Option Int :=
  if !interface.switchPressed && interface.currentSelection = 2 then
    (interface.toggleRunning, some (signed interface.toggleRunning.running))
  else (interface, none)

def handleSafetySwitch (interface : Interface) : Interface :=
  let level := SafetySwitch.getSwitch interface.board
  setPausedStatus level.1 { interface with board := level.2 }

def updateSafety (interface : Interface) : Interface :=
  let change := interface.safetySwitch.getChange interface.board
  let interface := { interface with safetySwitch := change.2.1, board := change.2.2 }
  if change.1 then interface.handleSafetySwitch else interface

/-- The branch on `running` in `update`. The name `percent` in it is the parameter, also where
the progress is printed. -/
def updateStatus (percent : Int) (interface : Interface) : Interface :=
  if interface.running = 0 then
    let uncentered := Joystick.getUncentered interface.board
    let interface := { interface with board := uncentered.2 }
    if uncentered.1 then interface.handleJoystick else { interface with debounced := true }
  else
    let interface :=
      if percent ≠ -1 then { interface with percent := UInt32.ofInt percent } else interface
    { interface with
      display := interface.display.printProgress percent (decide (interface.running ≠ 0)) }

def updateSwitch (interface : Interface) : Interface × Option Int :=
  let pressed := Joystick.getSwitch interface.board
  let interface := { interface with board := pressed.2 }
  if pressed.1 then interface.handleSwitch else ({ interface with switchPressed := false }, none)

/-- `update(percent)`, up to the call of `callbackFn` if it makes one; the default of the
parameter is -1. -/
def update (percent : Int) (interface : Interface) : Interface × Option Int :=
  let interface := interface.updateSafety
  if interface.running = 2 then (interface, none)
  else (interface.updateStatus percent).updateSwitch

def getResistorsPerKit (interface : Interface) : Int := signed interface.rPerKit

def getKits (interface : Interface) : Int := signed interface.kits

def getRunningStatus (interface : Interface) : Int := signed interface.running

end Interface

end ResistorCutter
