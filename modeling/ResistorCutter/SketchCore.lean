import ResistorCutter.Runs
import ResistorCutter.InterfaceCore

/-!
`ResistorCutter.ino` as a machine with a call stack. `loop()` and every activation of the
progress loop of `handleStateChange` call `update` and then `checkPause`; an `update` that
accepts a press calls `handleStateChange`, so activations nest.
-/

namespace ResistorCutter

/-- An activation of the progress loop of `handleStateChange`: its loop counter `i`, its place
in the order of all activations, and the two numbers it announced when it started. -/
structure Job where
  id : Nat
  i : Int
  rPerKit : Int
  kits : Int
  deriving DecidableEq, Repr

/-- Where control is in the innermost function: before its call of `update`, after that call,
or, in the progress loop only, after `checkPause`. -/
inductive Point | update | check | advance
  deriving DecidableEq, Repr

structure Config where
  interface : Interface
  stack : List Job
  point : Point
  started : Nat
  serial : List String

structure Input where
  readings : Readings := {}
  line : Option String := none

def checkPause (line : Option String) (interface : Interface) : Interface :=
  match line with
  | none => interface
  | some input =>
      if equalsIgnoreCase input.toList "pause".toList then interface.setPausedStatus true
      else if equalsIgnoreCase input.toList "resume".toList then interface.setPausedStatus false
      else interface

namespace Config

def init (power : PowerUp) : Config where
  interface := Interface.construct power (Interface.zeroed power)
  stack := []
  point := .update
  started := 0
  serial := []

def print (text : String) (config : Config) : Config :=
  { config with serial := config.serial ++ [text] }

def pausedError : String := "\nERR: Somehow, handleStateChange() was called while paused\r\n"

def enterLoop (config : Config) : Config :=
  let job := ⟨config.started, 0, config.interface.getResistorsPerKit, config.interface.getKits⟩
  { config with
    stack := job :: config.stack
    point := .update
    started := config.started + 1 }

def handleStateChange (state : Int) (config : Config) : Config :=
  let status := if config.interface.getRunningStatus ≠ 0 then "on" else "off"
  let config := config.print ("Button pressed! Machine is " ++ status ++ ".")
  -- the error is printed, and then the loop is entered all the same
  if state = 2 then (config.print pausedError).enterLoop
  else if state = 1 then
    (config.print (" Cutting groups of " ++ toString config.interface.getResistorsPerKit ++
      " resistors for " ++ toString config.interface.getKits ++ " kits.\n")).enterLoop
  else { config.print "\r\n" with point := .check }

def percent (config : Config) : Int :=
  match config.stack with
  | [] => -1
  | job :: _ => job.i

def callUpdate (config : Config) (input : Input) : Interface × Option Int :=
  (config.interface.load input.readings).update config.percent

def stepUpdate (config : Config) (input : Input) : Config :=
  let result := config.callUpdate input
  let config := { config with interface := result.1 }
  match result.2 with
  | none => { config with point := .check }
  | some state => config.handleStateChange state

/-- In a job, `if(interface.getRunningStatus() == 2) i--;` and then `checkPause()`; in `loop()`
only `checkPause()`, after which `loop()` is called again. -/
def stepCheck (config : Config) (input : Input) : Config :=
  let interface := checkPause input.line config.interface
  match config.stack with
  | [] => { config with interface := interface, point := .update }
  | job :: outer =>
      let i := if config.interface.getRunningStatus = 2 then job.i - 1 else job.i
      { config with
        interface := interface
        stack := { job with i := i } :: outer
        point := .advance }

/-- `delay(50)`, `i++` and the test of the loop. A loop that ends calls `doneRunning` and
returns into the `update` that started the job, which returns as well. -/
def stepAdvance (config : Config) : Config :=
  match config.stack with
  | [] => { config with point := .update }
  | job :: outer =>
      if job.i + 1 ≤ 100 then
        { config with stack := { job with i := job.i + 1 } :: outer, point := .update }
      else
        { config with interface := config.interface.doneRunning, stack := outer, point := .check }

def step (config : Config) (input : Input) : Config :=
  match config.point with
  | .update => config.stepUpdate input
  | .check => config.stepCheck input
  | .advance => config.stepAdvance

def run (power : PowerUp) (inputs : List Input) : Config := Runs.run step (init power) inputs

def calls (config : Config) (input : Input) : Option Int :=
  if config.point = .update then (config.callUpdate input).2 else none

end Config

end ResistorCutter
