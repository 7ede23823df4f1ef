import ResistorCutter.GlassChecks
import ResistorCutter.ScreenChecks
import ResistorCutter.StickChecks
import ResistorCutter.ValidityChecks

/-!
From the inputs of the sketch to the glass. What a step does to the display are the calls of
`Display.h` that its operations make; their arguments fit, so the controller has its picture after
every step.
-/

namespace ResistorCutter

open Joystick

namespace Interface

variable (interface : Interface)

/-- The call of `updateAll` that shows the fields. -/
def repaint : Display.Call :=
  .updateAll interface.currentSelection.toNat (signed interface.rPerKit) (signed interface.kits)
    (signed interface.percent) (signed interface.running)

def safetyCalls (readings : Readings) : List Display.Call :=
  if readings.digital .safe 0 = interface.safetySwitch.prevState then []
  else [(interface.load readings).updateSafety.repaint]

def stickCalls : List Display.Call :=
  if interface.verticalTest.1 || interface.pastVertical.horizontalTest.1 then
    [interface.handleJoystick.repaint]
  else []

def statusCalls (percent : Int) : List Display.Call :=
  if interface.running = 0 then
    if (getUncentered interface.board).1 then interface.pastUncentered.stickCalls else []
  else [.part (.progress percent true)]

def switchCalls : List Display.Call :=
  if interface.updateSwitch.2.isSome then [interface.updateSwitch.1.repaint] else []

/-- The calls on the display that an operation makes. -/
def displayCalls : Operation → List Display.Call
  | .update percent readings =>
      let safe := (interface.load readings).updateSafety
      interface.safetyCalls readings ++
        if safe.running = 2 then []
        else safe.statusCalls percent ++ (safe.updateStatus percent).switchCalls
  | .setPausedStatus paused => [(interface.setPausedStatus paused).repaint]
  | .doneRunning => if interface.running = 0 then [] else [interface.doneRunning.repaint]

theorem refresh_display :
    interface.refresh.display = interface.display.perform interface.refresh.repaint := rfl

theorem setPausedStatus_display (paused : Bool) :
    (interface.setPausedStatus paused).display =
      interface.display.perform (interface.setPausedStatus paused).repaint := by
  rw [setPausedStatus_eq]
  rfl

theorem safetyCalls_display (readings : Readings) :
    (interface.load readings).updateSafety.display =
      Runs.run Display.perform interface.display (interface.safetyCalls readings) := by
  rw [safetyCalls]
  by_cases same : readings.digital .safe 0 = interface.safetySwitch.prevState
  · rw [if_pos same, updateSafety_same interface readings same]
    rfl
  · rw [if_neg same, updateSafety_changed interface readings same]
    exact setPausedStatus_display _ _

theorem stickCalls_display :
    interface.handleJoystick.display =
      Runs.run Display.perform interface.display interface.stickCalls := by
  rw [stickCalls, handleJoystick_eq]
  by_cases vertical : interface.verticalTest.1 = true
  · have still : interface.pastVertical.stamp.moveVertical.display = interface.display :=
      moveVertical_display _
    simp only [vertical, if_true, Bool.true_or, Runs.run_cons, Runs.run_nil]
    rw [refresh_display, still]
  · by_cases horizontal : interface.pastVertical.horizontalTest.1 = true
    · have still : interface.pastVertical.pastHorizontal.stamp.moveHorizontal.display =
          interface.display := moveHorizontal_display _
      simp only [vertical, horizontal, if_true, Bool.false_eq_true, if_false, Bool.or_true,
        Runs.run_cons, Runs.run_nil]
      rw [refresh_display, still]
    · simp only [vertical, horizontal, Bool.false_eq_true, if_false, Bool.or_false, Runs.run_nil]
      rfl

theorem statusCalls_display (percent : Int) :
    (interface.updateStatus percent).display =
      Runs.run Display.perform interface.display (interface.statusCalls percent) := by
  rw [statusCalls]
  by_cases idle : interface.running = 0
  · rw [if_pos idle, updateStatus_eq interface percent idle]
    split
    · exact interface.pastUncentered.stickCalls_display
    · rfl
  · rw [if_neg idle, updateStatus_active interface percent idle]
    rfl

theorem switchCalls_display :
    interface.updateSwitch.1.display =
      Runs.run Display.perform interface.display interface.switchCalls := by
  rw [switchCalls]
  rcases interface.updateSwitch_cases with ⟨_, _, _, press⟩ | none
  · rw [press]
    exact refresh_display _
  · rw [none]
    rfl

theorem displayCalls_display (operation : Operation) :
    (interface.perform operation).display =
      Runs.run Display.perform interface.display (interface.displayCalls operation) := by
  cases operation with
  | update percent readings =>
      have checked := interface.safetyCalls_display readings
      simp only [perform, displayCalls, Runs.run_append]
      rw [← checked]
      rcases (interface.load readings).update_cases percent with ⟨early, paused⟩ | ⟨active, body⟩
      · rw [if_pos early, paused]
        rfl
      · rw [if_neg active, body, Runs.run_append, ← statusCalls_display]
        exact switchCalls_display _
  | setPausedStatus paused => exact setPausedStatus_display interface paused
  | doneRunning =>
      simp only [perform, displayCalls, doneRunning_eq]
      split
      · rfl
      · exact refresh_display _

/-! The arguments fit. -/

theorem fits_repaint (small : interface.percent ≤ 100) : Nokia.Fits interface.repaint := by
  have percent := (signed_percentage interface.percent small).1
  have range (n : UInt32) : -2147483648 ≤ signed n ∧ signed n < 2147483648 :=
    ⟨n.toInt32.le_toInt, n.toInt32.toInt_lt⟩
  exact ⟨range _, range _, by omega⟩

theorem handleJoystick_percent : interface.handleJoystick.percent = interface.percent :=
  (edited_handleJoystick interface).percent

theorem fits_statusCalls (percent : Int) (range : percent = -1 ∨ 0 ≤ percent ∧ percent ≤ 100)
    (small : interface.percent ≤ 100) :
    ∀ call ∈ interface.statusCalls percent, Nokia.Fits call := by
  intro call member
  rw [statusCalls] at member
  split at member
  · split at member
    · rw [stickCalls] at member
      split at member
      · obtain rfl := List.mem_singleton.mp member
        refine fits_repaint _ ?_
        rw [handleJoystick_percent]
        exact small
      · simp at member
    · simp at member
  · obtain rfl := List.mem_singleton.mp member
    have lower : -43690 ≤ percent := by
      rcases range with default | given <;> omega
    exact lower

theorem fits_displayCalls (operation : Operation) (range : operation.InRange)
    (small : interface.percent ≤ 100) :
    ∀ call ∈ interface.displayCalls operation, Nokia.Fits call := by
  have stored := interface.perform_percent operation range small
  intro call member
  cases operation with
  | update percent readings =>
      have kept := (interface.repaused_updateSafety readings).percent
      have safe : (interface.load readings).updateSafety.percent ≤ 100 := by
        rw [kept]
        exact small
      rcases List.mem_append.mp member with checked | later
      · rw [safetyCalls] at checked
        split at checked
        · simp at checked
        · obtain rfl := List.mem_singleton.mp checked
          exact fits_repaint _ safe
      · rcases (interface.load readings).update_cases percent with ⟨early, _⟩ | ⟨active, body⟩
        · simp [early] at later
        · rw [if_neg active] at later
          rcases List.mem_append.mp later with status | pressed
          · exact fits_statusCalls _ percent range safe call status
          · rw [switchCalls] at pressed
            split at pressed
            · obtain rfl := List.mem_singleton.mp pressed
              simp only [perform, body] at stored
              exact fits_repaint _ stored
            · simp at pressed
  | setPausedStatus paused =>
      obtain rfl := List.mem_singleton.mp member
      exact fits_repaint _ stored
  | doneRunning =>
      simp only [displayCalls] at member
      split at member
      · simp at member
      · obtain rfl := List.mem_singleton.mp member
        exact fits_repaint _ stored

end Interface

namespace Config

variable (config : Config) (input : Input)

def displayCalls : List Display.Call :=
  Runs.trace Interface.perform Interface.displayCalls config.interface (config.operations input)

theorem displayCalls_display :
    (config.step input).interface.display =
      Runs.run Display.perform config.interface.display (config.displayCalls input) := by
  rw [step_interface, displayCalls]
  exact Runs.simulation_run Interface.displayCalls_display _ _

theorem fits_displayCalls (valid : config.Valid) :
    ∀ call ∈ config.displayCalls input, Nokia.Fits call :=
  Runs.forall_mem_trace_of_invariant (fun interface => interface.percent ≤ 100)
    (fun interface operation small range =>
      ⟨interface.perform_percent operation range small,
        interface.fits_displayCalls operation range small⟩)
    valid.percent (config.operations_inRange input valid)

/-- All calls on the display from power-up on: the constructor of `Interface` makes the first. -/
def allCalls (power : PowerUp) (inputs : List Input) : List Display.Call :=
  (init power).interface.repaint :: Runs.trace step displayCalls (init power) inputs

theorem allCalls_display (power : PowerUp) (inputs : List Input) :
    (run power inputs).interface.display =
      Runs.run Display.perform (Display.construct power.font power.buffer)
        (allCalls power inputs) := by
  rw [run, @Runs.simulation_run _ _ _ _ step Display.perform
    (fun config => config.interface.display) displayCalls displayCalls_display]
  rfl

theorem fits_allCalls (power : PowerUp) (inputs : List Input) :
    ∀ call ∈ allCalls power inputs, Nokia.Fits call := by
  intro call member
  rcases List.mem_cons.mp member with rfl | later
  · exact Interface.fits_repaint _ (valid_init power).percent
  · exact Runs.forall_mem_trace_of_invariant Valid
      (fun config input valid (_ : True) =>
        ⟨config.valid_step input valid, config.fits_displayCalls input valid⟩)
      (valid_init power) (fun _ _ => trivial) call later

end Config

end ResistorCutter
