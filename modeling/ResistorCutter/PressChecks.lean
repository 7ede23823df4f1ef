import ResistorCutter.SelectionChecks

/-!
Presses of the button against its samples. `switchPressed` is set by an accepted press only, so a
button that is held down on another entry counts as a new press once Start/Stop is selected.
-/

namespace ResistorCutter

namespace Interface

variable (interface : Interface) (readings : Readings) (percent : Int)

theorem update_sample :
    (Joystick.getSwitch ((interface.load readings).updateSafety.updateStatus percent).board).1 =
      !readings.digital .sw 0 := by
  have kept := stickRelation_digital.updateStatus (interface.load readings).updateSafety percent
  simp only [Joystick.getSwitch, Board.digitalRead, kept, updateSafety_sw]

theorem updateStatus_switchPressed :
    (interface.updateStatus percent).switchPressed = interface.switchPressed := by
  by_cases idle : interface.running = 0
  · exact (updateStatus_idle interface percent idle).switchPressed
  · rw [updateStatus_active interface percent idle]

theorem updateSwitch_press :
    (interface.updateSwitch.2.isSome = true ↔ (Joystick.getSwitch interface.board).1 = true ∧
      interface.switchPressed = false ∧ interface.currentSelection = 2) ∧
    interface.updateSwitch.1.switchPressed = ((Joystick.getSwitch interface.board).1 &&
      (interface.switchPressed || decide (interface.currentSelection = 2))) ∧
    interface.updateSwitch.1.currentSelection = interface.currentSelection := by
  refine ⟨?_, ?_, (switched_updateSwitch interface).currentSelection⟩ <;>
  · cases sample : (Joystick.getSwitch interface.board).1 with
    | false => simp [updateSwitch, sample]
    | true =>
        cases held : interface.switchPressed with
        | true => simp [updateSwitch, handleSwitch, sample, held]
        | false =>
            by_cases selected : interface.currentSelection = 2
            · simp [updateSwitch, handleSwitch, sample, held, selected, toggleRunning_eq]
            · simp [updateSwitch, handleSwitch, sample, held, selected]

def selectionAt : UInt8 :=
  ((interface.load readings).updateSafety.updateStatus percent).currentSelection

theorem update_press (active : (interface.load readings).updateSafety.running ≠ 2) :
    (((interface.load readings).update percent).2.isSome = true ↔
      (!readings.digital .sw 0) = true ∧ interface.switchPressed = false ∧
        interface.selectionAt readings percent = 2) ∧
    ((interface.load readings).update percent).1.switchPressed =
      (!readings.digital .sw 0 &&
        (interface.switchPressed || decide (interface.selectionAt readings percent = 2))) ∧
    ((interface.load readings).update percent).1.currentSelection =
      interface.selectionAt readings percent := by
  have before : ((interface.load readings).updateSafety.updateStatus percent).switchPressed =
      interface.switchPressed :=
    (updateStatus_switchPressed _ percent).trans
      (interface.repaused_updateSafety readings).switchPressed
  rcases (interface.load readings).update_cases percent with ⟨paused, _⟩ | ⟨_, body⟩
  · exact absurd paused active
  · have press :=
      updateSwitch_press ((interface.load readings).updateSafety.updateStatus percent)
    rw [update_sample, before] at press
    rw [body]
    exact press

theorem selectionAt_eq :
    interface.selectionAt readings percent =
      (Runs.run Selections.move interface.selections
        (interface.load readings).updateSafety.statusBranch).currentSelection := by
  rw [← updateSafety_selections interface readings, ← updateStatus_selections _ percent]
  rfl

theorem selectionAt_moved (elsewhere : interface.currentSelection ≠ 2) :
    interface.selectionAt readings percent = 2 ↔
      ∃ branch ∈ (interface.load readings).updateSafety.statusBranch,
        (interface.selections.move branch).currentSelection = 2 := by
  rw [selectionAt_eq]
  rcases (interface.load readings).updateSafety.statusBranch_cases with none | ⟨branch, one, _⟩
  · simp [none, selections, elsewhere]
  · simp [one]

end Interface

namespace Config

variable (config : Config) (input : Input)

def Samples : Prop :=
  config.point = .update ∧ (config.interface.load input.readings).updateSafety.running ≠ 2

instance : Decidable (config.Samples input) := inferInstanceAs (Decidable (_ ∧ _))

def sample (last : Option Bool) : Option Bool :=
  if config.Samples input then some (!input.readings.digital .sw 0) else last

/-- What `handleSwitch` accepts is a press that was a release at the last sample. -/
def Fresh (pair : Config × Option Bool) (input : Input) : Prop :=
  (pair.1.calls input).isSome = true →
    (!input.readings.digital .sw 0) = true ∧ pair.2 ≠ some true

instance (pair : Config × Option Bool) (input : Input) : Decidable (Fresh pair input) :=
  inferInstanceAs (Decidable (_ → _ ∧ _))

/-- The stick selects Start/Stop in the same `update` that finds the button still down since the
last sample, and nothing was accepted since it went down. -/
def SelectsHeld (pair : Config × Option Bool) (input : Input) : Prop :=
  pair.2 = some true ∧ (!input.readings.digital .sw 0) = true ∧
    pair.1.interface.switchPressed = false ∧ ∃ branch ∈ pair.1.branches input,
      (pair.1.interface.selections.move branch).currentSelection = 2

/-- A button that is down without having been accepted is not down on Start/Stop. -/
def Pending (pair : Config × Option Bool) : Prop :=
  pair.2 = some true → pair.1.interface.switchPressed = false →
    pair.1.interface.currentSelection ≠ 2

theorem step_silent (silent : ¬config.Samples input) :
    Interface.Untouched config.interface (config.step input).interface := by
  by_cases atUpdate : config.point = .update
  · have paused : (config.interface.load input.readings).updateSafety.running = 2 := by
      simpa [Samples, atUpdate] using silent
    rw [config.step_updated input atUpdate, callUpdate, Interface.update, if_pos paused]
    exact (config.interface.repaused_updateSafety input.readings).untouched
  · exact config.untouched_elsewhere input atUpdate

theorem pending_step (pair : Config × Option Bool) (input : Input) (pending : Pending pair) :
    Pending (Runs.noted step sample pair input) := by
  obtain ⟨config, last⟩ := pair
  intro down unaccepted
  by_cases sampled : config.Samples input
  · have press := (config.interface.update_press input.readings config.percent sampled.2).2
    simp only [Runs.noted, sample, if_pos sampled, config.step_updated input sampled.1,
      callUpdate, Option.some.injEq] at down unaccepted ⊢
    rw [press.1, down, Bool.true_and, Bool.or_eq_false_iff, decide_eq_false_iff_not] at unaccepted
    rw [press.2]
    exact unaccepted.2
  · have silent := config.step_silent input sampled
    simp only [Runs.noted, sample, if_neg sampled, silent.switchPressed,
      silent.currentSelection] at down unaccepted ⊢
    exact pending down unaccepted

theorem silent_idle (silent : ¬config.Samples input) :
    config.calls input = none ∧ config.branches input = [] := by
  by_cases atUpdate : config.point = .update
  · have paused : (config.interface.load input.readings).updateSafety.running = 2 := by
      simpa [Samples, atUpdate] using silent
    constructor
    · simp [calls, atUpdate, callUpdate, Interface.update, paused]
    · rw [config.branches_update input atUpdate]
      simp [Interface.statusBranch, paused]
  · exact ⟨by simp [calls, atUpdate], config.branches_elsewhere input atUpdate⟩

theorem fresh_iff (pair : Config × Option Bool) (input : Input) (pending : Pending pair) :
    Fresh pair input ↔ ¬SelectsHeld pair input := by
  obtain ⟨config, last⟩ := pair
  simp only [Fresh, SelectsHeld]
  by_cases sampled : config.Samples input
  · have press := (config.interface.update_press input.readings config.percent sampled.2).1
    rw [config.branches_update input sampled.1, calls, if_pos sampled.1, callUpdate, press]
    constructor
    · rintro fresh ⟨held, down, unaccepted, onto⟩
      have selected := (config.interface.selectionAt_moved input.readings config.percent
        (pending held unaccepted)).mpr onto
      exact (fresh ⟨down, unaccepted, selected⟩).2 held
    · rintro none ⟨down, unaccepted, selected⟩
      refine ⟨down, fun held => none ⟨held, down, unaccepted, ?_⟩⟩
      exact (config.interface.selectionAt_moved input.readings config.percent
        (pending held unaccepted)).mp selected
  · obtain ⟨uncalled, still⟩ := config.silent_idle input sampled
    simp [uncalled, still]

/-- In every run the accepted presses are all fresh if and only if the stick never selects
Start/Stop while the button is held down unaccepted. -/
theorem presses_fresh_iff (power : PowerUp) (inputs : List Input) :
    Runs.StepsMeet (Runs.noted step sample) Fresh (init power, none) inputs ↔
      Runs.StepsMeet (Runs.noted step sample) (fun pair input => ¬SelectsHeld pair input)
        (init power, none) inputs :=
  Runs.stepsMeet_congr pending_step fresh_iff (by simp [Pending]) inputs

end Config

def heldDown : List Input :=
  [.pressed, .quiet, { readings := { digital := fun _ _ => false, analog := fun _ _ => 0 } }]

theorem held_button_starts :
    ¬∀ (power : PowerUp) (inputs : List Input),
      Runs.StepsMeet (Runs.noted Config.step Config.sample) Config.Fresh (Config.init power, none)
        inputs := by
  intro all
  exact absurd (all .released heldDown) (by decide +kernel)

end ResistorCutter
