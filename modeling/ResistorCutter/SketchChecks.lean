import ResistorCutter.SketchCore
import ResistorCutter.RefreshChecks

/-!
What a step of the sketch does to the object, the call stack and the point of control.
-/

namespace ResistorCutter

namespace Interface

variable (interface : Interface)

/-- A call of the button listener: the machine was not paused, the Start/Stop entry was
selected, and the argument is the new status. -/
theorem update_calls {percent state : Int} (called : (interface.update percent).2 = some state) :
    interface.updateSafety.running ≠ 2 ∧
      (state = 1 ∧ interface.updateSafety.running = 0 ∧ (interface.update percent).1.running = 1 ∨
        state = 0 ∧ interface.updateSafety.running ≠ 0 ∧
          (interface.update percent).1.running = 0) := by
  rcases interface.update_cases percent with ⟨_, paused⟩ | ⟨active, body⟩
  · simp [paused] at called
  · refine ⟨active, ?_⟩
    rw [body] at called ⊢
    rcases (interface.updateSafety.updateStatus percent).updateSwitch_cases with
      ⟨_, _, _, press⟩ | none
    · rw [press] at called ⊢
      simp only [updateStatus_running, toggleRunning_eq, refresh_running,
        Option.some.injEq] at called ⊢
      by_cases idle : interface.updateSafety.running = 0
      · left
        simp_all
      · right
        simp_all
    · simp [none] at called

end Interface

namespace Input

def quiet : Input := {}

def say (text : String) : Input := { line := some text }

def held : Input := { readings := { digital := fun _ _ => true } }

def pressed : Input := { readings := { digital := fun _ _ => false } }

def tilted (pin : AnalogPin) (value : Nat) : Input :=
  { readings := { analog := fun other _ => if other = pin then value else 2048 } }

end Input

namespace Config

theorem run_last (power : PowerUp) (inputs : List Input) (input : Input) :
    run power (inputs ++ [input]) = (run power inputs).step input := by
  simp [run, Runs.run_append]

theorem run_from (power : PowerUp) (inputs : List Input) (input : Input) (later : List Input) :
    run power (inputs ++ input :: later) = Runs.run step ((run power inputs).step input) later := by
  simp [run, Runs.run_append]

variable (config : Config) (input : Input)

def ReadsLine (text : String) : Prop :=
  config.point = .check ∧ ∃ line ∈ input.line, equalsIgnoreCase line.toList text.toList = true

instance (text : String) : Decidable (config.ReadsLine input text) :=
  inferInstanceAs (Decidable (_ ∧ _))

def SeesRelease : Prop :=
  config.point = .update ∧
    input.readings.digital .safe 0 ≠ config.interface.safetySwitch.prevState ∧
    input.readings.digital .safe 1 = false

instance : Decidable (config.SeesRelease input) := inferInstanceAs (Decidable (_ ∧ _ ∧ _))

def Resumes : Prop := config.ReadsLine input "resume" ∨ config.SeesRelease input

instance : Decidable (config.Resumes input) := inferInstanceAs (Decidable (_ ∨ _))

/-! Steps as public operations of the object. -/

def lineOperations : Option String → List Operation
  | none => []
  | some input =>
      if equalsIgnoreCase input.toList "pause".toList then [.setPausedStatus true]
      else if equalsIgnoreCase input.toList "resume".toList then [.setPausedStatus false]
      else []

def operations : List Operation :=
  match config.point with
  | .update => [.update config.percent input.readings]
  | .check => lineOperations input.line
  | .advance =>
      match config.stack with
      | [] => []
      | job :: _ => if job.i + 1 ≤ 100 then [] else [.doneRunning]

theorem checkPause_operations (line : Option String) (interface : Interface) :
    checkPause line interface = Runs.run Interface.perform interface (lineOperations line) := by
  cases line with
  | none => rfl
  | some input =>
      simp only [checkPause, lineOperations]
      split
      · rfl
      · split <;> rfl

theorem lineOperations_cases (line : Option String) :
    lineOperations line = [] ∨ lineOperations line = [.setPausedStatus true] ∨
      (∃ text ∈ line, equalsIgnoreCase text.toList "resume".toList = true) ∧
        lineOperations line = [.setPausedStatus false] := by
  cases line with
  | none => exact Or.inl rfl
  | some text =>
      simp only [lineOperations]
      split
      · exact Or.inr (Or.inl rfl)
      · split
        · rename_i resume
          exact Or.inr (Or.inr ⟨⟨text, rfl, resume⟩, rfl⟩)
        · exact Or.inl rfl

theorem checkPause_cases (line : Option String) (interface : Interface) :
    checkPause line interface = interface ∨
      checkPause line interface = interface.setPausedStatus true ∨
      (∃ text ∈ line, equalsIgnoreCase text.toList "resume".toList = true) ∧
        checkPause line interface = interface.setPausedStatus false := by
  rw [checkPause_operations]
  rcases lineOperations_cases line with none | pause | ⟨resume, back⟩
  · exact Or.inl (by rw [none]; rfl)
  · exact Or.inr (Or.inl (by rw [pause]; rfl))
  · exact Or.inr (Or.inr ⟨resume, by rw [back]; rfl⟩)

theorem repaused_checkPause (line : Option String) (interface : Interface) :
    Interface.Repaused interface (checkPause line interface) := by
  rcases checkPause_cases line interface with same | pause | ⟨_, back⟩
  · rw [same]
    exact ⟨rfl, rfl, rfl, rfl, rfl, rfl, rfl⟩
  · rw [pause]
    exact interface.repaused_setPausedStatus true
  · rw [back]
    exact interface.repaused_setPausedStatus false

theorem handleStateChange_interface (state : Int) :
    (config.handleStateChange state).interface = config.interface := by
  simp only [handleStateChange]
  split
  · rfl
  · split <;> rfl

theorem stepUpdate_interface :
    (config.stepUpdate input).interface = (config.callUpdate input).1 := by
  simp only [stepUpdate]
  split
  · rfl
  · rw [handleStateChange_interface]

theorem step_updated (atUpdate : config.point = .update) :
    (config.step input).interface = (config.callUpdate input).1 := by
  simp only [step, atUpdate]
  exact config.stepUpdate_interface input

theorem step_checked (atCheck : config.point = .check) :
    (config.step input).interface = checkPause input.line config.interface := by
  simp only [step, atCheck, stepCheck]
  split <;> rfl

theorem step_advanced (atAdvance : config.point = .advance) :
    (config.step input).interface = config.interface ∨
      (config.step input).interface = config.interface.doneRunning := by
  simp only [step, atAdvance, stepAdvance]
  split
  · exact Or.inl rfl
  · split
    · exact Or.inl rfl
    · exact Or.inr rfl

theorem untouched_elsewhere (elsewhere : config.point ≠ .update) :
    Interface.Untouched config.interface (config.step input).interface := by
  cases at' : config.point with
  | update => exact absurd at' elsewhere
  | check =>
      rw [config.step_checked input at']
      exact (repaused_checkPause input.line config.interface).untouched
  | advance =>
      rcases config.step_advanced input at' with same | done
      · rw [same]
        exact ⟨rfl, rfl, rfl, rfl, rfl, rfl⟩
      · rw [done]
        exact config.interface.untouched_doneRunning

theorem step_interface :
    (config.step input).interface =
      Runs.run Interface.perform config.interface (config.operations input) := by
  obtain ⟨interface, stack, point, started, serial⟩ := config
  cases point with
  | update => exact stepUpdate_interface _ input
  | check =>
      cases stack <;> exact checkPause_operations input.line interface
  | advance =>
      cases stack with
      | nil => rfl
      | cons job outer =>
          simp only [step, stepAdvance, operations]
          split <;> rfl

def events : List StatusEvent :=
  Runs.trace Interface.perform Interface.events config.interface (config.operations input)

theorem step_encoded :
    (config.step input).interface.encoded =
      Runs.run Encoded.next config.interface.encoded (config.events input) := by
  rw [step_interface, events, Runs.simulation_run Interface.encoded_perform]

theorem calls_eq (state : Int) (called : config.calls input = some state) :
    config.point = .update ∧ (config.callUpdate input).2 = some state := by
  simpa [calls] using called

/-! The stack and the point of control. -/

/-- A step at the call of `update`: it returns, with at most a stop accepted, or it enters the
progress loop of a new job. -/
theorem step_update (atUpdate : config.point = .update) :
    (config.calls input ≠ some 1 ∧ (config.step input).stack = config.stack ∧
      (config.step input).point = .check ∧ (config.step input).started = config.started) ∨
    (config.calls input = some 1 ∧
      (config.step input).stack =
        ⟨config.started, 0, (config.callUpdate input).1.getResistorsPerKit,
          (config.callUpdate input).1.getKits⟩ :: config.stack ∧
      (config.step input).point = .update ∧
      (config.step input).started = config.started + 1) := by
  simp only [step, atUpdate, calls, stepUpdate, ↓reduceIte]
  cases called : (config.callUpdate input).2 with
  | none => simp
  | some state =>
      rcases (Interface.update_calls _ called).2 with ⟨rfl, _⟩ | ⟨rfl, _⟩
      · right
        exact ⟨rfl, rfl, rfl, rfl⟩
      · left
        exact ⟨by simp, rfl, rfl, rfl⟩

theorem step_check_loop (atCheck : config.point = .check) (loop : config.stack = []) :
    (config.step input).stack = [] ∧ (config.step input).point = .update := by
  simp [step, atCheck, stepCheck, loop]

theorem step_check_job (atCheck : config.point = .check) {job : Job} {outer : List Job}
    (inside : config.stack = job :: outer) :
    (config.step input).stack = { job with
      i := if config.interface.running = 2 then job.i - 1 else job.i } :: outer ∧
      (config.step input).point = .advance := by
  have status : config.interface.getRunningStatus = 2 ↔ config.interface.running = 2 :=
    signed_injective.eq_iff (b := 2)
  simp [step, atCheck, stepCheck, inside, status]

theorem step_advance_loop (atAdvance : config.point = .advance) (loop : config.stack = []) :
    (config.step input).stack = [] := by
  simp [step, atAdvance, stepAdvance, loop]

theorem step_advance_next (atAdvance : config.point = .advance) {job : Job} {outer : List Job}
    (inside : config.stack = job :: outer) (more : job.i + 1 ≤ 100) :
    (config.step input).stack = { job with i := job.i + 1 } :: outer ∧
      (config.step input).point = .update ∧
      (config.step input).interface = config.interface := by
  simp [step, atAdvance, stepAdvance, inside, more]

theorem step_advance_done (atAdvance : config.point = .advance) {job : Job} {outer : List Job}
    (inside : config.stack = job :: outer) (last : 100 < job.i + 1) :
    (config.step input).stack = outer ∧ (config.step input).point = .check ∧
      (config.step input).interface = config.interface.doneRunning := by
  simp [step, atAdvance, stepAdvance, inside, Int.not_le.mpr last]

theorem step_check_started (atCheck : config.point = .check) :
    (config.step input).started = config.started := by
  simp only [step, atCheck, stepCheck]
  split <;> rfl

theorem step_advance_started (atAdvance : config.point = .advance) :
    (config.step input).started = config.started := by
  simp only [step, atAdvance, stepAdvance]
  split
  · rfl
  · split <;> rfl

end Config

end ResistorCutter
