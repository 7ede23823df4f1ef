import ResistorCutter.ValidityChecks
import ResistorCutter.ReadingChecks

/-!
The two sources of a pause, the safety switch and the Serial line, along whole runs: when a held
switch keeps the machine paused, and how long a pause that the operator asked for lasts.
-/

namespace ResistorCutter

namespace Config

variable (config : Config) (input : Input)

theorem paused_step (paused : config.interface.running = 2)
    (silent : ¬config.ReadsLine input "resume") (held : ¬config.SeesRelease input) :
    (config.step input).interface.running = 2 := by
  cases at' : config.point with
  | update =>
      have kept : (config.interface.load input.readings).updateSafety.running = 2 := by
        by_cases same : input.readings.digital .safe 0 = config.interface.safetySwitch.prevState
        · rw [Interface.updateSafety_same _ _ same]
          exact paused
        · have pressed : input.readings.digital .safe 1 = true := by
            simpa [SeesRelease, at', same] using held
          rw [Interface.updateSafety_changed _ _ same, pressed, Interface.setPausedStatus_eq]
          rfl
      rw [config.step_updated input at', callUpdate]
      rcases (config.interface.load input.readings).update_cases config.percent with
        ⟨_, early⟩ | ⟨active, _⟩
      · rw [early]
        exact kept
      · exact absurd kept active
  | check =>
      rw [config.step_checked input at']
      rcases checkPause_cases input.line config.interface with same | pause | ⟨resume, _⟩
      · rw [same]
        exact paused
      · rw [pause, Interface.setPausedStatus_eq]
        rfl
      · exact absurd ⟨at', resume⟩ silent
  | advance =>
      rcases config.step_advanced input at' with same | done
      · rw [same]
        exact paused
      · rw [done, Interface.doneRunning_eq, paused]
        rfl

/-! The operator's pause. -/

def NotResumed (config : Config) (input : Input) : Prop :=
  ¬config.ReadsLine input "resume" ∧ ¬config.SeesRelease input

instance : Decidable (config.NotResumed input) := inferInstanceAs (Decidable (_ ∧ _))

theorem pause_line_pauses (reads : config.ReadsLine input "pause") :
    (config.step input).interface.running = 2 := by
  obtain ⟨atCheck, line, read, equal⟩ := reads
  rw [config.step_checked input atCheck, Option.mem_def.mp read]
  simp only [checkPause, equal, ↓reduceIte]
  rw [Interface.setPausedStatus_eq]
  rfl

/-- Once `checkPause` has read `pause`, `running` is 2 after every later step until a `checkPause`
reads `resume` or an `update` finds the safety switch changed to released. -/
theorem operator_pause_lasts (power : PowerUp) (before : List Input) (input : Input)
    (later : List Input) (reads : (run power before).ReadsLine input "pause")
    (undisturbed : Runs.StepsMeet step NotResumed (run power (before ++ [input])) later) :
    (run power (before ++ input :: later)).interface.running = 2 := by
  rw [run_from, ← run_last]
  refine Runs.invariant_run (fun config => config.interface.running = 2) ?_ ?_ undisturbed
  · intro config input paused ok
    exact config.paused_step input paused ok.1 ok.2
  · rw [run_last]
    exact (run power before).pause_line_pauses input reads

end Config

open Config Input

theorem operator_pause_outlasts_press :
    (run .released ([quiet] ++ say "Pause" :: [held, quiet, held])).interface.running = 2 :=
  operator_pause_lasts .released [quiet] (say "Pause") [held, quiet, held] (by decide) (by decide)

theorem release_cancels_operator_pause :
    ¬∀ (power : PowerUp) (before : List Input) (input : Input) (later : List Input),
      (run power before).ReadsLine input "pause" →
      Runs.StepsMeet step (fun config input => ¬config.ReadsLine input "resume")
        (run power (before ++ [input])) later →
      (run power (before ++ input :: later)).interface.running = 2 := by
  intro all
  have paused := all .released [quiet] (say "pause") [held, quiet, quiet] (by decide) (by decide)
  exact absurd paused (by decide)

/-! The interlock. -/

namespace Config

variable (config : Config) (input : Input)

def Held : Prop :=
  ∀ level, Reading.digital .safe level ∈ (config.callUpdate input).1.board.log → level = true

instance : Decidable (config.Held input) := inferInstanceAs (Decidable (∀ _, _ → _))

theorem Held.first_reading {config : Config} {input : Input} (held : config.Held input) :
    input.readings.digital .safe 0 = true :=
  held _ (config.interface.update_log input.readings config.percent)

def Locked : Prop := config.interface.safetySwitch.prevState = true → config.interface.running = 2

/-- A change to `pressed` is confirmed by the second reading, and no `resume` line is read while
the last sample is `pressed`. -/
def InterlockOk : Prop :=
  (config.point = .update → config.interface.safetySwitch.prevState = false →
    input.readings.digital .safe 0 = true → input.readings.digital .safe 1 = true) ∧
  (config.ReadsLine input "resume" → config.interface.safetySwitch.prevState = false)

instance : Decidable (config.InterlockOk input) := inferInstanceAs (Decidable (_ ∧ _))

def FirstSampleOk (power : PowerUp) (inputs : List Input) : Prop :=
  ∀ input ∈ inputs.head?, power.safe = false → input.readings.digital .safe 0 = false

theorem update_prevState (atUpdate : config.point = .update) :
    (config.step input).interface.safetySwitch.prevState = input.readings.digital .safe 0 := by
  have sampled : (config.interface.load input.readings).updateSafety.safetySwitch.prevState =
      input.readings.digital .safe 0 := by
    by_cases same : input.readings.digital .safe 0 = config.interface.safetySwitch.prevState
    · rw [Interface.updateSafety_same _ _ same, same]
    · rw [Interface.updateSafety_changed _ _ same, Interface.setPausedStatus_safetySwitch]
  rw [config.step_updated input atUpdate, callUpdate]
  rcases (config.interface.load input.readings).update_cases config.percent with
    ⟨_, early⟩ | ⟨_, body⟩
  · rw [early, sampled]
  · rw [body, (Interface.switched_updateSwitch _).safetySwitch,
      Interface.updateStatus_safetySwitch, sampled]

theorem update_pauses (atUpdate : config.point = .update)
    (released : config.interface.safetySwitch.prevState = false)
    (first : input.readings.digital .safe 0 = true)
    (second : input.readings.digital .safe 1 = true) :
    (config.step input).interface.running = 2 := by
  have paused : (config.interface.load input.readings).updateSafety.running = 2 := by
    rw [Interface.updateSafety_changed _ _ (by simp [released, first]), second,
      Interface.setPausedStatus_eq]
    rfl
  rw [config.step_updated input atUpdate, callUpdate]
  rcases (config.interface.load input.readings).update_cases config.percent with
    ⟨_, early⟩ | ⟨active, _⟩
  · rw [early]
    exact paused
  · exact absurd paused active

theorem prevState_unchanged (outside : config.point ≠ .update) :
    (config.step input).interface.safetySwitch = config.interface.safetySwitch := by
  cases at' : config.point with
  | update => exact absurd at' outside
  | check =>
      rw [config.step_checked input at']
      rcases checkPause_cases input.line config.interface with none | pause | ⟨_, back⟩
      · rw [none]
      · rw [pause, Interface.setPausedStatus_safetySwitch]
      · rw [back, Interface.setPausedStatus_safetySwitch]
  | advance =>
      rcases config.step_advanced input at' with same | done
      · rw [same]
      · rw [done, Interface.doneRunning_eq]
        split <;> rfl

theorem locked_step (locked : config.Locked) (ok : config.InterlockOk input) :
    (config.step input).Locked := by
  intro pressed
  by_cases atUpdate : config.point = .update
  · rw [config.update_prevState input atUpdate] at pressed
    cases before : config.interface.safetySwitch.prevState with
    | false =>
        exact config.update_pauses input atUpdate before pressed (ok.1 atUpdate before pressed)
    | true =>
        refine config.paused_step input (locked before) ?_ ?_
        · simp [ReadsLine, atUpdate]
        · simp [SeesRelease, pressed, before]
  · rw [config.prevState_unchanged input atUpdate] at pressed
    refine config.paused_step input (locked pressed) ?_ ?_
    · intro resumes
      simp [ok.2 resumes] at pressed
    · simp [SeesRelease, atUpdate]

theorem locked_first_step (power : PowerUp) (input : Input)
    (first : power.safe = false → input.readings.digital .safe 0 = false)
    (ok : (init power).InterlockOk input) : ((init power).step input).Locked := by
  cases level : power.safe with
  | true =>
      apply (init power).locked_step input _ ok
      intro pressed
      have released : (init power).interface.safetySwitch.prevState = !power.safe := rfl
      simp [released, level] at pressed
  | false =>
      intro pressed
      rw [(init power).update_prevState input rfl, first level] at pressed
      simp at pressed

/-- While the switch is held, every `update` returns with the machine paused, as long as no
`resume` line is read while the last sample is `pressed`, every change to `pressed` is confirmed
by the second reading, and the first `update` does not find the switch pressed that the
constructor found released. -/
theorem interlock_holds (power : PowerUp) (inputs : List Input)
    (first : FirstSampleOk power inputs)
    (met : Runs.StepsMeet step InterlockOk (init power) inputs) :
    ∀ before input after, inputs = before ++ input :: after →
      (run power before).point = .update → (run power before).Held input →
      (run power (before ++ [input])).interface.running = 2 := by
  intro before input after split atUpdate held
  have locked : (run power (before ++ [input])).Locked := by
    cases inputs with
    | nil => simp at split
    | cons head rest =>
        have start := locked_first_step power head (first head (by simp)) met.1
        have shorter : ∃ others, rest = others ++ after ∧ before ++ [input] = head :: others := by
          cases before with
          | nil =>
              simp only [List.nil_append, List.cons.injEq] at split
              exact ⟨[], by simp [split.2], by simp [split.1]⟩
          | cons one others =>
              simp only [List.cons_append, List.cons.injEq] at split
              exact ⟨others ++ [input], by simp [split.2], by simp [split.1]⟩
        obtain ⟨others, whole, same⟩ := shorter
        have metOthers := met.2
        rw [whole, Runs.stepsMeet_append] at metOthers
        rw [same]
        change (Runs.run step ((init power).step head) others).Locked
        exact Runs.invariant_run Locked
          (fun config input locked ok => config.locked_step input locked ok) start metOthers.1
  apply locked
  rw [run_last, (run power before).update_prevState input atUpdate]
  exact held.first_reading

end Config

theorem interlock_pauses_pressed :
    (run .released ([quiet, quiet] ++ [held])).interface.running = 2 := by
  have first : FirstSampleOk .released [quiet, quiet, held] := by
    rintro input ⟨⟩ _
    rfl
  exact interlock_holds .released [quiet, quiet, held] first (by decide) [quiet, quiet] held []
    rfl (by decide) (by decide)

theorem resume_defeats_interlock :
    ¬∀ (power : PowerUp) (before : List Input) (input : Input),
      (run power before).point = .update → (run power before).Held input →
      (run power (before ++ [input])).point = .check →
      (run power (before ++ [input])).interface.running = 2 := by
  intro all
  have paused := all .released [quiet, quiet, held, say "resume"] held (by decide) (by decide)
    (by decide)
  exact absurd paused (by decide)

end ResistorCutter
