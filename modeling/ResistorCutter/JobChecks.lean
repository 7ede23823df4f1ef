import ResistorCutter.ValidityChecks

/-!
When the progress loop keeps the machine to itself: as long as the machine is running or paused
from running at every call of `update` that a job makes, the job is the only one and the
numbers it announced stay the current ones.
-/

namespace ResistorCutter

namespace Interface

variable (interface : Interface)

theorem update_settings (readings : Readings) (percent : Int)
    (active : (interface.load readings).updateSafety.running ≠ 0) :
    ((interface.load readings).update percent).1.rPerKit = interface.rPerKit ∧
      ((interface.load readings).update percent).1.kits = interface.kits := by
  have safe := repaused_updateSafety interface readings
  rcases (interface.load readings).update_cases percent with ⟨_, early⟩ | ⟨_, body⟩
  · rw [early]
    exact ⟨safe.rPerKit, safe.kits⟩
  · rw [body, (switched_updateSwitch _).rPerKit, (switched_updateSwitch _).kits,
      updateStatus_active _ percent active]
    exact ⟨safe.rPerKit, safe.kits⟩

end Interface

namespace Config

variable (config : Config) (input : Input)

def AcceptsStop : Prop :=
  config.point = .update ∧ (config.interface.load input.readings).updateSafety.running = 1 ∧
    config.interface.switchPressed = false ∧ config.interface.currentSelection = 2 ∧
    input.readings.digital .sw 0 = false

instance : Decidable (config.AcceptsStop input) := inferInstanceAs (Decidable (_ ∧ _ ∧ _))

theorem calls_stop (valid : config.interface.encoded.Valid) (called : config.calls input = some 0) :
    config.AcceptsStop input := by
  obtain ⟨atUpdate, called⟩ := config.calls_eq input 0 called
  obtain ⟨notPaused, listener⟩ := Interface.update_calls _ called
  have active : (config.interface.load input.readings).updateSafety.running ≠ 0 := by
    rcases listener with ⟨impossible, _⟩ | ⟨_, active, _⟩
    · simp at impossible
    · exact active
  have running : (config.interface.load input.readings).updateSafety.running = 1 := by
    have safe : (config.interface.load input.readings).updateSafety.encoded.Valid := by
      rw [Interface.encoded_updateSafety]
      exact valid_encoded_run _ _ valid
    exact (safe.1.resolve_left active).resolve_right notPaused
  have kept := config.interface.repaused_updateSafety input.readings
  rcases (config.interface.load input.readings).update_cases config.percent with
    ⟨paused, _⟩ | ⟨_, body⟩
  · exact absurd paused notPaused
  · rcases ((config.interface.load input.readings).updateSafety.updateStatus
      config.percent).updateSwitch_cases with ⟨pressed, released, selected, _⟩ | none
    · rw [Interface.updateStatus_active _ _ active] at pressed released selected
      refine ⟨atUpdate, running, kept.switchPressed ▸ released,
        kept.currentSelection ▸ selected, ?_⟩
      simpa [Joystick.getSwitch, Board.digitalRead, Interface.updateSafety_sw] using pressed
    · simp [callUpdate, body, none] at called

/-- The innermost job takes a stop only in its last `update`, and no resume arrives while it
runs and no pause has left its mark in `prevRunning`, but for its last `checkPause`. -/
def JobOk : Prop :=
  ∀ job ∈ config.stack.head?,
    (config.AcceptsStop input → job.i = 100) ∧
    (config.Resumes input → config.interface.running = 1 → config.interface.prevRunning = 0 →
      config.point = .check ∧ job.i = 100)

instance : Decidable (config.JobOk input) :=
  inferInstanceAs (Decidable (∀ job ∈ config.stack.head?, (_ → _) ∧ (_ → _ → _ → _)))

/-- At most one job, which is engaged or past its last `update`, and whose numbers are current. -/
structure OneJob : Prop where
  single : config.stack.length ≤ 1
  engaged : ∀ job ∈ config.stack, config.interface.encoded.Engaged ∨
    job.i = 100 ∧ config.point ≠ .update ∧ (config.point = .check → config.interface.running ≠ 2)
  locked : ∀ job ∈ config.stack, job.rPerKit = config.interface.getResistorsPerKit ∧
    job.kits = config.interface.getKits

theorem oneJob_empty (empty : config.stack = []) : config.OneJob :=
  ⟨by simp [empty], by simp [empty], by simp [empty]⟩

theorem oneJob_only {job : Job} (only : config.stack = [job])
    (engaged : config.interface.encoded.Engaged ∨ job.i = 100 ∧ config.point ≠ .update ∧
      (config.point = .check → config.interface.running ≠ 2))
    (locked : job.rPerKit = config.interface.getResistorsPerKit ∧
      job.kits = config.interface.getKits) : config.OneJob := by
  refine ⟨by simp [only], ?_, ?_⟩
  · intro other member
    rw [only, List.mem_singleton] at member
    rw [member]
    exact engaged
  · intro other member
    rw [only, List.mem_singleton] at member
    rw [member]
    exact locked

theorem OneJob.alone {config : Config} (one : config.OneJob) {job : Job} {outer : List Job}
    (inside : config.stack = job :: outer) : config.stack = [job] := by
  have single := one.single
  rw [inside] at single ⊢
  simpa using single

theorem engaged_updateSafety (valid : config.interface.encoded.Valid)
    (engaged : config.interface.encoded.Engaged) (atUpdate : config.point = .update)
    (undoes : config.SeesRelease input → config.interface.running = 1 →
      config.interface.prevRunning ≠ 0) :
    (config.interface.load input.readings).updateSafety.encoded.Engaged := by
  rw [Interface.encoded_updateSafety]
  rcases config.interface.safetyEvents_cases input.readings with none | pause | ⟨release, back⟩
  · rw [none]
    exact engaged
  · rw [pause]
    exact Encoded.engaged_pause _ engaged
  · rw [back]
    exact Encoded.engaged_resume _ valid engaged (undoes ⟨atUpdate, release⟩)

theorem callUpdate_active
    (active : (config.interface.load input.readings).updateSafety.running ≠ 0) :
    ((config.callUpdate input).2 = none ∧ (config.callUpdate input).1.encoded =
        (config.interface.load input.readings).updateSafety.encoded) ∨
      (config.callUpdate input).2 = some 0 := by
  rw [callUpdate]
  rcases (config.interface.load input.readings).update_cases config.percent with
    ⟨_, early⟩ | ⟨_, body⟩
  · left
    rw [early]
    exact ⟨rfl, rfl⟩
  · rw [body]
    rcases ((config.interface.load input.readings).updateSafety.updateStatus
      config.percent).updateSwitch_cases with ⟨_, _, _, press⟩ | none
    · right
      rw [press, Interface.updateStatus_running, if_neg active]
    · left
      rw [none]
      exact ⟨rfl, Interface.encoded_updateStatus _ config.percent⟩

theorem getSettings_eq {before after : Interface}
    (same : after.rPerKit = before.rPerKit ∧ after.kits = before.kits) :
    after.getResistorsPerKit = before.getResistorsPerKit ∧ after.getKits = before.getKits := by
  simp [Interface.getResistorsPerKit, Interface.getKits, same.1, same.2]

theorem oneJob_started (loop : config.stack = []) (started : config.calls input = some 1)
    (stack : (config.step input).stack =
      ⟨config.started, 0, (config.callUpdate input).1.getResistorsPerKit,
        (config.callUpdate input).1.getKits⟩ :: config.stack) : (config.step input).OneJob := by
  obtain ⟨atUpdate, called⟩ := config.calls_eq input 1 started
  have running : (config.callUpdate input).1.running = 1 := by
    rcases (Interface.update_calls _ called).2 with ⟨_, _, running⟩ | ⟨impossible, _⟩
    · exact running
    · simp at impossible
  have result := config.step_updated input atUpdate
  rw [loop] at stack
  refine oneJob_only _ stack (Or.inl (Or.inl ?_)) ?_
  · rw [result]
    exact running
  · rw [result]
    exact ⟨rfl, rfl⟩

theorem oneJob_updated (atUpdate : config.point = .update) (valid : config.Valid)
    (one : config.OneJob) (ok : config.JobOk input) {job : Job} (inside : config.stack = [job]) :
    (config.step input).OneJob := by
  have result := config.step_updated input atUpdate
  have conditions := ok job (by simp [inside])
  have engaged : config.interface.encoded.Engaged :=
    (one.engaged job (by simp [inside])).resolve_right fun past => past.2.1 atUpdate
  have safe := config.engaged_updateSafety input valid.encoded engaged atUpdate (by
    intro release running nothing
    have late := (conditions.2 (Or.inr release) running nothing).1
    simp [atUpdate] at late)
  have active : (config.interface.load input.readings).updateSafety.running ≠ 0 := by
    intro idle
    rcases safe with running | ⟨paused, _⟩
    · simp [Interface.encoded, idle] at running
    · simp [Interface.encoded, idle] at paused
  have current := getSettings_eq
    (config.interface.update_settings input.readings config.percent active)
  have before := one.locked job (by simp [inside])
  have outcome := config.callUpdate_active input active
  have quiet : config.calls input ≠ some 1 := by
    rcases outcome with ⟨none, _⟩ | stop
    · simp [calls, atUpdate, none]
    · simp [calls, atUpdate, stop]
  rcases config.step_update input atUpdate with ⟨_, stack, point, _⟩ | ⟨started, _⟩
  · refine oneJob_only _ (stack.trans inside) ?_ ?_
    · rcases outcome with ⟨_, same⟩ | stop
      · exact Or.inl (by rw [result, same]; exact safe)
      · right
        have stopped : config.AcceptsStop input :=
          config.calls_stop input valid.encoded (by simp [calls, atUpdate, stop])
        refine ⟨conditions.1 stopped, by simp [point], ?_⟩
        intro _
        rcases (Interface.update_calls _ stop).2 with ⟨impossible, _⟩ | ⟨_, _, stopped⟩
        · simp at impossible
        · rw [result, callUpdate, stopped]
          decide
    · rw [result]
      exact ⟨before.1.trans current.1.symm, before.2.trans current.2.symm⟩
  · exact absurd started quiet

theorem oneJob_update (atUpdate : config.point = .update) (valid : config.Valid)
    (one : config.OneJob) (ok : config.JobOk input) : (config.step input).OneJob := by
  cases inside : config.stack with
  | nil =>
      rcases config.step_update input atUpdate with ⟨_, stack, _, _⟩ | ⟨started, stack, _, _⟩
      · exact oneJob_empty _ (stack.trans inside)
      · exact config.oneJob_started input inside started stack
  | cons job outer => exact config.oneJob_updated input atUpdate valid one ok (one.alone inside)

theorem engaged_checkPause (valid : config.interface.encoded.Valid)
    (engaged : config.interface.encoded.Engaged) (atCheck : config.point = .check)
    (undoes : config.ReadsLine input "resume" → config.interface.running = 1 →
      config.interface.prevRunning ≠ 0) :
    (checkPause input.line config.interface).encoded.Engaged := by
  rcases checkPause_cases input.line config.interface with same | pause | ⟨resume, back⟩
  · rw [same]
    exact engaged
  · rw [pause, Interface.encoded_setPausedStatus]
    exact Encoded.engaged_pause _ engaged
  · rw [back, Interface.encoded_setPausedStatus]
    exact Encoded.engaged_resume _ valid engaged (undoes ⟨atCheck, resume⟩)

theorem oneJob_check (atCheck : config.point = .check) (valid : config.Valid)
    (one : config.OneJob) (ok : config.JobOk input) : (config.step input).OneJob := by
  cases inside : config.stack with
  | nil => exact oneJob_empty _ (config.step_check_loop input atCheck inside).1
  | cons job outer =>
      have conditions := ok job (by simp [inside])
      obtain ⟨stack, point⟩ := config.step_check_job input atCheck (one.alone inside)
      have result := config.step_checked input atCheck
      have repaused := repaused_checkPause input.line config.interface
      have current := getSettings_eq ⟨repaused.rPerKit, repaused.kits⟩
      have before := one.locked job (by simp [inside])
      refine oneJob_only _ stack ?_ ?_
      · by_cases past : job.i = 100 ∧ config.interface.running ≠ 2
        · right
          simp [past, point]
        · left
          have engaged : config.interface.encoded.Engaged :=
            (one.engaged job (by simp [inside])).resolve_right
              fun late => past ⟨late.1, late.2.2 atCheck⟩
          rw [result]
          apply config.engaged_checkPause input valid.encoded engaged atCheck
          intro resume running nothing
          exact past ⟨(conditions.2 (Or.inl resume) running nothing).2, by simp [running]⟩
      · rw [result]
        exact ⟨before.1.trans current.1.symm, before.2.trans current.2.symm⟩

theorem oneJob_advance (atAdvance : config.point = .advance) (one : config.OneJob) :
    (config.step input).OneJob := by
  cases inside : config.stack with
  | nil => exact oneJob_empty _ (config.step_advance_loop input atAdvance inside)
  | cons job outer =>
      have only := one.alone inside
      by_cases more : job.i + 1 ≤ 100
      · obtain ⟨stack, _, result⟩ := config.step_advance_next input atAdvance only more
        have engaged : config.interface.encoded.Engaged :=
          (one.engaged job (by simp [inside])).resolve_right fun late => by omega
        refine oneJob_only _ stack (Or.inl ?_) ?_
        · rw [result]
          exact engaged
        · rw [result]
          exact one.locked job (by simp [inside])
      · exact oneJob_empty _ (config.step_advance_done input atAdvance only (by omega)).1

theorem oneJob_step (valid : config.Valid) (one : config.OneJob) (ok : config.JobOk input) :
    (config.step input).OneJob := by
  cases point : config.point with
  | update => exact config.oneJob_update input point valid one ok
  | check => exact config.oneJob_check input point valid one ok
  | advance => exact config.oneJob_advance input point one

theorem oneJob_run (power : PowerUp) (inputs : List Input)
    (met : Runs.StepsMeet step JobOk (init power) inputs) : (run power inputs).OneJob := by
  have both : (run power inputs).Valid ∧ (run power inputs).OneJob := by
    refine Runs.invariant_run (fun config => config.Valid ∧ config.OneJob) ?_ ?_ met
    · intro config input holds ok
      exact ⟨config.valid_step input holds.1, config.oneJob_step input holds.1 holds.2 ok⟩
    · exact ⟨valid_init power, by simp [init], by simp [init], by simp [init]⟩
  exact both.2

/-- At most one activation of the progress loop is on the stack after every run in which no job
is stopped before its last `update`, nor idled by a resume that finds no pause saved. -/
theorem at_most_one_job (power : PowerUp) (inputs : List Input)
    (met : Runs.StepsMeet step JobOk (init power) inputs) :
    (run power inputs).stack.length ≤ 1 :=
  (oneJob_run power inputs met).single

end Config

open Config Input

namespace Input

def start : List Input := [tilted .vrY 0, quiet, pressed]

end Input

theorem one_job_paused_and_resumed :
    (run .released (start ++ [quiet, say "pause", quiet, quiet, say "resume"])).stack.length ≤ 1 :=
  at_most_one_job .released _ (by decide)

/-- Start, stop during `update(1)`, release, and start again inside the loop that is still on. -/
theorem second_job_inside_first :
    ¬∀ (power : PowerUp) (inputs : List Input), (run power inputs).stack.length ≤ 1 := by
  intro all
  have single := all .released
    (start ++ [quiet, quiet, quiet, pressed, quiet, quiet, quiet, quiet, quiet, pressed])
  exact absurd single (by decide)

/-- Under the same condition `getResistorsPerKit` and `getKits` are, at every point of every
activation of the progress loop, the numbers that it announced when it started. -/
theorem Config.settings_locked (power : PowerUp) (inputs : List Input)
    (met : Runs.StepsMeet step JobOk (init power) inputs) :
    ∀ job ∈ (run power inputs).stack,
      job.rPerKit = (run power inputs).interface.getResistorsPerKit ∧
        job.kits = (run power inputs).interface.getKits :=
  (oneJob_run power inputs met).locked

theorem settings_locked_tilted :
    (run .released (start ++ [tilted .vrX 0, quiet, quiet])).stack.length = 1 ∧
      ∀ job ∈ (run .released (start ++ [tilted .vrX 0, quiet, quiet])).stack,
        job.rPerKit =
            (run .released (start ++ [tilted .vrX 0, quiet, quiet])).interface.getResistorsPerKit ∧
          job.kits = (run .released (start ++ [tilted .vrX 0, quiet, quiet])).interface.getKits :=
  ⟨by decide, settings_locked .released _ (by decide)⟩

theorem settings_change_after_stop :
    ¬∀ (power : PowerUp) (inputs : List Input), ∀ job ∈ (run power inputs).stack,
      job.rPerKit = (run power inputs).interface.getResistorsPerKit ∧
        job.kits = (run power inputs).interface.getKits := by
  intro all
  have locked := all .released (start ++ [quiet, quiet, quiet, pressed, quiet, quiet, tilted .vrY 0,
    quiet, quiet, quiet, quiet, quiet, tilted .vrX 4095])
  exact absurd locked (by decide)

end ResistorCutter
