import ResistorCutter.FinishChecks

/-!
Runs in which nobody stops a job or resumes the machine during one: then every job that ends has
nothing to leave over.
-/

namespace ResistorCutter

namespace Config

variable (config : Config) (input : Input)

def Undisturbed : Prop :=
  config.stack ≠ [] → ¬config.AcceptsStop input ∧ ¬config.Resumes input

instance : Decidable (config.Undisturbed input) := inferInstanceAs (Decidable (_ → _ ∧ _))

/-- Between jobs nothing is left over, and the only job on the stack is underway. -/
structure Tidy : Prop where
  single : config.stack.length ≤ 1
  settled : config.stack = [] → config.interface.encoded.Settled
  underway : config.stack ≠ [] → config.interface.encoded.Underway

theorem settled_updateSafety (settled : config.interface.encoded.Settled) :
    (config.interface.load input.readings).updateSafety.encoded.Settled := by
  rw [Interface.encoded_updateSafety]
  have others : Runs.StepsMeet Encoded.next (fun _ event => event ≠ .press)
      config.interface.encoded (config.interface.safetyEvents input.readings) :=
    Runs.stepsMeet_of_mem fun event member _ => safetyEvents_no_press _ _ event member
  exact Runs.invariant_run Encoded.Settled
    (fun encoded event settled other => encoded.settled_next event settled other) settled others

theorem underway_updateSafety (atUpdate : config.point = .update)
    (underway : config.interface.encoded.Underway) (held : ¬config.SeesRelease input) :
    (config.interface.load input.readings).updateSafety.encoded.Underway := by
  rw [Interface.encoded_updateSafety]
  rcases config.interface.safetyEvents_cases input.readings with none | pause | ⟨release, _⟩
  · rw [none]
    exact underway
  · rw [pause]
    exact Encoded.underway_pause _
  · exact absurd ⟨atUpdate, release⟩ held

theorem settled_callUpdate (settled : config.interface.encoded.Settled) :
    ((config.callUpdate input).2 = none ∧ (config.callUpdate input).1.encoded.Settled) ∨
      (config.callUpdate input).2 = some 1 ∧ (config.callUpdate input).1.encoded.Underway := by
  have safe := config.settled_updateSafety input settled
  rw [callUpdate]
  rcases (config.interface.load input.readings).update_cases config.percent with
    ⟨_, early⟩ | ⟨unpaused, body⟩
  · left
    rw [early]
    exact ⟨rfl, safe⟩
  · have idle : (config.interface.load input.readings).updateSafety.running = 0 :=
      safe.1.resolve_right unpaused
    rw [body]
    rcases ((config.interface.load input.readings).updateSafety.updateStatus
      config.percent).updateSwitch_cases with ⟨_, _, _, press⟩ | none
    · right
      rw [press, Interface.updateStatus_running, idle]
      refine ⟨rfl, Or.inr ⟨?_, ?_⟩⟩
      · simp [Interface.encoded, Interface.toggleRunning_eq]
      · simpa [Interface.encoded, Interface.toggleRunning_eq,
          Interface.updateStatus_prevRunning] using safe.2
    · left
      rw [none]
      refine ⟨rfl, ?_⟩
      simpa [Interface.encoded, Interface.updateStatus_running,
        Interface.updateStatus_prevRunning] using safe

theorem tidy_update (atUpdate : config.point = .update) (valid : config.Valid) (tidy : config.Tidy)
    (ok : config.Undisturbed input) : (config.step input).Tidy := by
  have result := config.step_updated input atUpdate
  by_cases loop : config.stack = []
  · rcases config.settled_callUpdate input (tidy.settled loop) with
      ⟨none, settled⟩ | ⟨started, underway⟩
    · rcases config.step_update input atUpdate with ⟨_, stack, _⟩ | ⟨impossible, _⟩
      · refine ⟨by simp [stack, loop], ?_, by simp [stack, loop]⟩
        intro _
        rw [result]
        exact settled
      · simp [calls, atUpdate, none] at impossible
    · rcases config.step_update input atUpdate with ⟨impossible, _⟩ | ⟨_, stack, _⟩
      · simp [calls, atUpdate, started] at impossible
      · refine ⟨by simp [stack, loop], by simp [stack], ?_⟩
        intro _
        rw [result]
        exact underway
  · obtain ⟨noStop, noResume⟩ := ok loop
    have safe := config.underway_updateSafety input atUpdate (tidy.underway loop)
      fun release => noResume (Or.inr release)
    have active : (config.interface.load input.readings).updateSafety.running ≠ 0 := by
      intro idle
      rcases safe with paused | ⟨running, _⟩
      · simp [Interface.encoded, idle] at paused
      · simp [Interface.encoded, idle] at running
    rcases config.callUpdate_active input active with ⟨none, same⟩ | stop
    · rcases config.step_update input atUpdate with ⟨_, stack, _⟩ | ⟨impossible, _⟩
      · refine ⟨by rw [stack]; exact tidy.single, by simp [stack, loop], ?_⟩
        intro _
        rw [result, same]
        exact safe
      · simp [calls, atUpdate, none] at impossible
    · exact absurd (config.calls_stop input valid.encoded (by simp [calls, atUpdate, stop])) noStop

theorem underway_checkPause (atCheck : config.point = .check)
    (underway : config.interface.encoded.Underway) (silent : ¬config.ReadsLine input "resume") :
    (checkPause input.line config.interface).encoded.Underway := by
  rcases checkPause_cases input.line config.interface with same | pause | ⟨resume, _⟩
  · rw [same]
    exact underway
  · rw [pause, Interface.encoded_setPausedStatus]
    exact Encoded.underway_pause _
  · exact absurd ⟨atCheck, resume⟩ silent

theorem tidy_check (atCheck : config.point = .check) (tidy : config.Tidy)
    (ok : config.Undisturbed input) : (config.step input).Tidy := by
  cases inside : config.stack with
  | nil =>
      have stack := (config.step_check_loop input atCheck inside).1
      refine ⟨by simp [stack], ?_, by simp [stack]⟩
      intro _
      exact config.settled_step input (tidy.settled inside) (by simp [calls, atCheck])
  | cons job outer =>
      have busy : config.stack ≠ [] := by simp [inside]
      have single := tidy.single
      have stack := (config.step_check_job input atCheck inside).1
      refine ⟨by rw [inside] at single; simpa [stack] using single, by simp [stack], ?_⟩
      intro _
      rw [config.step_checked input atCheck]
      exact config.underway_checkPause input atCheck (tidy.underway busy)
        fun resume => (ok busy).2 (Or.inl resume)

theorem tidy_advance (atAdvance : config.point = .advance) (tidy : config.Tidy) :
    (config.step input).Tidy := by
  cases inside : config.stack with
  | nil =>
      have stack := config.step_advance_loop input atAdvance inside
      refine ⟨by simp [stack], ?_, by simp [stack]⟩
      intro _
      exact config.settled_step input (tidy.settled inside) (by simp [calls, atAdvance])
  | cons job outer =>
      have underway := tidy.underway (by simp [inside])
      have alone : outer = [] := by simpa [inside] using tidy.single
      subst alone
      by_cases more : job.i + 1 ≤ 100
      · obtain ⟨stack, _, result⟩ := config.step_advance_next input atAdvance inside more
        refine ⟨by simp [stack], by simp [stack], ?_⟩
        intro _
        rw [result]
        exact underway
      · obtain ⟨stack, _, result⟩ := config.step_advance_done input atAdvance inside (by omega)
        refine ⟨by simp [stack], ?_, by simp [stack]⟩
        intro _
        rw [result]
        have done := Interface.encoded_apply config.interface .done
        simp only [Interface.apply] at done
        rw [done]
        exact Encoded.underway_done _ underway

theorem tidy_step (valid : config.Valid) (tidy : config.Tidy) (ok : config.Undisturbed input) :
    (config.step input).Tidy := by
  cases point : config.point with
  | update => exact config.tidy_update input point valid tidy ok
  | check => exact config.tidy_check input point tidy ok
  | advance => exact config.tidy_advance input point tidy

theorem tidy_run (power : PowerUp) (inputs : List Input)
    (met : Runs.StepsMeet step Undisturbed (init power) inputs) : (run power inputs).Tidy := by
  have both : (run power inputs).Valid ∧ (run power inputs).Tidy := by
    refine Runs.invariant_run (fun config => config.Valid ∧ config.Tidy) ?_ ?_ met
    · intro config input holds ok
      exact ⟨config.valid_step input holds.1, config.tidy_step input holds.1 holds.2 ok⟩
    · exact ⟨valid_init power, by simp [init], fun _ => ⟨Or.inl rfl, rfl⟩, by simp [init]⟩
  exact both.2

theorem undisturbed_jobs_leave_clean (power : PowerUp) (inputs : List Input)
    (met : Runs.StepsMeet step Undisturbed (init power) inputs)
    (finishes : (run power inputs).Finishes) : (run power inputs).interface.LeavesClean := by
  obtain ⟨_, job, single, _⟩ := finishes
  rcases (tidy_run power inputs met).underway (by simp [single]) with paused | ⟨running, saved⟩
  · exact Or.inl paused
  · exact Or.inr ⟨saved, Or.inl running⟩

/-- In a run in which no job is stopped and no resume comes while a job is on, each job, when it
returns, leaves the machine idle or paused from idle and the percentage 0, and from there no events
without an accepted press make the machine run. -/
theorem undisturbed_jobs_return_clean (power : PowerUp) (inputs : List Input)
    (met : Runs.StepsMeet step Undisturbed (init power) inputs) :
    ∀ before input after, inputs = before ++ input :: after → (run power before).Finishes →
      (run power (before ++ [input])).interface.Clean ∧
        ∀ later, Runs.StepsMeet step Silent (run power (before ++ [input])) later →
          (run power (before ++ input :: later)).interface.running ≠ 1 := by
  intro before input after split finishes
  rw [split, Runs.stepsMeet_append] at met
  have leaves := undisturbed_jobs_leave_clean power before met.1 finishes
  exact (finished_job_clean_iff power before input finishes).mpr leaves

end Config

open Config Input

/-- The job is paused in its last iteration, and resumed after it. -/
theorem undisturbed_jobs_return_clean_paused :
    (run .released (start ++ List.replicate 301 quiet ++ [say "pause"] ++
        [quiet])).interface.Clean ∧
      ∀ later, Runs.StepsMeet step Silent (run .released
          (start ++ List.replicate 301 quiet ++ [say "pause"] ++ [quiet])) later →
        (run .released (start ++ List.replicate 301 quiet ++ [say "pause"] ++
          quiet :: later)).interface.running ≠ 1 := by
  have met : Runs.StepsMeet step Undisturbed (init .released)
      (start ++ List.replicate 301 quiet ++ [say "pause"] ++ [quiet, say "resume"]) := by
    decide +kernel
  have finishes : (run .released (start ++ List.replicate 301 quiet ++ [say "pause"])).Finishes :=
    ⟨by decide +kernel, ⟨0, 100, 1, 1⟩, by decide +kernel, by decide⟩
  exact undisturbed_jobs_return_clean .released _ met _ quiet [say "resume"] rfl finishes

end ResistorCutter
