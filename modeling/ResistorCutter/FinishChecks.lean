import ResistorCutter.JobChecks

/-!
The end of a job. `doneRunning` resets other fields in each status it finds, and it does nothing
where it finds the machine idle, so what it leaves depends on how the job was interrupted.
-/

namespace ResistorCutter

namespace Interface

variable (interface : Interface)

structure Clean : Prop where
  settled : interface.encoded.Settled
  percent : interface.percent = 0

/-- Paused, or running with nothing saved by an earlier pause, or idle with nothing left over. -/
def LeavesClean : Prop :=
  interface.running = 2 ∨
    interface.prevRunning = 0 ∧ (interface.running = 1 ∨ interface.percent = 0)

instance : Decidable interface.LeavesClean := inferInstanceAs (Decidable (_ ∨ _ ∧ (_ ∨ _)))

theorem doneRunning_clean_iff (valid : interface.encoded.Valid) :
    interface.doneRunning.Clean ↔ interface.LeavesClean := by
  rw [doneRunning_eq]
  rcases valid.1 with idle | running | paused
  · replace idle : interface.running = 0 := idle
    rw [if_pos idle]
    constructor
    · rintro ⟨⟨_, saved⟩, percent⟩
      exact Or.inr ⟨saved, Or.inr percent⟩
    · intro leaves
      obtain ⟨saved, percent⟩ : interface.prevRunning = 0 ∧ interface.percent = 0 := by
        simpa [LeavesClean, idle] using leaves
      exact ⟨⟨Or.inl idle, saved⟩, percent⟩
  · replace running : interface.running = 1 := running
    rw [if_neg (by simp [running]), if_neg (by simp [running]), if_neg (by simp [running])]
    constructor
    · rintro ⟨⟨_, saved⟩, _⟩
      exact Or.inr ⟨saved, Or.inl running⟩
    · intro leaves
      have saved : interface.prevRunning = 0 := by simpa [LeavesClean, running] using leaves
      exact ⟨⟨Or.inl rfl, saved⟩, rfl⟩
  · replace paused : interface.running = 2 := paused
    rw [if_neg (by simp [paused]), if_pos paused, if_pos paused]
    constructor
    · intro _
      exact Or.inl paused
    · intro _
      exact ⟨⟨Or.inr rfl, rfl⟩, rfl⟩

end Interface

namespace Config

variable (config : Config) (input : Input)

def Finishes : Prop := config.point = .advance ∧ ∃ job, config.stack = [job] ∧ 100 < job.i + 1

theorem finishes_step (finishes : config.Finishes) :
    (config.step input).interface = config.interface.doneRunning := by
  obtain ⟨atAdvance, job, single, last⟩ := finishes
  exact (config.step_advance_done input atAdvance single last).2.2

theorem safetyEvents_no_press (interface : Interface) (readings : Readings) :
    ∀ event ∈ interface.safetyEvents readings, event ≠ .press := by
  rcases interface.safetyEvents_cases readings with none | pause | ⟨_, back⟩
  · simp [none]
  · simp [pause]
  · simp [back]

theorem events_no_press (silent : config.calls input = none) :
    ∀ event ∈ config.events input, event ≠ .press := by
  cases at' : config.point with
  | update =>
      have none : ((config.interface.load input.readings).update config.percent).2 = none := by
        simpa [calls, callUpdate, at'] using silent
      have same : config.events input = config.interface.safetyEvents input.readings := by
        simp [events, operations, at', Runs.trace, Interface.events, none]
      rw [same]
      exact safetyEvents_no_press config.interface input.readings
  | check =>
      simp only [events, operations, at']
      rcases lineOperations_cases input.line with none | pause | ⟨_, back⟩
      · simp [none, Runs.trace]
      · simp [pause, Runs.trace, Interface.events]
      · simp [back, Runs.trace, Interface.events]
  | advance =>
      simp only [events, operations, at']
      split
      · simp [Runs.trace]
      · split <;> simp [Runs.trace, Interface.events]

theorem settled_step (settled : config.interface.encoded.Settled)
    (silent : config.calls input = none) : (config.step input).interface.encoded.Settled := by
  rw [step_encoded]
  have others : Runs.StepsMeet Encoded.next (fun _ event => event ≠ .press)
      config.interface.encoded (config.events input) :=
    Runs.stepsMeet_of_mem fun event member _ => config.events_no_press input silent event member
  refine Runs.invariant_run Encoded.Settled ?_ settled others
  intro encoded event settled other
  exact encoded.settled_next event settled other

def Silent : Prop := config.calls input = none

instance : Decidable (config.Silent input) := inferInstanceAs (Decidable (_ = none))

/-- One return: when an outermost job returns, the machine is idle or paused from idle, the
percentage is 0, and no later events without an accepted press make it run, if and only if
`doneRunning` found it paused, or with nothing saved by an earlier pause and running or without a
percentage. -/
theorem finished_job_clean_iff (power : PowerUp) (inputs : List Input) (input : Input)
    (finishes : (run power inputs).Finishes) :
    ((run power (inputs ++ [input])).interface.Clean ∧
      ∀ later, Runs.StepsMeet step Silent (run power (inputs ++ [input])) later →
        (run power (inputs ++ input :: later)).interface.running ≠ 1) ↔
      (run power inputs).interface.LeavesClean := by
  have done : (run power (inputs ++ [input])).interface =
      (run power inputs).interface.doneRunning := by
    rw [run_last, finishes_step _ input finishes]
  rw [← Interface.doneRunning_clean_iff _ (valid_run power inputs).encoded, ← done]
  constructor
  · exact fun both => both.1
  · intro clean
    refine ⟨clean, ?_⟩
    intro later silent
    have settled : (run power (inputs ++ input :: later)).interface.encoded.Settled := by
      rw [run_from, ← run_last]
      refine Runs.invariant_run (fun config => config.interface.encoded.Settled) ?_
        clean.settled silent
      intro config input settled silent
      exact config.settled_step input settled silent
    intro running
    rcases settled.1 with idle | paused
    · simp [Interface.encoded, running] at idle
    · simp [Interface.encoded, running] at paused

end Config

open Config Input

theorem resumed_job_leaves_running_saved :
    ¬∀ (power : PowerUp) (inputs : List Input) (input : Input), (run power inputs).Finishes →
      (run power (inputs ++ [input])).interface.Clean := by
  intro all
  have finishes : (run .released
      (start ++ [quiet, say "pause", quiet, quiet, say "resume", quiet] ++
        List.replicate 299 quiet)).Finishes :=
    ⟨by decide +kernel, ⟨0, 100, 1, 1⟩, by decide +kernel, by decide⟩
  have clean := (all .released _ quiet finishes).settled.2
  exact absurd clean (by decide +kernel)

end ResistorCutter
