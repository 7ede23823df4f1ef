import ResistorCutter.JobChecks

/-!
A stop inside a job. `handleSwitch` sets `running` to 0 and the listener returns at once, but the
progress loop only ever looks at status 2, so it goes on with its next percentage.
-/

namespace ResistorCutter

namespace Config

/-- A job on the stack of `stopped` does not, in `now`, call `update` with more than what it
was about to call it with in `stopped`. -/
def NoFurtherStep (stopped now : Config) : Prop :=
  now.point = .update → ∀ top ∈ now.stack.head?, ∀ job ∈ stopped.stack,
    top.id = job.id → top.i ≤ job.i

instance (stopped now : Config) : Decidable (NoFurtherStep stopped now) :=
  inferInstanceAs (Decidable (_ → ∀ top ∈ now.stack.head?, ∀ job ∈ stopped.stack, _ → _))

theorem quiet_check (config : Config) (atCheck : config.point = .check) :
    (config.step Input.quiet).interface = config.interface :=
  config.step_checked Input.quiet atCheck

theorem doneRunning_unpaused (interface : Interface) (unpaused : interface.running ≠ 2) :
    interface.doneRunning.running ≠ 2 := by
  rw [Interface.doneRunning_eq]
  split
  · exact unpaused
  · simp

theorem unfinished_job_continues (config : Config) (atCheck : config.point = .check)
    (unpaused : config.interface.running ≠ 2) (unfinished : ∃ job ∈ config.stack, job.i < 100) :
    ∃ later, (Runs.run step config later).point = .update ∧
      ∃ top ∈ (Runs.run step config later).stack.head?, ∃ job ∈ config.stack,
        top.id = job.id ∧ job.i < top.i := by
  induction inside : config.stack generalizing config with
  | nil => simp [inside] at unfinished
  | cons job outer ih =>
      obtain ⟨counted, atAdvance⟩ := config.step_check_job Input.quiet atCheck inside
      have checked : (config.step Input.quiet).stack = job :: outer := by
        rw [counted, if_neg unpaused]
      have same := config.quiet_check atCheck
      by_cases more : job.i + 1 ≤ 100
      · obtain ⟨stack, point, _⟩ :=
          (config.step Input.quiet).step_advance_next Input.quiet atAdvance checked more
        refine ⟨[Input.quiet, Input.quiet], point, { job with i := job.i + 1 }, ?_, job, ?_,
          rfl, ?_⟩
        · simp [Runs.run, stack]
        · simp
        · exact Int.lt_succ job.i
      · obtain ⟨stack, point, interface⟩ :=
          (config.step Input.quiet).step_advance_done Input.quiet atAdvance checked (by omega)
        have shorter : ∃ job ∈ ((config.step Input.quiet).step Input.quiet).stack, job.i < 100 := by
          obtain ⟨other, member, below⟩ := unfinished
          rw [inside] at member
          rcases List.mem_cons.mp member with here | later
          · subst here
            omega
          · exact ⟨other, by rw [stack]; exact later, below⟩
        obtain ⟨later, atUpdate, top, innermost, other, member, increased⟩ :=
          ih ((config.step Input.quiet).step Input.quiet) point
            (by rw [interface, same]; exact doneRunning_unpaused _ unpaused) shorter stack
        exact ⟨Input.quiet :: Input.quiet :: later, atUpdate, top, innermost, other,
          List.mem_cons_of_mem job member, increased⟩

/-- Where a stop is accepted, no activation of the progress loop ever takes a further step if
and only if every activation on the stack is in its last iteration. -/
theorem stop_ends_job_iff (power : PowerUp) (inputs : List Input) (input : Input)
    (stop : (run power inputs).calls input = some 0) :
    (∀ later, NoFurtherStep (run power inputs) (run power (inputs ++ input :: later))) ↔
      ∀ job ∈ (run power inputs).stack, job.i = 100 := by
  have valid := valid_run power inputs
  obtain ⟨atUpdate, called⟩ := calls_eq _ input 0 stop
  constructor
  · intro ended
    by_contra unfinished
    push Not at unfinished
    obtain ⟨job, member, different⟩ := unfinished
    have range := valid.all_in_range (by simp [atUpdate]) job member
    rcases (run power inputs).step_update input atUpdate with
      ⟨_, stack, atCheck, _⟩ | ⟨started, _⟩
    · have unpaused : ((run power inputs).step input).interface.running ≠ 2 := by
        rw [step_updated _ input atUpdate]
        rcases (Interface.update_calls _ called).2 with ⟨impossible, _⟩ | ⟨_, _, stopped⟩
        · simp at impossible
        · rw [callUpdate, stopped]
          decide
      obtain ⟨later, again, top, innermost, other, inside, increased⟩ :=
        unfinished_job_continues _ atCheck unpaused
          ⟨job, by rw [stack]; exact member, by omega⟩
      rw [← run_from] at again innermost
      have bound := ended later again top innermost other (by rw [← stack]; exact inside)
        increased.1
      omega
    · simp [stop] at started
  · intro last later again top innermost job member same
    have range := (valid_run power (inputs ++ input :: later)).all_in_range (by simp [again])
      top (List.mem_of_mem_head? innermost)
    rw [last job member]
    exact range.2

end Config

open Config Input

theorem stop_in_last_iteration :
    (run .released (start ++ List.replicate 300 quiet)).calls pressed = some 0 ∧
      ∀ later, NoFurtherStep (run .released (start ++ List.replicate 300 quiet))
        (run .released (start ++ List.replicate 300 quiet ++ pressed :: later)) := by
  have stop : (run .released (start ++ List.replicate 300 quiet)).calls pressed = some 0 := by
    decide +kernel
  exact ⟨stop, (stop_ends_job_iff .released _ pressed stop).mpr (by decide +kernel)⟩

theorem job_continues_after_stop :
    ¬∀ (power : PowerUp) (inputs : List Input) (input : Input) (later : List Input),
      (run power inputs).calls input = some 0 →
      NoFurtherStep (run power inputs) (run power (inputs ++ input :: later)) := by
  intro all
  have ended := all .released (start ++ [quiet, quiet, quiet]) pressed [quiet, quiet] (by decide)
  exact absurd ended (by decide)

end ResistorCutter
