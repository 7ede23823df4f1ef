import ResistorCutter.SketchChecks

/-!
The invariant of all reachable configurations: the status is well encoded, every percentage is
one, and no job is started while the machine is paused.
-/

namespace ResistorCutter

namespace Config

variable (config : Config) (input : Input)

/-- The status is well encoded, the percentage is one, and the counter of every job is in the
range of its loop; only between the status test and `i++` may the innermost one be -1. -/
structure Valid : Prop where
  encoded : config.interface.encoded.Valid
  percent : config.interface.percent ≤ 100
  inner : ∀ job ∈ config.stack.head?,
    (if config.point = .advance then -1 else 0) ≤ job.i ∧ job.i ≤ 100
  outer : ∀ job ∈ config.stack.tail, 0 ≤ job.i ∧ job.i ≤ 100
  fresh : ∀ job ∈ config.stack, job.id < config.started
  distinct : (config.stack.map Job.id).Nodup

theorem Valid.all_in_range {config : Config} (valid : config.Valid)
    (outside : config.point ≠ .advance) : ∀ job ∈ config.stack, 0 ≤ job.i ∧ job.i ≤ 100 := by
  have inner := valid.inner
  have outer := valid.outer
  simp only [outside, ↓reduceIte] at inner
  intro job member
  cases inside : config.stack with
  | nil => simp [inside] at member
  | cons first rest =>
      simp only [inside, List.head?_cons, List.tail_cons, Option.mem_def, Option.some.injEq,
        forall_eq'] at inner outer member
      rcases List.mem_cons.mp member with same | later
      · rw [same]
        exact inner
      · exact outer job later

theorem valid_init (power : PowerUp) : (init power).Valid := by
  refine ⟨⟨Or.inl rfl, Or.inl rfl⟩, ?_, ?_, ?_, ?_, List.nodup_nil⟩
  · change (0 : UInt32) ≤ 100
    decide
  all_goals simp [init]

theorem valid_encoded_run (encoded : Encoded) (events : List StatusEvent)
    (valid : encoded.Valid) : (Runs.run Encoded.next encoded events).Valid :=
  Runs.invariant_run_always Encoded.valid_next valid events

theorem operations_inRange (valid : config.Valid) :
    ∀ operation ∈ config.operations input, operation.InRange := by
  cases at' : config.point with
  | update =>
      simp only [operations, at', List.mem_singleton, forall_eq, Operation.InRange, percent]
      cases inside : config.stack with
      | nil => exact Or.inl rfl
      | cons job outer =>
          have range := valid.inner job (by simp [inside])
          simp only [at', reduceCtorEq, ↓reduceIte] at range
          exact Or.inr range
  | check =>
      simp only [operations, at']
      rcases lineOperations_cases input.line with none | pause | ⟨_, back⟩
      · simp [none]
      · simp [pause, Operation.InRange]
      · simp [back, Operation.InRange]
  | advance =>
      simp only [operations, at']
      split
      · simp
      · split <;> simp [Operation.InRange]

theorem step_percent (valid : config.Valid) : (config.step input).interface.percent ≤ 100 := by
  rw [step_interface]
  have ranges : Runs.StepsMeet Interface.perform (fun _ operation => operation.InRange)
      config.interface (config.operations input) :=
    Runs.stepsMeet_of_mem fun operation member _ => config.operations_inRange input valid _ member
  refine Runs.invariant_run (fun interface => interface.percent ≤ 100) ?_ valid.percent ranges
  intro interface operation stored range
  exact interface.perform_percent operation range stored

/-! The call stack, at each point of control. -/

section

variable (encoded : (config.step input).interface.encoded.Valid)
  (percent : (config.step input).interface.percent ≤ 100)

include encoded percent

theorem valid_update (atUpdate : config.point = .update) (valid : config.Valid) :
    (config.step input).Valid := by
  have range := valid.inner
  simp only [atUpdate, reduceCtorEq, ↓reduceIte] at range
  rcases config.step_update input atUpdate with
    ⟨_, stack, point, started⟩ | ⟨_, stack, point, started⟩
  · refine ⟨encoded, percent, ?_, ?_, ?_, ?_⟩
    · simpa [stack, point] using range
    · simpa [stack] using valid.outer
    · simpa [stack, started] using valid.fresh
    · simpa [stack] using valid.distinct
  · refine ⟨encoded, percent, by simp [stack, point], ?_, ?_, ?_⟩
    · rw [stack, List.tail_cons]
      intro job member
      exact valid.all_in_range (by simp [atUpdate]) job member
    · rw [stack, started]
      intro job member
      rcases List.mem_cons.mp member with same | later
      · subst same
        exact Nat.lt_succ_self _
      · exact Nat.lt_succ_of_lt (valid.fresh job later)
    · rw [stack, List.map_cons, List.nodup_cons]
      refine ⟨?_, valid.distinct⟩
      intro member
      obtain ⟨job, belongs, same⟩ := List.mem_map.mp member
      exact absurd (valid.fresh job belongs) (by simp [same])

theorem valid_empty (empty : (config.step input).stack = []) : (config.step input).Valid :=
  ⟨encoded, percent, by simp [empty], by simp [empty], by simp [empty], by simp [empty]⟩

theorem valid_counted (valid : config.Valid) {job : Job} {outer : List Job} {i : Int}
    (inside : config.stack = job :: outer)
    (stack : (config.step input).stack = { job with i := i } :: outer)
    (started : (config.step input).started = config.started)
    (range : (if (config.step input).point = .advance then -1 else 0) ≤ i ∧ i ≤ 100) :
    (config.step input).Valid := by
  refine ⟨encoded, percent, ?_, ?_, ?_, ?_⟩
  · intro top member
    simp only [stack, List.head?_cons, Option.mem_def, Option.some.injEq] at member
    subst member
    exact range
  · simpa [stack, inside] using valid.outer
  · simpa [stack, started, inside] using valid.fresh
  · simpa [stack, inside] using valid.distinct

theorem valid_check (atCheck : config.point = .check) (valid : config.Valid) :
    (config.step input).Valid := by
  cases inside : config.stack with
  | nil =>
      have empty := (config.step_check_loop input atCheck inside).1
      exact config.valid_empty input encoded percent empty
  | cons job outer =>
      obtain ⟨stack, point⟩ := config.step_check_job input atCheck inside
      have started := config.step_check_started input atCheck
      have range := valid.inner job (by simp [inside])
      simp only [atCheck, reduceCtorEq, ↓reduceIte] at range
      apply config.valid_counted input encoded percent valid inside stack started
      simp only [point, ↓reduceIte]
      split <;> omega

theorem valid_advance (atAdvance : config.point = .advance) (valid : config.Valid) :
    (config.step input).Valid := by
  have started := config.step_advance_started input atAdvance
  cases inside : config.stack with
  | nil =>
      have empty := config.step_advance_loop input atAdvance inside
      exact config.valid_empty input encoded percent empty
  | cons job outer =>
      have range := valid.inner job (by simp [inside])
      simp only [atAdvance, ↓reduceIte] at range
      by_cases more : job.i + 1 ≤ 100
      · obtain ⟨stack, point, _⟩ := config.step_advance_next input atAdvance inside more
        apply config.valid_counted input encoded percent valid inside stack started
        simp only [point, reduceCtorEq, ↓reduceIte]
        omega
      · obtain ⟨stack, point, _⟩ := config.step_advance_done input atAdvance inside (by omega)
        have outside (top : Job) (member : top ∈ outer) : 0 ≤ top.i ∧ top.i ≤ 100 :=
          valid.outer top (by simpa [inside] using member)
        have fresh := valid.fresh
        have distinct := valid.distinct
        simp only [inside, List.mem_cons, forall_eq_or_imp, List.map_cons,
          List.nodup_cons] at fresh distinct
        refine ⟨encoded, percent, ?_, ?_, ?_, ?_⟩
        · intro top member
          simp only [point, reduceCtorEq, ↓reduceIte]
          rw [stack] at member
          exact outside top (List.mem_of_mem_head? member)
        · intro top member
          rw [stack] at member
          exact outside top (List.mem_of_mem_tail member)
        · simpa [stack, started] using fresh.2
        · simpa [stack] using distinct.2

end

theorem valid_step (valid : config.Valid) : (config.step input).Valid := by
  have encoded : (config.step input).interface.encoded.Valid := by
    rw [step_encoded]
    exact valid_encoded_run _ _ valid.encoded
  have percent := step_percent config input valid
  cases at' : config.point with
  | update => exact config.valid_update input encoded percent at' valid
  | check => exact config.valid_check input encoded percent at' valid
  | advance => exact config.valid_advance input encoded percent at' valid

theorem valid_run (power : PowerUp) (inputs : List Input) : (run power inputs).Valid :=
  Runs.invariant_run_always (fun config input valid => config.valid_step input valid)
    (valid_init power) inputs

/-! The error branch of `handleStateChange`. -/

theorem handleStateChange_serial (state : Int) (known : state = 0 ∨ state = 1)
    (absent : pausedError ∉ config.serial) :
    pausedError ∉ (config.handleStateChange state).serial := by
  have pressed (rest : String) : pausedError ≠ "Button pressed! Machine is " ++ rest := by
    intro same
    simpa [pausedError] using congrArg (fun text => text.toList.head?) same
  have cutting (rest : String) : pausedError ≠ " Cutting groups of " ++ rest := by
    intro same
    simpa [pausedError] using congrArg (fun text => text.toList.head?) same
  rcases known with rfl | rfl
  · simp only [handleStateChange, print, String.append_assoc]
    simp [absent, pressed]
    decide
  · simp only [handleStateChange, print, enterLoop, String.append_assoc]
    simp [absent, pressed, cutting]

theorem step_serial (absent : pausedError ∉ config.serial) :
    pausedError ∉ (config.step input).serial := by
  simp only [step]
  split
  · simp only [stepUpdate]
    split
    · exact absent
    · rename_i state called
      refine handleStateChange_serial _ state ?_ absent
      rcases (Interface.update_calls _ called).2 with ⟨one, _⟩ | ⟨zero, _⟩
      · exact Or.inr one
      · exact Or.inl zero
  · simp only [stepCheck]
    split <;> exact absent
  · simp only [stepAdvance]
    split
    · exact absent
    · split <;> exact absent

/-- In every reachable configuration the two status fields and the percentage have their
intended values, the progress loop passes no negative percentage, and the button listener is
called with the current status, 0 or 1; so its error branch is never taken. -/
theorem reachable_valid (power : PowerUp) (inputs : List Input) :
    ((run power inputs).interface.running = 0 ∨ (run power inputs).interface.running = 1 ∨
      (run power inputs).interface.running = 2) ∧
    ((run power inputs).interface.prevRunning = 0 ∨
      (run power inputs).interface.prevRunning = 1) ∧
    (run power inputs).interface.percent ≤ 100 ∧
    ((run power inputs).point = .update → (run power inputs).stack ≠ [] →
      0 ≤ (run power inputs).percent) ∧
    (∀ input state, (run power inputs).calls input = some state →
      state = ((run power inputs).callUpdate input).1.getRunningStatus ∧
        (state = 0 ∨ state = 1)) ∧
    pausedError ∉ (run power inputs).serial := by
  have valid := valid_run power inputs
  refine ⟨valid.encoded.1, valid.encoded.2, valid.percent, ?_, ?_, ?_⟩
  · intro atUpdate nonempty
    obtain ⟨job, outer, inside⟩ := List.exists_cons_of_ne_nil nonempty
    simpa [percent, inside] using (valid.all_in_range (by simp [atUpdate]) job (by simp [inside])).1
  · intro input state called
    have listener := (Interface.update_calls _ ((run power inputs).calls_eq input state called).2).2
    simp only [callUpdate, Interface.getRunningStatus]
    rcases listener with ⟨rfl, _, running⟩ | ⟨rfl, _, running⟩
    · rw [running]
      exact ⟨rfl, Or.inr rfl⟩
    · rw [running]
      exact ⟨rfl, Or.inl rfl⟩
  · exact Runs.invariant_run_always (fun config input absent => step_serial config input absent)
      (show pausedError ∉ (init power).serial by simp [init]) inputs

end Config

end ResistorCutter
