import Mathlib.Data.Nat.Find
import ResistorCutter.FinishChecks

/-!
The progress loop around pauses. An iteration that ends with the machine paused takes back its
count before `i++`, and the `update` in it has returned early for the same reason.
-/

namespace ResistorCutter

namespace Config

variable (config : Config) (input : Input)

/-! What a step adds to the history of the loop: the argument of a call of `update`, the same if
that call gets past its test of `running`, and the iteration whose own test sees 2. -/

def calledWith (config : Config) (_ : Input) : List Int :=
  if config.point = .update then [config.percent] else []

def passedWith : List Int :=
  if config.point = .update ∧ (config.interface.load input.readings).updateSafety.running ≠ 2 then
    [config.percent]
  else []

def pausedIn (config : Config) (_ : Input) : List Int :=
  if config.point = .check ∧ config.interface.running = 2 then [config.percent] else []

def Returned (start now : Config) : Prop := now.stack = start.stack.tail

instance (start now : Config) : Decidable (Returned start now) :=
  inferInstanceAs (Decidable (_ = _))

/-- All of an execution of the innermost job, in which no press of the button is accepted. -/
structure Execution (start : Config) (inputs : List Input) : Prop where
  silent : Runs.StepsMeet step (fun config input => ¬Returned start config ∧ config.Silent input)
    start inputs
  returned : Returned start (Runs.run step start inputs)

def progress : Int :=
  match config.stack, config.point with
  | [], _ => 0
  | job :: _, .update => job.i
  | job :: _, .check => if config.interface.running = 2 then job.i else job.i + 1
  | job :: _, .advance => job.i + 1

def unseen : Nat := if config.point = .check ∧ config.interface.running = 2 then 1 else 0

theorem silent_update (atUpdate : config.point = .update) (silent : config.Silent input) :
    (config.step input).stack = config.stack ∧ (config.step input).point = .check ∧
      (config.step input).interface.running =
        (config.interface.load input.readings).updateSafety.running := by
  have none : (config.callUpdate input).2 = none := by simpa [Silent, calls, atUpdate] using silent
  rcases config.step_update input atUpdate with ⟨_, stack, point, _⟩ | ⟨started, _⟩
  · refine ⟨stack, point, ?_⟩
    simp only [step, atUpdate, stepUpdate_interface, callUpdate] at none ⊢
    rcases (config.interface.load input.readings).update_cases config.percent with
      ⟨_, early⟩ | ⟨_, body⟩
    · rw [early]
    · rw [body] at none ⊢
      rcases ((config.interface.load input.readings).updateSafety.updateStatus
        config.percent).updateSwitch_cases with ⟨_, _, _, press⟩ | quiet
      · simp [press] at none
      · rw [quiet]
        exact Interface.updateStatus_running _ config.percent
  · rw [silent] at started
    simp at started

/-- A step of a job in which no press is accepted: the job returns from its last iteration, or
it goes on, and `update` gets past its test exactly if the count of the steps taken goes up. -/
theorem progress_step (valid : config.Valid) {job : Job} {outer : List Job}
    (inside : config.stack = job :: outer) (silent : config.Silent input) :
    (config.point = .advance ∧ config.progress = 101 ∧ (config.step input).stack = outer) ∨
    ∃ i, (config.step input).stack = { job with i := i } :: outer ∧
      (config.calledWith input).length + config.unseen =
        (config.passedWith input).length + (config.pausedIn input).length +
          (config.step input).unseen ∧
      (config.passedWith input = [] ∧ (config.step input).progress = config.progress ∨
        config.passedWith input = [config.progress] ∧
          (config.step input).progress = config.progress + 1) := by
  cases at' : config.point with
  | update =>
      right
      obtain ⟨stack, point, running⟩ := config.silent_update input at' silent
      rw [inside] at stack
      refine ⟨job.i, stack, ?_⟩
      simp only [calledWith, passedWith, pausedIn, unseen, progress, at', point, running, inside,
        stack, percent]
      by_cases paused : (config.interface.load input.readings).updateSafety.running = 2
      · simp [paused]
      · simp [paused]
  | check =>
      right
      obtain ⟨stack, point⟩ := config.step_check_job input at' inside
      refine ⟨_, stack, ?_⟩
      simp only [calledWith, passedWith, pausedIn, unseen, progress, at', point, inside, stack]
      by_cases paused : config.interface.running = 2
      · simp [paused]
      · simp [paused]
  | advance =>
      have range := valid.inner job (by simp [inside])
      simp only [at', ↓reduceIte] at range
      by_cases more : job.i + 1 ≤ 100
      · right
        obtain ⟨stack, point, _⟩ := config.step_advance_next input at' inside more
        refine ⟨_, stack, ?_⟩
        simp [calledWith, passedWith, pausedIn, unseen, progress, at', point, inside, stack]
      · left
        have last : job.i = 100 := by omega
        refine ⟨rfl, ?_, (config.step_advance_done input at' inside (by omega)).1⟩
        simp [progress, at', inside, last]

/-- The integers from `first` up to `last`, which is not among them. -/
def counted (first last : Int) : List Int :=
  (List.range (last - first).toNat).map fun n : Nat => first + n

theorem counted_self (n : Int) : counted n n = [] := by simp [counted]

theorem counted_cons {first last : Int} (below : first < last) :
    counted first last = first :: counted (first + 1) last := by
  obtain ⟨n, length⟩ : ∃ n : Nat, (last - first).toNat = n + 1 :=
    ⟨(last - first).toNat - 1, by omega⟩
  have shorter : (last - (first + 1)).toNat = n := by omega
  rw [counted, counted, length, shorter, List.range_succ_eq_map]
  rw [List.map_cons, List.map_map]
  refine List.cons_eq_cons.mpr ⟨Int.add_zero first, ?_⟩
  apply List.map_congr_left
  intro m _
  simp only [Function.comp_apply, Nat.succ_eq_add_one]
  omega

theorem progress_le (valid : config.Valid) : config.progress ≤ 101 := by
  cases inside : config.stack with
  | nil => simp [progress, inside]
  | cons job outer =>
      have range := valid.inner job (by simp [inside])
      cases at' : config.point with
      | update => simp only [progress, inside, at']; omega
      | check => simp only [progress, inside, at']; split <;> omega
      | advance => simp only [progress, inside, at']; omega

theorem execution_counts (valid : config.Valid) {job : Job} {outer : List Job}
    (inside : config.stack = job :: outer) (inputs : List Input)
    (silent : Runs.StepsMeet step (fun config input => config.stack ≠ outer ∧ config.Silent input)
      config inputs)
    (returned : (Runs.run step config inputs).stack = outer) :
    Runs.trace step passedWith config inputs = counted config.progress 101 ∧
      (Runs.trace step calledWith config inputs).length + config.unseen =
        (Runs.trace step passedWith config inputs).length +
          (Runs.trace step pausedIn config inputs).length := by
  induction inputs generalizing config job with
  | nil => simp [inside] at returned
  | cons input rest ih =>
      obtain ⟨⟨_, quiet⟩, later⟩ := silent
      rcases config.progress_step input valid inside quiet with
        ⟨atAdvance, last, stack⟩ | ⟨i, stack, balance, gain⟩
      · have ended : rest = [] := by
          cases rest with
          | nil => rfl
          | cons next rest => exact absurd stack later.1.1
        subst ended
        simp [Runs.trace, passedWith, calledWith, pausedIn, unseen, atAdvance, last, counted_self]
      · obtain ⟨passed, total⟩ := ih (config.step input) (config.valid_step input valid) stack
          later returned
        simp only [Runs.trace, List.length_append]
        refine ⟨?_, by omega⟩
        rw [passed]
        rcases gain with ⟨none, same⟩ | ⟨one, more⟩
        · rw [none, same, List.nil_append]
        · have bound := progress_le _ (config.valid_step input valid)
          rw [one, more, counted_cons (show config.progress < 101 by omega), List.singleton_append]

/-! Termination: three steps for every iteration that is left. -/

def remaining : Nat :=
  match config.stack, config.point with
  | [], _ => 0
  | job :: _, .update => (3 * (101 - job.i)).toNat
  | job :: _, .check => (3 * (101 - job.i) - 1).toNat
  | job :: _, .advance => (3 * (101 - job.i) - 2).toNat

theorem remaining_step (valid : config.Valid) {job : Job} {outer : List Job}
    (inside : config.stack = job :: outer) (silent : config.Silent input)
    (unpaused : config.pausedIn input = []) (active : (config.step input).stack ≠ outer) :
    (config.step input).remaining < config.remaining := by
  have range := valid.inner job (by simp [inside])
  cases at' : config.point with
  | update =>
      obtain ⟨stack, point, _⟩ := config.silent_update input at' silent
      rw [inside] at stack
      simp only [remaining, stack, point, inside, at']
      omega
  | check =>
      obtain ⟨stack, point⟩ := config.step_check_job input at' inside
      have running : config.interface.running ≠ 2 := by simpa [pausedIn, at'] using unpaused
      simp only [remaining, stack, point, inside, at', if_neg running]
      omega
  | advance =>
      by_cases more : job.i + 1 ≤ 100
      · obtain ⟨stack, point, _⟩ := config.step_advance_next input at' inside more
        simp only [remaining, stack, point, inside, at']
        omega
      · exact absurd (config.step_advance_done input at' inside (by omega)).1 active

theorem execution_ends (valid : config.Valid) {job : Job} {outer : List Job}
    (inside : config.stack = job :: outer) (stream : Nat → Input)
    (silent : ∀ n, (∀ m ≤ n, (Runs.along step config stream m).stack ≠ outer) →
      (Runs.along step config stream n).Silent (stream n))
    (finite : ∃ bound, ∀ n, bound ≤ n → (∀ m ≤ n, (Runs.along step config stream m).stack ≠ outer) →
      (Runs.along step config stream n).pausedIn (stream n) = []) :
    ∃ n, (Runs.along step config stream n).stack = outer := by
  obtain ⟨bound, unpaused⟩ := finite
  refine Runs.reaches_of_measure (fun config => config.stack = outer) remaining bound ?_
  intro never n late
  have quiet (n : Nat) := silent n fun m _ => never m
  have active (n : Nat) : (Runs.along step config stream n).Valid ∧
      ∃ job, (Runs.along step config stream n).stack = job :: outer := by
    induction n with
    | zero => exact ⟨valid, job, inside⟩
    | succ n ih =>
        obtain ⟨valid, job, inside⟩ := ih
        rw [Runs.along_succ]
        refine ⟨valid_step _ _ valid, ?_⟩
        rcases progress_step _ _ valid inside (quiet n) with ⟨_, _, ended⟩ | ⟨i, stack, _⟩
        · exact absurd (by rw [Runs.along_succ]; exact ended) (never (n + 1))
        · exact ⟨_, stack⟩
  obtain ⟨valid, job, inside⟩ := active n
  rw [Runs.along_succ]
  refine remaining_step _ _ valid inside (quiet n) (unpaused n late fun m _ => never m) ?_
  have next := never (n + 1)
  rwa [Runs.along_succ] at next

/-- In every execution of the progress loop in which no press is accepted, the calls of `update`
that get past the test of `running` have the arguments 0 to 100, each once and in order, and
there are 101 iterations and one more for each that saw 2; and on any endless supply of inputs of
which only finitely many iterations see 2 the execution ends. -/
theorem job_steps_once (power : PowerUp) (before : List Input) (input : Input)
    (started : (run power before).calls input = some 1) :
    (∀ inputs, Execution (run power (before ++ [input])) inputs →
      Runs.trace step passedWith (run power (before ++ [input])) inputs =
          (List.range 101).map Int.ofNat ∧
        (Runs.trace step calledWith (run power (before ++ [input])) inputs).length =
          101 + (Runs.trace step pausedIn (run power (before ++ [input])) inputs).length) ∧
    ∀ stream : Nat → Input,
      (∀ n, (∀ m ≤ n, ¬Returned (run power (before ++ [input]))
          (Runs.along step (run power (before ++ [input])) stream m)) →
        (Runs.along step (run power (before ++ [input])) stream n).Silent (stream n)) →
      (∃ bound, ∀ n, bound ≤ n → (∀ m ≤ n, ¬Returned (run power (before ++ [input]))
          (Runs.along step (run power (before ++ [input])) stream m)) →
        (Runs.along step (run power (before ++ [input])) stream n).pausedIn (stream n) = []) →
      ∃ n, Execution (run power (before ++ [input])) ((List.range n).map stream) := by
  have valid := valid_run power (before ++ [input])
  have atUpdate := (calls_eq _ input 1 started).1
  rw [run_last] at valid ⊢
  rcases (run power before).step_update input atUpdate with ⟨none, _⟩ | ⟨_, inside, point, _⟩
  · exact absurd started none
  · generalize (run power before).step input = start at valid inside point
    have zero : start.progress = 0 := by simp [progress, inside, point]
    have none : start.unseen = 0 := by simp [unseen, point]
    constructor
    · rintro inputs ⟨silent, returned⟩
      simp only [Returned, inside, List.tail_cons] at silent returned
      obtain ⟨passed, total⟩ := start.execution_counts valid inside inputs silent returned
      rw [zero] at passed
      have length : (Runs.trace step passedWith start inputs).length = 101 := by
        rw [passed]
        rfl
      exact ⟨passed, by omega⟩
    · intro stream silent finite
      simp only [Returned, inside, List.tail_cons] at silent finite
      have ends := start.execution_ends valid inside stream silent finite
      classical
      have least (m : Nat) (below : m < Nat.find ends) := Nat.find_min ends below
      refine ⟨Nat.find ends, ?_, ?_⟩
      · refine Runs.stepsMeet_along fun m below => ?_
        simp only [Returned, inside, List.tail_cons]
        exact ⟨least m below, silent m fun earlier before => least earlier (by omega)⟩
      · simp only [Returned, inside, List.tail_cons]
        exact Nat.find_spec ends

end Config

open Config Input

def pausedOnce : List Input :=
  [quiet, say "pause", quiet, quiet, say "resume"] ++ List.replicate 301 quiet

theorem job_steps_once_pausedOnce :
    Runs.trace step passedWith (run .released ([tilted .vrY 0, quiet] ++ [pressed])) pausedOnce =
        (List.range 101).map Int.ofNat ∧
      (Runs.trace step calledWith (run .released ([tilted .vrY 0, quiet] ++ [pressed]))
          pausedOnce).length =
        101 + (Runs.trace step pausedIn (run .released ([tilted .vrY 0, quiet] ++ [pressed]))
          pausedOnce).length :=
  (job_steps_once .released [tilted .vrY 0, quiet] pressed (by decide)).1 pausedOnce
    ⟨by decide +kernel, by decide +kernel⟩

end ResistorCutter
