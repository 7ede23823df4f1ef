import Mathlib.Data.List.Basic
import Mathlib.Data.List.Perm.Basic

/-!
Runs of a deterministic step function on a list of inputs: invariants of runs whose
steps meet a condition, and simulation of one step function by another.
-/

namespace Runs

variable {σ ι τ κ : Type*}

def run (step : σ → ι → σ) (start : σ) (inputs : List ι) : σ :=
  inputs.foldl step start

@[simp] theorem run_nil (step : σ → ι → σ) (start : σ) : run step start [] = start := rfl

@[simp] theorem run_cons (step : σ → ι → σ) (start : σ) (input : ι) (rest : List ι) :
    run step start (input :: rest) = run step (step start input) rest := rfl

theorem run_append (step : σ → ι → σ) (start : σ) (first second : List ι) :
    run step start (first ++ second) = run step (run step start first) second :=
  List.foldl_append

theorem run_comm {step : σ → ι → σ}
    (exchange : ∀ state first second, step (step state first) second =
      step (step state second) first)
    (start : σ) (first second : List ι) :
    run step (run step start first) second = run step (run step start second) first := by
  rw [← run_append, ← run_append]
  have swapped : (first ++ second).Perm (second ++ first) := List.perm_append_comm
  have : RightCommutative step := ⟨exchange⟩
  exact swapped.foldl_eq start

/-- Every step of the run is taken from a state and with an input that `ok` relates. -/
def StepsMeet (step : σ → ι → σ) (ok : σ → ι → Prop) : σ → List ι → Prop
  | _, [] => True
  | start, input :: rest => ok start input ∧ StepsMeet step ok (step start input) rest

instance decidableStepsMeet (step : σ → ι → σ) (ok : σ → ι → Prop)
    [∀ state input, Decidable (ok state input)] :
    ∀ start inputs, Decidable (StepsMeet step ok start inputs)
  | _, [] => isTrue trivial
  | start, input :: rest =>
      have := decidableStepsMeet step ok (step start input) rest
      inferInstanceAs (Decidable (_ ∧ _))

theorem stepsMeet_of_mem {step : σ → ι → σ} {ok : σ → ι → Prop} {start : σ} {inputs : List ι}
    (met : ∀ input ∈ inputs, ∀ state, ok state input) : StepsMeet step ok start inputs := by
  induction inputs generalizing start with
  | nil => trivial
  | cons input rest ih =>
      exact ⟨met input (by simp) start, ih fun later member => met later (by simp [member])⟩

theorem stepsMeet_and (step : σ → ι → σ) (first second : σ → ι → Prop) (start : σ)
    (inputs : List ι) :
    StepsMeet step (fun state input => first state input ∧ second state input) start inputs ↔
      StepsMeet step first start inputs ∧ StepsMeet step second start inputs := by
  induction inputs generalizing start with
  | nil => simp [StepsMeet]
  | cons input rest ih =>
      simp only [StepsMeet, ih]
      exact and_and_and_comm

theorem stepsMeet_append (step : σ → ι → σ) (ok : σ → ι → Prop) (start : σ)
    (first second : List ι) :
    StepsMeet step ok start (first ++ second) ↔
      StepsMeet step ok start first ∧ StepsMeet step ok (run step start first) second := by
  induction first generalizing start with
  | nil => simp [StepsMeet]
  | cons input rest ih => simp [StepsMeet, ih, and_assoc]

theorem invariant_run {step : σ → ι → σ} {ok : σ → ι → Prop} (inv : σ → Prop)
    (keeps : ∀ state input, inv state → ok state input → inv (step state input))
    {start : σ} {inputs : List ι} (holds : inv start) (met : StepsMeet step ok start inputs) :
    inv (run step start inputs) := by
  induction inputs generalizing start with
  | nil => exact holds
  | cons input rest ih => exact ih (keeps start input holds met.1) met.2

theorem invariant_run_always {step : σ → ι → σ} {inv : σ → Prop}
    (keeps : ∀ state input, inv state → inv (step state input))
    {start : σ} (holds : inv start) (inputs : List ι) : inv (run step start inputs) := by
  induction inputs generalizing start with
  | nil => exact holds
  | cons input rest ih => exact ih (keeps start input holds)

/-- Steps that may fail do not, and stay related to the run of a model, if each of them can be
taken from every two related states. -/
theorem simulation_foldlM {step : σ → ι → Option σ} {model : τ → ι → τ} {ok : ι → Prop}
    (related : σ → τ → Prop)
    (keeps : ∀ state shown input, related state shown → ok input →
      ∃ next, step state input = some next ∧ related next (model shown input))
    {start : σ} {shown : τ} {inputs : List ι} (holds : related start shown)
    (met : ∀ input ∈ inputs, ok input) :
    ∃ last, inputs.foldlM step start = some last ∧ related last (run model shown inputs) := by
  induction inputs generalizing start shown with
  | nil => exact ⟨start, rfl, holds⟩
  | cons input rest ih =>
      obtain ⟨next, taken, kept⟩ := keeps start shown input holds (met input (by simp))
      rw [List.foldlM_cons, taken]
      exact ih kept fun later member => met later (by simp [member])

theorem invariant_foldlM {step : σ → ι → Option σ} {ok : ι → Prop} (inv : σ → Prop)
    (keeps : ∀ state input, inv state → ok input →
      ∃ next, step state input = some next ∧ inv next)
    {start : σ} {inputs : List ι} (holds : inv start) (met : ∀ input ∈ inputs, ok input) :
    ∃ last, inputs.foldlM step start = some last ∧ inv last :=
  @simulation_foldlM _ _ _ _ (fun shown _ => shown) _ (fun state (_ : Unit) => inv state)
    (fun state _ => keeps state) start () inputs holds met

/-- States stay related to those of a model as long as the steps of the model meet the condition. -/
theorem simulation_stepsMeet {step : σ → ι → σ} {model : τ → ι → τ} {ok : τ → ι → Prop}
    (related : σ → τ → Prop)
    (keeps : ∀ state shown input, related state shown → ok shown input →
      related (step state input) (model shown input))
    {start : σ} {shown : τ} {inputs : List ι} (holds : related start shown)
    (met : StepsMeet model ok shown inputs) :
    related (run step start inputs) (run model shown inputs) := by
  induction inputs generalizing start shown with
  | nil => exact holds
  | cons input rest ih => exact ih (keeps start shown input holds met.1) met.2

theorem stepsMeet_congr {step : σ → ι → σ} {first second : σ → ι → Prop} {inv : σ → Prop}
    (keeps : ∀ state input, inv state → inv (step state input))
    (same : ∀ state input, inv state → (first state input ↔ second state input))
    {start : σ} (holds : inv start) (inputs : List ι) :
    StepsMeet step first start inputs ↔ StepsMeet step second start inputs := by
  induction inputs generalizing start with
  | nil => rfl
  | cons input rest ih =>
      simp only [StepsMeet, same start input holds, ih (keeps start input holds)]

theorem forall_prefix_cons {property : List ι → Prop} (input : ι) (rest : List ι) :
    (∀ first, first <+: input :: rest → property first) ↔
      property [] ∧ ∀ first, first <+: rest → property (input :: first) := by
  constructor
  · intro all
    exact ⟨all [] List.nil_prefix,
      fun first isPrefix => all (input :: first) (List.cons_prefix_cons.mpr ⟨rfl, isPrefix⟩)⟩
  · rintro ⟨empty, all⟩ first isPrefix
    cases first with
    | nil => exact empty
    | cons head first =>
        obtain ⟨same, shorter⟩ := List.cons_prefix_cons.mp isPrefix
        subst same
        exact all first shorter

/-- Where every state of a run is to be good: if `inv` makes a state good, steps that meet `ok` keep
`inv`, and a step that does not meet it leads to a state that is not good, then the states of a
run are all good exactly if its steps all meet `ok`. -/
theorem good_iff_stepsMeet {step : σ → ι → σ} {ok : σ → ι → Prop} {inv good : σ → Prop}
    (sound : ∀ state, inv state → good state)
    (keeps : ∀ state input, inv state → ok state input → inv (step state input))
    (breaks : ∀ state input, inv state → ¬ok state input → ¬good (step state input))
    {start : σ} (holds : inv start) (inputs : List ι) :
    (∀ first, first <+: inputs → good (run step start first)) ↔ StepsMeet step ok start inputs := by
  induction inputs generalizing start with
  | nil => simpa [StepsMeet] using sound start holds
  | cons input rest ih =>
      rw [forall_prefix_cons]
      simp only [run_nil, run_cons, sound start holds, true_and, StepsMeet]
      by_cases met : ok start input
      · simp only [met, true_and, ih (keeps start input holds met)]
      · simp only [met, false_and, iff_false, not_forall]
        exact ⟨[], List.nil_prefix, breaks start input holds met⟩

/-! Runs on an endless supply of inputs. -/

def along (step : σ → ι → σ) (start : σ) (stream : ℕ → ι) (n : ℕ) : σ :=
  run step start ((List.range n).map stream)

theorem along_succ (step : σ → ι → σ) (start : σ) (stream : ℕ → ι) (n : ℕ) :
    along step start stream (n + 1) = step (along step start stream n) (stream n) := by
  simp [along, List.range_succ, run_append]

theorem stepsMeet_along {step : σ → ι → σ} {ok : σ → ι → Prop} {start : σ} {stream : ℕ → ι}
    {n : ℕ} (met : ∀ m < n, ok (along step start stream m) (stream m)) :
    StepsMeet step ok start ((List.range n).map stream) := by
  induction n with
  | zero => trivial
  | succ n ih =>
      rw [List.range_succ, List.map_append, stepsMeet_append]
      exact ⟨ih fun m below => met m (by omega), met n (by omega), trivial⟩

/-- From `bound` on a measure falls with every step as long as `goal` has not been reached; so it
is reached. -/
theorem reaches_of_measure {step : σ → ι → σ} {start : σ} {stream : ℕ → ι} (goal : σ → Prop)
    (measure : σ → ℕ) (bound : ℕ)
    (falls : (∀ n, ¬goal (along step start stream n)) → ∀ n, bound ≤ n →
      measure (along step start stream (n + 1)) < measure (along step start stream n)) :
    ∃ n, goal (along step start stream n) := by
  by_contra never
  push Not at never
  have below (n : ℕ) : measure (along step start stream (bound + n)) + n ≤
      measure (along step start stream bound) := by
    induction n with
    | zero => simp
    | succ n ih =>
        have fallen := falls never (bound + n) (by omega)
        rw [Nat.add_assoc] at fallen
        omega
  have impossible := below (measure (along step start stream bound) + 1)
  omega

/-! Runs that take notes of what happens in them. -/

def noted (step : σ → ι → σ) (note : σ → ι → τ → τ) (pair : σ × τ) (input : ι) : σ × τ :=
  (step pair.1 input, note pair.1 input pair.2)

theorem stepsMeet_noted (step : σ → ι → σ) (note : σ → ι → τ → τ) (ok : σ → ι → Prop)
    (pair : σ × τ) (inputs : List ι) :
    StepsMeet (noted step note) (fun pair input => ok pair.1 input) pair inputs ↔
      StepsMeet step ok pair.1 inputs := by
  induction inputs generalizing pair with
  | nil => rfl
  | cons input rest ih => simp only [StepsMeet, ih, noted]

def trace (step : σ → ι → σ) (events : σ → ι → List κ) : σ → List ι → List κ
  | _, [] => []
  | start, input :: rest => events start input ++ trace step events (step start input) rest

theorem forall_mem_trace {step : σ → ι → σ} {events : σ → ι → List κ} {property : κ → Prop}
    (each : ∀ state input, ∀ event ∈ events state input, property event) (start : σ)
    (inputs : List ι) : ∀ event ∈ trace step events start inputs, property event := by
  induction inputs generalizing start with
  | nil => simp [trace]
  | cons input rest ih =>
      intro event member
      rcases List.mem_append.mp member with now | later
      · exact each start input event now
      · exact ih (step start input) event later

theorem forall_mem_trace_of_invariant {step : σ → ι → σ} {events : σ → ι → List κ}
    {property : κ → Prop} {ok : ι → Prop} (inv : σ → Prop)
    (keeps : ∀ state input, inv state → ok input →
      inv (step state input) ∧ ∀ event ∈ events state input, property event)
    {start : σ} {inputs : List ι} (holds : inv start) (met : ∀ input ∈ inputs, ok input) :
    ∀ event ∈ trace step events start inputs, property event := by
  induction inputs generalizing start with
  | nil => simp [trace]
  | cons input rest ih =>
      obtain ⟨kept, now⟩ := keeps start input holds (met input (by simp))
      intro event member
      rcases List.mem_append.mp member with here | later
      · exact now event here
      · exact ih kept (fun other below => met other (by simp [below])) event later

theorem related_run {step : σ → ι → σ} {events : σ → ι → List κ} {related : σ → σ → Prop}
    (keeps : ∀ left right input, related left right →
      related (step left input) (step right input) ∧ events left input = events right input)
    {left right : σ} (start : related left right) (inputs : List ι) :
    related (run step left inputs) (run step right inputs) ∧
      trace step events left inputs = trace step events right inputs := by
  induction inputs generalizing left right with
  | nil => exact ⟨start, rfl⟩
  | cons input rest ih =>
      obtain ⟨next, now⟩ := keeps left right input start
      obtain ⟨final, later⟩ := ih next
      refine ⟨final, ?_⟩
      rw [trace, trace, now, later]

/-- If the abstraction of each step is the abstract run on its events, the abstraction of a
run is the abstract run on its trace. -/
theorem simulation_run {step : σ → ι → σ} {abstractStep : τ → κ → τ} {abstraction : σ → τ}
    {events : σ → ι → List κ}
    (simulates : ∀ state input, abstraction (step state input) =
      run abstractStep (abstraction state) (events state input))
    (start : σ) (inputs : List ι) :
    abstraction (run step start inputs) =
      run abstractStep (abstraction start) (trace step events start inputs) := by
  induction inputs generalizing start with
  | nil => rfl
  | cons input rest ih => rw [run_cons, ih, simulates, trace, run_append]

theorem run_abstraction {step : σ → ι → σ} {abstractStep : τ → ι → τ} {abstraction : σ → τ}
    (simulates : ∀ state input, abstraction (step state input) =
      abstractStep (abstraction state) input) (start : σ) (inputs : List ι) :
    abstraction (run step start inputs) = run abstractStep (abstraction start) inputs := by
  induction inputs generalizing start with
  | nil => rfl
  | cons input rest ih => rw [run_cons, ih, simulates, run_cons]

theorem stepsMeet_abstraction {step : σ → ι → σ} {abstractStep : τ → ι → τ}
    {abstraction : σ → τ} (simulates : ∀ state input, abstraction (step state input) =
      abstractStep (abstraction state) input) (ok : τ → ι → Prop) (start : σ) (inputs : List ι) :
    StepsMeet step (fun state input => ok (abstraction state) input) start inputs ↔
      StepsMeet abstractStep ok (abstraction start) inputs := by
  induction inputs generalizing start with
  | nil => rfl
  | cons input rest ih => simp only [StepsMeet, ih, simulates]

end Runs
