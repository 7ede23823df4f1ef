import ResistorCutter.StatusReference
import ResistorCutter.InterfaceChecks

/-!
`Interface` against the status automaton: every public operation acts on `running` and
`prevRunning` as the events it consists of, and the encoded status agrees with the automaton
exactly as long as no stray resume occurs.
-/

namespace ResistorCutter

namespace Interface

def encoded (interface : Interface) : Encoded := ⟨interface.running, interface.prevRunning⟩

/-- The code behind each event; a press stands for the body of `handleSwitch`. -/
def apply (interface : Interface) : StatusEvent → Interface
  | .press => interface.toggleRunning
  | .pause => interface.setPausedStatus true
  | .resume => interface.setPausedStatus false
  | .done => interface.doneRunning

theorem encoded_apply (interface : Interface) (event : StatusEvent) :
    (interface.apply event).encoded = interface.encoded.next event := by
  cases event with
  | press => rfl
  | pause =>
      by_cases paused : interface.running = 2
      · simp [apply, encoded, setPausedStatus_eq, Encoded.next, paused]
      · simp [apply, encoded, setPausedStatus_eq, Encoded.next, paused]
  | resume => simp [apply, encoded, setPausedStatus_eq, Encoded.next]
  | done =>
      by_cases idle : interface.running = 0
      · simp [apply, encoded, doneRunning_eq, Encoded.next, idle]
      · by_cases paused : interface.running = 2
        · simp [apply, encoded, doneRunning_eq, Encoded.next, paused]
        · simp [apply, encoded, doneRunning_eq, Encoded.next, idle, paused]

theorem encoded_setPausedStatus (interface : Interface) (paused : Bool) :
    (interface.setPausedStatus paused).encoded =
      interface.encoded.next (if paused then .pause else .resume) := by
  cases paused
  · exact encoded_apply interface .resume
  · exact encoded_apply interface .pause

end Interface

open Interface

theorem initial_encodes (power : PowerUp) :
    History.Encodes (construct power (zeroed power)).encoded History.initial :=
  ⟨rfl, rfl, by simp [History.initial]⟩

/-- After every prefix of the accepted presses, pauses, resumes and `doneRunning`s, `running`
is the status of the reference automaton, if and only if every resume that undoes no pause
finds the machine in the mode that the last pause saved. -/
theorem status_agrees_iff (power : PowerUp) (events : List StatusEvent)
    (accepted : Runs.StepsMeet apply (fun interface event => interface.encoded.Accepts event)
      (construct power (zeroed power)) events) :
    (∀ first, first <+: events →
        (Runs.run apply (construct power (zeroed power)) first).running =
          (Runs.run Status.next (.free .idle) first).code) ↔
      Runs.StepsMeet History.next History.Undoes History.initial events := by
  rw [Runs.stepsMeet_abstraction encoded_apply Encoded.Accepts] at accepted
  rw [← History.agrees_iff (initial_encodes power) accepted]
  have same (first : List StatusEvent) :
      (Runs.run apply (construct power (zeroed power)) first).running =
        (Runs.run Encoded.next (construct power (zeroed power)).encoded first).running := by
    rw [← Runs.run_abstraction encoded_apply]
    rfl
  simp only [same, History.initial]

theorem status_agrees_paused_job :
    (Runs.run apply (construct .released (zeroed .released))
        [.press, .pause, .resume, .done]).running =
      (Runs.run Status.next (.free .idle) [.press, .pause, .resume, .done]).code :=
  (status_agrees_iff .released [.press, .pause, .resume, .done]
    ⟨fun _ => by decide, nofun, nofun, nofun, trivial⟩).mpr
    ⟨nofun, nofun, nofun, nofun, trivial⟩ _ List.prefix_rfl

theorem stray_resume_restarts :
    ¬∀ (power : PowerUp) (events : List StatusEvent),
      Runs.StepsMeet apply (fun interface event => interface.encoded.Accepts event)
        (construct power (zeroed power)) events →
      (Runs.run apply (construct power (zeroed power)) events).running =
        (Runs.run Status.next (.free .idle) events).code := by
  intro all
  have agrees := all .released [.press, .pause, .resume, .done, .resume]
    ⟨fun _ => by decide, nofun, nofun, nofun, nofun, trivial⟩
  exact absurd agrees (by decide)

/-! The public operations. The callback that an `update` calls makes its own operations right
after it, so a list of operations also covers those that are nested. -/

inductive Operation
  | update (percent : Int) (readings : Readings)
  | setPausedStatus (paused : Bool)
  | doneRunning

namespace Interface

def perform (interface : Interface) : Operation → Interface
  | .update percent readings => ((interface.load readings).update percent).1
  | .setPausedStatus paused => interface.setPausedStatus paused
  | .doneRunning => interface.doneRunning

def safetyEvents (interface : Interface) (readings : Readings) : List StatusEvent :=
  if readings.digital .safe 0 = interface.safetySwitch.prevState then []
  else [if readings.digital .safe 1 then .pause else .resume]

theorem safetyEvents_cases (interface : Interface) (readings : Readings) :
    interface.safetyEvents readings = [] ∨ interface.safetyEvents readings = [.pause] ∨
      (readings.digital .safe 0 ≠ interface.safetySwitch.prevState ∧
        readings.digital .safe 1 = false) ∧ interface.safetyEvents readings = [.resume] := by
  simp only [safetyEvents]
  split
  · exact Or.inl rfl
  · rename_i changed
    cases second : readings.digital .safe 1 with
    | true => exact Or.inr (Or.inl rfl)
    | false => exact Or.inr (Or.inr ⟨⟨changed, rfl⟩, rfl⟩)

def events (interface : Interface) : Operation → List StatusEvent
  | .update percent readings => interface.safetyEvents readings ++
      if ((interface.load readings).update percent).2.isSome then [.press] else []
  | .setPausedStatus paused => [if paused then .pause else .resume]
  | .doneRunning => [.done]

theorem encoded_updateSafety (interface : Interface) (readings : Readings) :
    (interface.load readings).updateSafety.encoded =
      Runs.run Encoded.next interface.encoded (interface.safetyEvents readings) := by
  by_cases same : readings.digital .safe 0 = interface.safetySwitch.prevState
  · simp [updateSafety_same interface readings same, safetyEvents, same, encoded]
  · rw [updateSafety_changed interface readings same, encoded_setPausedStatus]
    simp [safetyEvents, same, encoded]

theorem encoded_updateSwitch (interface : Interface) :
    interface.updateSwitch.1.encoded = Runs.run Encoded.next interface.encoded
      (if interface.updateSwitch.2.isSome then [.press] else []) := by
  rcases interface.updateSwitch_cases with ⟨_, _, _, press⟩ | none
  · rw [press]
    rfl
  · rw [none]
    rfl

theorem encoded_updateStatus (interface : Interface) (percent : Int) :
    (interface.updateStatus percent).encoded = interface.encoded := by
  simp [encoded, updateStatus_running, updateStatus_prevRunning]

theorem encoded_perform (interface : Interface) (operation : Operation) :
    (interface.perform operation).encoded =
      Runs.run Encoded.next interface.encoded (interface.events operation) := by
  cases operation with
  | update percent readings =>
      simp only [perform, events, Runs.run_append, ← encoded_updateSafety]
      rcases (interface.load readings).update_cases percent with ⟨_, paused⟩ | ⟨_, active⟩
      · simp [paused]
      · rw [active, encoded_updateSwitch, encoded_updateStatus]
  | setPausedStatus paused => exact encoded_setPausedStatus interface paused
  | doneRunning => exact encoded_apply interface .done

end Interface

end ResistorCutter
