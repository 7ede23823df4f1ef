import ResistorCutter.StatusChecks

/-!
The paused phase. From the pause to the resume nothing but `doneRunning` changes what the resume
brings back, however often the machine is paused again and whatever `update` is called with.
-/

namespace ResistorCutter

namespace Interface

/-- Further pauses, `update`s in which `getChange` reports no change, and `doneRunning`s. -/
def KeepsPause (interface : Interface) : Operation → Prop
  | .update _ readings => (interface.safetySwitch.getChange (Board.load readings)).1 = false
  | .setPausedStatus paused => paused = true
  | .doneRunning => True

instance (interface : Interface) : ∀ operation, Decidable (interface.KeepsPause operation)
  | .update _ _ => inferInstanceAs (Decidable (_ = false))
  | .setPausedStatus _ => inferInstanceAs (Decidable (_ = true))
  | .doneRunning => isTrue trivial

def listener (interface : Interface) : Operation → Option Int
  | .update percent readings => ((interface.load readings).update percent).2
  | _ => none

def finishes : Operation → Bool
  | .doneRunning => true
  | _ => false

/-- What the fields are in a pause that was entered in the state `before`, with or without a
`doneRunning` since. -/
structure Frozen (before : Interface) (finished : Bool) (now : Interface) : Prop where
  running : now.running = 2
  prevRunning : now.prevRunning = if finished then 0 else before.running
  percent : now.percent = if finished then 0 else before.percent
  untouched : Untouched before now

theorem frozen_pause (interface : Interface) (unpaused : interface.running ≠ 2) :
    Frozen interface false (interface.setPausedStatus true) := by
  have kept := interface.repaused_setPausedStatus true
  refine ⟨?_, ?_, kept.percent, kept.untouched⟩
  · rw [setPausedStatus_eq]
    rfl
  · rw [setPausedStatus_eq]
    simp [unpaused]

theorem getChange_same {interface : Interface} {readings : Readings}
    (unchanged : (interface.safetySwitch.getChange (Board.load readings)).1 = false) :
    readings.digital .safe 0 = interface.safetySwitch.prevState := by
  by_contra changed
  simp [SafetySwitch.getChange, Board.digitalRead, Board.load, changed] at unchanged

theorem frozen_perform {before now : Interface} {finished : Bool} (operation : Operation)
    (frozen : Frozen before finished now) (keeps : now.KeepsPause operation) :
    Frozen before (finished || finishes operation) (now.perform operation) ∧
      now.listener operation = none := by
  cases operation with
  | update percent readings =>
      have same := updateSafety_same now readings (getChange_same keeps)
      rcases (now.load readings).update_cases percent with ⟨_, early⟩ | ⟨active, _⟩
      · simp only [perform, listener, early, same, finishes, Bool.or_false]
        exact ⟨⟨frozen.running, frozen.prevRunning, frozen.percent,
          frozen.untouched.trans ⟨rfl, rfl, rfl, rfl, rfl, rfl⟩⟩, trivial⟩
      · rw [same] at active
        exact absurd frozen.running active
  | setPausedStatus paused =>
      obtain rfl : paused = true := keeps
      have kept := now.repaused_setPausedStatus true
      refine ⟨⟨?_, ?_, ?_, ?_⟩, rfl⟩
      · rw [perform, setPausedStatus_eq]
        rfl
      · rw [perform, setPausedStatus_eq]
        simpa [frozen.running, finishes] using frozen.prevRunning
      · rw [perform, kept.percent]
        simpa [finishes] using frozen.percent
      · exact frozen.untouched.trans kept.untouched
  | doneRunning =>
      have active : now.running ≠ 0 := by simp [frozen.running]
      have done : now.doneRunning = ({ now with prevRunning := 0, percent := 0 } :
          Interface).refresh := by
        rw [doneRunning_eq, if_neg active, if_pos frozen.running, if_pos frozen.running,
          ← frozen.running]
      refine ⟨⟨?_, ?_, ?_, ?_⟩, rfl⟩
      · rw [perform, done]
        exact frozen.running
      · simp [perform, done, finishes]
      · simp [perform, done, finishes]
      · exact frozen.untouched.trans now.untouched_doneRunning

theorem frozen_run {before now : Interface} {finished : Bool} (operations : List Operation)
    (frozen : Frozen before finished now)
    (keeps : Runs.StepsMeet perform KeepsPause now operations) :
    Frozen before (finished || operations.any finishes) (Runs.run perform now operations) ∧
      Runs.StepsMeet perform (fun interface operation => interface.listener operation = none)
        now operations := by
  induction operations generalizing now finished with
  | nil => exact ⟨by simpa using frozen, trivial⟩
  | cons operation rest ih =>
      obtain ⟨next, silent⟩ := frozen_perform operation frozen keeps.1
      obtain ⟨later, quiet⟩ := ih next keeps.2
      rw [Bool.or_assoc] at later
      exact ⟨by simpa using later, silent, quiet⟩

/-- From a state that is not paused: after a pause and any further pauses, `update`s without a
change of the safety switch and `doneRunning`s the machine is paused all the time and the listener
is never called; a resume then restores every field, but for a status and percentage of 0 if the
job finished meanwhile. -/
theorem pause_freezes (interface : Interface) (unpaused : interface.running ≠ 2)
    (operations : List Operation)
    (keeps : Runs.StepsMeet perform KeepsPause (interface.setPausedStatus true) operations) :
    (∀ first, first <+: operations →
      (Runs.run perform (interface.setPausedStatus true) first).running = 2) ∧
    Runs.StepsMeet perform (fun interface operation => interface.listener operation = none)
      (interface.setPausedStatus true) operations ∧
    Untouched interface
      ((Runs.run perform (interface.setPausedStatus true) operations).setPausedStatus false) ∧
    ((Runs.run perform (interface.setPausedStatus true) operations).setPausedStatus
        false).running = (if operations.any finishes then 0 else interface.running) ∧
    ((Runs.run perform (interface.setPausedStatus true) operations).setPausedStatus
        false).percent = (if operations.any finishes then 0 else interface.percent) := by
  have start := interface.frozen_pause unpaused
  obtain ⟨frozen, silent⟩ := frozen_run operations start keeps
  rw [Bool.false_or] at frozen
  have kept := (Runs.run perform (interface.setPausedStatus true)
    operations).repaused_setPausedStatus false
  refine ⟨?_, silent, frozen.untouched.trans kept.untouched, ?_, ?_⟩
  · rintro first ⟨rest, split⟩
    rw [← split, Runs.stepsMeet_append] at keeps
    exact (frozen_run first start keeps.1).1.running
  · rw [setPausedStatus_eq]
    exact frozen.prevRunning
  · rw [kept.percent]
    exact frozen.percent

end Interface

open Interface

def sampled : Interface := (construct .released (zeroed .released)).perform (.update (-1) {})

def hostile : List Operation :=
  [.update 7 { digital := fun _ _ => false, analog := fun _ _ => 0 }, .setPausedStatus true,
    .doneRunning, .update 8 { digital := fun _ _ => false, analog := fun _ _ => 0 }]

theorem pause_freezes_hostile :
    Untouched sampled
      ((Runs.run perform (sampled.setPausedStatus true) hostile).setPausedStatus false) :=
  (pause_freezes sampled (by decide) hostile (by decide)).2.2.1

end ResistorCutter
