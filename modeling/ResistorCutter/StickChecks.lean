import ResistorCutter.StatusChecks
import ResistorCutter.ReadingChecks

/-!
Which branch of `handleJoystick` is taken, and what the branches do: of the three values that the
operator edits, each branch steps one, and no other part of an operation touches them.
-/

namespace ResistorCutter

/-- The branches of `handleJoystick` that edit a value, `left` and `right` with the selection that
they were taken with. -/
inductive Branch
  | up
  | down
  | left (selection : UInt8)
  | right (selection : UInt8)
  deriving DecidableEq, Repr

structure Selections where
  currentSelection : UInt8
  rPerKit : UInt32
  kits : UInt32
  deriving DecidableEq, Repr

def Selections.move (selections : Selections) : Branch → Selections
  | .up =>
      { selections with
        currentSelection := UInt8.ofNat ((selections.currentSelection.toNat + 2) % 3) }
  | .down => { selections with currentSelection := (selections.currentSelection + 1) % 3 }
  | .left selection =>
      if selection = 0 then { selections with rPerKit := (selections.rPerKit + 8) % 10 + 1 }
      else { selections with kits := (selections.kits + 48) % 50 + 1 }
  | .right selection =>
      if selection = 0 then { selections with rPerKit := selections.rPerKit % 10 + 1 }
      else { selections with kits := selections.kits % 50 + 1 }

namespace Interface

variable (interface : Interface)

def selections : Selections := ⟨interface.currentSelection, interface.rPerKit, interface.kits⟩

/-! The two tests of `handleJoystick`, each followed by the object as it finds it then. -/

def verticalTest : Bool × Board :=
  both Joystick.getVertical (interface.debounce 500) interface.board

def pastVertical : Interface := { interface with board := interface.verticalTest.2 }

def horizontalTest : Bool × Board :=
  both (both Joystick.getHorizontal (interface.debounce 250)) (negate Joystick.getVertical)
    interface.board

def pastHorizontal : Interface := { interface with board := interface.horizontalTest.2 }

theorem handleJoystick_eq :
    interface.handleJoystick =
      if interface.verticalTest.1 then interface.pastVertical.stamp.moveVertical.refresh
      else if interface.pastVertical.horizontalTest.1 then
        interface.pastVertical.pastHorizontal.stamp.moveHorizontal.refresh
      else interface.pastVertical.pastHorizontal := rfl

/-! The branch that each of the methods takes. -/

def verticalBranch : List Branch :=
  if (Joystick.getUp interface.board).1 then [.up]
  else if (Joystick.getDown (Joystick.getUp interface.board).2).1 then [.down]
  else []

def horizontalBranch : List Branch :=
  if interface.currentSelection = 0 ∨ interface.currentSelection = 1 then
    if (Joystick.getLeft interface.board).1 then [.left interface.currentSelection]
    else [.right interface.currentSelection]
  else []

def stickBranch : List Branch :=
  if interface.verticalTest.1 then interface.pastVertical.stamp.verticalBranch
  else if interface.pastVertical.horizontalTest.1 then
    interface.pastVertical.pastHorizontal.stamp.horizontalBranch
  else []

def pastUncentered : Interface :=
  { interface with board := (Joystick.getUncentered interface.board).2 }

def statusBranch : List Branch :=
  if interface.running = 0 ∧ (Joystick.getUncentered interface.board).1 then
    interface.pastUncentered.stickBranch
  else []

def branches : Operation → List Branch
  | .update _ readings => (interface.load readings).updateSafety.statusBranch
  | _ => []

theorem moveVertical_selections :
    interface.moveVertical.selections =
      Runs.run Selections.move interface.selections interface.verticalBranch := by
  simp only [moveVertical, verticalBranch]
  split
  · rfl
  · split <;> rfl

theorem moveHorizontal_selections :
    interface.moveHorizontal.selections =
      Runs.run Selections.move interface.selections interface.horizontalBranch := by
  simp only [moveHorizontal, horizontalBranch]
  by_cases first : interface.currentSelection = 0
  · simp only [first, true_or, ↓reduceIte]
    split <;> simp [selections, Selections.move, first]
  · by_cases second : interface.currentSelection = 1
    · simp only [second, or_true, ↓reduceIte, show ¬(1 : UInt8) = 0 by decide]
      split <;> simp [selections, Selections.move, second]
    · simp [first, second, selections]

theorem handleJoystick_selections :
    interface.handleJoystick.selections =
      Runs.run Selections.move interface.selections interface.stickBranch := by
  rw [handleJoystick_eq, stickBranch]
  split
  · exact moveVertical_selections interface.pastVertical.stamp
  · split
    · exact moveHorizontal_selections interface.pastVertical.pastHorizontal.stamp
    · rfl

theorem updateStatus_eq (percent : Int) (idle : interface.running = 0) :
    interface.updateStatus percent =
      if (Joystick.getUncentered interface.board).1 then interface.pastUncentered.handleJoystick
      else { interface.pastUncentered with debounced := true } := by
  simp only [updateStatus]
  rw [if_pos idle]
  rfl

theorem updateStatus_selections (percent : Int) :
    (interface.updateStatus percent).selections =
      Runs.run Selections.move interface.selections interface.statusBranch := by
  by_cases idle : interface.running = 0
  · rw [updateStatus_eq interface percent idle, statusBranch]
    split
    · rw [if_pos ⟨idle, ‹_›⟩]
      exact handleJoystick_selections interface.pastUncentered
    · rw [if_neg (by simp [*])]
      rfl
  · have none : interface.statusBranch = [] := by simp [statusBranch, idle]
    rw [updateStatus_active interface percent idle, none]
    rfl

theorem updateSafety_selections (readings : Readings) :
    (interface.load readings).updateSafety.selections = interface.selections := by
  have safe := interface.repaused_updateSafety readings
  simp only [selections, safe.currentSelection, safe.rPerKit, safe.kits]

theorem perform_selections (operation : Operation) :
    (interface.perform operation).selections =
      Runs.run Selections.move interface.selections (interface.branches operation) := by
  cases operation with
  | update percent readings =>
      have same := interface.updateSafety_selections readings
      simp only [perform, branches]
      rcases (interface.load readings).update_cases percent with ⟨paused, early⟩ | ⟨_, body⟩
      · rw [early, same, statusBranch, if_neg (by simp [paused])]
        rfl
      · have switched := switched_updateSwitch
          ((interface.load readings).updateSafety.updateStatus percent)
        rw [body, ← same, ← updateStatus_selections _ percent]
        simp only [selections, switched.currentSelection, switched.rPerKit, switched.kits]
  | setPausedStatus paused =>
      have kept := interface.repaused_setPausedStatus paused
      simp only [perform, selections, kept.currentSelection, kept.rPerKit, kept.kits]
      rfl
  | doneRunning =>
      rw [perform, doneRunning_eq]
      split <;> rfl

end Interface

end ResistorCutter
