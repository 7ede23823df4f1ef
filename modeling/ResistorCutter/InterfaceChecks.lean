import ResistorCutter.InterfaceCore

/-!
What each method of `Interface` does to the fields: one equation for every method without
loops, and for `update` the parts it is made of.
-/

namespace ResistorCutter.Interface

variable (interface : Interface)

@[simp] theorem refresh_board : interface.refresh.board = interface.board := rfl
@[simp] theorem refresh_safetySwitch :
    interface.refresh.safetySwitch = interface.safetySwitch := rfl
@[simp] theorem refresh_lastUpdate : interface.refresh.lastUpdate = interface.lastUpdate := rfl
@[simp] theorem refresh_currentSelection :
    interface.refresh.currentSelection = interface.currentSelection := rfl
@[simp] theorem refresh_rPerKit : interface.refresh.rPerKit = interface.rPerKit := rfl
@[simp] theorem refresh_kits : interface.refresh.kits = interface.kits := rfl
@[simp] theorem refresh_percent : interface.refresh.percent = interface.percent := rfl
@[simp] theorem refresh_prevRunning : interface.refresh.prevRunning = interface.prevRunning := rfl
@[simp] theorem refresh_running : interface.refresh.running = interface.running := rfl
@[simp] theorem refresh_debounced : interface.refresh.debounced = interface.debounced := rfl
@[simp] theorem refresh_switchPressed :
    interface.refresh.switchPressed = interface.switchPressed := rfl

/-! The status methods. -/

theorem setPausedStatus_eq (paused : Bool) :
    interface.setPausedStatus paused = ({ interface with
      running := if paused then 2 else interface.prevRunning
      prevRunning := if paused ∧ interface.running ≠ 2 then interface.running
        else interface.prevRunning } : Interface).refresh := by
  cases paused with
  | false => simp [setPausedStatus]
  | true =>
      by_cases same : interface.running = 2
      · simp [setPausedStatus, same]
      · simp [setPausedStatus, same]

@[simp] theorem setPausedStatus_board (paused : Bool) :
    (interface.setPausedStatus paused).board = interface.board := by
  rw [setPausedStatus_eq, refresh_board]

@[simp] theorem setPausedStatus_safetySwitch (paused : Bool) :
    (interface.setPausedStatus paused).safetySwitch = interface.safetySwitch := by
  rw [setPausedStatus_eq, refresh_safetySwitch]

/-- What a pause or a resume leaves alone, from either source. -/
structure Repaused (before after : Interface) : Prop where
  lastUpdate : after.lastUpdate = before.lastUpdate
  currentSelection : after.currentSelection = before.currentSelection
  rPerKit : after.rPerKit = before.rPerKit
  kits : after.kits = before.kits
  percent : after.percent = before.percent
  debounced : after.debounced = before.debounced
  switchPressed : after.switchPressed = before.switchPressed

theorem repaused_setPausedStatus (paused : Bool) :
    Repaused interface (interface.setPausedStatus paused) := by
  rw [setPausedStatus_eq]
  exact ⟨rfl, rfl, rfl, rfl, rfl, rfl, rfl⟩

theorem doneRunning_eq :
    interface.doneRunning =
      if interface.running = 0 then interface
      else ({ interface with
        running := if interface.running = 2 then 2 else 0
        prevRunning := if interface.running = 2 then 0 else interface.prevRunning
        percent := 0 } : Interface).refresh := by
  by_cases idle : interface.running = 0
  · simp [doneRunning, idle]
  · by_cases paused : interface.running = 2
    · simp [doneRunning, paused]
    · simp [doneRunning, idle, paused]

/-- What a pause, a resume and the end of a job leave alone. -/
structure Untouched (before after : Interface) : Prop where
  rPerKit : after.rPerKit = before.rPerKit
  kits : after.kits = before.kits
  currentSelection : after.currentSelection = before.currentSelection
  lastUpdate : after.lastUpdate = before.lastUpdate
  debounced : after.debounced = before.debounced
  switchPressed : after.switchPressed = before.switchPressed

theorem Repaused.untouched {before after : Interface} (repaused : Repaused before after) :
    Untouched before after :=
  ⟨repaused.rPerKit, repaused.kits, repaused.currentSelection, repaused.lastUpdate,
    repaused.debounced, repaused.switchPressed⟩

theorem Untouched.trans {first second third : Interface} (left : Untouched first second)
    (right : Untouched second third) : Untouched first third :=
  ⟨right.rPerKit.trans left.rPerKit, right.kits.trans left.kits,
    right.currentSelection.trans left.currentSelection, right.lastUpdate.trans left.lastUpdate,
    right.debounced.trans left.debounced, right.switchPressed.trans left.switchPressed⟩

theorem untouched_doneRunning : Untouched interface interface.doneRunning := by
  rw [doneRunning_eq]
  split <;> exact ⟨rfl, rfl, rfl, rfl, rfl, rfl⟩

theorem toggleRunning_eq :
    interface.toggleRunning = ({ interface with
      switchPressed := true
      running := if interface.running = 0 then 1 else 0 } : Interface).refresh := rfl

/-! The safety switch, read once by `getChange` and again by `getSwitch` if that saw a change. -/

theorem updateSafety_same (readings : Readings)
    (same : readings.digital .safe 0 = interface.safetySwitch.prevState) :
    (interface.load readings).updateSafety =
      { interface with board := ((Board.load readings).digitalRead .safe).2 } := by
  simp [updateSafety, load, SafetySwitch.getChange, Board.digitalRead, Board.load, same]

theorem updateSafety_changed (readings : Readings)
    (changed : readings.digital .safe 0 ≠ interface.safetySwitch.prevState) :
    (interface.load readings).updateSafety =
      ({ interface with
        safetySwitch := ⟨readings.digital .safe 0⟩
        board := (((Board.load readings).digitalRead .safe).2.digitalRead .safe).2 } :
          Interface).setPausedStatus (readings.digital .safe 1) := by
  simp [updateSafety, load, SafetySwitch.getChange, Board.digitalRead, Board.load, changed,
    handleSafetySwitch, SafetySwitch.getSwitch]

theorem repaused_updateSafety (readings : Readings) :
    Repaused interface (interface.load readings).updateSafety := by
  by_cases same : readings.digital .safe 0 = interface.safetySwitch.prevState
  · rw [updateSafety_same interface readings same]
    exact ⟨rfl, rfl, rfl, rfl, rfl, rfl, rfl⟩
  · have set := repaused_setPausedStatus ({ interface with
      safetySwitch := ⟨readings.digital .safe 0⟩
      board := (((Board.load readings).digitalRead .safe).2.digitalRead .safe).2 } : Interface)
      (readings.digital .safe 1)
    rw [updateSafety_changed interface readings same]
    exact ⟨set.lastUpdate, set.currentSelection, set.rPerKit, set.kits, set.percent,
      set.debounced, set.switchPressed⟩

theorem updateSafety_reads (readings : Readings) :
    (interface.load readings).updateSafety.board = ((Board.load readings).digitalRead .safe).2 ∨
      (interface.load readings).updateSafety.board =
        (((Board.load readings).digitalRead .safe).2.digitalRead .safe).2 := by
  by_cases same : readings.digital .safe 0 = interface.safetySwitch.prevState
  · left
    rw [updateSafety_same interface readings same]
  · right
    rw [updateSafety_changed interface readings same, setPausedStatus_board]

theorem updateSafety_sw (readings : Readings) (n : Nat) :
    (interface.load readings).updateSafety.board.next.digital .sw n = readings.digital .sw n := by
  rcases interface.updateSafety_reads readings with once | twice
  · rw [once]
    rfl
  · rw [twice]
    rfl

/-! The joystick. -/

structure Edited (before after : Interface) : Prop where
  safetySwitch : after.safetySwitch = before.safetySwitch
  percent : after.percent = before.percent
  prevRunning : after.prevRunning = before.prevRunning
  running : after.running = before.running
  switchPressed : after.switchPressed = before.switchPressed

theorem Edited.trans {first second third : Interface} (left : Edited first second)
    (right : Edited second third) : Edited first third :=
  ⟨right.safetySwitch.trans left.safetySwitch, right.percent.trans left.percent,
    right.prevRunning.trans left.prevRunning, right.running.trans left.running,
    right.switchPressed.trans left.switchPressed⟩

theorem edited_board (board : Board) : Edited interface { interface with board := board } :=
  ⟨rfl, rfl, rfl, rfl, rfl⟩

theorem edited_refresh : Edited interface interface.refresh := ⟨rfl, rfl, rfl, rfl, rfl⟩

theorem edited_stamp : Edited interface interface.stamp := ⟨rfl, rfl, rfl, rfl, rfl⟩

theorem edited_moveVertical : Edited interface interface.moveVertical := by
  simp only [moveVertical]
  split
  · exact ⟨rfl, rfl, rfl, rfl, rfl⟩
  · split <;> exact ⟨rfl, rfl, rfl, rfl, rfl⟩

theorem edited_moveHorizontal : Edited interface interface.moveHorizontal := by
  simp only [moveHorizontal]
  split
  · split <;> exact ⟨rfl, rfl, rfl, rfl, rfl⟩
  · split
    · split <;> exact ⟨rfl, rfl, rfl, rfl, rfl⟩
    · exact ⟨rfl, rfl, rfl, rfl, rfl⟩

theorem edited_handleJoystick : Edited interface interface.handleJoystick := by
  simp only [handleJoystick]
  split
  · exact (edited_board interface _).trans ((edited_stamp _).trans
      ((edited_moveVertical _).trans (edited_refresh _)))
  · split
    · exact (edited_board interface _).trans ((edited_stamp _).trans
        ((edited_moveHorizontal _).trans (edited_refresh _)))
    · exact edited_board interface _

theorem updateStatus_idle (percent : Int) (idle : interface.running = 0) :
    Edited interface (interface.updateStatus percent) := by
  simp only [updateStatus]
  rw [if_pos idle]
  split
  · exact (edited_board interface _).trans (edited_handleJoystick _)
  · exact ⟨rfl, rfl, rfl, rfl, rfl⟩

theorem updateStatus_active (percent : Int) (active : interface.running ≠ 0) :
    interface.updateStatus percent = { interface with
      percent := if percent ≠ -1 then UInt32.ofInt percent else interface.percent
      display := interface.display.printProgress percent true } := by
  by_cases default : percent = -1
  · simp [updateStatus, active, default]
  · simp [updateStatus, active, default]

theorem updateStatus_running (percent : Int) :
    (interface.updateStatus percent).running = interface.running := by
  by_cases idle : interface.running = 0
  · exact (updateStatus_idle interface percent idle).running
  · rw [updateStatus_active interface percent idle]

theorem updateStatus_prevRunning (percent : Int) :
    (interface.updateStatus percent).prevRunning = interface.prevRunning := by
  by_cases idle : interface.running = 0
  · exact (updateStatus_idle interface percent idle).prevRunning
  · rw [updateStatus_active interface percent idle]

theorem updateStatus_safetySwitch (percent : Int) :
    (interface.updateStatus percent).safetySwitch = interface.safetySwitch := by
  by_cases idle : interface.running = 0
  · exact (updateStatus_idle interface percent idle).safetySwitch
  · rw [updateStatus_active interface percent idle]

/-! The button. -/

theorem updateSwitch_cases :
    ((Joystick.getSwitch interface.board).1 = true ∧ interface.switchPressed = false ∧
      interface.currentSelection = 2 ∧
      interface.updateSwitch =
        (({ interface with board := (Joystick.getSwitch interface.board).2 } :
          Interface).toggleRunning, some (if interface.running = 0 then 1 else 0))) ∨
    interface.updateSwitch = ({ interface with
      board := (Joystick.getSwitch interface.board).2
      switchPressed := (Joystick.getSwitch interface.board).1 && interface.switchPressed },
        none) := by
  cases pressed : (Joystick.getSwitch interface.board).1 with
  | false => right; simp [updateSwitch, pressed]
  | true =>
      by_cases accepted : interface.switchPressed = false ∧ interface.currentSelection = 2
      · left
        refine ⟨rfl, accepted.1, accepted.2, ?_⟩
        by_cases idle : interface.running = 0
        · simp [updateSwitch, pressed, handleSwitch, accepted, toggleRunning_eq, idle, signed]
        · simp [updateSwitch, pressed, handleSwitch, accepted, toggleRunning_eq, idle, signed]
      · right
        have refused : (!interface.switchPressed && decide (interface.currentSelection = 2)) =
            false := by
          cases down : interface.switchPressed
          · simpa [down] using accepted
          · rfl
        simp [updateSwitch, pressed, handleSwitch, refused]

structure Switched (before after : Interface) : Prop where
  safetySwitch : after.safetySwitch = before.safetySwitch
  currentSelection : after.currentSelection = before.currentSelection
  rPerKit : after.rPerKit = before.rPerKit
  kits : after.kits = before.kits
  percent : after.percent = before.percent
  prevRunning : after.prevRunning = before.prevRunning

theorem switched_updateSwitch : Switched interface interface.updateSwitch.1 := by
  rcases interface.updateSwitch_cases with ⟨_, _, _, press⟩ | none
  · rw [press]
    exact ⟨rfl, rfl, rfl, rfl, rfl, rfl⟩
  · rw [none]
    exact ⟨rfl, rfl, rfl, rfl, rfl, rfl⟩

/-- The cases of `update`: paused, an accepted press, or neither. -/
theorem update_cases (percent : Int) :
    (interface.updateSafety.running = 2 ∧
      interface.update percent = (interface.updateSafety, none)) ∨
    interface.updateSafety.running ≠ 2 ∧
      interface.update percent = (interface.updateSafety.updateStatus percent).updateSwitch := by
  by_cases paused : interface.updateSafety.running = 2
  · exact Or.inl ⟨paused, by simp [update, paused]⟩
  · exact Or.inr ⟨paused, by simp [update, paused]⟩

end ResistorCutter.Interface
