import ResistorCutter.StatusChecks

/-!
Which operations push the fields to the display and to the page: every part of a public
operation ends in `refresh`, or leaves alone all that is shown, or only advances the progress.
-/

namespace ResistorCutter

def Operation.InRange : Operation → Prop
  | .update percent _ => percent = -1 ∨ 0 ≤ percent ∧ percent ≤ 100
  | _ => True

namespace Interface

structure SameShown (before after : Interface) : Prop where
  display : after.display = before.display
  localHost : after.localHost = before.localHost
  currentSelection : after.currentSelection = before.currentSelection
  rPerKit : after.rPerKit = before.rPerKit
  kits : after.kits = before.kits
  percent : after.percent = before.percent
  running : after.running = before.running

/-- Nothing shown has changed, or all of it was pushed last, on the same display. -/
def Refreshes (before after : Interface) : Prop :=
  SameShown before after ∨
    ∃ base : Interface, base.display = before.display ∧ SameShown base.refresh after

theorem SameShown.refl (interface : Interface) : SameShown interface interface :=
  ⟨rfl, rfl, rfl, rfl, rfl, rfl, rfl⟩

theorem SameShown.trans {first second third : Interface} (left : SameShown first second)
    (right : SameShown second third) : SameShown first third :=
  ⟨right.display.trans left.display, right.localHost.trans left.localHost,
    right.currentSelection.trans left.currentSelection, right.rPerKit.trans left.rPerKit,
    right.kits.trans left.kits, right.percent.trans left.percent, right.running.trans left.running⟩

theorem Refreshes.keeps {property : Interface → Prop} {before after : Interface}
    (closed : ∀ {before after}, SameShown before after → property before → property after)
    (fresh : ∀ {before base : Interface}, base.display = before.display → property before →
      property base.refresh)
    (refreshes : Refreshes before after) (holds : property before) : property after := by
  rcases refreshes with same | ⟨base, shared, same⟩
  · exact closed same holds
  · exact closed same (fresh shared holds)

theorem Refreshes.after_same {first second third : Interface} (same : SameShown first second)
    (refreshes : Refreshes second third) : Refreshes first third := by
  rcases refreshes with kept | ⟨base, shared, fresh⟩
  · exact Or.inl (same.trans kept)
  · exact Or.inr ⟨base, shared.trans same.display, fresh⟩

variable (interface : Interface)

theorem refreshes_refresh {before : Interface} (shared : interface.display = before.display) :
    Refreshes before interface.refresh :=
  Or.inr ⟨interface, shared, SameShown.refl _⟩

theorem refreshes_setPausedStatus {before : Interface} (shared : interface.display = before.display)
    (paused : Bool) : Refreshes before (interface.setPausedStatus paused) := by
  rw [setPausedStatus_eq]
  exact refreshes_refresh _ shared

theorem refreshes_doneRunning : Refreshes interface interface.doneRunning := by
  rw [doneRunning_eq]
  split
  · exact Or.inl (SameShown.refl _)
  · exact refreshes_refresh _ rfl

theorem refreshes_updateSafety (readings : Readings) :
    Refreshes interface (interface.load readings).updateSafety := by
  by_cases same : readings.digital .safe 0 = interface.safetySwitch.prevState
  · rw [updateSafety_same interface readings same]
    exact Or.inl ⟨rfl, rfl, rfl, rfl, rfl, rfl, rfl⟩
  · rw [updateSafety_changed interface readings same]
    apply refreshes_setPausedStatus
    rfl

theorem sameShown_board (board : Board) : SameShown interface { interface with board := board } :=
  ⟨rfl, rfl, rfl, rfl, rfl, rfl, rfl⟩

theorem moveVertical_display : interface.moveVertical.display = interface.display := by
  simp only [moveVertical]
  split
  · rfl
  · split <;> rfl

theorem moveHorizontal_display : interface.moveHorizontal.display = interface.display := by
  simp only [moveHorizontal]
  split
  · split <;> rfl
  · split
    · split <;> rfl
    · rfl

theorem refreshes_handleJoystick : Refreshes interface interface.handleJoystick := by
  simp only [handleJoystick]
  split
  · exact refreshes_refresh _ (moveVertical_display _)
  · split
    · exact refreshes_refresh _ (moveHorizontal_display _)
    · exact Or.inl (sameShown_board interface _)

theorem refreshes_updateStatus (percent : Int) (idle : interface.running = 0) :
    Refreshes interface (interface.updateStatus percent) := by
  simp only [updateStatus]
  rw [if_pos idle]
  split
  · exact (refreshes_handleJoystick _).after_same (sameShown_board interface _)
  · exact Or.inl ⟨rfl, rfl, rfl, rfl, rfl, rfl, rfl⟩

theorem refreshes_updateSwitch : Refreshes interface interface.updateSwitch.1 := by
  rcases interface.updateSwitch_cases with ⟨_, _, _, press⟩ | none
  · rw [press, toggleRunning_eq]
    exact refreshes_refresh _ rfl
  · rw [none]
    exact Or.inl ⟨rfl, rfl, rfl, rfl, rfl, rfl, rfl⟩

theorem perform_keeps {property : Interface → Prop} {operation : Operation}
    (closed : ∀ {before after}, SameShown before after → property before → property after)
    (fresh : ∀ {before base : Interface}, base.display = before.display → property before →
      property base.refresh)
    (progress : ∀ percent readings, operation = .update percent readings →
      (interface.load readings).updateSafety.running ≠ 0 →
      (interface.load readings).updateSafety.running ≠ 2 →
      property (interface.load readings).updateSafety →
      property ((interface.load readings).updateSafety.updateStatus percent))
    (holds : property interface) : property (interface.perform operation) := by
  cases operation with
  | update percent readings =>
      have safe := (interface.refreshes_updateSafety readings).keeps closed fresh holds
      rcases (interface.load readings).update_cases percent with ⟨_, paused⟩ | ⟨active, body⟩
      · simp only [perform, paused]
        exact safe
      · simp only [perform, body]
        refine (refreshes_updateSwitch _).keeps closed fresh ?_
        by_cases idle : (interface.load readings).updateSafety.running = 0
        · exact (refreshes_updateStatus _ percent idle).keeps closed fresh safe
        · exact progress percent readings rfl idle active safe
  | setPausedStatus paused =>
      exact (interface.refreshes_setPausedStatus rfl paused).keeps closed fresh holds
  | doneRunning => exact interface.refreshes_doneRunning.keeps closed fresh holds

/-! The stored percentage. -/

theorem update_percent (readings : Readings) (percent : Int) :
    ((interface.load readings).update percent).1.percent = interface.percent ∨
      percent ≠ -1 ∧
        ((interface.load readings).update percent).1.percent = UInt32.ofInt percent := by
  rcases (interface.load readings).update_cases percent with ⟨_, paused⟩ | ⟨_, body⟩
  · left
    rw [paused, (repaused_updateSafety interface readings).percent]
  · rw [body, (switched_updateSwitch _).percent]
    by_cases idle : (interface.load readings).updateSafety.running = 0
    · left
      rw [(updateStatus_idle _ percent idle).percent,
        (repaused_updateSafety interface readings).percent]
    · rw [updateStatus_active _ percent idle, (repaused_updateSafety interface readings).percent]
      by_cases default : percent = -1
      · exact Or.inl (by simp [default])
      · exact Or.inr ⟨default, by simp [default]⟩

theorem doneRunning_percent :
    interface.doneRunning.percent = interface.percent ∨ interface.doneRunning.percent = 0 := by
  rw [doneRunning_eq]
  split
  · exact Or.inl rfl
  · exact Or.inr rfl

theorem ofInt_le_hundred (i : Int) (lower : 0 ≤ i) (upper : i ≤ 100) : UInt32.ofInt i ≤ 100 := by
  rw [UInt32.le_iff_toNat_le]
  simp [UInt32.ofInt]
  omega

theorem perform_percent (operation : Operation) (range : operation.InRange)
    (stored : interface.percent ≤ 100) : (interface.perform operation).percent ≤ 100 := by
  cases operation with
  | update percent readings =>
      rcases interface.update_percent readings percent with same | ⟨notDefault, new⟩
      · simpa only [perform, same] using stored
      · obtain ⟨lower, upper⟩ := range.resolve_left notDefault
        simpa only [perform, new] using ofInt_le_hundred percent lower upper
  | setPausedStatus paused =>
      simpa only [perform, (interface.repaused_setPausedStatus paused).percent] using stored
  | doneRunning =>
      rcases interface.doneRunning_percent with same | zero
      · simpa only [perform, same] using stored
      · simp only [perform, zero]
        decide

end Interface

end ResistorCutter
