import ResistorCutter.SelectionChecks

/-!
The direction in which an `update` moves the selected value against what it read from the stick.
The branches for up, down and left test the direction again; the branch for right is what is left
when left is not read any more.
-/

namespace ResistorCutter

namespace Selections

variable (before after : Selections)

def StepsUp : Prop :=
  before.currentSelection = 0 ∧ after.rPerKit = before.rPerKit % 10 + 1 ∨
    before.currentSelection = 1 ∧ after.kits = before.kits % 50 + 1

def StepsDown : Prop :=
  before.currentSelection = 0 ∧ after.rPerKit = (before.rPerKit + 8) % 10 + 1 ∨
    before.currentSelection = 1 ∧ after.kits = (before.kits + 48) % 50 + 1

def MovesUp : Prop :=
  after.currentSelection = UInt8.ofNat ((before.currentSelection.toNat + 2) % 3)

def MovesDown : Prop := after.currentSelection = (before.currentSelection + 1) % 3

/-- Every step and every move goes in a direction in which the stick was read. -/
structure Directed (values : AnalogPin → List Nat) : Prop where
  stepsUp : before.StepsUp after → ∃ value ∈ values .vrX, 3595 < value
  stepsDown : before.StepsDown after → ∃ value ∈ values .vrX, value < 500
  movesUp : before.MovesUp after → ∃ value ∈ values .vrY, value < 500
  movesDown : before.MovesDown after → ∃ value ∈ values .vrY, 3595 < value

/-- What must have been read for a branch to go in the direction of the stick. -/
def Seen (values : AnalogPin → List Nat) : Branch → Prop
  | .up => ∃ value ∈ values .vrY, value < 500
  | .down => ∃ value ∈ values .vrY, 3595 < value
  | .left _ => ∃ value ∈ values .vrX, value < 500
  | .right _ => ∃ value ∈ values .vrX, 3595 < value

theorem not_movesUp (same : after.currentSelection = before.currentSelection) :
    ¬before.MovesUp after := by
  rw [MovesUp, same]
  simp [← UInt8.toNat_inj]
  omega

theorem not_movesDown (same : after.currentSelection = before.currentSelection) :
    ¬before.MovesDown after := by
  rw [MovesDown, same]
  simp [← UInt8.toNat_inj]
  omega

theorem not_stepsUp (rPerKit : after.rPerKit = before.rPerKit) (kits : after.kits = before.kits) :
    ¬before.StepsUp after := by
  rw [StepsUp, rPerKit, kits]
  simp [← UInt32.toNat_inj]
  omega

theorem not_stepsDown (rPerKit : after.rPerKit = before.rPerKit)
    (kits : after.kits = before.kits) : ¬before.StepsDown after := by
  rw [StepsDown, rPerKit, kits]
  simp [← UInt32.toNat_inj]
  omega

theorem directed_same (values : AnalogPin → List Nat) : before.Directed before values :=
  ⟨fun stepped => (not_stepsUp before before rfl rfl stepped).elim,
    fun stepped => (not_stepsDown before before rfl rfl stepped).elim,
    fun moved => (not_movesUp before before rfl moved).elim,
    fun moved => (not_movesDown before before rfl moved).elim⟩

/-! The two directions differ at every value, in range or not. -/

theorem wrapped_cases (n more limit : Nat) (below : n < limit) (small : more ≤ limit) :
    (n + more) % limit = n + more ∨ (n + more) % limit + limit = n + more := by
  rcases Nat.lt_or_ge (n + more) limit with fits | wraps
  · exact Or.inl (Nat.mod_eq_of_lt fits)
  · right
    rw [Nat.mod_eq_sub_mod wraps, Nat.mod_eq_of_lt (by omega)]
    omega

theorem rPerKit_apart (value : UInt32) : value % 10 ≠ (value + 8) % 10 := by
  intro equal
  simp [← UInt32.toNat_inj] at equal
  have wrapped := wrapped_cases value.toNat 8 4294967296 value.toNat_lt (by decide)
  generalize (value.toNat + 8) % 4294967296 = sum at equal wrapped
  omega

theorem kits_apart (value : UInt32) : value % 50 ≠ (value + 48) % 50 := by
  intro equal
  simp [← UInt32.toNat_inj] at equal
  have wrapped := wrapped_cases value.toNat 48 4294967296 value.toNat_lt (by decide)
  generalize (value.toNat + 48) % 4294967296 = sum at equal wrapped
  omega

theorem moves_apart (value : UInt8) : UInt8.ofNat ((value.toNat + 2) % 3) ≠ (value + 1) % 3 := by
  intro same
  simp [← UInt8.toNat_inj] at same
  have wrapped := wrapped_cases value.toNat 1 256 value.toNat_lt (by decide)
  generalize (value.toNat + 1) % 256 = sum at same wrapped
  omega

theorem directed_move (values : AnalogPin → List Nat) {branch : Branch}
    (fits : branch.Fits before.currentSelection) :
    before.Directed (before.move branch) values ↔ Seen values branch := by
  cases branch with
  | up =>
      constructor
      · intro directed
        exact directed.movesUp rfl
      · intro seen
        refine ⟨fun stepped => ?_, fun stepped => ?_, fun _ => seen, fun moved => ?_⟩
        · exact (not_stepsUp before (before.move .up) rfl rfl stepped).elim
        · exact (not_stepsDown before (before.move .up) rfl rfl stepped).elim
        · exact (moves_apart before.currentSelection moved).elim
  | down =>
      constructor
      · intro directed
        exact directed.movesDown rfl
      · intro seen
        refine ⟨fun stepped => ?_, fun stepped => ?_, fun moved => ?_, fun _ => seen⟩
        · exact (not_stepsUp before (before.move .down) rfl rfl stepped).elim
        · exact (not_stepsDown before (before.move .down) rfl rfl stepped).elim
        · exact (moves_apart before.currentSelection moved.symm).elim
  | left taken =>
      obtain ⟨rfl, selected⟩ := fits
      have kept : (before.move (.left before.currentSelection)).currentSelection =
          before.currentSelection := by
        simp only [move]
        split <;> rfl
      constructor
      · intro directed
        apply directed.stepsDown
        rcases selected with first | second
        · simp [StepsDown, move, first]
        · simp [StepsDown, move, second]
      · intro seen
        refine ⟨fun stepped => ?_, fun _ => seen, fun moved => ?_, fun moved => ?_⟩
        · rcases selected with first | second
          · simp [StepsUp, move, first, (rPerKit_apart before.rPerKit).symm] at stepped
          · simp [StepsUp, move, second, (kits_apart before.kits).symm] at stepped
        · exact (not_movesUp _ _ kept moved).elim
        · exact (not_movesDown _ _ kept moved).elim
  | right taken =>
      obtain ⟨rfl, selected⟩ := fits
      have kept : (before.move (.right before.currentSelection)).currentSelection =
          before.currentSelection := by
        simp only [move]
        split <;> rfl
      constructor
      · intro directed
        apply directed.stepsUp
        rcases selected with first | second
        · simp [StepsUp, move, first]
        · simp [StepsUp, move, second]
      · intro seen
        refine ⟨fun _ => seen, fun stepped => ?_, fun moved => ?_, fun moved => ?_⟩
        · rcases selected with first | second
          · simp [StepsDown, move, first, rPerKit_apart] at stepped
          · simp [StepsDown, move, second, kits_apart] at stepped
        · exact (not_movesUp _ _ kept moved).elim
        · exact (not_movesDown _ _ kept moved).elim

end Selections

/-! What the tests of the stick leave in the log. -/

def NoRight (board : Board) : Prop := ∀ value ∈ board.values .vrX, value ≤ 3595

theorem NoRight.earlier {before after : Board} (longer : before.Extends after)
    (none : NoRight after) : NoRight before :=
  fun value member => none value (longer.values .vrX member)

namespace Joystick

variable {board final : Board}

theorem seen_up (up : (getUp board).1 = true) (longer : (getUp board).2.Extends final) :
    ∃ value ∈ final.values .vrY, value < 500 :=
  ⟨_, longer.values .vrY (board.mem_values_analogRead .vrY), by simpa [getUp] using up⟩

theorem seen_down (down : (getDown board).1 = true) (longer : (getDown board).2.Extends final) :
    ∃ value ∈ final.values .vrY, 3595 < value :=
  ⟨_, longer.values .vrY (board.mem_values_analogRead .vrY), by simpa [getDown] using down⟩

theorem seen_left (left : (getLeft board).1 = true) (longer : (getLeft board).2.Extends final) :
    ∃ value ∈ final.values .vrX, value < 500 :=
  ⟨_, longer.values .vrX (board.mem_values_analogRead .vrX), by simpa [getLeft] using left⟩

theorem noRight_getLeft (none : NoRight board)
    (low : (board.analogRead .vrX).1 ≤ 3595) : NoRight (getLeft board).2 := by
  intro value member
  rw [getLeft, Board.values_analogRead, List.mem_append] at member
  rcases member with earlier | now
  · exact none value earlier
  · simp at now
    omega

theorem getUncentered_eq :
    getUncentered = either (either getUp (either getDown getLeft)) getRight := by
  rw [← either_assoc, ← either_assoc]
  rfl

theorem noRight_uncentered (none : NoRight board)
    (early : (either getUp (either getDown getLeft) board).1 = true) :
    NoRight (getUncentered board).2 := by
  rw [getUncentered_eq, either_answered early]
  simp only [either] at early ⊢
  have up : NoRight (getUp board).2 := by
    rw [NoRight, values_getUp board]
    exact none
  have down : NoRight (getDown (getUp board).2).2 := by
    rw [NoRight, values_getDown]
    exact up
  split
  · exact up
  · split
    · exact down
    · rename_i notUp notDown
      simp only [notUp, notDown, ↓reduceIte, Bool.false_eq_true] at early
      apply noRight_getLeft down
      simp only [getLeft, decide_eq_true_eq] at early
      omega

theorem either_getRight {first : Board → Bool × Board}
    (tilted : (either first getRight board).1 = true)
    (none : NoRight (either first getRight board).2) : (first board).1 = true := by
  by_contra unanswered
  have last : either first getRight board = getRight (first board).2 := by
    simp [either, unanswered]
  rw [last] at tilted none
  have value := none _ ((first board).2.mem_values_analogRead .vrX)
  simp [getRight] at tilted
  omega

end Joystick

namespace Interface

open Joystick

variable (interface : Interface)

/-- The branch for right is taken on readings that never were to the right: the first test found
the stick tilted some other way, the horizontal test found it to the left, and the last read is
not low any more. -/
structure Slips : Prop where
  idle : interface.running = 0
  selected : interface.currentSelection = 0 ∨ interface.currentSelection = 1
  uncentered : (either getUp (either getDown getLeft) interface.board).1 = true
  refused : interface.pastUncentered.verticalTest.1 = false
  accepted : interface.pastUncentered.pastVertical.horizontalTest.1 = true
  left : (getLeft interface.pastUncentered.pastVertical.board).1 = true
  back : (getLeft interface.pastUncentered.pastVertical.pastHorizontal.stamp.board).1 = false
  short : (getRight interface.pastUncentered.pastVertical.pastHorizontal.stamp.board).1 = false

theorem mem_verticalBranch {branch : Branch} {final : Board}
    (taken : branch ∈ interface.verticalBranch)
    (longer : interface.moveVertical.board.Extends final) :
    Selections.Seen (fun pin => final.values pin) branch := by
  simp only [verticalBranch] at taken
  simp only [moveVertical] at longer
  by_cases up : (getUp interface.board).1 = true
  · simp only [up, ↓reduceIte, List.mem_singleton] at taken longer
    subst taken
    exact seen_up up longer
  · by_cases down : (getDown (getUp interface.board).2).1 = true
    · simp only [up, down, ↓reduceIte, List.mem_singleton, Bool.false_eq_true] at taken longer
      subst taken
      exact seen_down down longer
    · simp [up, down] at taken

theorem moveHorizontal_board
    (selected : interface.currentSelection = 0 ∨ interface.currentSelection = 1) :
    interface.moveHorizontal.board = (getLeft interface.board).2 := by
  simp only [moveHorizontal]
  rcases selected with first | second
  · simp only [first, ↓reduceIte]
    split <;> rfl
  · simp only [second, ↓reduceIte, show ¬(1 : UInt8) = 0 by decide]
    split <;> rfl

theorem mem_horizontalBranch {branch : Branch} (taken : branch ∈ interface.horizontalBranch) :
    (interface.currentSelection = 0 ∨ interface.currentSelection = 1) ∧
      ((getLeft interface.board).1 = true ∧ branch = .left interface.currentSelection ∨
        (getLeft interface.board).1 = false ∧ branch = .right interface.currentSelection) := by
  simp only [horizontalBranch] at taken
  by_cases selected : interface.currentSelection = 0 ∨ interface.currentSelection = 1
  · refine ⟨selected, ?_⟩
    rw [if_pos selected] at taken
    cases left : (getLeft interface.board).1 with
    | true => exact Or.inl ⟨rfl, by simpa [left] using taken⟩
    | false => exact Or.inr ⟨rfl, by simpa [left] using taken⟩
  · simp [selected] at taken

theorem handleJoystick_board (refused : interface.verticalTest.1 = false)
    (accepted : interface.pastVertical.horizontalTest.1 = true)
    (selected : interface.currentSelection = 0 ∨ interface.currentSelection = 1) :
    interface.handleJoystick.board =
      (getLeft interface.pastVertical.pastHorizontal.stamp.board).2 := by
  have vertical : ¬interface.verticalTest.1 = true := by simp [refused]
  rw [handleJoystick_eq, if_neg vertical, if_pos accepted, refresh_board]
  exact moveHorizontal_board _ selected

theorem mem_stickBranch {branch : Branch} (taken : branch ∈ interface.stickBranch) :
    Selections.Seen (fun pin => interface.handleJoystick.board.values pin) branch ∨
      branch = .right interface.currentSelection ∧
        (interface.currentSelection = 0 ∨ interface.currentSelection = 1) ∧
        interface.verticalTest.1 = false ∧ interface.pastVertical.horizontalTest.1 = true ∧
        (getLeft interface.pastVertical.pastHorizontal.stamp.board).1 = false := by
  simp only [stickBranch] at taken
  by_cases vertical : interface.verticalTest.1 = true
  · left
    rw [if_pos vertical] at taken
    rw [handleJoystick_eq, if_pos vertical]
    exact mem_verticalBranch _ taken (Board.Extends.refl _)
  · have refused := Bool.eq_false_of_not_eq_true vertical
    by_cases accepted : interface.pastVertical.horizontalTest.1 = true
    · rw [if_neg vertical, if_pos accepted] at taken
      obtain ⟨selected, ⟨left, side⟩ | ⟨right, side⟩⟩ := mem_horizontalBranch _ taken
      · left
        rw [side, handleJoystick_board interface refused accepted selected]
        exact seen_left left (Board.Extends.refl _)
      · exact Or.inr ⟨side, selected, refused, accepted, right⟩
    · simp [vertical, accepted] at taken

theorem slips_branch (slips : interface.Slips) :
    interface.statusBranch = [.right interface.currentSelection] := by
  have uncentered : (getUncentered interface.board).1 = true := by
    rw [getUncentered_eq, either_answered slips.uncentered]
    exact slips.uncentered
  have refused : ¬interface.pastUncentered.verticalTest.1 = true := by simp [slips.refused]
  have back : ¬(getLeft interface.pastUncentered.pastVertical.pastHorizontal.stamp.board).1 =
      true := by simp [slips.back]
  rw [statusBranch, if_pos ⟨slips.idle, uncentered⟩, stickBranch, if_neg refused,
    if_pos slips.accepted, horizontalBranch, if_neg back]
  exact if_pos slips.selected

theorem noRight_pastVertical (none : NoRight interface.board) :
    NoRight interface.pastVertical.board := by
  rw [NoRight, pastVertical, verticalTest, part_both (interface.values_debounce .vrX 500),
    values_getVertical]
  exact none

theorem noRight_pastHorizontal (none : NoRight interface.board)
    (left : (getLeft interface.board).1 = true) : NoRight interface.pastHorizontal.board := by
  have spared : Keeps (Board.values .vrX) (negate getVertical) := values_getVertical
  rw [NoRight, pastHorizontal, horizontalTest, part_both spared,
    part_both (interface.values_debounce .vrX 250), getHorizontal, either_answered left]
  simp only [getLeft, decide_eq_true_eq] at left
  exact noRight_getLeft none (by omega)

theorem slips_noRight (none : NoRight interface.board) (slips : interface.Slips) :
    NoRight interface.pastUncentered.handleJoystick.board := by
  have uncentered : NoRight interface.pastUncentered.board :=
    noRight_uncentered none slips.uncentered
  have tested := noRight_pastHorizontal _ (noRight_pastVertical _ uncentered) slips.left
  have stamped : NoRight interface.pastUncentered.pastVertical.pastHorizontal.stamp.board := by
    rw [NoRight, stamp, Board.values_millis]
    exact tested
  rw [handleJoystick_board _ slips.refused slips.accepted slips.selected]
  apply noRight_getLeft stamped
  have short := slips.short
  simp only [getRight, decide_eq_false_iff_not] at short
  omega

theorem slips_of_noRight (uncentered : (getUncentered interface.board).1 = true)
    (idle : interface.running = 0)
    (selected : interface.currentSelection = 0 ∨ interface.currentSelection = 1)
    (refused : interface.pastUncentered.verticalTest.1 = false)
    (accepted : interface.pastUncentered.pastVertical.horizontalTest.1 = true)
    (back : (getLeft interface.pastUncentered.pastVertical.pastHorizontal.stamp.board).1 = false)
    (none : NoRight interface.pastUncentered.handleJoystick.board) : interface.Slips := by
  have first : NoRight interface.pastUncentered.board :=
    none.earlier (stickRelation_extends.handleJoystick interface.pastUncentered)
  have last := handleJoystick_board _ refused accepted selected
  have stick : (getHorizontal interface.pastUncentered.pastVertical.board).1 = true :=
    both_first (both_first accepted)
  have tested : (getHorizontal interface.pastUncentered.pastVertical.board).2.Extends
      interface.pastUncentered.pastVertical.pastHorizontal.board :=
    (extends_both (stickRelation_extends.debounce _ 250) _).trans
      (extends_both (related_negate stickRelation_extends.getVertical) _)
  have read := tested.trans
    (Board.extends_millis interface.pastUncentered.pastVertical.pastHorizontal.board)
  rw [last] at none
  refine ⟨idle, selected, ?_, refused, accepted, ?_, back, ?_⟩
  · rw [getUncentered_eq] at uncentered
    exact either_getRight uncentered (by rw [← getUncentered_eq]; exact first)
  · exact either_getRight stick (none.earlier (read.trans (Board.extends_analogRead _ .vrX)))
  · have value := none _ (Board.mem_values_analogRead .vrX _)
    simp only [getRight, decide_eq_false_iff_not]
    omega

theorem seen_iff {branch : Branch} (none : NoRight interface.board)
    (taken : branch ∈ interface.statusBranch) :
    Selections.Seen (fun pin => interface.pastUncentered.handleJoystick.board.values pin) branch ↔
      ¬interface.Slips := by
  constructor
  · intro seen slips
    rw [slips_branch interface slips, List.mem_singleton] at taken
    subst taken
    obtain ⟨value, member, high⟩ := seen
    have low := slips_noRight interface none slips value member
    omega
  · intro sound
    simp only [statusBranch] at taken
    by_cases tilted : interface.running = 0 ∧ (getUncentered interface.board).1 = true
    · rw [if_pos tilted] at taken
      rcases mem_stickBranch _ taken with seen | ⟨side, selected, refused, accepted, back⟩
      · exact seen
      · by_contra unseen
        apply sound
        apply slips_of_noRight interface tilted.2 tilted.1 selected refused accepted back
        intro value member
        by_contra high
        rw [side] at unseen
        exact unseen ⟨value, member, by omega⟩
    · simp [tilted] at taken

def ActsAsTilted (percent : Int) (readings : Readings) : Prop :=
  interface.selections.Directed ((interface.load readings).update percent).1.selections
    fun pin => ((interface.load readings).update percent).1.board.values pin

theorem update_values (percent : Int) (idle : interface.updateSafety.running = 0)
    (tilted : (getUncentered interface.updateSafety.board).1 = true) (pin : AnalogPin) :
    (interface.update percent).1.board.values pin =
      interface.updateSafety.pastUncentered.handleJoystick.board.values pin := by
  have switch (stick : Interface) : stick.updateSwitch.1.board.values pin =
      stick.board.values pin := by
    rcases stick.updateSwitch_cases with ⟨_, _, _, press⟩ | none
    · rw [press, toggleRunning_eq, refresh_board]
      exact Board.values_digitalRead pin stick.board .sw
    · rw [none]
      exact Board.values_digitalRead pin stick.board .sw
  rcases interface.update_cases percent with ⟨paused, _⟩ | ⟨_, body⟩
  · simp [idle] at paused
  · rw [body, switch, updateStatus_eq _ percent idle, if_pos tilted]

theorem updateSafety_values (readings : Readings) (pin : AnalogPin) :
    (interface.load readings).updateSafety.board.values pin = [] := by
  rcases interface.updateSafety_reads readings with once | twice
  · rw [once, Board.values_digitalRead]
    rfl
  · rw [twice, Board.values_digitalRead, Board.values_digitalRead]
    rfl

/-- The stick moves values in its own direction exactly if the branch for right does not slip. -/
theorem update_acts_as_tilted_iff (percent : Int) (readings : Readings) :
    interface.ActsAsTilted percent readings ↔ ¬(interface.load readings).updateSafety.Slips := by
  have moved := interface.perform_selections (.update percent readings)
  simp only [perform, branches] at moved
  have kept := (interface.repaused_updateSafety readings).currentSelection
  have none : NoRight (interface.load readings).updateSafety.board := by
    rw [NoRight, updateSafety_values]
    simp
  rw [ActsAsTilted, moved]
  rcases (interface.load readings).updateSafety.statusBranch_cases with
    still | ⟨branch, one, fits⟩
  · rw [still]
    refine iff_of_true (Selections.directed_same _ _) fun slips => ?_
    simp [slips_branch _ slips] at still
  · have taken : branch ∈ (interface.load readings).updateSafety.statusBranch := by simp [one]
    have tilted : (interface.load readings).updateSafety.running = 0 ∧
        (getUncentered (interface.load readings).updateSafety.board).1 = true := by
      by_contra centred
      simp [statusBranch, centred] at one
    rw [kept] at fits
    rw [one, Runs.run_cons, Runs.run_nil, Selections.directed_move _ _ fits,
      ← seen_iff _ none taken]
    simp only [update_values _ percent tilted.1 tilted.2]

def fallingBack : Readings where
  analog := fun pin n => if pin = .vrX then (if n < 2 then 400 else 600) else 2048

theorem leaving_left_steps_up :
    (construct .released (zeroed .released)).running = 0 ∧
      ¬(construct .released (zeroed .released)).ActsAsTilted (-1) fallingBack := by
  refine ⟨rfl, ?_⟩
  intro directed
  have right := directed.stepsUp (Or.inl ⟨rfl, by decide +kernel⟩)
  revert right
  decide +kernel

end Interface

end ResistorCutter
