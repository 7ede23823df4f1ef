import ResistorCutter.SelectionChecks

/-!
How fast a tilted stick repeats, in true time. `millis()` wraps around, and the subtraction that
compares it with the stamp wraps around with it.
-/

namespace ResistorCutter

inductive Axis | vertical | horizontal
  deriving DecidableEq, Repr

/-- The limit that `handleJoystick` waits for, in milliseconds. -/
def Axis.limit : Axis → Nat
  | .vertical => 500
  | .horizontal => 250

/-- An entry into a branch of `handleJoystick`, with the numbers of the clock readings in this
`update` that its test compares and that it stores in `lastUpdate`. -/
structure Acceptance where
  axis : Axis
  checked : Nat
  stamped : Nat
  deriving DecidableEq, Repr

def InStep (readings : Readings) (board : Board) : Prop :=
  ∀ n, board.next.clock n = readings.clock (board.ticks + n)

theorem stickRelation_inStep (readings : Readings) :
    StickRelation fun before after => InStep readings before → InStep readings after where
  refl := fun _ inStep => inStep
  trans := fun left right inStep => right (left inStep)
  analogRead := by
    intro board pin inStep n
    rw [Board.ticks_analogRead]
    exact inStep n
  millis := by
    intro board inStep n
    rw [Board.ticks_millis, Nat.add_assoc, Nat.add_comm 1 n]
    exact inStep (n + 1)

theorem stickRelation_ticks : StickRelation fun before after => before.ticks ≤ after.ticks where
  refl := fun _ => Nat.le_refl _
  trans := Nat.le_trans
  analogRead := fun board pin => (Board.ticks_analogRead board pin).ge
  millis := fun board => by simp

def Board.timing (board : Board) : Nat × (Nat → UInt32) := (board.ticks, board.next.clock)

namespace Joystick

theorem timing_analogRead (board : Board) (pin : AnalogPin) :
    (board.analogRead pin).2.timing = board.timing := by
  simp [Board.timing, Board.analogRead, Board.ticks]

theorem timing_getVertical : Keeps Board.timing getVertical :=
  keeps_either (fun board => timing_analogRead board .vrY)
    fun board => timing_analogRead board .vrY

theorem timing_getHorizontal : Keeps Board.timing getHorizontal :=
  keeps_either (fun board => timing_analogRead board .vrX)
    fun board => timing_analogRead board .vrX

theorem getUncentered_pair : getUncentered = either getVertical getHorizontal :=
  either_assoc getUp getDown getHorizontal

theorem timing_getUncentered : Keeps Board.timing getUncentered := by
  rw [getUncentered_pair]
  exact keeps_either timing_getVertical timing_getHorizontal

/-! A stick that is tilted steadily. -/

/-- The stick stays beyond one threshold of the axis and, for `horizontal`, is not tilted up or
down. -/
def Steady : Axis → Board → Prop
  | .vertical, board =>
      (∀ n, board.next.analog .vrY n < 500) ∨ ∀ n, 3595 < board.next.analog .vrY n
  | .horizontal, board =>
      ((∀ n, board.next.analog .vrX n < 500) ∨ ∀ n, 3595 < board.next.analog .vrX n) ∧
        ∀ n, 500 ≤ board.next.analog .vrY n ∧ board.next.analog .vrY n ≤ 3595

theorem stickRelation_steady (axis : Axis) :
    StickRelation fun before after => Steady axis before → Steady axis after where
  refl := fun _ steady => steady
  trans := fun left right steady => right (left steady)
  analogRead := by
    intro board pin steady
    cases axis with
    | vertical => exact steady.imp (fun low n => low _) fun high n => high _
    | horizontal =>
        exact ⟨steady.1.imp (fun low n => low _) fun high n => high _, fun n => steady.2 _⟩
  millis := fun _ steady => by cases axis <;> exact steady

theorem getVertical_steady {board : Board} (steady : Steady .vertical board) :
    (getVertical board).1 = true := by
  rcases steady with low | high
  · simp [getVertical, either, getUp, Board.analogRead, low 0]
  · have notUp : ¬board.next.analog .vrY 0 < 500 := by
      have first := high 0
      omega
    simp [getVertical, either, getUp, getDown, Board.analogRead, notUp, high 1]

theorem getHorizontal_steady {board : Board} (steady : Steady .horizontal board) :
    (getHorizontal board).1 = true := by
  rcases steady.1 with low | high
  · simp [getHorizontal, either, getLeft, Board.analogRead, low 0]
  · have notLeft : ¬board.next.analog .vrX 0 < 500 := by
      have first := high 0
      omega
    simp [getHorizontal, either, getLeft, getRight, Board.analogRead, notLeft, high 1]

theorem getVertical_centred {board : Board} (steady : Steady .horizontal board) :
    (getVertical board).1 = false := by
  have notUp : ¬board.next.analog .vrY 0 < 500 := Nat.not_lt.mpr (steady.2 0).1
  have notDown : ¬3595 < board.next.analog .vrY 1 := Nat.not_lt.mpr (steady.2 1).2
  simp [getVertical, either, getUp, getDown, Board.analogRead, notUp, notDown]

theorem getUncentered_steady {axis : Axis} {board : Board} (steady : Steady axis board) :
    (getUncentered board).1 = true := by
  rw [getUncentered_pair]
  cases axis with
  | vertical =>
      rw [either_answered (getVertical_steady steady)]
      exact getVertical_steady steady
  | horizontal =>
      have later := (stickRelation_steady .horizontal).getVertical board steady
      simp only [either, getVertical_centred steady]
      exact getHorizontal_steady later

end Joystick

namespace Interface

open Joystick

variable (interface : Interface)

def stickAcceptance : Option Acceptance :=
  if interface.verticalTest.1 then
    some ⟨.vertical, (getVertical interface.board).2.ticks, interface.pastVertical.board.ticks⟩
  else if interface.pastVertical.horizontalTest.1 then
    some ⟨.horizontal, (getHorizontal interface.pastVertical.board).2.ticks,
      interface.pastVertical.pastHorizontal.board.ticks⟩
  else none

def acceptance : Option Acceptance :=
  if interface.running = 0 ∧ (getUncentered interface.board).1 then
    interface.pastUncentered.stickAcceptance
  else none

def Centres : Prop := interface.running = 0 ∧ (getUncentered interface.board).1 = false

instance : Decidable interface.Centres := inferInstanceAs (Decidable (_ ∧ _))

theorem both_second {first second : Board → Bool × Board} {board : Board}
    (holds : (both first second board).1 = true) : (second (first board).2).1 = true := by
  have left := both_first holds
  simpa [both, left] using holds

theorem debounce_elapsed {limit : UInt32} {board : Board} (waiting : interface.debounced = false)
    (accepted : (interface.debounce limit board).1 = true) :
    limit ≤ board.next.clock 0 - interface.lastUpdate := by
  simpa [debounce, waiting, Board.millis] using accepted

variable {readings : Readings} {accepted : Acceptance}

theorem stickAcceptance_cases (entered : interface.stickAcceptance = some accepted) :
    (interface.verticalTest.1 = true ∧
      accepted = ⟨.vertical, (getVertical interface.board).2.ticks,
        interface.pastVertical.board.ticks⟩ ∧
      interface.handleJoystick = interface.pastVertical.stamp.moveVertical.refresh) ∨
    (interface.pastVertical.horizontalTest.1 = true ∧
      accepted = ⟨.horizontal, (getHorizontal interface.pastVertical.board).2.ticks,
        interface.pastVertical.pastHorizontal.board.ticks⟩ ∧
      interface.handleJoystick =
        interface.pastVertical.pastHorizontal.stamp.moveHorizontal.refresh) := by
  rw [handleJoystick_eq]
  simp only [stickAcceptance] at entered
  by_cases vertical : interface.verticalTest.1 = true
  · left
    rw [if_pos vertical, Option.some.injEq] at entered
    exact ⟨vertical, entered.symm, if_pos vertical⟩
  · right
    rw [if_neg vertical] at entered ⊢
    by_cases horizontal : interface.pastVertical.horizontalTest.1 = true
    · rw [if_pos horizontal, Option.some.injEq] at entered
      exact ⟨horizontal, entered.symm, if_pos horizontal⟩
    · simp [horizontal] at entered

theorem acceptance_cases (entered : interface.acceptance = some accepted) :
    interface.running = 0 ∧ (getUncentered interface.board).1 = true ∧
      interface.pastUncentered.stickAcceptance = some accepted := by
  simp only [acceptance] at entered
  by_cases tilted : interface.running = 0 ∧ (getUncentered interface.board).1 = true
  · rw [if_pos tilted] at entered
    exact ⟨tilted.1, tilted.2, entered⟩
  · simp [tilted] at entered

theorem stickAcceptance_checked (inStep : InStep readings interface.board)
    (waiting : interface.debounced = false)
    (entered : interface.stickAcceptance = some accepted) :
    UInt32.ofNat accepted.axis.limit ≤ readings.clock accepted.checked - interface.lastUpdate := by
  have stick := stickRelation_inStep readings
  rcases interface.stickAcceptance_cases entered with ⟨vertical, rfl, _⟩ | ⟨horizontal, rfl, _⟩
  · have elapsed := interface.debounce_elapsed waiting (both_second vertical)
    rw [stick.getVertical _ inStep] at elapsed
    exact elapsed
  · have past : InStep readings interface.pastVertical.board :=
      stick.both stick.getVertical (stick.debounce interface 500) _ inStep
    have elapsed := debounce_elapsed interface.pastVertical waiting
      (both_second (both_first horizontal))
    rw [stick.getHorizontal _ past] at elapsed
    exact elapsed

theorem acceptance_checked (inStep : InStep readings interface.board)
    (waiting : interface.debounced = false) (entered : interface.acceptance = some accepted) :
    UInt32.ofNat accepted.axis.limit ≤ readings.clock accepted.checked - interface.lastUpdate := by
  obtain ⟨_, _, entered⟩ := interface.acceptance_cases entered
  exact stickAcceptance_checked interface.pastUncentered
    ((stickRelation_inStep readings).getUncentered _ inStep) waiting entered

/-! What becomes of `lastUpdate` and `debounced`. -/

def timer : UInt32 × Bool := (interface.lastUpdate, interface.debounced)

theorem moveVertical_timer : interface.moveVertical.timer = interface.timer := by
  simp only [moveVertical]
  split
  · rfl
  · split <;> rfl

theorem moveHorizontal_timer : interface.moveHorizontal.timer = interface.timer := by
  simp only [moveHorizontal]
  split
  · split <;> rfl
  · split
    · split <;> rfl
    · rfl

theorem handleJoystick_timer (inStep : InStep readings interface.board)
    (entered : interface.stickAcceptance = some accepted) :
    interface.handleJoystick.timer = (readings.clock accepted.stamped, false) := by
  have stick := stickRelation_inStep readings
  have past : InStep readings interface.pastVertical.board :=
    stick.both stick.getVertical (stick.debounce interface 500) _ inStep
  rcases interface.stickAcceptance_cases entered with ⟨_, rfl, moved⟩ | ⟨_, rfl, moved⟩
  · have read : interface.pastVertical.board.next.clock 0 =
        readings.clock interface.pastVertical.board.ticks := past 0
    rw [moved, ← read]
    exact interface.pastVertical.stamp.moveVertical_timer
  · have centred : ∀ board, InStep readings board →
        InStep readings (negate getVertical board).2 := stick.getVertical
    have tested : InStep readings interface.pastVertical.pastHorizontal.board :=
      stick.both (stick.both stick.getHorizontal (stick.debounce interface.pastVertical 250))
        centred _ past
    have read : interface.pastVertical.pastHorizontal.board.next.clock 0 =
        readings.clock interface.pastVertical.pastHorizontal.board.ticks := tested 0
    rw [moved, ← read]
    exact interface.pastVertical.pastHorizontal.stamp.moveHorizontal_timer

theorem handleJoystick_idle (none : interface.stickAcceptance = none) :
    interface.handleJoystick.timer = interface.timer := by
  rw [handleJoystick_eq]
  simp only [stickAcceptance] at none
  by_cases vertical : interface.verticalTest.1 = true
  · simp [vertical] at none
  · by_cases horizontal : interface.pastVertical.horizontalTest.1 = true
    · simp [vertical, horizontal] at none
    · rw [if_neg vertical, if_neg horizontal]
      rfl

theorem updateStatus_timer (percent : Int) (inStep : InStep readings interface.board)
    (entered : interface.acceptance = some accepted) :
    (interface.updateStatus percent).timer = (readings.clock accepted.stamped, false) := by
  obtain ⟨idle, tilted, entered⟩ := interface.acceptance_cases entered
  rw [updateStatus_eq interface percent idle, if_pos tilted]
  exact handleJoystick_timer interface.pastUncentered
    ((stickRelation_inStep readings).getUncentered _ inStep) entered

theorem updateStatus_idle_timer (percent : Int) (none : interface.acceptance = none)
    (tilted : ¬interface.Centres) : (interface.updateStatus percent).timer = interface.timer := by
  by_cases idle : interface.running = 0
  · have uncentered : (getUncentered interface.board).1 = true := by
      simpa [Centres, idle] using tilted
    rw [acceptance, if_pos ⟨idle, uncentered⟩] at none
    rw [updateStatus_eq interface percent idle, if_pos uncentered]
    exact handleJoystick_idle interface.pastUncentered none
  · rw [updateStatus_active interface percent idle]
    rfl

theorem stickAcceptance_stamped (entered : interface.stickAcceptance = some accepted) :
    accepted.stamped ≤ interface.handleJoystick.board.ticks := by
  have stick := stickRelation_ticks
  rcases interface.stickAcceptance_cases entered with ⟨_, rfl, moved⟩ | ⟨_, rfl, moved⟩
  · rw [moved]
    exact stick.trans (stick.stamp interface.pastVertical) (stick.moveVertical _)
  · rw [moved]
    exact stick.trans (stick.stamp interface.pastVertical.pastHorizontal)
      (stick.moveHorizontal _)

theorem acceptance_stamped (percent : Int) (entered : interface.acceptance = some accepted) :
    accepted.stamped ≤ (interface.updateStatus percent).board.ticks := by
  obtain ⟨idle, tilted, entered⟩ := interface.acceptance_cases entered
  rw [updateStatus_eq interface percent idle, if_pos tilted]
  exact stickAcceptance_stamped interface.pastUncentered entered

theorem updateSwitch_timer : interface.updateSwitch.1.timer = interface.timer := by
  rcases interface.updateSwitch_cases with ⟨_, _, _, press⟩ | none
  · rw [press]
    rfl
  · rw [none]
    rfl

theorem updateSwitch_ticks : interface.updateSwitch.1.board.ticks = interface.board.ticks := by
  rcases interface.updateSwitch_cases with ⟨_, _, _, press⟩ | none
  · rw [press]
    exact interface.board.ticks_digitalRead .sw
  · rw [none]
    exact interface.board.ticks_digitalRead .sw

/-! A steady tilt past the limit is accepted, and the first reading of the clock decides. -/

theorem both_holds {first second : Board → Bool × Board} {board : Board}
    (left : (first board).1 = true) (right : (second (first board).2).1 = true) :
    (both first second board).1 = true := by
  simp [both, left, right]

theorem debounce_passes {limit : UInt32} {before board : Board}
    (timing : board.timing = before.timing)
    (passed : limit ≤ before.next.clock 0 - interface.lastUpdate) :
    (interface.debounce limit board).1 = true := by
  have clock : board.next.clock = before.next.clock := congrArg Prod.snd timing
  cases waiting : interface.debounced with
  | true => simp [debounce, waiting]
  | false => simpa [debounce, waiting, Board.millis, clock] using passed

theorem stickAcceptance_steady {axis : Axis} (steady : Steady axis interface.board)
    (passed : UInt32.ofNat axis.limit ≤ interface.board.next.clock 0 - interface.lastUpdate) :
    ∃ accepted, interface.stickAcceptance = some accepted ∧ accepted.axis = axis ∧
      accepted.checked = interface.board.ticks := by
  have timing := timing_getVertical interface.board
  cases axis with
  | vertical =>
      have test : interface.verticalTest.1 = true :=
        both_holds (getVertical_steady steady) (interface.debounce_passes timing passed)
      exact ⟨_, if_pos test, rfl, congrArg Prod.fst timing⟩
  | horizontal =>
      have centred := getVertical_centred steady
      have test : interface.verticalTest = getVertical interface.board := by
        simp [verticalTest, both, centred]
      have refused : ¬interface.verticalTest.1 = true := by
        rw [test, centred]
        exact Bool.false_ne_true
      have board : interface.pastVertical.board = (getVertical interface.board).2 :=
        congrArg Prod.snd test
      have stays : Steady .horizontal interface.pastVertical.board := by
        rw [board]
        exact (stickRelation_steady .horizontal).getVertical _ steady
      have again := timing_getHorizontal interface.pastVertical.board
      rw [board, timing, ← board] at again
      have tested := both_holds (getHorizontal_steady stays)
        (debounce_passes interface.pastVertical again passed)
      have last := (stickRelation_steady .horizontal).both
        (stickRelation_steady .horizontal).getHorizontal
        ((stickRelation_steady .horizontal).debounce interface.pastVertical 250) _ stays
      have accepted : interface.pastVertical.horizontalTest.1 = true :=
        both_holds tested (by simp [negate, getVertical_centred last])
      exact ⟨_, (if_neg refused).trans (if_pos accepted), rfl, congrArg Prod.fst again⟩

theorem acceptance_steady {axis : Axis} (idle : interface.running = 0)
    (steady : Steady axis interface.board)
    (passed : UInt32.ofNat axis.limit ≤ interface.board.next.clock 0 - interface.lastUpdate) :
    ∃ accepted, interface.acceptance = some accepted ∧ accepted.axis = axis ∧
      accepted.checked = interface.board.ticks := by
  have tilted := getUncentered_steady steady
  have timing : interface.pastUncentered.board.timing = interface.board.timing :=
    timing_getUncentered interface.board
  have ticks : interface.pastUncentered.board.ticks = interface.board.ticks :=
    congrArg Prod.fst timing
  have clock : interface.pastUncentered.board.next.clock = interface.board.next.clock :=
    congrArg Prod.snd timing
  rw [acceptance, if_pos ⟨idle, tilted⟩, ← ticks]
  apply stickAcceptance_steady interface.pastUncentered
  · exact (stickRelation_steady axis).getUncentered _ steady
  · rw [clock]
    exact passed

end Interface

end ResistorCutter
