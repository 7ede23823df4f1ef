import ResistorCutter.InterfaceChecks

/-!
Every call only adds to the log of readings, so what `update` read first from the safety pin
is in the log when it returns.
-/

namespace ResistorCutter

def Board.Extends (before after : Board) : Prop := before.log <+: after.log

namespace Board

theorem Extends.refl (board : Board) : board.Extends board := List.prefix_rfl

theorem Extends.trans {first second third : Board} (left : first.Extends second)
    (right : second.Extends third) : first.Extends third :=
  List.IsPrefix.trans left right

def values (pin : AnalogPin) (board : Board) : List Nat :=
  board.log.filterMap fun
    | .analog other value => if other = pin then some value else none
    | _ => none

def ticks (board : Board) : Nat :=
  board.log.countP fun
    | .millis _ => true
    | _ => false

theorem Extends.values {before after : Board} (longer : before.Extends after) (pin : AnalogPin) :
    before.values pin ⊆ after.values pin := by
  obtain ⟨more, log⟩ := longer
  intro value member
  rw [Board.values, ← log, List.filterMap_append]
  exact List.mem_append_left _ member

@[simp] theorem values_digitalRead (pin : AnalogPin) (board : Board) (other : DigitalPin) :
    (board.digitalRead other).2.values pin = board.values pin := by
  simp [values, digitalRead]

@[simp] theorem values_millis (pin : AnalogPin) (board : Board) :
    board.millis.2.values pin = board.values pin := by
  simp [values, millis]

theorem values_analogRead (pin other : AnalogPin) (board : Board) :
    (board.analogRead other).2.values pin =
      board.values pin ++ if other = pin then [(board.analogRead other).1] else [] := by
  by_cases same : other = pin
  · simp [values, analogRead, same]
  · simp [values, analogRead, same]

theorem mem_values_analogRead (pin : AnalogPin) (board : Board) :
    (board.analogRead pin).1 ∈ (board.analogRead pin).2.values pin := by
  simp [values_analogRead]

@[simp] theorem ticks_digitalRead (board : Board) (pin : DigitalPin) :
    (board.digitalRead pin).2.ticks = board.ticks := by
  simp [ticks, digitalRead]

@[simp] theorem ticks_analogRead (board : Board) (pin : AnalogPin) :
    (board.analogRead pin).2.ticks = board.ticks := by
  simp [ticks, analogRead]

@[simp] theorem ticks_millis (board : Board) : board.millis.2.ticks = board.ticks + 1 := by
  simp [ticks, millis]

theorem extends_digitalRead (board : Board) (pin : DigitalPin) :
    board.Extends (board.digitalRead pin).2 := List.prefix_append _ _

theorem extends_analogRead (board : Board) (pin : AnalogPin) :
    board.Extends (board.analogRead pin).2 := List.prefix_append _ _

theorem extends_millis (board : Board) : board.Extends board.millis.2 := List.prefix_append _ _

end Board

/-! Relations between the board before and after any number of readings of the stick and of the
clock: what they share is proved for all of them at once. -/

structure StickRelation (relation : Board → Board → Prop) : Prop where
  refl : ∀ board, relation board board
  trans : ∀ {first second third}, relation first second → relation second third →
    relation first third
  analogRead : ∀ (board : Board) (pin : AnalogPin), relation board (board.analogRead pin).2
  millis : ∀ board : Board, relation board board.millis.2

theorem related_negate {relation : Board → Board → Prop} {condition : Board → Bool × Board}
    (reads : ∀ board, relation board (condition board).2) (board : Board) :
    relation board (negate condition board).2 := reads board

namespace StickRelation

variable {relation : Board → Board → Prop} (stick : StickRelation relation)
include stick

theorem either {first second : Board → Bool × Board}
    (left : ∀ board, relation board (first board).2)
    (right : ∀ board, relation board (second board).2) (board : Board) :
    relation board (either first second board).2 := by
  simp only [ResistorCutter.either]
  split
  · exact left board
  · exact stick.trans (left board) (right _)

theorem both {first second : Board → Bool × Board}
    (left : ∀ board, relation board (first board).2)
    (right : ∀ board, relation board (second board).2) (board : Board) :
    relation board (both first second board).2 := by
  simp only [ResistorCutter.both]
  split
  · exact stick.trans (left board) (right _)
  · exact left board

theorem getVertical : ∀ board, relation board (Joystick.getVertical board).2 :=
  stick.either (fun board => stick.analogRead board .vrY) fun board => stick.analogRead board .vrY

theorem getHorizontal : ∀ board, relation board (Joystick.getHorizontal board).2 :=
  stick.either (fun board => stick.analogRead board .vrX) fun board => stick.analogRead board .vrX

theorem getUncentered : ∀ board, relation board (Joystick.getUncentered board).2 :=
  stick.either (fun board => stick.analogRead board .vrY)
    (stick.either (fun board => stick.analogRead board .vrY) stick.getHorizontal)

variable (interface : Interface)

theorem debounce (limit : UInt32) (board : Board) :
    relation board (interface.debounce limit board).2 := by
  simp only [Interface.debounce]
  split
  · exact stick.refl board
  · exact stick.millis board

theorem stamp : relation interface.board interface.stamp.board := stick.millis interface.board

theorem moveVertical : relation interface.board interface.moveVertical.board := by
  have up := stick.analogRead interface.board .vrY
  simp only [Interface.moveVertical]
  split
  · exact up
  · split <;> exact stick.trans up (stick.analogRead _ .vrY)

theorem moveHorizontal : relation interface.board interface.moveHorizontal.board := by
  have left := stick.analogRead interface.board .vrX
  simp only [Interface.moveHorizontal]
  split
  · split <;> exact left
  · split
    · split <;> exact left
    · exact stick.refl _

theorem handleJoystick : relation interface.board interface.handleJoystick.board := by
  have vertical := stick.both stick.getVertical (stick.debounce interface 500) interface.board
  simp only [Interface.handleJoystick]
  split
  · exact stick.trans vertical (stick.trans (stick.stamp { interface with board := _ })
      (stick.moveVertical _))
  · have horizontal := fun board : Board => stick.both
      (stick.both stick.getHorizontal (stick.debounce interface 250))
      (related_negate stick.getVertical) board
    split
    · exact stick.trans vertical (stick.trans (horizontal _)
        (stick.trans (stick.stamp { interface with board := _ }) (stick.moveHorizontal _)))
    · exact stick.trans vertical (horizontal _)

theorem updateStatus (percent : Int) :
    relation interface.board (interface.updateStatus percent).board := by
  by_cases idle : interface.running = 0
  · have uncentered := stick.getUncentered interface.board
    simp only [Interface.updateStatus]
    rw [if_pos idle]
    split
    · exact stick.trans uncentered (stick.handleJoystick { interface with board := _ })
    · exact uncentered
  · rw [Interface.updateStatus_active interface percent idle]
    exact stick.refl _

end StickRelation

theorem stickRelation_extends : StickRelation Board.Extends where
  refl := Board.Extends.refl
  trans := Board.Extends.trans
  analogRead := Board.extends_analogRead
  millis := Board.extends_millis

theorem stickRelation_digital :
    StickRelation fun before after => after.next.digital = before.next.digital where
  refl := fun _ => rfl
  trans := fun left right => right.trans left
  analogRead := fun _ _ => rfl
  millis := fun _ => rfl

def Reads (condition : Board → Bool × Board) : Prop :=
  ∀ board : Board, board.Extends (condition board).2

theorem either_answered {first second : Board → Bool × Board} {board : Board}
    (answered : (first board).1 = true) : either first second board = first board := by
  simp [either, answered]

theorem either_assoc (first second third : Board → Bool × Board) :
    either first (either second third) = either (either first second) third := by
  funext board
  simp only [either]
  split <;> simp [*]

theorem both_first {first second : Board → Bool × Board} {board : Board}
    (holds : (both first second board).1 = true) : (first board).1 = true := by
  simp only [both] at holds
  split at holds
  · assumption
  · exact holds

theorem extends_both {first second : Board → Bool × Board} (reads : Reads second)
    (board : Board) :
    (first board).2.Extends (both first second board).2 := by
  simp only [both]
  split
  · exact reads _
  · exact Board.Extends.refl _

def Keeps {α : Type} (part : Board → α) (condition : Board → Bool × Board) : Prop :=
  ∀ board : Board, part (condition board).2 = part board

theorem keeps_either {α : Type} {part : Board → α} {first second : Board → Bool × Board}
    (left : Keeps part first) (right : Keeps part second) : Keeps part (either first second) := by
  intro board
  simp only [either]
  split
  · exact left board
  · exact (right _).trans (left board)

theorem part_both {α : Type} {part : Board → α} {first second : Board → Bool × Board}
    (right : Keeps part second) (board : Board) :
    part (both first second board).2 = part (first board).2 := by
  simp only [both]
  split
  · exact right _
  · rfl

namespace Joystick

theorem values_getUp : Keeps (Board.values .vrX) getUp := by
  intro board
  simp [getUp, Board.values_analogRead]

theorem values_getDown : Keeps (Board.values .vrX) getDown := by
  intro board
  simp [getDown, Board.values_analogRead]

theorem values_getVertical : Keeps (Board.values .vrX) getVertical :=
  keeps_either values_getUp values_getDown

end Joystick

namespace Interface

open Joystick

variable (interface : Interface)

theorem values_debounce (pin : AnalogPin) (limit : UInt32) :
    Keeps (Board.values pin) (interface.debounce limit) := by
  intro board
  simp only [debounce]
  split
  · rfl
  · exact board.values_millis pin

theorem updateSwitch_extends : interface.board.Extends interface.updateSwitch.1.board := by
  have pressed := interface.board.extends_digitalRead .sw
  rcases interface.updateSwitch_cases with ⟨_, _, _, press⟩ | none
  · rw [press]
    exact pressed
  · rw [none]
    exact pressed

theorem update_extends (percent : Int) :
    interface.updateSafety.board.Extends (interface.update percent).1.board := by
  rcases interface.update_cases percent with ⟨_, paused⟩ | ⟨_, active⟩
  · rw [paused]
    exact Board.Extends.refl _
  · rw [active]
    exact (stickRelation_extends.updateStatus _ percent).trans (updateSwitch_extends _)

theorem updateSafety_log (readings : Readings) :
    Reading.digital .safe (readings.digital .safe 0) ∈
      (interface.load readings).updateSafety.board.log := by
  rcases interface.updateSafety_reads readings with once | twice
  · rw [once]
    simp [Board.digitalRead, Board.load]
  · rw [twice]
    simp [Board.digitalRead, Board.load]

theorem update_log (readings : Readings) (percent : Int) :
    Reading.digital .safe (readings.digital .safe 0) ∈
      ((interface.load readings).update percent).1.board.log :=
  (update_extends _ percent).subset (updateSafety_log interface readings)

end Interface

end ResistorCutter
