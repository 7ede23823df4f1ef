import Mathlib.Order.Monotone.Defs
import ResistorCutter.RepeatChecks

/-!
Runs on a true clock. The n-th reading of the clock in the whole run returns the n-th of a sequence
of times that never goes back, modulo 2 ^ 32.
-/

namespace ResistorCutter

namespace Interface

variable (interface : Interface) (readings : Readings)

theorem updateSafety_board :
    (interface.load readings).updateSafety.board.timing = (0, readings.clock) ∧
      (interface.load readings).updateSafety.board.next.analog = readings.analog := by
  rcases interface.updateSafety_reads readings with once | twice
  · rw [once]
    exact ⟨rfl, rfl⟩
  · rw [twice]
    exact ⟨rfl, rfl⟩

theorem updateSafety_timer :
    (interface.load readings).updateSafety.timer = interface.timer := by
  have safe := interface.repaused_updateSafety readings
  simp only [timer, safe.lastUpdate, safe.debounced]

theorem updateSafety_inStep : InStep readings (interface.load readings).updateSafety.board := by
  have timing := (interface.updateSafety_board readings).1
  intro n
  have ticks : (interface.load readings).updateSafety.board.ticks = 0 := congrArg Prod.fst timing
  have clock : (interface.load readings).updateSafety.board.next.clock = readings.clock :=
    congrArg Prod.snd timing
  rw [ticks, clock, Nat.zero_add]

theorem update_timer (percent : Int) {accepted : Acceptance}
    (entered : (interface.load readings).updateSafety.acceptance = some accepted) :
    ((interface.load readings).update percent).1.timer =
        (readings.clock accepted.stamped, false) ∧
      accepted.stamped ≤ ((interface.load readings).update percent).1.board.ticks := by
  rcases (interface.load readings).update_cases percent with ⟨paused, _⟩ | ⟨_, body⟩
  · simp [acceptance, paused] at entered
  · rw [body, updateSwitch_timer, updateSwitch_ticks]
    exact ⟨updateStatus_timer _ percent (interface.updateSafety_inStep readings) entered,
      acceptance_stamped _ percent entered⟩

theorem update_idle_timer (percent : Int)
    (none : (interface.load readings).updateSafety.acceptance = none)
    (tilted : ¬(interface.load readings).updateSafety.Centres) :
    ((interface.load readings).update percent).1.timer = interface.timer := by
  have same := interface.updateSafety_timer readings
  rcases (interface.load readings).update_cases percent with ⟨_, early⟩ | ⟨_, body⟩
  · rw [early, same]
  · rw [body, updateSwitch_timer, updateStatus_idle_timer _ percent none tilted, same]

end Interface

structure Timed where
  config : Config
  reads : Nat

namespace Timed

def init (power : PowerUp) : Timed := ⟨Config.init power, 0⟩

variable (time : Nat → Nat) (timed : Timed) (input : Input)

def clocked : Input :=
  { input with
    readings := { input.readings with
      clock := fun n => UInt32.ofNat (time (timed.reads + n)) } }

def step : Timed where
  config := timed.config.step (timed.clocked time input)
  reads := timed.reads +
    if timed.config.point = .update then
      (timed.config.callUpdate (timed.clocked time input)).1.board.ticks
    else 0

def run (power : PowerUp) (inputs : List Input) : Timed :=
  Runs.run (step time) (init power) inputs

def handled : Interface :=
  (timed.config.interface.load (timed.clocked time input).readings).updateSafety

def acceptance : Option Acceptance :=
  if timed.config.point = .update then (timed.handled time input).acceptance else none

/-- The step neither accepts a stick event nor sets `debounced`. -/
def Quiet : Prop :=
  timed.acceptance time input = none ∧
    ¬(timed.config.point = .update ∧ (timed.handled time input).Centres)

instance : Decidable (timed.Quiet time input) := inferInstanceAs (Decidable (_ ∧ _))

/-- The last stick event was stamped with the reading `stamp`, and the stick was not seen centred
since. -/
structure Waiting (stamp : Nat) : Prop where
  timer : timed.config.interface.timer = (UInt32.ofNat (time stamp), false)
  past : stamp ≤ timed.reads

variable {time} {timed} {input}

theorem waiting_accepted {event : Acceptance} (entered : timed.acceptance time input = some event) :
    Waiting time (timed.step time input) (timed.reads + event.stamped) := by
  by_cases atUpdate : timed.config.point = .update
  · rw [acceptance, if_pos atUpdate] at entered
    obtain ⟨timer, past⟩ := timed.config.interface.update_timer
      (timed.clocked time input).readings timed.config.percent entered
    constructor
    · rw [step, Config.step_updated _ _ atUpdate]
      exact timer
    · simp only [step, if_pos atUpdate]
      exact Nat.add_le_add_left past timed.reads
  · simp [acceptance, atUpdate] at entered

theorem waiting_quiet {stamp : Nat} (timed : Timed) (input : Input)
    (waiting : Waiting time timed stamp) (quiet : timed.Quiet time input) :
    Waiting time (timed.step time input) stamp := by
  refine ⟨?_, waiting.past.trans (Nat.le_add_right _ _)⟩
  rw [← waiting.timer]
  by_cases atUpdate : timed.config.point = .update
  · have none := quiet.1
    rw [acceptance, if_pos atUpdate] at none
    rw [step, Config.step_updated _ _ atUpdate]
    exact timed.config.interface.update_idle_timer _ timed.config.percent none
      fun centres => quiet.2 ⟨atUpdate, centres⟩
  · have untouched := timed.config.untouched_elsewhere (timed.clocked time input) atUpdate
    simp only [step, Interface.timer, untouched.lastUpdate, untouched.debounced]

/-! The wrapping difference against the true one. -/

theorem elapsed_le {now last limit : Nat} (order : last ≤ now) (small : limit < 4294967296)
    (passed : UInt32.ofNat limit ≤ UInt32.ofNat now - UInt32.ofNat last) : last + limit ≤ now := by
  rw [← UInt32.ofNat_sub order, UInt32.le_iff_toNat_le, UInt32.toNat_ofNat', UInt32.toNat_ofNat',
    Nat.mod_eq_of_lt small] at passed
  have true_elapsed := passed.trans (Nat.mod_le (now - last) (2 ^ 32))
  omega

theorem le_elapsed {now last limit : Nat} (reached : last + limit ≤ now)
    (recent : now < last + 4294967296) :
    UInt32.ofNat limit ≤ UInt32.ofNat now - UInt32.ofNat last := by
  have small : now - last < 2 ^ 32 := by omega
  have fits : limit < 2 ^ 32 := by omega
  rw [← UInt32.ofNat_sub (by omega), UInt32.le_iff_toNat_le, UInt32.toNat_ofNat',
    UInt32.toNat_ofNat', Nat.mod_eq_of_lt small, Nat.mod_eq_of_lt fits]
  omega

theorem limit_lt (axis : Axis) : axis.limit < 4294967296 := by
  cases axis <;> decide

theorem Waiting.handled {stamp : Nat} (waiting : Waiting time timed stamp) (input : Input) :
    (timed.handled time input).lastUpdate = UInt32.ofNat (time stamp) ∧
      (timed.handled time input).debounced = false := by
  have timer := timed.config.interface.updateSafety_timer (timed.clocked time input).readings
  rw [waiting.timer] at timer
  exact ⟨congrArg Prod.fst timer, congrArg Prod.snd timer⟩

theorem waiting_rate {stamp : Nat} {event : Acceptance} (forward : Monotone time)
    (waiting : Waiting time timed stamp) (entered : timed.acceptance time input = some event) :
    time stamp + event.axis.limit ≤ time (timed.reads + event.checked) := by
  obtain ⟨lastUpdate, debounced⟩ := waiting.handled input
  have order : time stamp ≤ time (timed.reads + event.checked) :=
    forward (waiting.past.trans (Nat.le_add_right _ _))
  simp only [acceptance] at entered
  split at entered
  · have passed := Interface.acceptance_checked (timed.handled time input)
      (timed.config.interface.updateSafety_inStep (timed.clocked time input).readings)
      debounced entered
    rw [lastUpdate] at passed
    exact elapsed_le order (limit_lt event.axis) passed
  · simp at entered

theorem waiting_steady {stamp : Nat} {axis : Axis} (waiting : Waiting time timed stamp)
    (atUpdate : timed.config.point = .update) (idle : (timed.handled time input).running = 0)
    (steady : Joystick.Steady axis (Board.load input.readings))
    (reached : time stamp + axis.limit ≤ time timed.reads)
    (recent : time timed.reads < time stamp + 4294967296) :
    ∃ event, timed.acceptance time input = some event ∧ event.axis = axis ∧
      event.checked = 0 := by
  obtain ⟨timing, analog⟩ :=
    timed.config.interface.updateSafety_board (timed.clocked time input).readings
  have ticks : (timed.handled time input).board.ticks = 0 := congrArg Prod.fst timing
  have clock : (timed.handled time input).board.next.clock 0 = UInt32.ofNat (time timed.reads) :=
    congrFun (congrArg Prod.snd timing) 0
  have tilted : Joystick.Steady axis (timed.handled time input).board := by
    have same : (timed.handled time input).board.next.analog = input.readings.analog := analog
    cases axis with
    | vertical =>
        simp only [Joystick.Steady, same]
        exact steady
    | horizontal =>
        simp only [Joystick.Steady, same]
        exact steady
  rw [acceptance, if_pos atUpdate, ← ticks]
  apply Interface.acceptance_steady _ idle tilted
  rw [clock, (waiting.handled input).1]
  exact le_elapsed reached recent

/-- Between two stick events that are accepted one after the other without the stick being seen
centred, at least the limit of the second passes in true time; and once it has passed, for less
than one turn of the clock, a steady tilt is accepted. -/
theorem repeat_rate (time : Nat → Nat) (forward : Monotone time) (power : PowerUp)
    (before : List Input) (first : Input) (between : List Input) (event : Acceptance)
    (entered : (run time power before).acceptance time first = some event)
    (quiet : Runs.StepsMeet (step time) (Quiet time) ((run time power before).step time first)
      between) :
    (∀ input later,
      (run time power (before ++ first :: between)).acceptance time input = some later →
      time ((run time power before).reads + event.stamped) + later.axis.limit ≤
        time ((run time power (before ++ first :: between)).reads + later.checked)) ∧
    ∀ input axis, (run time power (before ++ first :: between)).config.point = .update →
      ((run time power (before ++ first :: between)).handled time input).running = 0 →
      Joystick.Steady axis (Board.load input.readings) →
      time ((run time power before).reads + event.stamped) + axis.limit ≤
        time (run time power (before ++ first :: between)).reads →
      time (run time power (before ++ first :: between)).reads <
        time ((run time power before).reads + event.stamped) + 4294967296 →
      ∃ later, (run time power (before ++ first :: between)).acceptance time input = some later ∧
        later.axis = axis ∧ later.checked = 0 := by
  have waiting : Waiting time (run time power (before ++ first :: between))
      ((run time power before).reads + event.stamped) := by
    rw [run, Runs.run_append, Runs.run_cons]
    exact Runs.invariant_run (fun timed => Waiting time timed _) waiting_quiet
      (waiting_accepted entered) quiet
  exact ⟨fun input later => waiting_rate forward waiting,
    fun input axis => waiting_steady waiting⟩

end Timed

def nearWrap (n : Nat) : Nat := 4294967000 + 300 * n

theorem nearWrap_monotone : Monotone nearWrap := by
  intro first second order
  simp only [nearWrap]
  omega

theorem repeat_rate_nearWrap :
    nearWrap 0 + 250 ≤ nearWrap 1 ∧
      ∃ later, (Timed.run nearWrap .released [.tilted .vrX 0, .quiet]).acceptance nearWrap
        (.tilted .vrX 0) = some later ∧ later.axis = .horizontal ∧ later.checked = 0 := by
  obtain ⟨slow, steady⟩ := Timed.repeat_rate nearWrap nearWrap_monotone .released []
    (.tilted .vrX 0) [.quiet] ⟨.horizontal, 0, 0⟩ (by decide +kernel) (by decide +kernel)
  constructor
  · exact slow (.tilted .vrX 0) ⟨.horizontal, 0, 1⟩ (by decide +kernel)
  · exact steady (.tilted .vrX 0) .horizontal rfl (by decide +kernel)
      ⟨Or.inl fun n => by simp [Input.tilted, Board.load], fun n => by
        simp [Input.tilted, Board.load]⟩ (by decide +kernel) (by decide +kernel)

end ResistorCutter
