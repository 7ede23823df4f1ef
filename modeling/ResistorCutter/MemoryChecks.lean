import ResistorCutter.PauseChecks
import ResistorCutter.StatusPageChecks

/-!
Two objects constructed in different memory. The constructor reads one field that it has not
written: the comma in its chain of assignments leaves `prevRunning` as it finds it and copies it
to `percent`, `currentSelection` and `lastUpdate`.
-/

namespace ResistorCutter

namespace Interface

structure Observation where
  runningStatus : Int
  resistorsPerKit : Int
  kits : Int
  percent : UInt32
  page : Webpages
  deriving DecidableEq, Repr

def observe (interface : Interface) : Observation where
  runningStatus := interface.getRunningStatus
  resistorsPerKit := interface.getResistorsPerKit
  kits := interface.getKits
  percent := interface.percent
  page := interface.localHost.webpages

def callbacks (interface : Interface) : Activity → List Int
  | .operation operation => (interface.listener operation).toList
  | _ => []

/-- The two objects, each constructed in its own memory, show the same after the activities and
have called the listener with the same arguments. -/
def ShowSame (power : PowerUp) (memory other : Interface) (activities : List Activity) : Prop :=
  (Runs.run react (construct power memory) activities).observe =
      (Runs.run react (construct power other) activities).observe ∧
    Runs.trace react callbacks (construct power memory) activities =
      Runs.trace react callbacks (construct power other) activities

/-- The readings in progress are no part of the object. -/
def SameFields (left right : Interface) : Prop := ∃ board, right = { left with board := board }

theorem SameFields.observe {left right : Interface} (same : SameFields left right) :
    left.observe = right.observe := by
  obtain ⟨board, rfl⟩ := same
  rfl

theorem sameFields_perform (left right : Interface) (operation : Operation)
    (same : SameFields left right) :
    SameFields (left.perform operation) (right.perform operation) ∧
      (left.listener operation).toList = (right.listener operation).toList := by
  obtain ⟨board, rfl⟩ := same
  cases operation with
  | update percent readings => exact ⟨⟨_, rfl⟩, rfl⟩
  | setPausedStatus paused =>
      refine ⟨⟨board, ?_⟩, rfl⟩
      simp only [perform, setPausedStatus_eq]
      rfl
  | doneRunning =>
      refine ⟨⟨board, ?_⟩, rfl⟩
      simp only [perform, doneRunning_eq]
      split <;> rfl

theorem sameFields_react (left right : Interface) (activity : Activity)
    (same : SameFields left right) :
    SameFields (left.react activity) (right.react activity) ∧
      left.callbacks activity = right.callbacks activity := by
  cases activity with
  | operation operation => exact sameFields_perform left right operation same
  | request request =>
      obtain ⟨board, rfl⟩ := same
      exact ⟨⟨board, rfl⟩, rfl⟩
  | disconnected =>
      obtain ⟨board, rfl⟩ := same
      exact ⟨⟨board, rfl⟩, rfl⟩

variable (power : PowerUp) (memory other : Interface)

theorem construct_percent : (construct power memory).percent = memory.prevRunning := rfl

theorem construct_idle : (construct power memory).running = 0 := rfl

theorem sameFields_construct (agree : memory.prevRunning = other.prevRunning) :
    SameFields (construct power memory) (construct power other) := by
  refine ⟨other.board, ?_⟩
  simp only [construct, agree]
  rfl

theorem showSame_of_agree (agree : memory.prevRunning = other.prevRunning)
    (activities : List Activity) : ShowSame power memory other activities := by
  obtain ⟨same, called⟩ := Runs.related_run sameFields_react
    (sameFields_construct power memory other agree) activities
  exact ⟨same.observe, called⟩

theorem agree_of_percent
    (same : (construct power memory).percent = (construct power other).percent) :
    memory.prevRunning = other.prevRunning := by
  rwa [construct_percent, construct_percent] at same

end Interface

/-! The sketch with its object constructed in any memory, and lines that arrive over Serial. -/

namespace Config

open Interface

def constructed (power : PowerUp) (memory : Interface) : Config :=
  { init power with interface := construct power memory }

def SameFields (left right : Config) : Prop :=
  ∃ board, right = { left with interface := { left.interface with board := board } }

def callbacks (config : Config) (input : Input) : List Int := (config.calls input).toList

def ShowSame (power : PowerUp) (memory other : Interface) (inputs : List Input) : Prop :=
  (Runs.run step (constructed power memory) inputs).interface.observe =
      (Runs.run step (constructed power other) inputs).interface.observe ∧
    Runs.trace step callbacks (constructed power memory) inputs =
      Runs.trace step callbacks (constructed power other) inputs

theorem SameFields.observe {left right : Config} (same : SameFields left right) :
    left.interface.observe = right.interface.observe := by
  obtain ⟨board, rfl⟩ := same
  rfl

theorem sameFields_step (left right : Config) (input : Input) (same : SameFields left right) :
    SameFields (left.step input) (right.step input) ∧
      left.callbacks input = right.callbacks input := by
  obtain ⟨board, rfl⟩ := same
  obtain ⟨interface, stack, point, started, serial⟩ := left
  cases point with
  | update => exact ⟨⟨_, rfl⟩, rfl⟩
  | check =>
      obtain ⟨after, paused⟩ : Interface.SameFields (checkPause input.line interface)
          (checkPause input.line { interface with board := board }) := by
        rw [checkPause_operations, checkPause_operations]
        exact (Runs.related_run sameFields_perform ⟨board, rfl⟩ (lineOperations input.line)).1
      simp only [step, stepCheck, paused]
      cases stack <;> exact ⟨⟨after, rfl⟩, rfl⟩
  | advance =>
      obtain ⟨after, done⟩ := (sameFields_perform interface { interface with board := board }
        .doneRunning ⟨board, rfl⟩).1
      simp only [perform] at done
      cases stack with
      | nil => exact ⟨⟨board, rfl⟩, rfl⟩
      | cons job outer =>
          simp only [step, stepAdvance, done]
          split
          · exact ⟨⟨board, rfl⟩, rfl⟩
          · exact ⟨⟨after, rfl⟩, rfl⟩

theorem showSame_of_agree (power : PowerUp) (memory other : Interface)
    (agree : memory.prevRunning = other.prevRunning) (inputs : List Input) :
    ShowSame power memory other inputs := by
  obtain ⟨board, same⟩ := sameFields_construct power memory other agree
  have start : SameFields (constructed power memory) (constructed power other) :=
    ⟨board, by rw [constructed, constructed, same]⟩
  obtain ⟨final, called⟩ := Runs.related_run sameFields_step start inputs
  exact ⟨final.observe, called⟩

end Config

namespace Interface

/-- After construction and after every activity two objects show the same, if and only if their
memory held the same in the place of `prevRunning`; and so it is if nothing is looked at before
the first activity, and for the object of the sketch after every step. -/
theorem shows_same_iff (power : PowerUp) (memory other : Interface) :
    (∀ activities, (∀ first, first <+: activities → ShowSame power memory other first) ↔
      memory.prevRunning = other.prevRunning) ∧
    ((∀ activities, activities ≠ [] → ShowSame power memory other activities) ↔
      memory.prevRunning = other.prevRunning) ∧
    ∀ inputs, (∀ first, first <+: inputs → Config.ShowSame power memory other first) ↔
      memory.prevRunning = other.prevRunning := by
  refine ⟨fun activities => ⟨?_, ?_⟩, ⟨?_, ?_⟩, fun inputs => ⟨?_, ?_⟩⟩
  · intro all
    have start := (all [] List.nil_prefix).1
    exact agree_of_percent power memory other (congrArg Observation.percent start)
  · intro agree first _
    exact showSame_of_agree power memory other agree first
  · intro all
    -- `doneRunning` does nothing to an object that is idle
    have idle (place : Interface) :
        Runs.run react (construct power place) [.operation .doneRunning] =
          construct power place := by
      simp [react, perform, doneRunning, construct_idle]
    have later := (all [.operation .doneRunning] (by simp)).1
    rw [idle, idle] at later
    exact agree_of_percent power memory other (congrArg Observation.percent later)
  · intro agree activities _
    exact showSame_of_agree power memory other agree activities
  · intro all
    have start := (all [] List.nil_prefix).1
    exact agree_of_percent power memory other (congrArg Observation.percent start)
  · intro agree first _
    exact Config.showSame_of_agree power memory other agree first

/-- The switch is released, and 1 is left in the place of `prevRunning`: the first `update` finds
a change of the switch and resumes what was never paused. -/
theorem stale_memory_starts_machine :
    ¬∀ (power : PowerUp) (memory other : Interface) (activities : List Activity),
      activities ≠ [] → ShowSame power memory other activities := by
  intro all
  have same := all .released (zeroed .released) { zeroed .released with prevRunning := 1 }
    [.operation (.update (-1) {})] (by simp)
  have status := congrArg Observation.runningStatus same.1
  revert status
  decide

end Interface

end ResistorCutter
