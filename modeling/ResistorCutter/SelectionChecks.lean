import ResistorCutter.StickChecks
import ResistorCutter.SketchChecks

/-!
The three values that the operator edits as functions of the history of branches: each is a cyclic
counter, and what counts is how often it was stepped either way, not when.
-/

namespace ResistorCutter

def Branch.Known : Branch → Prop
  | .left selection => selection = 0 ∨ selection = 1
  | .right selection => selection = 0 ∨ selection = 1
  | _ => True

def Branch.Fits (selection : UInt8) : Branch → Prop
  | .left taken => taken = selection ∧ (taken = 0 ∨ taken = 1)
  | .right taken => taken = selection ∧ (taken = 0 ∨ taken = 1)
  | _ => True

theorem Branch.Fits.known {selection : UInt8} {branch : Branch} (fits : branch.Fits selection) :
    branch.Known := by
  cases branch with
  | up => trivial
  | down => trivial
  | left taken => exact fits.2
  | right taken => exact fits.2

namespace Selections

def initial : Selections := ⟨0, 1, 1⟩

/-- The values are what the numbers of branches taken either way say. -/
structure Follows (selections : Selections) (history : List Branch) : Prop where
  currentSelection : (selections.currentSelection.toNat : Int) =
    (history.count .down - history.count .up : Int) % 3
  rPerKit : (selections.rPerKit.toNat : Int) =
    1 + (history.count (.right 0) - history.count (.left 0) : Int) % 10
  kits : (selections.kits.toNat : Int) =
    1 + (history.count (.right 1) - history.count (.left 1) : Int) % 50

structure InRange (selections : Selections) : Prop where
  currentSelection : selections.currentSelection.toNat ≤ 2
  rPerKit : 1 ≤ selections.rPerKit.toNat ∧ selections.rPerKit.toNat ≤ 10
  kits : 1 ≤ selections.kits.toNat ∧ selections.kits.toNat ≤ 50

theorem Follows.inRange {selections : Selections} {history : List Branch}
    (follows : selections.Follows history) : selections.InRange := by
  obtain ⟨currentSelection, rPerKit, kits⟩ := follows
  constructor
  · omega
  · omega
  · omega

theorem follows_move {selections : Selections} {history : List Branch} (branch : Branch)
    (follows : selections.Follows history) (known : branch.Known) :
    (selections.move branch).Follows (history ++ [branch]) := by
  have range := follows.inRange
  obtain ⟨currentSelection, rPerKit, kits⟩ := follows
  cases branch with
  | up =>
      refine ⟨?_, ?_, ?_⟩
      · simp [move]
        omega
      · simpa [move] using rPerKit
      · simpa [move] using kits
  | down =>
      refine ⟨?_, ?_, ?_⟩
      · simp [move]
        omega
      · simpa [move] using rPerKit
      · simpa [move] using kits
  | left selection =>
      rcases known with rfl | rfl
      · refine ⟨?_, ?_, ?_⟩
        · simpa [move] using currentSelection
        · simp [move]
          omega
        · simpa [move] using kits
      · refine ⟨?_, ?_, ?_⟩
        · simpa [move] using currentSelection
        · simpa [move] using rPerKit
        · simp [move]
          omega
  | right selection =>
      rcases known with rfl | rfl
      · refine ⟨?_, ?_, ?_⟩
        · simpa [move] using currentSelection
        · simp [move]
          omega
        · simpa [move] using kits
      · refine ⟨?_, ?_, ?_⟩
        · simpa [move] using currentSelection
        · simpa [move] using rPerKit
        · simp [move]
          omega

theorem follows_run {selections : Selections} {history : List Branch} (branches : List Branch)
    (follows : selections.Follows history) (known : ∀ branch ∈ branches, branch.Known) :
    (Runs.run move selections branches).Follows (history ++ branches) := by
  induction branches generalizing selections history with
  | nil => simpa using follows
  | cons branch rest ih =>
      have moved := follows_move branch follows (known branch (by simp))
      simpa using ih moved fun later member => known later (by simp [member])

theorem follows_initial : initial.Follows [] := by
  constructor <;> rfl

structure Undoes (selections : Selections) : Prop where
  left_right : ∀ selection,
    (selections.move (.left selection)).move (.right selection) = selections
  right_left : ∀ selection,
    (selections.move (.right selection)).move (.left selection) = selections

theorem InRange.undoes {selections : Selections} (range : selections.InRange) :
    selections.Undoes := by
  obtain ⟨_, rPerKit, kits⟩ := range
  obtain ⟨currentSelection, resistors, groups⟩ := selections
  simp only at rPerKit kits
  constructor
  · intro selection
    by_cases first : selection = 0
    · simp [move, first, ← UInt32.toNat_inj]
      omega
    · simp [move, first, ← UInt32.toNat_inj]
      omega
  · intro selection
    by_cases first : selection = 0
    · simp [move, first, ← UInt32.toNat_inj]
      omega
    · simp [move, first, ← UInt32.toNat_inj]
      omega

end Selections

namespace Interface

variable (interface : Interface)

theorem verticalBranch_cases :
    interface.verticalBranch = [] ∨ interface.verticalBranch = [.up] ∨
      interface.verticalBranch = [.down] := by
  simp only [verticalBranch]
  split
  · simp
  · split <;> simp

theorem horizontalBranch_cases :
    interface.horizontalBranch = [] ∨
      (interface.currentSelection = 0 ∨ interface.currentSelection = 1) ∧
        (interface.horizontalBranch = [.left interface.currentSelection] ∨
          interface.horizontalBranch = [.right interface.currentSelection]) := by
  simp only [horizontalBranch]
  split
  · rename_i selected
    right
    refine ⟨selected, ?_⟩
    split <;> simp
  · simp

theorem statusBranch_cases :
    interface.statusBranch = [] ∨
      ∃ branch, interface.statusBranch = [branch] ∧ branch.Fits interface.currentSelection := by
  simp only [statusBranch, stickBranch]
  split
  · split
    · rcases interface.pastUncentered.pastVertical.stamp.verticalBranch_cases with
        none | up | down
      · exact Or.inl none
      · exact Or.inr ⟨.up, up, trivial⟩
      · exact Or.inr ⟨.down, down, trivial⟩
    · split
      · rcases interface.pastUncentered.pastVertical.pastHorizontal.stamp.horizontalBranch_cases
          with none | ⟨selected, left | right⟩
        · exact Or.inl none
        · exact Or.inr ⟨_, left, rfl, selected⟩
        · exact Or.inr ⟨_, right, rfl, selected⟩
      · exact Or.inl rfl
  · exact Or.inl rfl

theorem branches_known (operation : Operation) :
    ∀ branch ∈ interface.branches operation, branch.Known := by
  cases operation with
  | update percent readings =>
      rcases (interface.load readings).updateSafety.statusBranch_cases with
        none | ⟨branch, one, fits⟩
      · simp [branches, none]
      · simpa [branches, one] using fits.known
  | setPausedStatus paused => simp [branches]
  | doneRunning => simp [branches]

end Interface

namespace Config

variable (config : Config) (input : Input)

def selections : Selections := config.interface.selections

def branches : List Branch :=
  Runs.trace Interface.perform Interface.branches config.interface (config.operations input)

def history (power : PowerUp) (inputs : List Input) : List Branch :=
  Runs.trace step branches (init power) inputs

theorem step_selections :
    (config.step input).selections =
      Runs.run Selections.move config.selections (config.branches input) := by
  rw [selections, step_interface, branches, Runs.simulation_run Interface.perform_selections]
  rfl

theorem run_selections (power : PowerUp) (inputs : List Input) :
    (run power inputs).selections = Runs.run Selections.move .initial (history power inputs) :=
  Runs.simulation_run step_selections (init power) inputs

theorem branches_known : ∀ branch ∈ config.branches input, branch.Known :=
  Runs.forall_mem_trace Interface.branches_known config.interface (config.operations input)

theorem history_known (power : PowerUp) (inputs : List Input) :
    ∀ branch ∈ history power inputs, branch.Known :=
  Runs.forall_mem_trace branches_known (init power) inputs

theorem branches_elsewhere (elsewhere : config.point ≠ .update) : config.branches input = [] := by
  obtain ⟨interface, stack, point, started, serial⟩ := config
  cases point with
  | update => simp at elsewhere
  | check =>
      rcases lineOperations_cases input.line with none | pause | ⟨_, back⟩
      · simp [branches, operations, none, Runs.trace]
      · simp [branches, operations, pause, Runs.trace, Interface.branches]
      · simp [branches, operations, back, Runs.trace, Interface.branches]
  | advance =>
      cases stack with
      | nil => rfl
      | cons job outer =>
          simp only [branches, operations]
          split <;> rfl

theorem branches_update (atUpdate : config.point = .update) :
    config.branches input = (config.interface.load input.readings).updateSafety.statusBranch := by
  simp [branches, operations, atUpdate, Runs.trace, Interface.branches]

theorem step_selections_cases :
    (config.step input).selections = config.selections ∨
      config.point = .update ∧ ∃ branch, config.branches input = [branch] ∧
        (config.step input).selections = config.selections.move branch := by
  rw [step_selections]
  by_cases atUpdate : config.point = .update
  · have only := config.branches_update input atUpdate
    rcases ((config.interface.load input.readings).updateSafety).statusBranch_cases with
      none | ⟨branch, one, _⟩
    · left
      rw [only, none]
      rfl
    · right
      refine ⟨atUpdate, branch, only.trans one, ?_⟩
      rw [only, one]
      rfl
  · left
    rw [branches_elsewhere config input atUpdate]
    rfl

/-- The numbers of branches taken in each direction determine the three values; so they stay in
range, left and right undo each other, and nothing but a branch of the stick touches them. -/
theorem selections_follow_history (power : PowerUp) (inputs : List Input) :
    (run power inputs).selections.Follows (history power inputs) ∧
      (run power inputs).selections.InRange ∧
      (run power inputs).selections.Undoes ∧
      ∀ input,
        ((run power inputs).step input).selections = (run power inputs).selections ∨
        (run power inputs).point = .update ∧ ∃ branch,
          (run power inputs).branches input = [branch] ∧
          ((run power inputs).step input).selections =
            (run power inputs).selections.move branch := by
  have follows : (run power inputs).selections.Follows (history power inputs) := by
    rw [run_selections]
    exact Selections.follows_run _ Selections.follows_initial (history_known power inputs)
  exact ⟨follows, follows.inRange, follows.inRange.undoes, step_selections_cases _⟩

end Config

end ResistorCutter
