import ResistorCutter.InterlockChecks

/-!
The level that `handleSafetySwitch` passes on against the level that `getChange` read. The pin is
read anew for the first, and the constructor stores the opposite of what it reads, so that the
first `getChange` reports the level whatever it is, unless the switch has moved since.
-/

namespace ResistorCutter

namespace Config

variable (config : Config) (input : Input)

/-- The level last read by a `getChange`, and the value that `handleSafetySwitch` last passed to
`setPausedStatus`. -/
structure Tracking where
  read : Option Bool
  passed : Option Bool
  deriving DecidableEq, Repr

def track (tracking : Tracking) : Tracking :=
  if config.point = .update then
    { read := some (input.readings.digital .safe 0)
      passed :=
        if input.readings.digital .safe 0 = config.interface.safetySwitch.prevState then
          tracking.passed
        else some (input.readings.digital .safe 1) }
  else tracking

/-- What `track` notes of an `update` is what the code does there: the level read is stored, and
`setPausedStatus` is called with the value noted, or not at all. -/
theorem track_update (tracking : Tracking) (atUpdate : config.point = .update) :
    (config.track input tracking).read =
        some (config.step input).interface.safetySwitch.prevState ∧
      ((config.track input tracking).passed = tracking.passed ∧
          (config.interface.load input.readings).updateSafety =
            { config.interface with board := ((Board.load input.readings).digitalRead .safe).2 } ∨
        ∃ paused, (config.track input tracking).passed = some paused ∧
          (config.interface.load input.readings).updateSafety = ({ config.interface with
            safetySwitch := ⟨input.readings.digital .safe 0⟩
            board := (((Board.load input.readings).digitalRead .safe).2.digitalRead .safe).2 } :
              Interface).setPausedStatus paused) := by
  rw [config.update_prevState input atUpdate]
  simp only [track, atUpdate, ↓reduceIte, true_and]
  by_cases same : input.readings.digital .safe 0 = config.interface.safetySwitch.prevState
  · left
    exact ⟨if_pos same, config.interface.updateSafety_same _ same⟩
  · right
    exact ⟨_, if_neg same, config.interface.updateSafety_changed _ same⟩

def tracking (power : PowerUp) (inputs : List Input) : Tracking :=
  (Runs.run (Runs.noted step track) (init power, ⟨none, none⟩) inputs).2

/-- A change that `getChange` reports is confirmed by the second reading. -/
def Confirmed : Prop :=
  config.point = .update →
    input.readings.digital .safe 0 ≠ config.interface.safetySwitch.prevState →
    input.readings.digital .safe 1 = input.readings.digital .safe 0

instance : Decidable (config.Confirmed input) := inferInstanceAs (Decidable (_ → _ → _))

def FirstSampleKept (power : PowerUp) (inputs : List Input) : Prop :=
  ∀ input ∈ inputs.head?, input.readings.digital .safe 0 = power.safe

def Tracked (pair : Config × Tracking) : Prop := pair.2.passed = pair.2.read

theorem tracked_iff (tracking : Tracking)
    (matched : tracking.read = some config.interface.safetySwitch.prevState)
    (tracked : tracking.passed = tracking.read) (inputs : List Input) :
    (∀ first, first <+: inputs →
        Tracked (Runs.run (Runs.noted step track) (config, tracking) first)) ↔
      Runs.StepsMeet step Confirmed config inputs := by
  rw [← Runs.stepsMeet_noted step track Confirmed (config, tracking)]
  have sound : ∀ pair : Config × Tracking, Tracked pair ∧
      pair.2.read = some pair.1.interface.safetySwitch.prevState → Tracked pair :=
    fun _ holds => holds.1
  have start : Tracked (config, tracking) := tracked
  refine Runs.good_iff_stepsMeet sound ?_ ?_ ⟨start, matched⟩ inputs
  · rintro ⟨config, tracking⟩ input ⟨tracked, matched⟩ ok
    by_cases atUpdate : config.point = .update
    · refine ⟨?_, (config.track_update input tracking atUpdate).1⟩
      simp only [Tracked, Runs.noted, track, atUpdate, ↓reduceIte]
      split
      · rename_i same
        rw [same, ← matched]
        exact tracked
      · rename_i changed
        rw [ok atUpdate changed]
    · have same := config.prevState_unchanged input atUpdate
      simp only [Tracked, Runs.noted, track, atUpdate, ↓reduceIte, same]
      exact ⟨tracked, matched⟩
  · rintro ⟨config, tracking⟩ input _ unconfirmed
    simp only [Confirmed, not_forall] at unconfirmed
    obtain ⟨atUpdate, changed, different⟩ := unconfirmed
    simp only [Tracked, Runs.noted, track, atUpdate, ↓reduceIte, if_neg changed, Option.some.injEq]
    exact different

theorem tracked_first (power : PowerUp) (input : Input) :
    Tracked (Runs.noted step track (init power, ⟨none, none⟩) input) ↔
      input.readings.digital .safe 0 = power.safe ∧ (init power).Confirmed input := by
  have stored : (init power).interface.safetySwitch.prevState = !power.safe := rfl
  have atUpdate : (init power).point = .update := rfl
  simp only [Tracked, Runs.noted, track, Confirmed, atUpdate, stored, ↓reduceIte]
  cases input.readings.digital .safe 0 <;> cases power.safe <;> simp

/-- After every `update` the value last passed to `setPausedStatus` by `handleSafetySwitch` is the
level that the last `getChange` read, if and only if the first `getChange` reads the level that
the constructor read and every change that one reports is confirmed by the second reading. -/
theorem level_tracked_iff (power : PowerUp) (inputs : List Input) :
    (∀ first, first <+: inputs → (tracking power first).passed = (tracking power first).read) ↔
      FirstSampleKept power inputs ∧ Runs.StepsMeet step Confirmed (init power) inputs := by
  cases inputs with
  | nil => simp [tracking, FirstSampleKept, Runs.StepsMeet]
  | cons input rest =>
      have first := tracked_first power input
      rw [Runs.forall_prefix_cons]
      simp only [FirstSampleKept, List.head?_cons, Option.mem_def, Option.some.injEq, forall_eq',
        Runs.StepsMeet]
      by_cases tracked : Tracked (Runs.noted step track (init power, ⟨none, none⟩) input)
      · have read := ((init power).track_update input ⟨none, none⟩ rfl).1
        have later := tracked_iff ((init power).step input) ((init power).track input ⟨none, none⟩)
          read tracked rest
        obtain ⟨kept, confirmed⟩ := first.mp tracked
        simp only [kept, confirmed, true_and, ← later]
        exact ⟨fun all => all.2, fun all => ⟨rfl, all⟩⟩
      · constructor
        · intro all
          exact absurd (all.2 [] List.nil_prefix) tracked
        · rintro ⟨kept, confirmed, _⟩
          exact absurd (first.mpr ⟨kept, confirmed⟩) tracked

end Config

open Config Input

def bounced : Input := { readings := { digital := fun _ n => n == 0 } }

theorem bounce_inverts_level :
    ¬∀ (power : PowerUp) (inputs : List Input),
      (tracking power inputs).passed = (tracking power inputs).read := by
  intro all
  exact absurd (all .released [quiet, quiet, bounced]) (by decide)

end ResistorCutter
