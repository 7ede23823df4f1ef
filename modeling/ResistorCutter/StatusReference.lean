import ResistorCutter.Runs

/-!
The status of the machine as an automaton with four states, and the encoding of it that
`Interface` uses: two integers, of which the second keeps its value outside a pause.
-/

namespace ResistorCutter

inductive StatusEvent | press | pause | resume | done
  deriving DecidableEq, Repr

inductive Mode | idle | running
  deriving DecidableEq, Repr

inductive Status
  | free (mode : Mode)
  | paused (mode : Mode)
  deriving DecidableEq, Repr

namespace Status

/-- The reference automaton. A press is never accepted while paused. -/
def next : Status → StatusEvent → Status
  | free .idle, .press => free .running
  | free .running, .press => free .idle
  | paused mode, .press => paused mode
  | free mode, .pause => paused mode
  | paused mode, .pause => paused mode
  | free mode, .resume => free mode
  | paused mode, .resume => free mode
  | free _, .done => free .idle
  | paused _, .done => paused .idle

end Status

def Mode.code : Mode → UInt32
  | .idle => 0
  | .running => 1

def Status.code : Status → UInt32
  | .free mode => mode.code
  | .paused _ => 2

structure Encoded where
  running : UInt32
  prevRunning : UInt32
  deriving DecidableEq, Repr

namespace Encoded

def next (encoded : Encoded) : StatusEvent → Encoded
  | .press => { encoded with running := if encoded.running = 0 then 1 else 0 }
  | .pause =>
      ⟨2, if encoded.running ≠ 2 then encoded.running else encoded.prevRunning⟩
  | .resume => { encoded with running := encoded.prevRunning }
  | .done =>
      if encoded.running = 0 then encoded
      else if encoded.running = 2 then ⟨2, 0⟩
      else { encoded with running := 0 }

def Accepts (encoded : Encoded) (event : StatusEvent) : Prop :=
  event = .press → encoded.running ≠ 2

def Valid (encoded : Encoded) : Prop :=
  (encoded.running = 0 ∨ encoded.running = 1 ∨ encoded.running = 2) ∧
    (encoded.prevRunning = 0 ∨ encoded.prevRunning = 1)

theorem valid_next (encoded : Encoded) (event : StatusEvent) (valid : encoded.Valid) :
    (encoded.next event).Valid := by
  obtain ⟨running, prevRunning⟩ := encoded
  obtain ⟨now, saved⟩ := valid
  simp only at now saved
  cases event <;> rcases now with rfl | rfl | rfl <;> rcases saved with rfl | rfl <;>
    simp [next, Valid]

def Settled (encoded : Encoded) : Prop :=
  (encoded.running = 0 ∨ encoded.running = 2) ∧ encoded.prevRunning = 0

theorem settled_next (encoded : Encoded) (event : StatusEvent) (settled : encoded.Settled)
    (other : event ≠ .press) : (encoded.next event).Settled := by
  obtain ⟨running, prevRunning⟩ := encoded
  obtain ⟨now, saved⟩ := settled
  simp only at now saved
  subst saved
  cases event with
  | press => exact absurd rfl other
  | _ => rcases now with rfl | rfl <;> simp [next, Settled]

def Engaged (encoded : Encoded) : Prop :=
  encoded.running = 1 ∨ encoded.running = 2 ∧ encoded.prevRunning = 1

theorem engaged_pause (encoded : Encoded) (engaged : encoded.Engaged) :
    (encoded.next .pause).Engaged := by
  rcases engaged with running | ⟨paused, saved⟩
  · simp [next, Engaged, running]
  · simp [next, Engaged, paused, saved]

theorem engaged_resume (encoded : Encoded) (valid : encoded.Valid) (engaged : encoded.Engaged)
    (undoes : encoded.running = 1 → encoded.prevRunning ≠ 0) :
    (encoded.next .resume).Engaged := by
  left
  rcases engaged with running | ⟨_, saved⟩
  · exact valid.2.resolve_left (undoes running)
  · exact saved

def Underway (encoded : Encoded) : Prop :=
  encoded.running = 2 ∨ encoded.running = 1 ∧ encoded.prevRunning = 0

theorem underway_pause (encoded : Encoded) : (encoded.next .pause).Underway := Or.inl rfl

theorem underway_done (encoded : Encoded) (underway : encoded.Underway) :
    (encoded.next .done).Settled := by
  rcases underway with paused | ⟨running, saved⟩
  · simp [next, Settled, paused]
  · simp [next, Settled, running, saved]

end Encoded

/-! The reference automaton with what the last pause saved. -/

structure History where
  status : Status
  saved : Mode
  deriving DecidableEq, Repr

namespace History

def initial : History := ⟨.free .idle, .idle⟩

/-- A pause saves the mode; a job that finishes during a pause saves idle. -/
def next (history : History) (event : StatusEvent) : History where
  status := history.status.next event
  saved :=
    match history.status, event with
    | .free mode, .pause => mode
    | .paused _, .done => .idle
    | _, _ => history.saved

/-- A resume that undoes no pause finds the mode that was saved last. -/
def Undoes (history : History) (event : StatusEvent) : Prop :=
  event = .resume → ∀ mode, history.status = .free mode → history.saved = mode

structure Encodes (encoded : Encoded) (history : History) : Prop where
  running : encoded.running = history.status.code
  prevRunning : encoded.prevRunning = history.saved.code
  saved : ∀ mode, history.status = .paused mode → history.saved = mode

theorem code_injective {first second : Mode} (same : first.code = second.code) :
    first = second := by
  cases first <;> cases second <;> simp_all [Mode.code]

theorem code_ne_two (mode : Mode) : mode.code ≠ 2 := by
  cases mode <;> simp [Mode.code]

theorem encodes_next {encoded : Encoded} {history : History} {event : StatusEvent}
    (encodes : Encodes encoded history) (accepts : encoded.Accepts event)
    (undoes : history.Undoes event) : Encodes (encoded.next event) (history.next event) := by
  obtain ⟨running, prevRunning⟩ := encoded
  obtain ⟨status, last⟩ := history
  obtain ⟨now, before, kept⟩ := encodes
  simp only at now before kept
  subst now before
  cases status with
  | free mode =>
      cases event with
      | press =>
          cases mode <;> exact ⟨rfl, rfl, by simp [next, Status.next]⟩
      | pause =>
          refine ⟨by simp [Encoded.next, next, Status.next, Status.code], ?_,
            by simp [next, Status.next]⟩
          simp [Encoded.next, next, Status.code, code_ne_two]
      | resume =>
          have same : last = mode := undoes rfl mode rfl
          subst same
          exact ⟨by simp [Encoded.next, next, Status.next, Status.code], rfl,
            by simp [next, Status.next]⟩
      | done =>
          cases mode <;> exact ⟨rfl, rfl, by simp [next, Status.next]⟩
  | paused mode =>
      have same : last = mode := kept mode rfl
      subst same
      cases event with
      | press => exact absurd rfl (accepts rfl)
      | pause => exact ⟨rfl, rfl, by simp [next, Status.next]⟩
      | resume => exact ⟨rfl, rfl, by simp [next, Status.next]⟩
      | done => exact ⟨rfl, rfl, by simp [next, Status.next]⟩

theorem stray_resume_disagrees {encoded : Encoded} {history : History} {event : StatusEvent}
    (encodes : Encodes encoded history) (stray : ¬history.Undoes event) :
    (encoded.next event).running ≠ (history.status.next event).code := by
  simp only [Undoes, not_forall] at stray
  obtain ⟨resume, mode, free, different⟩ := stray
  subst resume
  intro agrees
  apply different
  apply code_injective
  rw [← encodes.prevRunning]
  simpa [Encoded.next, free, Status.next, Status.code] using agrees

theorem agrees_iff {encoded : Encoded} {history : History} {events : List StatusEvent}
    (encodes : Encodes encoded history)
    (accepted : Runs.StepsMeet Encoded.next Encoded.Accepts encoded events) :
    (∀ first, first <+: events →
        (Runs.run Encoded.next encoded first).running =
          (Runs.run Status.next history.status first).code) ↔
      Runs.StepsMeet next Undoes history events := by
  induction events generalizing encoded history with
  | nil => simpa [Runs.StepsMeet] using encodes.running
  | cons event rest ih =>
      rw [Runs.forall_prefix_cons]
      simp only [Runs.run_nil, Runs.run_cons, encodes.running, true_and, Runs.StepsMeet]
      by_cases undoes : history.Undoes event
      · have later := ih (encodes_next encodes accepted.1 undoes) accepted.2
        simp only [undoes, true_and, ← later]
        rfl
      · simp only [undoes, false_and, iff_false, not_forall]
        exact ⟨[], List.nil_prefix, stray_resume_disagrees encodes undoes⟩

end History

end ResistorCutter
