import Mathlib.Data.List.Basic

/-!
A clocked serial line and its receiver. The receiver takes the data level at one of the two edges
of the clock while it is selected, and acts on every word of `size` bits.
-/

namespace ResistorCutter

namespace SerialLine

inductive Wire | sck | mosi | cs
  deriving DecidableEq

/-- The levels on the wires, and the bits of the word that is coming in. -/
structure Line where
  sck : Bool
  mosi : Bool
  cs : Bool
  bits : List Bool

abbrev Levels := List (Wire × Bool)

variable {τ : Type*} (size : Nat) (edge : Bool) (act : List Bool → τ → Option τ)

/-- One more bit is in. -/
def shift (state : Line × τ) : Option (Line × τ) :=
  let bits := state.1.bits ++ [state.1.mosi]
  if bits.length = size then
    (act bits state.2).map fun result => ({ state.1 with bits := [] }, result)
  else some ({ state.1 with bits := bits }, state.2)

def hear (state : Line × τ) (event : Wire × Bool) : Option (Line × τ) :=
  let (line, result) := state
  let (wire, level) := event
  match wire with
  | .sck =>
      let next : Line × τ := ({ line with sck := level }, result)
      if line.sck ≠ level ∧ level = edge ∧ !line.cs then shift size act next else some next
  | .mosi => some ({ line with mosi := level }, result)
  | .cs => some ({ line with cs := level, bits := if level then [] else line.bits }, result)

def hearAll (state : Line × τ) (events : Levels) : Option (Line × τ) :=
  events.foldlM (hear size edge act) state

variable {size edge act}

theorem hearAll_append (state : Line × τ) (first second : Levels) :
    hearAll size edge act state (first ++ second) =
      (hearAll size edge act state first).bind fun next => hearAll size edge act next second := by
  rw [hearAll, List.foldlM_append]
  rfl

/-! One bit. -/

/-- Selected, and the clock where the next edge that counts can be made. -/
structure Ready (edge : Bool) (line : Line) : Prop where
  selected : line.cs = false
  clock : edge = true → line.sck = false

/-- A line on which a bit has been sent. -/
def sent (line : Line) (bit : Bool) (bits : List Bool) : Line :=
  ⟨false, bit, line.cs, bits⟩

/-- What a bit does to the receiver. -/
def push (size : Nat) (act : List Bool → τ → Option τ) (state : Line × τ) (bit : Bool) :
    Option (Line × τ) :=
  let bits := state.1.bits ++ [bit]
  if bits.length = size then
    (act bits state.2).map fun result => (sent state.1 bit [], result)
  else some (sent state.1 bit bits, state.2)

/-- The clock goes up and down again. -/
theorem hear_pulse {line : Line} (ready : Ready edge line) (result : τ) :
    hearAll size edge act (line, result) [(.sck, true), (.sck, false)] =
      push size act (line, result) line.mosi := by
  obtain ⟨sck, mosi, cs, bits⟩ := line
  obtain ⟨selected, clock⟩ := ready
  simp only at selected clock
  subst selected
  cases edge with
  | true =>
      obtain rfl := clock rfl
      simp only [hearAll, List.foldlM_cons, List.foldlM_nil, hear, shift, push, sent, ne_eq,
        Bool.false_eq_true, not_false_eq_true, Bool.not_false, and_self, if_true]
      split
      · cases act (bits ++ [mosi]) result <;> rfl
      · rfl
  | false =>
      simp only [hearAll, List.foldlM_cons, List.foldlM_nil, hear, shift, push, sent,
        Bool.true_eq_false, false_and, and_false, if_false, Option.bind_eq_bind, Option.bind_some,
        ne_eq, not_false_eq_true, Bool.not_false, and_self, if_true, Option.pure_def,
        Option.bind_fun_some]

/-- The bit is put on the line between the two edges, and the second one counts. -/
theorem hear_between {line : Line} (ready : Ready false line) (result : τ) (bit : Bool) :
    hearAll size false act (line, result) [(.sck, true), (.mosi, bit), (.sck, false)] =
      push size act (line, result) bit := by
  obtain ⟨sck, mosi, cs, bits⟩ := line
  obtain ⟨selected, -⟩ := ready
  simp only at selected
  subst selected
  simp only [hearAll, List.foldlM_cons, List.foldlM_nil, hear, shift, push, sent,
    Bool.true_eq_false, false_and, and_false, if_false, Option.bind_eq_bind, Option.bind_some,
    ne_eq, not_false_eq_true, Bool.not_false, and_self, if_true, Option.pure_def,
    Option.bind_fun_some]

/-! Words. -/

theorem push_ready {state next : Line × τ} {bit : Bool} (selected : state.1.cs = false)
    (pushed : push size act state bit = some next) : Ready edge next.1 ∧ next.1.mosi = bit := by
  rw [push] at pushed
  split at pushed
  · obtain ⟨result, -, rfl⟩ := Option.map_eq_some_iff.mp pushed
    exact ⟨⟨selected, fun _ => rfl⟩, rfl⟩
  · obtain rfl := Option.some.inj pushed
    exact ⟨⟨selected, fun _ => rfl⟩, rfl⟩

/-- The bits of a word one after the other are the word. -/
theorem push_word (line : Line) (result : τ) {word : List Bool} (nonempty : word ≠ [])
    (whole : line.bits.length + word.length = size) :
    word.foldlM (push size act) (line, result) =
      (act (line.bits ++ word) result).map fun result =>
        (sent line (word.getLast nonempty) [], result) := by
  induction word generalizing line with
  | nil => exact absurd rfl nonempty
  | cons bit rest ih =>
      rw [List.length_cons] at whole
      rw [List.foldlM_cons, push]
      by_cases last : rest = []
      · subst last
        rw [List.length_nil] at whole
        have full : (line.bits ++ [bit]).length = size := by
          rw [List.length_append, List.length_singleton]
          exact whole
        simp only [full, if_true]
        cases act (line.bits ++ [bit]) result <;> rfl
      · have length := List.length_pos_iff.mpr last
        have partly : (line.bits ++ [bit]).length ≠ size := by
          rw [List.length_append, List.length_singleton]
          omega
        have more := ih (sent line bit (line.bits ++ [bit])) last (by
          simp only [sent, List.length_append, List.length_singleton]
          omega)
        simp only [partly, if_false, Option.bind_eq_bind, Option.bind_some]
        rw [more]
        simp only [sent, List.append_assoc, List.singleton_append, List.getLast_cons last]

end SerialLine

end ResistorCutter
