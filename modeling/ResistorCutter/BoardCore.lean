import Mathlib.Data.List.Basic
import ResistorCutter.Template

/-!
The board as the sketch sees it: what the pins, the ADC and the clock return to the call in
progress, and the two parts that only read them, `Joystick.h` and `SafetySwitch.h`.
-/

namespace ResistorCutter

def signed (n : UInt32) : Int := n.toInt32.toInt

theorem signed_injective : Function.Injective signed := by
  intro first second same
  have equal : first.toInt32 = second.toInt32 := Int32.toInt.inj same
  simpa using congrArg Int32.toUInt32 equal

theorem signed_ofInt (n : Int) (lower : 0 ≤ n) (upper : n < 2147483648) :
    signed (UInt32.ofInt n) = n := by
  simp only [signed, UInt32.ofInt, Int32.toInt, UInt32.toBitVec_toInt32, BitVec.toInt_eq_toNat_bmod]
  simp [Int.bmod]
  omega

/-- Arduino's decimal form of an `int`, as `print`, `printf("%d")` and `String(n)` give it. -/
def decimal (n : Int) : List Char :=
  if n < 0 then '-' :: Nat.toDigits 10 n.natAbs else Nat.toDigits 10 n.natAbs

theorem digit_of_mem_decimal {n : Int} {c : Char} (member : c ∈ decimal n) :
    c.isDigit ∨ c = '-' := by
  rw [decimal] at member
  split at member
  · rcases List.mem_cons.mp member with sign | digit
    · exact .inr sign
    · exact .inl (Nat.isDigit_of_mem_toDigits (by omega) (by omega) digit)
  · exact .inl (Nat.isDigit_of_mem_toDigits (by omega) (by omega) member)

/-- A number of the type `int` has ten digits at most. -/
theorem decimal_short {n : Int} (lower : -2147483648 ≤ n) (upper : n < 2147483648) :
    (decimal n).length ≤ 11 := by
  have digits : (Nat.toDigits 10 n.natAbs).length ≤ 10 :=
    (Nat.length_toDigits_le_iff (by omega) (by omega)).mpr (by omega)
  rw [decimal]
  split
  · rw [List.length_cons]
    omega
  · omega

theorem decimal_injective : Function.Injective decimal := by
  have toDigits_inj {m n : Nat} (same : Nat.toDigits 10 m = Nat.toDigits 10 n) : m = n := by
    rw [← Nat.ofDigitChars_ten_toDigits (n := m), same, Nat.ofDigitChars_ten_toDigits]
  have signless {n : Nat} {body : List Char} (same : '-' :: body = Nat.toDigits 10 n) : False := by
    have sign : '-' ∈ Nat.toDigits 10 n := same ▸ List.mem_cons_self
    have digit := Nat.isDigit_of_mem_toDigits (by omega) (by omega) sign
    simp at digit
  intro m n same
  rw [decimal, decimal] at same
  split at same <;> split at same
  · have size := toDigits_inj (List.cons.inj same).2
    omega
  · exact (signless same).elim
  · exact (signless same.symm).elim
  · have size := toDigits_inj same
    omega

-- Through the text itself: there are instances that go through every `Char`.
instance decidableForallChar {p : Char → Prop} [DecidablePred p] (text : List Char) :
    Decidable (∀ c ∈ text, p c) :=
  text.decidableBAll p

/-- `String::equalsIgnoreCase` -/
def equalsIgnoreCase (first second : List Char) : Bool := Texts.sameLetters first second

inductive DigitalPin | safe | sw
  deriving DecidableEq, Repr

inductive AnalogPin | vrX | vrY
  deriving DecidableEq, Repr

inductive Reading
  | digital (pin : DigitalPin) (level : Bool)
  | analog (pin : AnalogPin) (value : Nat)
  | millis (time : UInt32)
  deriving DecidableEq, Repr

/-- What the hardware returns during one call: the n-th read of a pin is the n-th value of its
stream. The defaults are a released switch and button, a centred stick and a stopped clock. -/
structure Readings where
  digital : DigitalPin → Nat → Bool := fun pin _ => decide (pin = .sw)
  analog : AnalogPin → Nat → Nat := fun _ _ => 2048
  clock : Nat → UInt32 := fun _ => 0

structure Board where
  next : Readings
  log : List Reading

def Board.load (readings : Readings) : Board := ⟨readings, []⟩

def Board.digitalRead (pin : DigitalPin) (board : Board) : Bool × Board :=
  (board.next.digital pin 0,
    { next := { board.next with
        digital := fun other n => board.next.digital other (if other = pin then n + 1 else n) },
      log := board.log ++ [.digital pin (board.next.digital pin 0)] })

def Board.analogRead (pin : AnalogPin) (board : Board) : Nat × Board :=
  (board.next.analog pin 0,
    { next := { board.next with
        analog := fun other n => board.next.analog other (if other = pin then n + 1 else n) },
      log := board.log ++ [.analog pin (board.next.analog pin 0)] })

def Board.millis (board : Board) : UInt32 × Board :=
  (board.next.clock 0,
    { next := { board.next with clock := fun n => board.next.clock (n + 1) },
      log := board.log ++ [.millis (board.next.clock 0)] })

def either (first second : Board → Bool × Board) (board : Board) : Bool × Board :=
  let left := first board
  if left.1 then left else second left.2

def both (first second : Board → Bool × Board) (board : Board) : Bool × Board :=
  let left := first board
  if left.1 then second left.2 else left

def negate (condition : Board → Bool × Board) (board : Board) : Bool × Board :=
  let value := condition board
  (!value.1, value.2)

namespace Joystick

/-- The pin is pulled up: pressed reads low. -/
def getSwitch (board : Board) : Bool × Board :=
  let level := board.digitalRead .sw
  (!level.1, level.2)

def getLeft (board : Board) : Bool × Board :=
  let value := board.analogRead .vrX
  (decide (value.1 < 0 + 500), value.2)

def getRight (board : Board) : Bool × Board :=
  let value := board.analogRead .vrX
  (decide (value.1 > 4095 - 500), value.2)

def getUp (board : Board) : Bool × Board :=
  let value := board.analogRead .vrY
  (decide (value.1 < 0 + 500), value.2)

def getDown (board : Board) : Bool × Board :=
  let value := board.analogRead .vrY
  (decide (value.1 > 4095 - 500), value.2)

def getUncentered : Board → Bool × Board :=
  either getUp (either getDown (either getLeft getRight))

def getVertical : Board → Bool × Board := either getUp getDown

def getHorizontal : Board → Bool × Board := either getLeft getRight

end Joystick

/-! `SafetySwitch.h`: a high pin is a pressed switch. -/

structure SafetySwitch where
  prevState : Bool
  deriving DecidableEq, Repr

namespace SafetySwitch

def construct (level : Bool) : SafetySwitch := ⟨!level⟩

def getSwitch (board : Board) : Bool × Board := board.digitalRead .safe

def getChange (switch : SafetySwitch) (board : Board) : Bool × SafetySwitch × Board :=
  let currentState := board.digitalRead .safe
  if currentState.1 ≠ switch.prevState then (true, ⟨currentState.1⟩, currentState.2)
  else (false, switch, currentState.2)

end SafetySwitch

end ResistorCutter
