import ResistorCutter.RepaintChecks
import ResistorCutter.SketchChecks

/-!
The LCD against the fields: after every operation the picture is the one that a full repaint from
the current fields would paint, as long as no `update` without an argument finds the machine
running, since that one paints its default for the percentage.
-/

namespace ResistorCutter

theorem signed_percentage (n : UInt32) (small : n ≤ 100) : 0 ≤ signed n ∧ signed n ≤ 100 := by
  have bound : n.toNat ≤ 100 := UInt32.le_iff_toNat_le.mp small
  have same : UInt32.ofInt (n.toNat : Int) = n := by
    apply UInt32.toNat_inj.mp
    simp only [UInt32.ofInt, UInt32.toNat_ofNat']
    omega
  rw [← same, signed_ofInt _ (by omega) (by omega)]
  omega

namespace Interface

variable (interface : Interface)

/-- A full repaint from the current fields would change no pixel. -/
def Coherent : Prop := interface.refresh.display.picture = interface.display.picture

structure Presents (interface : Interface) : Prop where
  small : interface.display.pen.Small
  coherent : interface.Coherent

theorem SameShown.presents {before after : Interface} (same : SameShown before after)
    (presents : before.Presents) : after.Presents := by
  have repaint : after.refresh.display = before.refresh.display := by
    simp only [refresh, same.display, same.currentSelection, same.rPerKit, same.kits,
      same.percent, same.running]
  refine ⟨?_, ?_⟩
  · rw [same.display]
    exact presents.small
  · rw [Coherent, repaint, same.display]
    exact presents.coherent

theorem refresh_presents (small : interface.display.pen.Small) : interface.refresh.Presents := by
  have faces : interface.refresh.display.pen.face = interface.display.pen.face :=
    Display.face_updateAll interface.display _ _ _ _ _ small
  refine ⟨?_, ?_⟩
  · rw [Pen.Small, faces]
    exact small
  · exact congrArg Raster.Canvas.picture
      (Display.updateAll_congr _ _ _ _ _ faces)

theorem construct_presents (power : PowerUp) (memory : Interface) :
    (construct power memory).Presents := refresh_presents _ rfl

theorem updateStatus_presents (percent : Int) (active : interface.running ≠ 0)
    (unpaused : interface.running ≠ 2) (range : 0 ≤ percent ∧ percent ≤ 100)
    (stored : interface.percent ≤ 100) (presents : interface.Presents) :
    (interface.updateStatus percent).Presents := by
  rw [updateStatus_active interface percent active, if_pos (by omega)]
  have faces := Display.face_paintProgress interface.display percent
  refine ⟨?_, ?_⟩
  · change (Display.paintProgress percent interface.display).pen.Small
    rw [Pen.Small, faces]
    exact presents.small
  · have before := signed_percentage _ stored
    have repaints := Display.paintProgress_repaints
      (interface.currentSelection.toNat : Int) (signed interface.rPerKit)
      (signed interface.kits) percent (signed interface.running) (signed interface.percent)
      presents.small (signed_injective.ne active) (signed_injective.ne unpaused) (by omega)
      (by omega) presents.coherent.symm
    simp only [Coherent, refresh, signed_ofInt percent range.1 (by omega)]
    change (Display.updateAll _ _ _ _ _ (Display.paintProgress percent interface.display)).picture =
      (Display.paintProgress percent interface.display).picture
    rw [Display.updateAll_congr _ _ _ _ _ faces]
    exact repaints.symm

/-- An `update` without an argument finds the machine idle or paused after it has looked at the
safety switch. -/
def DefaultIdle (interface : Interface) : Operation → Prop
  | .update percent readings => percent = -1 →
      (interface.load readings).updateSafety.running = 0 ∨
        (interface.load readings).updateSafety.running = 2
  | _ => True

instance (interface : Interface) : ∀ operation, Decidable (interface.DefaultIdle operation)
  | .update _ _ => inferInstanceAs (Decidable (_ → _ ∨ _))
  | .setPausedStatus _ => isTrue trivial
  | .doneRunning => isTrue trivial

theorem perform_presents (operation : Operation) (range : operation.InRange)
    (default : interface.DefaultIdle operation) (stored : interface.percent ≤ 100)
    (presents : interface.Presents) : (interface.perform operation).Presents := by
  refine interface.perform_keeps (fun same => same.presents) ?_ ?_ presents
  · intro before base shared presents
    exact base.refresh_presents (shared ▸ presents.small)
  · intro percent readings here active unpaused safe
    subst here
    have given : percent ≠ -1 := by
      intro none
      rcases default none with idle | paused
      · exact active idle
      · exact unpaused paused
    have same := (interface.repaused_updateSafety readings).percent
    exact updateStatus_presents _ percent active unpaused (range.resolve_left given)
      (same ▸ stored) safe

/-- After any operations on the constructed object the LCD shows what a full repaint from the
current fields would show, for any glyph table, if no `update` without an argument finds the
machine running. -/
theorem screen_coherent (power : PowerUp) (operations : List Operation)
    (range : ∀ operation ∈ operations, operation.InRange)
    (default : Runs.StepsMeet perform DefaultIdle (construct power (zeroed power)) operations) :
    (Runs.run perform (construct power (zeroed power)) operations).Coherent := by
  have both : (Runs.run perform (construct power (zeroed power)) operations).percent ≤ 100 ∧
      (Runs.run perform (construct power (zeroed power)) operations).Presents := by
    have met : Runs.StepsMeet perform
        (fun interface operation => operation.InRange ∧ interface.DefaultIdle operation)
        (construct power (zeroed power)) operations := by
      rw [Runs.stepsMeet_and]
      exact ⟨Runs.stepsMeet_of_mem fun operation member _ => range operation member, default⟩
    refine Runs.invariant_run (fun interface => interface.percent ≤ 100 ∧ interface.Presents)
      ?_ ?_ met
    · intro interface operation holds ok
      exact ⟨interface.perform_percent operation ok.1 holds.1,
        interface.perform_presents operation ok.1 ok.2 holds.1 holds.2⟩
    · exact ⟨show (0 : UInt32) ≤ 100 by decide, construct_presents power _⟩
  exact both.2.coherent

end Interface

open Interface Input

def halfDone : List Operation :=
  [.update (-1) (tilted .vrY 0).readings, .update (-1) pressed.readings, .update 50 {}]

theorem halfDone_inRange : ∀ operation ∈ halfDone, operation.InRange := by
  simp [halfDone, Operation.InRange]

theorem screen_coherent_halfDone :
    (Runs.run perform (construct .released (zeroed .released)) halfDone).Coherent :=
  screen_coherent .released halfDone halfDone_inRange (by decide +kernel)

theorem default_argument_empties_bar :
    ¬∀ (power : PowerUp) (operations : List Operation),
      (∀ operation ∈ operations, operation.InRange) →
      (Runs.run perform (construct power (zeroed power)) operations).Coherent := by
  intro all
  have range : ∀ operation ∈ halfDone ++ [.update (-1) {}], operation.InRange := by
    simp [halfDone, Operation.InRange]
  have pixel := congrFun (congrFun (all .released _ range) 5) 25
  exact absurd pixel (by decide +kernel)

end ResistorCutter
