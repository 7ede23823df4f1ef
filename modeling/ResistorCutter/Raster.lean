import Mathlib.Data.Set.Basic

/-!
Two-colour pictures of a fixed size and the actions that draw on them. An action is
judged by the area it is confined to and by whether it depends on what was there before.
-/

namespace Raster

variable {w h : Nat} {κ : Type*}

abbrev Picture (w h : Nat) := Fin w → Fin h → Bool

abbrev Area (w h : Nat) := Fin w → Fin h → Prop

def rect (x y width height : Int) : Area w h := fun px py =>
  x ≤ px.val ∧ (px.val : Int) < x + width ∧ y ≤ py.val ∧ (py.val : Int) < y + height

instance (x y width height : Int) (px : Fin w) (py : Fin h) :
    Decidable (rect x y width height px py) :=
  inferInstanceAs (Decidable (_ ∧ _ ∧ _ ∧ _))

def rows (top bottom : Int) : Area w h := fun _ py => top ≤ py.val ∧ (py.val : Int) < bottom

/-- Only pixels of the area change, and what they become depends on no pixel outside it. -/
structure Confined (area : Area w h) (paint : Picture w h → Picture w h) : Prop where
  outside : ∀ picture x y, ¬area x y → paint picture x y = picture x y
  inside : ∀ first second, (∀ x y, area x y → first x y = second x y) →
    ∀ x y, area x y → paint first x y = paint second x y

/-- Only pixels of the area change, and what they become does not depend on the picture. -/
structure Overwrites (area : Area w h) (paint : Picture w h → Picture w h) : Prop where
  outside : ∀ picture x y, ¬area x y → paint picture x y = picture x y
  inside : ∀ first second x y, area x y → paint first x y = paint second x y

theorem Overwrites.confined {area : Area w h} {paint : Picture w h → Picture w h}
    (overwrites : Overwrites area paint) : Confined area paint :=
  ⟨overwrites.outside, fun first second _ x y member => overwrites.inside first second x y member⟩

theorem Confined.id (area : Area w h) : Confined area id :=
  ⟨fun _ _ _ _ => rfl, fun _ _ same x y member => same x y member⟩

theorem Confined.mono {small large : Area w h} {paint : Picture w h → Picture w h}
    (confined : Confined small paint) (subset : ∀ x y, small x y → large x y) :
    Confined large paint := by
  refine ⟨fun picture x y absent => confined.outside picture x y (absent ∘ subset x y), ?_⟩
  intro first second same x y member
  by_cases inner : small x y
  · exact confined.inside first second (fun x y small => same x y (subset x y small)) x y inner
  · rw [confined.outside first x y inner, confined.outside second x y inner]
    exact same x y member

theorem Confined.rows_mono {top bottom above below : Int} {paint : Picture w h → Picture w h}
    (confined : Confined (rows top bottom) paint) (higher : above ≤ top) (lower : bottom ≤ below) :
    Confined (rows above below) paint := by
  refine confined.mono fun x y member => ?_
  simp only [rows] at member ⊢
  omega

theorem Confined.comp {area : Area w h} {first second : Picture w h → Picture w h}
    (confinedSecond : Confined area second) (confinedFirst : Confined area first) :
    Confined area (second ∘ first) := by
  constructor
  · intro picture x y absent
    simp only [Function.comp_apply]
    rw [confinedSecond.outside _ x y absent, confinedFirst.outside _ x y absent]
  · intro one two same x y member
    exact confinedSecond.inside _ _ (confinedFirst.inside one two same) x y member

theorem Confined.comp_overwrites {area : Area w h} {first second : Picture w h → Picture w h}
    (confined : Confined area second) (overwrites : Overwrites area first) :
    Overwrites area (second ∘ first) := by
  refine ⟨(confined.comp overwrites.confined).outside, ?_⟩
  intro one two x y member
  exact confined.inside _ _ (fun x y inner => overwrites.inside one two x y inner) x y member

theorem Confined.comm {left right : Area w h} {first second : Picture w h → Picture w h}
    (confinedFirst : Confined left first) (confinedSecond : Confined right second)
    (disjoint : ∀ x y, left x y → ¬right x y) (picture : Picture w h) :
    first (second picture) = second (first picture) := by
  funext x y
  by_cases onLeft : left x y
  · rw [confinedSecond.outside (first picture) x y (disjoint x y onLeft)]
    apply confinedFirst.inside _ _ _ x y onLeft
    intro x y member
    exact confinedSecond.outside picture x y (disjoint x y member)
  · rw [confinedFirst.outside _ x y onLeft]
    by_cases onRight : right x y
    · apply confinedSecond.inside _ _ _ x y onRight
      intro x y member
      exact (confinedFirst.outside picture x y fun inner => disjoint x y inner member).symm
    · rw [confinedSecond.outside _ x y onRight, confinedSecond.outside _ x y onRight,
        confinedFirst.outside _ x y onLeft]

theorem Overwrites.absorbs {area : Area w h} {first second : Picture w h → Picture w h}
    (overwrites : Overwrites area second) (confined : Confined area first)
    (picture : Picture w h) : second (first picture) = second picture := by
  funext x y
  by_cases member : area x y
  · exact overwrites.inside _ _ x y member
  · rw [overwrites.outside _ x y member, overwrites.outside _ x y member,
      confined.outside _ x y member]

theorem Overwrites.idem {area : Area w h} {paint : Picture w h → Picture w h}
    (overwrites : Overwrites area paint) (picture : Picture w h) :
    paint (paint picture) = paint picture := overwrites.absorbs overwrites.confined picture

/-- Overwriting an area alone has the effect of drawing all anew, if what lies over the area
elsewhere does not touch it. -/
theorem Overwrites.repaints {area elsewhere : Area w h} {old new other : Picture w h → Picture w h}
    (overwrites : Overwrites area new) (hidden : Confined area old)
    (apart : Confined elsewhere other) (disjoint : ∀ x y, area x y → ¬elsewhere x y)
    (picture : Picture w h) : new (other (old picture)) = other (new picture) := by
  rw [overwrites.confined.comm apart disjoint, overwrites.absorbs hidden]

/-! Drawing actions carry a pen beside the picture. -/

structure Canvas (κ : Type*) (w h : Nat) where
  pen : κ
  picture : Picture w h

/-- Started with `before`, the action leaves the pen at `after` whatever the picture is, and
draws inside the area only. -/
structure Draws (area : Area w h) (before : κ) (action : Canvas κ w h → Canvas κ w h)
    (after : κ) : Prop where
  pen : ∀ picture, (action ⟨before, picture⟩).pen = after
  confined : Confined area fun picture => (action ⟨before, picture⟩).picture

theorem Draws.eq {area : Area w h} {before after : κ} {action : Canvas κ w h → Canvas κ w h}
    (draws : Draws area before action after) (picture : Picture w h) :
    action ⟨before, picture⟩ = ⟨after, (action ⟨before, picture⟩).picture⟩ := by
  rw [← draws.pen picture]

theorem Draws.comp {area : Area w h} {before between after : κ}
    {first second : Canvas κ w h → Canvas κ w h}
    (drawsFirst : Draws area before first between)
    (drawsSecond : Draws area between second after) :
    Draws area before (second ∘ first) after := by
  refine ⟨fun picture => ?_, ?_⟩
  · rw [Function.comp_apply, drawsFirst.eq picture]
    exact drawsSecond.pen _
  · have composed := drawsSecond.confined.comp drawsFirst.confined
    have same (picture : Picture w h) : ((second ∘ first) ⟨before, picture⟩).picture =
        (second ⟨between, (first ⟨before, picture⟩).picture⟩).picture := by
      rw [Function.comp_apply, drawsFirst.eq picture]
    simp only [same]
    exact composed

theorem Draws.mono {small large : Area w h} {before after : κ}
    {action : Canvas κ w h → Canvas κ w h} (draws : Draws small before action after)
    (subset : ∀ x y, small x y → large x y) : Draws large before action after :=
  ⟨draws.pen, draws.confined.mono subset⟩

theorem Draws.congr {area : Area w h} {before after : κ}
    {first second : Canvas κ w h → Canvas κ w h} (draws : Draws area before second after)
    (same : ∀ picture, first ⟨before, picture⟩ = second ⟨before, picture⟩) :
    Draws area before first after := by
  refine ⟨fun picture => ?_, ?_⟩
  · rw [same]
    exact draws.pen picture
  · simp only [same]
    exact draws.confined

theorem Draws.of_pen {area : Area w h} {before after : κ} {action : Canvas κ w h → Canvas κ w h}
    (moves : ∀ picture, action ⟨before, picture⟩ = ⟨after, picture⟩) :
    Draws area before action after := by
  refine ⟨fun picture => by rw [moves], ?_⟩
  simp only [moves]
  exact Confined.id area

structure Paints {φ : Type*} (face : κ → φ) (kept : φ) (action : Canvas κ w h → Canvas κ w h)
    (paint : Picture w h → Picture w h) : Prop where
  pen : ∀ canvas, face canvas.pen = kept → face (action canvas).pen = kept
  picture : ∀ canvas, face canvas.pen = kept → (action canvas).picture = paint canvas.picture

theorem Paints.comp {φ : Type*} {face : κ → φ} {kept : φ}
    {first second : Canvas κ w h → Canvas κ w h}
    {paintFirst paintSecond : Picture w h → Picture w h}
    (paintsSecond : Paints face kept second paintSecond)
    (paintsFirst : Paints face kept first paintFirst) :
    Paints face kept (second ∘ first) (paintSecond ∘ paintFirst) := by
  constructor
  · intro canvas shows
    exact paintsSecond.pen _ (paintsFirst.pen canvas shows)
  · intro canvas shows
    simp only [Function.comp_apply]
    rw [paintsSecond.picture _ (paintsFirst.pen canvas shows), paintsFirst.picture canvas shows]

/-! Filling and inverting rectangles. -/

def fill (x y width height : Int) (lit : Bool) (picture : Picture w h) : Picture w h :=
  fun px py => if rect x y width height px py then lit else picture px py

def invert (x y width height : Int) (picture : Picture w h) : Picture w h :=
  fun px py => if rect x y width height px py then !picture px py else picture px py

theorem fill_overwrites (x y width height : Int) (lit : Bool) :
    Overwrites (rect x y width height) (fill (w := w) (h := h) x y width height lit) := by
  constructor
  · intro picture px py absent
    simp [fill, absent]
  · intro first second px py member
    simp [fill, member]

theorem invert_confined (x y width height : Int) :
    Confined (rect x y width height) (invert (w := w) (h := h) x y width height) := by
  constructor
  · intro picture px py absent
    simp [invert, absent]
  · intro first second same px py member
    simp [invert, member, same px py member]

end Raster
