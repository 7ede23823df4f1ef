import Mathlib.Logic.Basic

/-!
A store and a remote copy of it that is brought up to date in parts: which places of the copy
may be behind, through changes of the store and transfers of some of its places.
-/

namespace Mirror

variable {ι α : Type*}

/-- The copy has the value of the store at every place that is not stale. -/
def Agree (stale : ι → Prop) (store copy : ι → α) : Prop := ∀ i, ¬stale i → copy i = store i

variable {stale : ι → Prop} {store copy : ι → α}

theorem Agree.mono {wider : ι → Prop} (agree : Agree stale store copy)
    (subset : ∀ i, stale i → wider i) : Agree wider store copy :=
  fun i fresh => agree i (fresh ∘ subset i)

/-- A change of the store makes no more places stale than it changes. -/
theorem Agree.change {changed wider : ι → Prop} {next : ι → α} (agree : Agree stale store copy)
    (kept : ∀ i, ¬changed i → next i = store i)
    (covered : ∀ i, stale i ∨ changed i → wider i) : Agree wider next copy := by
  intro i fresh
  rw [kept i fun member => fresh (covered i (.inr member))]
  exact agree i fun member => fresh (covered i (.inl member))

/-- A transfer refreshes the places it sends. -/
theorem Agree.transfer {sent : ι → Prop} {next : ι → α} (agree : Agree stale store copy)
    (delivered : ∀ i, sent i → next i = store i) (kept : ∀ i, ¬sent i → next i = copy i) :
    Agree (fun i => stale i ∧ ¬sent i) store next := by
  intro i fresh
  by_cases member : sent i
  · exact delivered i member
  · rw [kept i member]
    exact agree i fun behind => fresh ⟨behind, member⟩

theorem Agree.eq (agree : Agree stale store copy) (none : ∀ i, ¬stale i) : copy = store :=
  funext fun i => agree i (none i)

end Mirror
