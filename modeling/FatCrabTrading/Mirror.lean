import Mathlib.Logic.Relation

/-! # A copy that follows its source

A source is changed by one party and copied by another. A change marks the copy as
behind, and only copying may take the mark away. So a copy without the mark shows the
source, whatever the order of changes and copies.
-/

/-- A source, the copy of how it renders, and the mark of a copy that may be behind. -/
structure Mirror (σ β : Type*) where
  source : σ
  copy : Option β
  behind : Bool

namespace Mirror

variable {σ β τ : Type*} (render : σ → β)

/-- Change the source, or copy it. The copy may stay marked. -/
inductive Step : Mirror σ β → Mirror σ β → Prop where
  | change {mirror : Mirror σ β} (source : σ) :
      Step mirror { mirror with source := source, behind := true }
  | copy {mirror : Mirror σ β} (behind : Bool) :
      Step mirror { mirror with copy := some (render mirror.source), behind := behind }

/-- A copy that is not marked shows the source. -/
def Faithful (mirror : Mirror σ β) : Prop :=
  mirror.behind = false → mirror.copy = some (render mirror.source)

variable {render}

theorem Step.faithful {mirror next : Mirror σ β} (hstep : Step render mirror next) :
    next.Faithful render := by
  intro hbehind
  cases hstep with
  | change source => cases hbehind
  | copy behind => rfl

/-- A system is faithful in every run if each of its steps is a step of the mirror or
leaves the mirror as it is. -/
theorem faithful_of_run {step : τ → τ → Prop} {view : τ → Mirror σ β} {orderly : τ → Prop}
    (horderly : ∀ state next, orderly state → step state next → orderly next)
    (hview : ∀ state next, orderly state → step state next →
      view next = view state ∨ Step render (view state) (view next))
    {start finish : τ} (hstart : orderly start) (hfaithful : (view start).Faithful render)
    (hrun : Relation.ReflTransGen step start finish) :
    orderly finish ∧ (view finish).Faithful render := by
  induction hrun with
  | refl => exact ⟨hstart, hfaithful⟩
  | tail _ hstep ih =>
      obtain ⟨hbefore, hfaithful⟩ := ih
      refine ⟨horderly _ _ hbefore hstep, ?_⟩
      rcases hview _ _ hbefore hstep with hsame | hmoved
      · rw [hsame]
        exact hfaithful
      · exact hmoved.faithful

end Mirror
