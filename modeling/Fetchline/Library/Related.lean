import Fetchline.Library.Program

/-! # Two programs against two environments

Related programs, run from related states, end with related results in related
states. The two need not ask for the same effects, nor for equally many.
-/

namespace Effects.Program

universe u₁ u₂ v₁ v₂ w x₁ x₂

variable {ε₁ : Type u₁} {ρ₁ : ε₁ → Type v₁} {ε₂ : Type u₂} {ρ₂ : ε₂ → Type v₂}
variable {σ₁ : Type x₁} {σ₂ : Type x₂} {α β α' β' : Type w}
variable {H₁ : Handler ε₁ ρ₁ σ₁} {H₂ : Handler ε₂ ρ₂ σ₂}
variable {S : σ₁ → σ₂ → Prop}

def Related (H₁ : Handler ε₁ ρ₁ σ₁) (H₂ : Handler ε₂ ρ₂ σ₂) (S : σ₁ → σ₂ → Prop)
    (p : Program ε₁ ρ₁ α) (q : Program ε₂ ρ₂ β) (R : α → β → σ₁ → σ₂ → Prop) : Prop :=
  ∀ s t, S s t → R (p.run H₁ s).1 (q.run H₂ t).1 (p.run H₁ s).2 (q.run H₂ t).2

namespace Related

variable {p : Program ε₁ ρ₁ α} {q : Program ε₂ ρ₂ β} {R : α → β → σ₁ → σ₂ → Prop}
variable {f : α → Program ε₁ ρ₁ α'} {g : β → Program ε₂ ρ₂ β'} {T : α' → β' → σ₁ → σ₂ → Prop}

theorem mono {R' : α → β → σ₁ → σ₂ → Prop} (h : Related H₁ H₂ S p q R)
    (hR : ∀ a b s t, R a b s t → R' a b s t) : Related H₁ H₂ S p q R' :=
  fun s t hS => hR _ _ _ _ (h s t hS)

theorem bind (h : Related H₁ H₂ S p q R) (hNext : ∀ a b, Related H₁ H₂ (R a b) (f a) (g b) T) :
    Related H₁ H₂ S (p >>= f) (q >>= g) T := by
  intro s t hS
  rw [run_bind, run_bind]
  exact hNext _ _ _ _ (h s t hS)

end Related

end Effects.Program
