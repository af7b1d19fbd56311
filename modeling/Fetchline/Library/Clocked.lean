import Fetchline.Library.Program

/-! # Programs that take time

The environment has a clock that never goes back. A loop goes through its body until the body
has a result; the rule for it takes an invariant, a measure that each further round makes
smaller, and what holds of the result.
-/

namespace Effects.Program

universe u v w x

variable {ε : Type u} {ρ : ε → Type v} {α β : Type w} {σ : Type x}
variable {H : Handler ε ρ σ} {now : σ → Nat}

/-- No run of the program takes longer than this. -/
def Takes (H : Handler ε ρ σ) (now : σ → Nat) (p : Program ε ρ α) (most : Nat) : Prop :=
  ∀ s, now s ≤ now (p.run H s).2 ∧ now (p.run H s).2 ≤ now s + most

theorem takes_pure (a : α) (most : Nat) : Takes H now (pure a : Program ε ρ α) most :=
  fun _ => ⟨Nat.le_refl _, Nat.le_add_right _ _⟩

theorem Takes.mono {p : Program ε ρ α} {most most' : Nat} (h : Takes H now p most)
    (hLess : most ≤ most') : Takes H now p most' :=
  fun s => ⟨(h s).1, Nat.le_trans (h s).2 (Nat.add_le_add_left hLess _)⟩

theorem Takes.bind {p : Program ε ρ α} {f : α → Program ε ρ β} {most most' : Nat}
    (h : Takes H now p most) (hNext : ∀ a, Takes H now (f a) most') :
    Takes H now (p >>= f) (most + most') := by
  intro s
  obtain ⟨hStart, hEnd⟩ := h s
  obtain ⟨hStart', hEnd'⟩ := hNext (p.run H s).1 (p.run H s).2
  rw [run_bind]
  omega

/-- At most so many rounds; `none` when they have run out. -/
def repeated (body : Program ε ρ (Option α)) : Nat → Program ε ρ (Option α)
  | 0 => .done none
  | rounds + 1 => body >>= fun result =>
    match result with
    | none => repeated body rounds
    | some a => .done (some a)

/-- What one round does: it comes nearer to the end, or it is the last one. -/
def Progress (inv : σ → Prop) (left : σ → Nat) (post : α → σ → Prop) (s : σ) :
    Option α × σ → Prop
  | (none, s') => inv s' ∧ left s' < left s
  | (some a, s') => post a s'

theorem repeated_ends {body : Program ε ρ (Option α)} {inv : σ → Prop}
    {left : σ → Nat} {post : α → σ → Prop}
    (hRound : ∀ s, inv s → Progress inv left post s (body.run H s)) {s : σ} (hInv : inv s)
    {rounds : Nat} (hRounds : left s < rounds) :
    ∃ a s', (repeated body rounds).run H s = (some a, s') ∧ post a s' := by
  induction rounds generalizing s with
  | zero => exact absurd hRounds (Nat.not_lt_zero _)
  | succ rounds ih =>
    have hOnce := hRound s hInv
    rw [repeated, run_bind]
    generalize body.run H s = once at hOnce
    obtain ⟨result, s'⟩ := once
    cases result with
    | some a => exact ⟨a, s', rfl, hOnce⟩
    | none =>
      obtain ⟨hInv', hLess⟩ := hOnce
      exact ih hInv' (Nat.lt_of_lt_of_le hLess (Nat.le_of_lt_succ hRounds))

end Effects.Program
