import Fetchline.Library.Discipline

/-! # Programs inside a larger program

A program over its own effects becomes a part of one over more effects, either for good or
as the first branch of a `select`, where the environment may end it at any of its effects.
-/

namespace Effects.Program

universe u u' v v' w x x'

variable {ε : Type u} {ε' : Type u'} {ρ : ε → Type v} {ρ' : ε' → Type v'}
variable {α : Type w} {σ : Type x} {τ : Type x'}

def embed (request : ε → ε') (reply : (e : ε) → ρ' (request e) → ρ e) :
    Program ε ρ α → Program ε' ρ' α
  | .done a => .done a
  | .call e next => .call (request e) fun r => (next (reply e r)).embed request reply

/-- `none` when the environment has not let the program go on. -/
def interruptible (request : ε → ε') (reply : (e : ε) → ρ' (request e) → Option (ρ e)) :
    Program ε ρ α → Program ε' ρ' (Option α)
  | .done a => .done (some a)
  | .call e next => .call (request e) fun r =>
    (reply e r).elim (.done none) fun r => (next r).interruptible request reply

section Run

variable {request : ε → ε'} {H : Handler ε ρ σ} {H' : Handler ε' ρ' τ} (place : σ → τ)

/-- `place` puts the state of the part into that of the whole. -/
theorem run_embed {reply : (e : ε) → ρ' (request e) → ρ e}
    (hReply : ∀ s e, reply e (H' (place s) (request e)).1 = (H s e).1)
    (hState : ∀ s e, (H' (place s) (request e)).2 = place (H s e).2) (p : Program ε ρ α) (s : σ) :
    (p.embed request reply).run H' (place s) = ((p.run H s).1, place (p.run H s).2) := by
  induction p generalizing s with
  | done a => rfl
  | call e next ih =>
    rw [embed, run_call, hReply, hState]
    exact ih _ _

theorem run_interruptible {reply : (e : ε) → ρ' (request e) → Option (ρ e)}
    (hReply : ∀ s e, reply e (H' (place s) (request e)).1 = some (H s e).1)
    (hState : ∀ s e, (H' (place s) (request e)).2 = place (H s e).2) (p : Program ε ρ α) (s : σ) :
    (p.interruptible request reply).run H' (place s) =
      (some (p.run H s).1, place (p.run H s).2) := by
  induction p generalizing s with
  | done a => rfl
  | call e next ih =>
    rw [interruptible, run_call, hReply, hState]
    exact ih _ _

end Run

section Obeys

variable {D : Discipline ε' ρ' σ} {request : ε → ε'} {s : σ}

theorem obeys_embed {reply : (e : ε) → ρ' (request e) → ρ e} {Q : α → σ → Prop}
    (hAllowed : ∀ e, D.allowed s (request e)) (hNext : ∀ e r, D.next s (request e) r = s)
    (hQ : ∀ a, Q a s) (p : Program ε ρ α) : (p.embed request reply).Obeys D s Q := by
  induction p with
  | done a => exact hQ a
  | call e next ih =>
    refine ⟨hAllowed e, fun r => ?_⟩
    rw [hNext]
    exact ih _

/-- The automaton waits in `s` until the program has finished or is interrupted. -/
theorem obeys_interruptible {reply : (e : ε) → ρ' (request e) → Option (ρ e)}
    {Q : Option α → σ → Prop} (hAllowed : ∀ e, D.allowed s (request e))
    (hNext : ∀ e r, reply e r ≠ none → D.next s (request e) r = s)
    (hInterrupted : ∀ e r, reply e r = none → Q none (D.next s (request e) r))
    (hQ : ∀ a, Q (some a) s) (p : Program ε ρ α) : (p.interruptible request reply).Obeys D s Q := by
  induction p with
  | done a => exact hQ a
  | call e next ih =>
    refine ⟨hAllowed e, fun r => ?_⟩
    dsimp only
    cases hReply : reply e r with
    | none => exact hInterrupted e r hReply
    | some r' =>
      rw [hNext e r (by rw [hReply]; exact Option.some_ne_none r')]
      exact ih r'

end Obeys

section Inside

/-- What both have in common: `finish` is how the part ends, `reply` how the whole hears what the
part is to be told. -/
structure Inside {β : Type w} (request : ε → ε') (reply : (e : ε) → ρ e → ρ' (request e))
    (finish : α → β) (whole : Program ε ρ α → Program ε' ρ' β) : Prop where
  done (a : α) : whole (.done a) = .done (finish a)
  call (e : ε) (next : ρ e → Program ε ρ α) :
    ∃ next', whole (.call e next) = .call (request e) next' ∧
      ∀ r, next' (reply e r) = whole (next r)

variable {request : ε → ε'}

theorem inside_embed {reply : (e : ε) → ρ e → ρ' (request e)} {back : (e : ε) → ρ' (request e) → ρ e}
    (hBack : ∀ e r, back e (reply e r) = r) :
    Inside request reply id (fun p : Program ε ρ α => p.embed request back) where
  done a := rfl
  call e next := by
    refine ⟨_, rfl, fun r => ?_⟩
    rw [hBack]

theorem interruptible_bind {β : Type w} {reply : (e : ε) → ρ' (request e) → Option (ρ e)}
    (p : Program ε ρ α) (f : α → Program ε ρ β) :
    (p >>= f).interruptible request reply =
      p.interruptible request reply >>= fun a =>
        a.elim (.done none) fun a => (f a).interruptible request reply := by
  induction p with
  | done a => rfl
  | call e next ih =>
    rw [call_bind, interruptible, interruptible, call_bind]
    congr 1
    funext r
    cases reply e r with
    | none => rfl
    | some r => exact ih r

end Inside

end Effects.Program
