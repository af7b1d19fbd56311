/-! # Programs over an effect signature

A program either has finished or asks its environment for one effect and goes
on with the reply. The environment is left open: the same program can be run
against a handler, or suspended and resumed by a scheduler, one effect at a
time.
-/

namespace Effects

universe u v w x

inductive Program (ε : Type u) (ρ : ε → Type v) (α : Type w) where
  | done (result : α)
  | call (request : ε) (next : ρ request → Program ε ρ α)

namespace Program

variable {ε : Type u} {ρ : ε → Type v} {α β γ : Type w} {σ : Type x}

def bind : Program ε ρ α → (α → Program ε ρ β) → Program ε ρ β
  | .done a, f => f a
  | .call e next, f => .call e fun r => (next r).bind f

instance : Monad (Program ε ρ) where
  pure := .done
  bind := .bind

theorem bind_done (p : Program ε ρ α) : p.bind .done = p := by
  induction p with
  | done a => rfl
  | call e next ih =>
    rw [bind]
    congr 1
    funext r
    exact ih r

theorem bind_assoc (p : Program ε ρ α) (f : α → Program ε ρ β) (g : β → Program ε ρ γ) :
    (p.bind f).bind g = p.bind fun a => (f a).bind g := by
  induction p with
  | done a => rfl
  | call e next ih =>
    simp only [bind]
    congr 1
    funext r
    exact ih r

instance : LawfulMonad (Program ε ρ) :=
  LawfulMonad.mk' (Program ε ρ) bind_done (fun _ _ => rfl) bind_assoc

def perform (e : ε) : Program ε ρ (ρ e) := .call e .done

@[simp] theorem call_bind (e : ε) (next : ρ e → Program ε ρ α) (f : α → Program ε ρ β) :
    ((.call e next : Program ε ρ α) >>= f) = .call e fun r => next r >>= f := rfl

/-- One effect together with the reply it got. -/
structure Exchange (ε : Type u) (ρ : ε → Type v) where
  request : ε
  reply : ρ request

/-- `p` gets to `q` by the exchanges of `trace`, in that order. A program that
is dropped half way has such an execution too. -/
inductive Steps : Program ε ρ α → List (Exchange ε ρ) → Program ε ρ α → Prop where
  | refl (p : Program ε ρ α) : Steps p [] p
  | call {e : ε} {next : ρ e → Program ε ρ α} (r : ρ e) {trace : List (Exchange ε ρ)}
      {q : Program ε ρ α} (tail : Steps (next r) trace q) :
      Steps (.call e next) (⟨e, r⟩ :: trace) q

/-- What an environment with state `σ` answers, and the state it is left in. -/
abbrev Handler (ε : Type u) (ρ : ε → Type v) (σ : Type x) := σ → (e : ε) → ρ e × σ

def run (H : Handler ε ρ σ) : Program ε ρ α → σ → α × σ
  | .done a, s => (a, s)
  | .call e next, s => (next (H s e).1).run H (H s e).2

@[simp] theorem run_call (H : Handler ε ρ σ) (e : ε) (next : ρ e → Program ε ρ α) (s : σ) :
    (.call e next : Program ε ρ α).run H s = (next (H s e).1).run H (H s e).2 := rfl

theorem run_bind (H : Handler ε ρ σ) (p : Program ε ρ α) (f : α → Program ε ρ β) (s : σ) :
    (p >>= f).run H s = (f (p.run H s).1).run H (p.run H s).2 := by
  induction p generalizing s with
  | done a => rfl
  | call e next ih =>
    rw [call_bind, run_call, run_call]
    exact ih _ _

end Program

end Effects
