import Fetchline.Library.Program

/-! # Disciplines: which effects a program may ask for, and when

A discipline is an automaton that watches the exchanges of a program. A program
obeys it from a state when every request it can make is allowed in the state the
automaton is then in, whatever the environment replies. This is a weakest
precondition calculus for programs whose only state is the automaton's.
-/

namespace Effects

universe u v w x

structure Discipline (ε : Type u) (ρ : ε → Type v) (σ : Type x) where
  allowed : σ → ε → Prop
  next : σ → (e : ε) → ρ e → σ

/-- The automaton's state after some exchanges. -/
def Discipline.after {ε : Type u} {ρ : ε → Type v} {σ : Type x} (D : Discipline ε ρ σ) (s : σ)
    (trace : List (Program.Exchange ε ρ)) : σ :=
  trace.foldl (fun s x => D.next s x.request x.reply) s

/-- The discipline that allows everything, for statements about results alone. -/
def Discipline.free {ε : Type u} {ρ : ε → Type v} : Discipline ε ρ Unit where
  allowed _ _ := True
  next _ _ _ := ()

namespace Program

variable {ε : Type u} {ρ : ε → Type v} {α β : Type w} {σ : Type x}
variable {D : Discipline ε ρ σ}

def Obeys (D : Discipline ε ρ σ) : Program ε ρ α → σ → (α → σ → Prop) → Prop
  | .done a, s, Q => Q a s
  | .call e next, s, Q => D.allowed s e ∧ ∀ r, (next r).Obeys D (D.next s e r) Q

@[simp] theorem obeys_call (e : ε) (next : ρ e → Program ε ρ α) (s : σ) (Q : α → σ → Prop) :
    (.call e next : Program ε ρ α).Obeys D s Q ↔
      D.allowed s e ∧ ∀ r, (next r).Obeys D (D.next s e r) Q := Iff.rfl

theorem obeys_bind (p : Program ε ρ α) (f : α → Program ε ρ β) (s : σ) (Q : β → σ → Prop) :
    (p >>= f).Obeys D s Q ↔ p.Obeys D s fun a s' => (f a).Obeys D s' Q := by
  induction p generalizing s with
  | done a => rfl
  | call e next ih =>
    rw [call_bind, obeys_call, obeys_call]
    exact and_congr_right fun _ => forall_congr' fun r => ih r _

theorem Obeys.mono {p : Program ε ρ α} {s : σ} {Q R : α → σ → Prop} (h : p.Obeys D s Q)
    (hQR : ∀ a s', Q a s' → R a s') : p.Obeys D s R := by
  induction p generalizing s with
  | done a => exact hQR a s h
  | call e next ih => exact ⟨h.1, fun r => ih r (h.2 r)⟩

theorem Obeys.bind {p : Program ε ρ α} {f : α → Program ε ρ β} {s : σ} {Q : α → σ → Prop}
    {R : β → σ → Prop} (h : p.Obeys D s Q) (hf : ∀ a s', Q a s' → (f a).Obeys D s' R) :
    (p >>= f).Obeys D s R :=
  (obeys_bind p f s R).mpr (h.mono hf)

/-- The postcondition of a fallible program, given separately for its two exits. -/
def exits {δ : Type w} (ok : α → σ → Prop) (error : δ → σ → Prop) : Except δ α → σ → Prop
  | .ok a => ok a
  | .error e => error e

@[simp] theorem exits_ok {δ : Type w} (ok : α → σ → Prop) (error : δ → σ → Prop) (a : α) :
    exits ok error (.ok a) = ok a := rfl

@[simp] theorem exits_error {δ : Type w} (ok : α → σ → Prop) (error : δ → σ → Prop) (e : δ) :
    exits ok error (.error e) = error e := rfl

theorem obeys_throwing_bind {δ : Type w} (p : ExceptT δ (Program ε ρ) α)
    (f : α → ExceptT δ (Program ε ρ) β) (s : σ) (ok : β → σ → Prop) (error : δ → σ → Prop) :
    (p >>= f).run.Obeys D s (exits ok error) ↔
      p.run.Obeys D s (exits (fun a s' => (f a).run.Obeys D s' (exits ok error)) error) := by
  rw [ExceptT.run_bind, obeys_bind]
  constructor <;> intro h <;> refine h.mono ?_ <;> rintro (e | a) s' h' <;> exact h'

theorem Obeys.andThen {δ : Type w} {p : ExceptT δ (Program ε ρ) α}
    {f : α → ExceptT δ (Program ε ρ) β} {s : σ} {Q : α → σ → Prop} {ok : β → σ → Prop}
    {error : δ → σ → Prop} (h : p.run.Obeys D s (exits Q error))
    (hf : ∀ a s', Q a s' → (f a).run.Obeys D s' (exits ok error)) :
    (p >>= f).run.Obeys D s (exits ok error) := by
  rw [obeys_throwing_bind]
  refine h.mono ?_
  rintro (e | a) s' h'
  · exact h'
  · exact hf a s' h'

theorem obeys_free {p : Program ε ρ α} {Q : α → Unit → Prop} (h : ∀ a, Q a ()) :
    p.Obeys Discipline.free () Q := by
  induction p with
  | done a => exact h a
  | call e next ih => exact ⟨trivial, ih⟩

theorem Obeys.steps {p q : Program ε ρ α} {s : σ} {Q : α → σ → Prop}
    {trace : List (Exchange ε ρ)} (h : p.Obeys D s Q) (hs : Steps p trace q) :
    q.Obeys D (D.after s trace) Q := by
  induction hs generalizing s with
  | refl p => exact h
  | call r _ ih => exact ih (h.2 r)

theorem Obeys.allowed {p q : Program ε ρ α} {s : σ} {Q : α → σ → Prop}
    {before after : List (Exchange ε ρ)} {x : Exchange ε ρ} (h : p.Obeys D s Q)
    (hs : Steps p (before ++ x :: after) q) : D.allowed (D.after s before) x.request := by
  induction before generalizing p s with
  | nil =>
    cases hs with
    | call r tail => exact h.1
  | cons y before ih =>
    cases hs with
    | call r tail => exact ih (h.2 r) tail

theorem Obeys.result {p : Program ε ρ α} {s : σ} {Q : α → σ → Prop} {a : α}
    {trace : List (Exchange ε ρ)} (h : p.Obeys D s Q) (hs : Steps p trace (.done a)) :
    Q a (D.after s trace) := h.steps hs

theorem Obeys.run_congr {τ : Type x} {H H' : Handler ε ρ τ} {p : Program ε ρ α} {s : σ}
    {Q : α → σ → Prop} (h : p.Obeys D s Q)
    (hAgree : ∀ s e, D.allowed s e → ∀ t, H t e = H' t e) (t : τ) : p.run H t = p.run H' t := by
  induction p generalizing s t with
  | done a => rfl
  | call e next ih =>
    rw [run_call, run_call, hAgree s e h.1 t]
    exact ih _ (h.2 _) _

end Program

end Effects
