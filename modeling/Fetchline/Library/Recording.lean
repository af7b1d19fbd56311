import Fetchline.Library.Discipline

/-! # The exchanges of a program as its record

The discipline that forbids nothing and keeps every exchange. What it proves of
a program's record holds of each run of the program against a handler.
-/

namespace Effects

universe u v w x

variable {ε : Type u} {ρ : ε → Type v}

def Discipline.recording : Discipline ε ρ (List (Program.Exchange ε ρ)) where
  allowed _ _ := True
  next log e r := log ++ [⟨e, r⟩]

theorem Discipline.after_recording (log trace : List (Program.Exchange ε ρ)) :
    recording.after log trace = log ++ trace := by
  induction trace generalizing log with
  | nil => exact (List.append_nil log).symm
  | cons x trace ih =>
    change recording.after (log ++ [x]) trace = _
    rw [ih, List.append_assoc, List.singleton_append]

namespace Program

variable {α : Type w} {σ : Type x}

/-- The handler gives these replies to these requests, one after the other. -/
inductive Follows (H : Handler ε ρ σ) : σ → List (Exchange ε ρ) → σ → Prop where
  | nil (s : σ) : Follows H s [] s
  | cons {s s' : σ} {e : ε} {trace : List (Exchange ε ρ)} (tail : Follows H (H s e).2 trace s') :
      Follows H s (⟨e, (H s e).1⟩ :: trace) s'

theorem run_follows (H : Handler ε ρ σ) (p : Program ε ρ α) (s : σ) :
    ∃ trace, Steps p trace (.done (p.run H s).1) ∧ Follows H s trace (p.run H s).2 := by
  induction p generalizing s with
  | done a => exact ⟨[], .refl _, .nil s⟩
  | call e next ih =>
    obtain ⟨trace, hSteps, hFollows⟩ := ih (H s e).1 (H s e).2
    exact ⟨⟨e, (H s e).1⟩ :: trace, .call _ hSteps, .cons hFollows⟩

theorem Obeys.ran {τ : Type x} {D : Discipline ε ρ τ} {p : Program ε ρ α} {t : τ}
    {Q : α → τ → Prop} (h : p.Obeys D t Q) (H : Handler ε ρ σ) (s : σ) :
    ∃ t', Q (p.run H s).1 t' := by
  obtain ⟨trace, hSteps, -⟩ := run_follows H p s
  exact ⟨_, h.result hSteps⟩

/-- The requests of a run, in their order. -/
def requests (H : Handler ε ρ σ) : Program ε ρ α → σ → List ε
  | .done _, _ => []
  | .call e next, s => e :: (next (H s e).1).requests H (H s e).2

theorem obeys_recording {p : Program ε ρ α} {log : List (Exchange ε ρ)}
    {Q : α → List (Exchange ε ρ) → Prop} (h : ∀ a log, Q a log) :
    p.Obeys Discipline.recording log Q := by
  induction p generalizing log with
  | done a => exact h a log
  | call e next ih => exact ⟨trivial, fun r => ih r⟩

theorem Obeys.recorded {p : Program ε ρ α} {log : List (Exchange ε ρ)}
    {Q : α → List (Exchange ε ρ) → Prop} (h : p.Obeys Discipline.recording log Q)
    (H : Handler ε ρ σ) (s : σ) :
    ∃ trace, Follows H s trace (p.run H s).2 ∧ Q (p.run H s).1 (log ++ trace) := by
  obtain ⟨trace, hSteps, hFollows⟩ := run_follows H p s
  refine ⟨trace, hFollows, ?_⟩
  rw [← Discipline.after_recording]
  exact h.result hSteps

end Program

end Effects
