import Fetchline.Library.Program
import Mathlib.Order.GameAdd

/-! # Two programs on one connection

Each side reads and writes in chunks of its own, and what one has written waits until the other
reads it. A dialogue says in which order the items go, and in which direction each. Sides that
keep to it, each from its own point of view, never come to wait for each other, in whatever order
they run and however their reads split what has arrived.
-/

namespace Effects

universe u u' v v' w w' x x' y

/-- The next item of a dialogue, as one side sees it. -/
inductive Turn (β : Type y) where
  | speaks (item : β)
  | hears (item : β)
deriving DecidableEq

namespace Turn

variable {β : Type y}

def dual : Turn β → Turn β
  | .speaks item => .hears item
  | .hears item => .speaks item

def spoken (items : List β) : List (Turn β) := items.map .speaks

def heard (items : List β) : List (Turn β) := items.map .hears

@[simp] theorem spoken_nil : spoken ([] : List β) = [] := rfl

@[simp] theorem heard_nil : heard ([] : List β) = [] := rfl

@[simp] theorem spoken_append (items items' : List β) :
    spoken (items ++ items') = spoken items ++ spoken items' := List.map_append

@[simp] theorem heard_append (items items' : List β) :
    heard (items ++ items') = heard items ++ heard items' := List.map_append

@[simp] theorem heard_eq_nil_iff {items : List β} : heard items = [] ↔ items = [] :=
  List.map_eq_nil_iff

theorem dual_spoken (items : List β) : (spoken items).map dual = heard items := List.map_map

theorem dual_heard (items : List β) : (heard items).map dual = spoken items := List.map_map

theorem dual_dual (turns : List (Turn β)) : (turns.map dual).map dual = turns := by
  rw [List.map_map]
  refine (List.map_congr_left ?_).trans (List.map_id turns)
  rintro (item | item) - <;> rfl

/-- Two ways to begin with what is heard: one lies within the other. -/
theorem heard_split {items chunk : List β} {turns rest : List (Turn β)}
    (h : heard items ++ turns = heard chunk ++ rest) :
    (∃ later, items = chunk ++ later ∧ rest = heard later ++ turns) ∨
      ∃ more, more ≠ [] ∧ chunk = items ++ more ∧ turns = heard more ++ rest := by
  induction items generalizing chunk with
  | nil =>
    rcases chunk with _ | ⟨item, chunk⟩
    · exact .inl ⟨[], rfl, h.symm⟩
    · exact .inr ⟨item :: chunk, List.cons_ne_nil _ _, rfl, h⟩
  | cons item items ih =>
    rcases chunk with _ | ⟨item', chunk⟩
    · exact .inl ⟨item :: items, rfl, h.symm⟩
    · obtain ⟨hItem, hTail⟩ := List.cons.inj h
      cases hItem
      rcases ih hTail with ⟨later, rfl, hRest⟩ | ⟨more, hMore, rfl, hTurns⟩
      · exact .inl ⟨later, rfl, hRest⟩
      · exact .inr ⟨more, hMore, rfl, hTurns⟩

end Turn

open Turn

/-- What an effect is to the connection, and what the program gets for it. -/
inductive Action (β : Type y) (σ : Type x) (R : Type v) where
  | receive (limit : Nat) (reply : List β → R)
  | send (items : List β) (reply : R)
  | inward (reply : R) (state : σ)

/-- The connection's end at a program, in each state of what else the program works on. -/
abbrev Port (ε : Type u) (ρ : ε → Type v) (β : Type y) (σ : Type x) :=
  σ → (e : ε) → Action β σ (ρ e)

namespace Program

section Side

variable {ε : Type u} {ρ : ε → Type v} {α α' : Type w} {σ : Type x} {β : Type y}
variable {port : Port ε ρ β σ}

/-- The program takes these turns, whatever the chunks it reads in, and is then in `K`. -/
def Keeps (port : Port ε ρ β σ) (K : Program ε ρ α → σ → Prop) :
    Program ε ρ α → σ → List (Turn β) → Prop
  | .done a, s, turns => turns = [] ∧ K (.done a) s
  | .call e next, s, turns => turns = [] ∧ K (.call e next) s ∨
    match port s e with
    | .receive limit reply => 0 < limit ∧ (∃ item rest, turns = .hears item :: rest) ∧
      ∀ chunk rest, chunk ≠ [] → chunk.length ≤ limit → turns = heard chunk ++ rest →
        (next (reply chunk)).Keeps port K s rest
    | .send items reply => ∃ rest, turns = spoken items ++ rest ∧ (next reply).Keeps port K s rest
    | .inward reply state => (next reply).Keeps port K state turns

theorem keeps_call {K : Program ε ρ α → σ → Prop} {e : ε} {next : ρ e → Program ε ρ α} {s : σ}
    {turns : List (Turn β)} :
    (Program.call e next).Keeps port K s turns ↔ turns = [] ∧ K (.call e next) s ∨
      match port s e with
      | .receive limit reply => 0 < limit ∧ (∃ item rest, turns = .hears item :: rest) ∧
        ∀ chunk rest, chunk ≠ [] → chunk.length ≤ limit → turns = heard chunk ++ rest →
          (next (reply chunk)).Keeps port K s rest
      | .send items reply => ∃ rest, turns = spoken items ++ rest ∧ (next reply).Keeps port K s rest
      | .inward reply state => (next reply).Keeps port K state turns := by
  rw [Keeps]

/-- The program has finished or waits for the other side. -/
def Quiet (port : Port ε ρ β σ) : Program ε ρ α → σ → Prop
  | .done _, _ => True
  | .call e _, s => ∃ limit reply, port s e = .receive limit reply

theorem Keeps.settled {K : Program ε ρ α → σ → Prop} {p : Program ε ρ α} {s : σ} (h : K p s) :
    p.Keeps port K s [] := by
  cases p with
  | done a => exact ⟨rfl, h⟩
  | call e next => exact keeps_call.mpr (.inl ⟨rfl, h⟩)

section Call

variable {K : Program ε ρ α → σ → Prop} {e : ε} {next : ρ e → Program ε ρ α} {s : σ}

theorem Keeps.receive {limit : Nat} {reply : List β → ρ e} (hPort : port s e = .receive limit reply)
    (hLimit : 0 < limit) {item : β} {turns : List (Turn β)}
    (hNext : ∀ chunk rest, chunk ≠ [] → chunk.length ≤ limit →
      .hears item :: turns = heard chunk ++ rest → (next (reply chunk)).Keeps port K s rest) :
    (Program.call e next).Keeps port K s (.hears item :: turns) := by
  refine keeps_call.mpr (.inr ?_)
  rw [hPort]
  exact ⟨hLimit, ⟨item, turns, rfl⟩, hNext⟩

theorem Keeps.send {items : List β} {reply : ρ e} (hPort : port s e = .send items reply)
    {turns : List (Turn β)} (hNext : (next reply).Keeps port K s turns) :
    (Program.call e next).Keeps port K s (spoken items ++ turns) := by
  refine keeps_call.mpr (.inr ?_)
  rw [hPort]
  exact ⟨turns, rfl, hNext⟩

theorem Keeps.inward {reply : ρ e} {state : σ} (hPort : port s e = .inward reply state)
    {turns : List (Turn β)} (hNext : (next reply).Keeps port K state turns) :
    (Program.call e next).Keeps port K s turns := by
  refine keeps_call.mpr (.inr ?_)
  rw [hPort]
  exact hNext

end Call

section Says

variable {δ : Type w}

/-- The program succeeds within these turns, whatever the dialogue goes on with. -/
structure Says (port : Port ε ρ β σ) (p : ExceptT δ (Program ε ρ) α) (s : σ)
    (turns : List (Turn β)) (a : α) (s' : σ) : Prop where
  keeps {γ : Type w} (K : Program ε ρ γ → σ → Prop) (f : Except δ α → Program ε ρ γ)
    (rest : List (Turn β)) (h : (f (.ok a)).Keeps port K s' rest) :
    (p.run >>= f).Keeps port K s (turns ++ rest)

variable {p : ExceptT δ (Program ε ρ) α} {g : α → ExceptT δ (Program ε ρ) α'} {a : α} {b : α'}
variable {s s' s'' : σ} {turns turns' : List (Turn β)}

theorem Says.pure (a : α) (s : σ) : Says port (Pure.pure a : ExceptT δ (Program ε ρ) α) s [] a s :=
  ⟨fun _ _ _ h => h⟩

theorem Says.bind (hp : Says port p s turns a s') (hg : Says port (g a) s' turns' b s'') :
    Says port (p >>= g) s (turns ++ turns') b s'' := by
  refine ⟨fun K f rest h => ?_⟩
  rw [ExceptT.run_bind, LawfulMonad.bind_assoc, List.append_assoc]
  exact hp.keeps K _ _ (hg.keeps K f rest h)

theorem Says.bind_nil (hp : Says port p s [] a s') (hg : Says port (g a) s' turns b s'') :
    Says port (p >>= g) s turns b s'' := hp.bind hg

theorem Says.bind_pure (hp : Says port p s turns a s') (hg : Says port (g a) s' [] b s'') :
    Says port (p >>= g) s turns b s'' := by
  have h := hp.bind hg
  rwa [List.append_nil] at h

end Says

structure Side (ε : Type u) (ρ : ε → Type v) (β : Type y) (σ : Type x) (α : Type w) where
  program : Program ε ρ α
  state : σ
  inbox : List β

def Side.hearing (side : Side ε ρ β σ α) (items : List β) : Side ε ρ β σ α :=
  { side with inbox := side.inbox ++ items }

/-- One effect of this side, and what it sends. -/
inductive Acts (port : Port ε ρ β σ) : Side ε ρ β σ α → Side ε ρ β σ α → List β → Prop where
  | receive {e : ε} {next : ρ e → Program ε ρ α} {s : σ} {inbox : List β} {limit : Nat}
      {reply : List β → ρ e} (hPort : port s e = .receive limit reply) (chunk : List β)
      (hChunk : chunk ≠ []) (hLimit : chunk.length ≤ limit) :
      Acts port ⟨.call e next, s, chunk ++ inbox⟩ ⟨next (reply chunk), s, inbox⟩ []
  | send {e : ε} {next : ρ e → Program ε ρ α} {s : σ} {inbox : List β} {items : List β} {reply : ρ e}
      (hPort : port s e = .send items reply) :
      Acts port ⟨.call e next, s, inbox⟩ ⟨next reply, s, inbox⟩ items
  | inward {e : ε} {next : ρ e → Program ε ρ α} {s state : σ} {inbox : List β} {reply : ρ e}
      (hPort : port s e = .inward reply state) :
      Acts port ⟨.call e next, s, inbox⟩ ⟨next reply, state, inbox⟩ []

variable {K : Program ε ρ α → σ → Prop} {side side' : Side ε ρ β σ α} {sent : List β}
variable {turns : List (Turn β)}

/-- The step lemma: an effect takes the next turns, all in one direction. -/
theorem Keeps.acts (h : side.program.Keeps port K side.state turns)
    (hQuiet : ∀ p s, K p s → p.Quiet port s) (hInbox : ∃ rest, turns = heard side.inbox ++ rest)
    (hActs : Acts port side side' sent) :
    ∃ read rest, side.inbox = read ++ side'.inbox ∧ (read = [] ∨ sent = []) ∧
      turns = heard read ++ (spoken sent ++ rest) ∧
      side'.program.Keeps port K side'.state rest := by
  cases hActs with
  | @receive e next s inbox limit reply hPort chunk hChunk hLimit =>
    obtain ⟨later, hTurns⟩ := hInbox
    rcases keeps_call.mp h with ⟨hNil, -⟩ | h
    · rw [hNil, heard_append, List.append_assoc, eq_comm, List.append_eq_nil_iff,
        heard_eq_nil_iff] at hTurns
      exact absurd hTurns.1 hChunk
    · rw [hPort] at h
      rw [heard_append, List.append_assoc] at hTurns
      exact ⟨chunk, _, rfl, .inr rfl, hTurns, h.2.2 chunk _ hChunk hLimit hTurns⟩
  | @send e next s inbox items reply hPort =>
    rcases keeps_call.mp h with ⟨-, hK⟩ | h
    · obtain ⟨limit, reply', hReceive⟩ := hQuiet _ _ hK
      rw [hPort] at hReceive
      cases hReceive
    · rw [hPort] at h
      obtain ⟨rest, hTurns, hNext⟩ := h
      exact ⟨[], rest, rfl, .inl rfl, hTurns, hNext⟩
  | @inward e next s state inbox reply hPort =>
    rcases keeps_call.mp h with ⟨-, hK⟩ | h
    · obtain ⟨limit, reply', hReceive⟩ := hQuiet _ _ hK
      rw [hPort] at hReceive
      cases hReceive
    · rw [hPort] at h
      exact ⟨[], turns, rfl, .inl rfl, rfl, h⟩

/-- A side that can do nothing has come to its end or waits for an item. -/
theorem Keeps.waits (h : side.program.Keeps port K side.state turns)
    (hStuck : ∀ side' sent, ¬ Acts port side side' sent) :
    turns = [] ∧ K side.program side.state ∨
      side.inbox = [] ∧ ∃ item rest, turns = .hears item :: rest := by
  obtain ⟨p, s, inbox⟩ := side
  cases p with
  | done a => exact .inl h
  | call e next =>
    rcases keeps_call.mp h with h | h
    · exact .inl h
    cases hPort : port s e with
    | receive limit reply =>
      rw [hPort] at h
      rcases inbox with _ | ⟨item, inbox⟩
      · exact .inr ⟨rfl, h.2.1⟩
      · have hActs : Acts port ⟨.call e next, s, [item] ++ inbox⟩ ⟨next (reply [item]), s, inbox⟩ [] :=
          .receive hPort [item] (List.cons_ne_nil _ _) h.1
        exact absurd hActs (hStuck _ _)
    | send items reply => exact absurd (.send hPort) (hStuck _ _)
    | inward reply state => exact absurd (.inward hPort) (hStuck _ _)

/-- What a program goes on with after its first effect. -/
inductive Continues : Program ε ρ α → Program ε ρ α → Prop where
  | call {e : ε} (next : ρ e → Program ε ρ α) (r : ρ e) : Continues (next r) (.call e next)

theorem continues_wf : WellFounded (Continues : Program ε ρ α → Program ε ρ α → Prop) := by
  refine ⟨fun p => ?_⟩
  induction p with
  | done a => exact ⟨_, fun _ h => by cases h⟩
  | call e next ih =>
    refine ⟨_, fun q h => ?_⟩
    cases h with
    | call next r => exact ih r

theorem Acts.continues (h : Acts port side side' sent) :
    Continues side'.program side.program := by
  cases h <;> exact .call _ _

end Side

end Program

/-- What one side still has to say and hear, and the other; `inbox` is what the first has not read
yet, `outbox` what the other has not. One of the two is empty. -/
def InStep {β : Type y} (mine theirs : List (Turn β)) (inbox outbox : List β) : Prop :=
  inbox = [] ∧ theirs = heard outbox ++ mine.map dual ∨
    outbox = [] ∧ mine = heard inbox ++ theirs.map dual

section InStep

variable {β : Type y} {mine theirs : List (Turn β)} {inbox outbox : List β}

theorem InStep.swap (h : InStep mine theirs inbox outbox) : InStep theirs mine outbox inbox :=
  Or.symm h

theorem InStep.begins (h : InStep mine theirs inbox outbox) : ∃ rest, mine = heard inbox ++ rest := by
  rcases h with ⟨rfl, -⟩ | ⟨-, rfl⟩
  · exact ⟨mine, rfl⟩
  · exact ⟨_, rfl⟩

theorem InStep.reads {read : List β} {rest : List (Turn β)}
    (h : InStep (heard read ++ rest) theirs (read ++ inbox) outbox) :
    InStep rest theirs inbox outbox := by
  rcases h with ⟨hNil, hTheirs⟩ | ⟨hNil, hMine⟩
  · obtain ⟨rfl, rfl⟩ := List.append_eq_nil_iff.mp hNil
    exact .inl ⟨rfl, hTheirs⟩
  · rw [heard_append, List.append_assoc] at hMine
    exact .inr ⟨hNil, List.append_cancel_left hMine⟩

theorem InStep.sends {sent : List β} {rest : List (Turn β)}
    (h : InStep (spoken sent ++ rest) theirs inbox outbox) :
    InStep rest theirs inbox (outbox ++ sent) := by
  have hAhead (hTheirs : theirs = heard outbox ++ (spoken sent ++ rest).map dual) :
      theirs = heard (outbox ++ sent) ++ rest.map dual := by
    rw [hTheirs, List.map_append, dual_spoken, heard_append, List.append_assoc]
  rcases h with ⟨hInbox, hTheirs⟩ | ⟨rfl, hMine⟩
  · exact .inl ⟨hInbox, hAhead hTheirs⟩
  rcases sent with _ | ⟨item, sent⟩
  · exact .inr ⟨rfl, hMine⟩
  -- The side that speaks has read all there was.
  rcases inbox with _ | ⟨other, inbox⟩
  · refine .inl ⟨rfl, hAhead ?_⟩
    rw [hMine, heard_nil, List.nil_append, List.nil_append, dual_dual]
  · cases (List.cons.inj hMine).1

theorem InStep.ends (h : InStep ([] : List (Turn β)) theirs inbox outbox) :
    inbox = [] ∧ theirs = heard outbox := by
  rcases h with ⟨hInbox, hTheirs⟩ | ⟨rfl, hMine⟩
  · exact ⟨hInbox, hTheirs.trans (List.append_nil _)⟩
  · obtain ⟨hInbox, hTheirs⟩ := List.append_eq_nil_iff.mp hMine.symm
    exact ⟨heard_eq_nil_iff.mp hInbox, List.map_eq_nil_iff.mp hTheirs⟩

end InStep

section Duplex

variable {ε : Type u} {ρ : ε → Type v} {α : Type w} {σ : Type x}
variable {ε' : Type u'} {ρ' : ε' → Type v'} {α' : Type w'} {σ' : Type x'} {β : Type y}

open Program

structure Duplex (ε : Type u) (ρ : ε → Type v) (α : Type w) (σ : Type x) (ε' : Type u')
    (ρ' : ε' → Type v') (α' : Type w') (σ' : Type x') (β : Type y) where
  left : Side ε ρ β σ α
  right : Side ε' ρ' β σ' α'

variable {port : Port ε ρ β σ} {port' : Port ε' ρ' β σ'}
variable {K : Program ε ρ α → σ → Prop} {K' : Program ε' ρ' α' → σ' → Prop}

namespace Duplex

/-- Either side does one effect. -/
inductive Step (port : Port ε ρ β σ) (port' : Port ε' ρ' β σ') :
    Duplex ε ρ α σ ε' ρ' α' σ' β → Duplex ε ρ α σ ε' ρ' α' σ' β → Prop where
  | left {side next : Side ε ρ β σ α} {other : Side ε' ρ' β σ' α'} {sent : List β}
      (hActs : Acts port side next sent) : Step port port' ⟨side, other⟩ ⟨next, other.hearing sent⟩
  | right {side next : Side ε' ρ' β σ' α'} {other : Side ε ρ β σ α} {sent : List β}
      (hActs : Acts port' side next sent) :
      Step port port' ⟨other, side⟩ ⟨other.hearing sent, next⟩

/-- Both sides are in the same dialogue. -/
def Agrees (port : Port ε ρ β σ) (port' : Port ε' ρ' β σ') (K : Program ε ρ α → σ → Prop)
    (K' : Program ε' ρ' α' → σ' → Prop) (d : Duplex ε ρ α σ ε' ρ' α' σ' β) : Prop :=
  ∃ mine theirs, d.left.program.Keeps port K d.left.state mine ∧
    d.right.program.Keeps port' K' d.right.state theirs ∧
    InStep mine theirs d.left.inbox d.right.inbox

/-- Both sides have come to the end of it. -/
structure Finished (K : Program ε ρ α → σ → Prop) (K' : Program ε' ρ' α' → σ' → Prop)
    (d : Duplex ε ρ α σ ε' ρ' α' σ' β) : Prop where
  left : K d.left.program d.left.state
  right : K' d.right.program d.right.state
  read : d.left.inbox = [] ∧ d.right.inbox = []

variable {d d' : Duplex ε ρ α σ ε' ρ' α' σ' β}

theorem Agrees.step (hQuiet : ∀ p s, K p s → p.Quiet port s)
    (hQuiet' : ∀ p s, K' p s → p.Quiet port' s) (h : d.Agrees port port' K K')
    (hStep : Step port port' d d') : d'.Agrees port port' K K' := by
  obtain ⟨mine, theirs, hLeft, hRight, hInStep⟩ := h
  cases hStep with
  | left hActs =>
    obtain ⟨read, rest, hInbox, hOneWay, rfl, hNext⟩ := hLeft.acts hQuiet hInStep.begins hActs
    dsimp only at hInStep
    rw [hInbox] at hInStep
    exact ⟨rest, theirs, hNext, hRight, hInStep.reads.sends⟩
  | right hActs =>
    obtain ⟨read, rest, hInbox, hOneWay, rfl, hNext⟩ := hRight.acts hQuiet' hInStep.swap.begins hActs
    dsimp only at hInStep
    rw [hInbox] at hInStep
    exact ⟨mine, rest, hLeft, hNext, hInStep.swap.reads.sends.swap⟩

/-- Nobody waits for the other for ever. -/
theorem Agrees.progress (h : d.Agrees port port' K K') :
    (∃ d', Step port port' d d') ∨ d.Finished K K' := by
  obtain ⟨mine, theirs, hLeft, hRight, hInStep⟩ := h
  obtain ⟨left, right⟩ := d
  by_contra hStuck
  rw [not_or, not_exists] at hStuck
  obtain ⟨hStuck, hUnfinished⟩ := hStuck
  have hLeftStuck : ∀ side' sent, ¬ Acts port left side' sent :=
    fun _ _ hActs => hStuck _ (.left hActs)
  have hRightStuck : ∀ side' sent, ¬ Acts port' right side' sent :=
    fun _ _ hActs => hStuck _ (.right hActs)
  rcases hLeft.waits hLeftStuck with ⟨rfl, hLeftEnd⟩ | ⟨hLeftInbox, item, rest, rfl⟩
  · obtain ⟨hInbox, hTheirs⟩ := hInStep.ends
    rcases hRight.waits hRightStuck with ⟨rfl, hRightEnd⟩ | ⟨hRightInbox, item, rest, rfl⟩
    · exact hUnfinished ⟨hLeftEnd, hRightEnd, hInbox, heard_eq_nil_iff.mp hTheirs.symm⟩
    · dsimp only at hTheirs
      rw [hRightInbox] at hTheirs
      cases hTheirs
  · dsimp only at hInStep
    rw [hLeftInbox] at hInStep
    rcases hRight.waits hRightStuck with ⟨rfl, hRightEnd⟩ | ⟨hRightInbox, item', rest', rfl⟩
    · cases hInStep.swap.ends.2
    -- Both would have to hear the same item.
    · rw [hRightInbox] at hInStep
      rcases hInStep with ⟨-, hTheirs⟩ | ⟨-, hMine⟩
      · cases hTheirs
      · cases hMine

theorem step_wf (port : Port ε ρ β σ) (port' : Port ε' ρ' β σ') :
    WellFounded fun d' d : Duplex ε ρ α σ ε' ρ' α' σ' β => Step port port' d d' := by
  have hPairs : WellFounded (Prod.GameAdd (Continues : Program ε ρ α → Program ε ρ α → Prop)
      (Continues : Program ε' ρ' α' → Program ε' ρ' α' → Prop)) :=
    continues_wf.prod_gameAdd continues_wf
  refine Subrelation.wf ?_ (InvImage.wf (fun d => (d.left.program, d.right.program)) hPairs)
  intro d' d hStep
  cases hStep with
  | left hActs => exact .fst hActs.continues
  | right hActs => exact .snd hActs.continues

/-- The run lemma: from two sides in one dialogue every run ends, and where it cannot go on both
have come to the end of the dialogue. -/
theorem Agrees.runs (hQuiet : ∀ p s, K p s → p.Quiet port s)
    (hQuiet' : ∀ p s, K' p s → p.Quiet port' s) (h : d.Agrees port port' K K')
    (hRun : Relation.ReflTransGen (Step port port') d d') :
    (∃ d'', Step port port' d' d'') ∨ d'.Finished K K' := by
  have hAgrees : d'.Agrees port port' K K' := by
    induction hRun with
    | refl => exact h
    | tail _ hStep ih => exact ih.step hQuiet hQuiet' hStep
  exact hAgrees.progress

end Duplex

end Duplex

end Effects
