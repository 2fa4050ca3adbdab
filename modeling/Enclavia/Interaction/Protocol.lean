import Enclavia.Interaction.Program

namespace interaction

/-- The states that a program goes through, as far as its environment is concerned: what it may ask for in each,
the answers that can be relied on, and where an answer takes it. -/
structure Protocol (E : Type) (R : E → Type) (σ : Type) where
  allowed : σ → E → Prop
  rely : (e : E) → R e → Prop
  advance : σ → (e : E) → R e → σ

namespace Program

variable {E : Type} {R : E → Type} {σ α β : Type}

def Follows (protocol : Protocol E R σ) (final : σ → α → Prop) : σ → Program E R α → Prop
  | state, ret value => final state value
  | state, act effect next => protocol.allowed state effect ∧ ∀ answer, protocol.rely effect answer →
    Follows protocol final (protocol.advance state effect answer) (next answer)

variable {protocol : Protocol E R σ} {state : σ}

theorem Follows.mono {final final' : σ → α → Prop} (hfinal : ∀ state value, final state value → final' state value)
    {p : Program E R α} (h : p.Follows protocol final state) : p.Follows protocol final' state := by
  induction p generalizing state with
  | ret value => exact hfinal state value h
  | act effect next ih => exact ⟨h.1, fun answer hanswer => ih answer (h.2 answer hanswer)⟩

theorem Follows.bind {mid : σ → α → Prop} {final : σ → β → Prop} {p : Program E R α} {k : α → Program E R β}
    (hfirst : p.Follows protocol mid state)
    (hsecond : ∀ state a, mid state a → (k a).Follows protocol final state) :
    (p.bind k).Follows protocol final state := by
  induction p generalizing state with
  | ret a => exact hsecond state a hfirst
  | act effect next ih => exact ⟨hfirst.1, fun answer hanswer => ih answer (hfirst.2 answer hanswer)⟩

end Program

end interaction
