import Enclavia.Interaction.Program
import Mathlib.Logic.Relation

/-! Programs over a state that their effects change, and that outlives them: what holds at every point where a program
may be stopped. -/

namespace interaction

abbrev Semantics {E : Type} (R : E → Type) (S : Type) := S → (e : E) → R e → S → Prop

namespace Program

variable {E : Type} {R : E → Type} {S α β : Type} {step : Semantics R S}

/-- A part of a run: the program, with the state, after some of its effects. -/
inductive Exec (step : Semantics R S) : Program E R α → S → Program E R α → S → Prop
  | refl (p : Program E R α) (s : S) : Exec step p s p s
  | head {effect : E} {next : R effect → Program E R α} {answer : R effect} {s s' t : S} {q : Program E R α}
      (hstep : step s effect answer s') (hrest : Exec step (next answer) s' q t) : Exec step (act effect next) s q t

def Guards (step : Semantics R S) (I : S → E → Prop) (post : α → S → Prop) : Program E R α → S → Prop
  | ret value, s => post value s
  | act effect next, s => I s effect ∧ ∀ answer s', step s effect answer s' → Guards step I post (next answer) s'

/-- The program comes to an end whatever it is answered, and returns a value of `post`. -/
def Ends (step : Semantics R S) (post : α → S → Prop) : Program E R α → S → Prop
  | ret value, s => post value s
  | act effect next, s =>
    (∃ answer s', step s effect answer s') ∧ ∀ answer s', step s effect answer s' → Ends step post (next answer) s'

variable {I J : S → E → Prop} {post post' : α → S → Prop} {p q : Program E R α} {s t : S}

theorem Guards.of_exec (h : Guards step I post p s) (hexec : Exec step p s q t) : Guards step I post q t := by
  induction hexec with
  | refl p s => exact h
  | head hstep hrest ih => exact ih (h.2 _ _ hstep)

theorem Exec.trans {r : Program E R α} {u : S} (h : Exec step p s q t) (h' : Exec step q t r u) :
    Exec step p s r u := by
  induction h with
  | refl p s => exact h'
  | head hstep _ ih => exact .head hstep (ih h')

theorem Exec.mono {step' : Semantics R S} (hstep : ∀ s e answer s', step s e answer s' → step' s e answer s')
    (h : Exec step p s q t) : Exec step' p s q t := by
  induction h with
  | refl p s => exact .refl p s
  | head h _ ih => exact .head (hstep _ _ _ _ h) ih

theorem Exec.bind {f : α → Program E R β} {a : α} {r : Program E R β} {u : S} (h : Exec step p s (ret a) t)
    (h' : Exec step (f a) t r u) : Exec step (p.bind f) s r u := by
  generalize hq : ret a = q at h
  induction h with
  | refl p s =>
    subst hq
    exact h'
  | head hstep _ ih => exact .head hstep (ih h' hq)

theorem Exec.bind_left {f : α → Program E R β} (h : Exec step p s q t) : Exec step (p.bind f) s (q.bind f) t := by
  induction h with
  | refl p s => exact .refl _ _
  | head hstep _ ih => exact .head hstep ih

theorem Guards.mono (hIJ : ∀ s e, I s e → J s e) (hpost : ∀ a s, post a s → post' a s)
    (h : Guards step I post p s) : Guards step J post' p s := by
  induction p generalizing s with
  | ret value => exact hpost value s h
  | act effect next ih => exact ⟨hIJ s effect h.1, fun answer s' hstep => ih answer (h.2 answer s' hstep)⟩

theorem Guards.bind {mid : α → S → Prop} {f : α → Program E R β} {post : β → S → Prop}
    (hfirst : Guards step I mid p s) (hsecond : ∀ a s, mid a s → Guards step I post (f a) s) :
    Guards step I post (p.bind f) s := by
  induction p generalizing s with
  | ret value => exact hsecond value s hfirst
  | act effect next ih => exact ⟨hfirst.1, fun answer s' hstep => ih answer (hfirst.2 answer s' hstep)⟩

theorem Ends.bind (mid : α → S → Prop) {f : α → Program E R β} {post : β → S → Prop} (hfirst : Ends step mid p s)
    (hsecond : ∀ a s, mid a s → Ends step post (f a) s) : Ends step post (p.bind f) s := by
  induction p generalizing s with
  | ret value => exact hsecond value s hfirst
  | act effect next ih => exact ⟨hfirst.1, fun answer s' hstep => ih answer (hfirst.2 answer s' hstep)⟩

theorem Ends.mono (hpost : ∀ a s, post a s → post' a s) (h : Ends step post p s) : Ends step post' p s := by
  induction p generalizing s with
  | ret value => exact hpost value s h
  | act effect next ih => exact ⟨h.1, fun answer s' hstep => ih answer (h.2 answer s' hstep)⟩

theorem Ends.exists_exec (h : Ends step post p s) : ∃ a t, Exec step p s (ret a) t := by
  induction p generalizing s with
  | ret value => exact ⟨value, s, .refl _ _⟩
  | act effect next ih =>
    obtain ⟨⟨answer, s', hstep⟩, hnext⟩ := h
    obtain ⟨a, t, hexec⟩ := ih answer (hnext answer s' hstep)
    exact ⟨a, t, .head hstep hexec⟩

theorem Ends.of_exec {a : α} (h : Ends step post p s) (hexec : Exec step p s (ret a) t) : post a t := by
  generalize hq : ret a = q at hexec
  induction hexec with
  | refl p s =>
    subst hq
    exact h
  | head hstep _ ih => exact ih (h.2 _ _ hstep) hq

theorem Ends.compatible (h : Ends step post p s) (h' : Ends step post' p s) : ∃ a t, post a t ∧ post' a t := by
  obtain ⟨a, t, hexec⟩ := h.exists_exec
  exact ⟨a, t, h.of_exec hexec, h'.of_exec hexec⟩

theorem ends_act {effect : E} {next : R effect → Program E R α} {answer : R effect}
    (hunique : ∀ answer' s', step s effect answer' s' ↔ answer' = answer ∧ s' = t) :
    Ends step post (act effect next) s ↔ Ends step post (next answer) t := by
  constructor
  · intro h
    exact h.2 answer t ((hunique answer t).mpr ⟨rfl, rfl⟩)
  · intro h
    refine ⟨⟨answer, t, (hunique answer t).mpr ⟨rfl, rfl⟩⟩, ?_⟩
    intro answer' s' hstep
    obtain ⟨rfl, rfl⟩ := (hunique answer' s').mp hstep
    exact h

end Program

/-! Programs that are run on one state, one after the other. Each can be stopped, and between them the surroundings can
change the state. -/

namespace History

open Program

variable {E : Type} {R : E → Type} {S C α : Type}

abbrev Point (E : Type) (R : E → Type) (S C α : Type) := S × Option (C × Program E R α)

inductive Step (step : C → Semantics R S) (program : C → Program E R α) (may : S → C → Prop) (moves : S → S → Prop) :
    Point E R S C α → Point E R S C α → Prop
  | start {s : S} {command : C} (hmay : may s command) :
      Step step program may moves (s, none) (s, some (command, program command))
  | effect {s s' : S} {command : C} {e : E} {next : R e → Program E R α} {answer : R e}
      (hstep : step command s e answer s') :
      Step step program may moves (s, some (command, .act e next)) (s', some (command, next answer))
  | stop {s : S} {running : Option (C × Program E R α)} : Step step program may moves (s, running) (s, none)
  | move {s s' : S} {running : Option (C × Program E R α)} (hmoves : moves s s') :
      Step step program may moves (s, running) (s', none)

abbrev Reaches (step : C → Semantics R S) (program : C → Program E R α) (may : S → C → Prop) (moves : S → S → Prop) :
    Point E R S C α → Point E R S C α → Prop := Relation.ReflTransGen (Step step program may moves)

variable {step : C → Semantics R S} {program : C → Program E R α} {may : S → C → Prop} {moves : S → S → Prop}
  {Idle : S → Prop} {I : C → S → E → Prop}

theorem invariant (hprogram : ∀ s command, Idle s → may s command →
      Guards (step command) (I command) (fun _ => Idle) (program command) s)
    (hstop : ∀ command s e, I command s e → Idle s) (hmoves : ∀ s s', Idle s → moves s s' → Idle s') {s₀ : S}
    {point : Point E R S C α} (hinit : Idle s₀) (hreaches : Reaches step program may moves (s₀, none) point) :
    Idle point.1 ∧ ∀ command p, point.2 = some (command, p) →
      Guards (step command) (I command) (fun _ => Idle) p point.1 := by
  have hguards : ∀ {command : C} {p : Program E R α} {s : S},
      Guards (step command) (I command) (fun _ => Idle) p s → Idle s := by
    intro command p s h
    cases p with
    | ret value => exact h
    | act e next => exact hstop command s e h.1
  induction hreaches with
  | refl => exact ⟨hinit, nofun⟩
  | tail _ hstep ih =>
    obtain ⟨ihidle, ihrunning⟩ := ih
    cases hstep with
    | start hmay =>
      have hstart := hprogram _ _ ihidle hmay
      refine ⟨ihidle, ?_⟩
      intro command' p hrunning
      cases hrunning
      exact hstart
    | effect hstep =>
      have hnext := (ihrunning _ _ rfl).2 _ _ hstep
      refine ⟨hguards hnext, ?_⟩
      intro command' p hrunning
      cases hrunning
      exact hnext
    | stop => exact ⟨ihidle, nofun⟩
    | move h => exact ⟨hmoves _ _ ihidle h, nofun⟩

theorem reaches_of_exec {s s' : S} {command : C} {p q : Program E R α} (hexec : Exec (step command) p s q s') :
    Reaches step program may moves (s, some (command, p)) (s', some (command, q)) := by
  induction hexec with
  | refl p s => exact .refl
  | head hstep _ ih => exact .head (.effect hstep) ih

end History

end interaction
