import Mathlib.Data.List.Basic

namespace interaction

inductive Program (E : Type) (R : E → Type) (α : Type) where
  | ret (value : α)
  | act (effect : E) (next : R effect → Program E R α)

abbrev Event {E : Type} (R : E → Type) := Σ e : E, R e

variable {E : Type} {R : E → Type} {α β : Type}

namespace Program

def bind : Program E R α → (α → Program E R β) → Program E R β
  | ret value, f => f value
  | act effect next, f => act effect fun answer => (next answer).bind f

def ask (effect : E) : Program E R (R effect) := act effect ret

instance : Monad (Program E R) where
  pure := ret
  bind := bind

/-- The program after a trace of events, together with the fact that it performed exactly these. -/
inductive Run : Program E R α → List (Event R) → Program E R α → Prop
  | nil (p : Program E R α) : Run p [] p
  | cons {effect : E} {next : R effect → Program E R α} {answer : R effect}
      {trace : List (Event R)} {q : Program E R α} (htail : Run (next answer) trace q) :
      Run (act effect next) (⟨effect, answer⟩ :: trace) q

def Returns (p : Program E R α) (trace : List (Event R)) (value : α) : Prop :=
  Run p trace (ret value)

variable {p q : Program E R α} {f : α → Program E R β} {a value : α} {effect : E} {next : R effect → Program E R α}
  {trace history first second : List (Event R)} {I J : List (Event R) → E → Prop}

theorem Run.of_append (hrun : Run p (first ++ second) q) : ∃ q', Run p first q' := by
  induction first generalizing p with
  | nil => exact ⟨p, .nil p⟩
  | cons event first ih =>
    cases hrun with
    | cons htail =>
      obtain ⟨q', hfirst⟩ := ih htail
      exact ⟨q', .cons hfirst⟩

theorem Run.snoc (hrun : Run p trace (act effect next)) (answer : R effect) :
    Run p (trace ++ [⟨effect, answer⟩]) (next answer) := by
  generalize hq : act effect next = q at hrun
  induction hrun with
  | nil p =>
    subst hq
    exact .cons (.nil _)
  | cons htail ih => exact .cons (ih hq)

theorem returns_ret :
    Returns (ret a : Program E R α) trace value ↔ trace = [] ∧ a = value := by
  constructor
  · intro h
    cases h
    exact ⟨rfl, rfl⟩
  · rintro ⟨rfl, rfl⟩
    exact .nil _

theorem returns_act :
    Returns (act effect next) trace value ↔
      ∃ answer rest, trace = ⟨effect, answer⟩ :: rest ∧ Returns (next answer) rest value := by
  constructor
  · intro h
    cases h with
    | cons htail => exact ⟨_, _, rfl, htail⟩
  · rintro ⟨answer, rest, rfl, htail⟩
    exact .cons htail

theorem returns_bind {value : β} :
    Returns (p.bind f) trace value ↔
      ∃ first second a, trace = first ++ second ∧ Returns p first a ∧ Returns (f a) second value := by
  induction p generalizing trace with
  | ret a =>
    constructor
    · intro h
      exact ⟨[], trace, a, rfl, .nil _, h⟩
    · rintro ⟨first, second, a', rfl, hfirst, hsecond⟩
      obtain ⟨rfl, rfl⟩ := returns_ret.mp hfirst
      exact hsecond
  | act effect next ih =>
    constructor
    · intro h
      obtain ⟨answer, rest, rfl, hrest⟩ := returns_act.mp h
      obtain ⟨first, second, a, rfl, hfirst, hsecond⟩ := (ih answer).mp hrest
      exact ⟨⟨effect, answer⟩ :: first, second, a, rfl, .cons hfirst, hsecond⟩
    · rintro ⟨first, second, a, rfl, hfirst, hsecond⟩
      obtain ⟨answer, rest, rfl, hrest⟩ := returns_act.mp hfirst
      exact .cons ((ih answer).mpr ⟨rest, second, a, rfl, hrest, hsecond⟩)

theorem Returns.run_bind (h : Returns p trace a)
    (f : α → Program E R β) : Run (p.bind f) trace (f a) := by
  induction p generalizing trace with
  | ret a' =>
    obtain ⟨rfl, rfl⟩ := returns_ret.mp h
    exact .nil _
  | act effect next ih =>
    obtain ⟨answer, rest, rfl, hrest⟩ := returns_act.mp h
    exact .cons (ih answer hrest)

theorem Returns.run_bind_append {q : Program E R β} (h : Returns p first a) (hnext : Run (f a) second q) :
    Run (p.bind f) (first ++ second) q := by
  induction p generalizing first with
  | ret a' =>
    obtain ⟨rfl, rfl⟩ := returns_ret.mp h
    exact hnext
  | act effect next ih =>
    obtain ⟨answer, rest, rfl, hrest⟩ := returns_act.mp h
    exact .cons (ih answer hrest)

def Asks (I : List (Event R) → E → Prop) : List (Event R) → Program E R α → Prop
  | _, ret _ => True
  | history, act effect next =>
    I history effect ∧ ∀ answer, Asks I (history ++ [⟨effect, answer⟩]) (next answer)

theorem Asks.of_run (hasks : Asks I history p) {before after : List (Event R)}
    {event : Event R} (hrun : Run p (before ++ event :: after) q) :
    I (history ++ before) event.1 := by
  induction before generalizing history p with
  | nil =>
    cases hrun with
    | cons htail =>
      rw [List.append_nil]
      exact hasks.1
  | cons first before ih =>
    cases hrun with
    | cons htail =>
      have hnext := ih (hasks.2 _) htail
      rw [List.append_assoc] at hnext
      exact hnext

theorem Asks.of_run_act (hasks : Asks I history p)
    (hrun : Run p trace (act effect next)) : I (history ++ trace) effect := by
  generalize hq : act effect next = q at hrun
  induction hrun generalizing history with
  | nil p =>
    subst hq
    rw [List.append_nil]
    exact hasks.1
  | cons htail ih =>
    have hnext := ih (hasks.2 _) hq
    rw [List.append_assoc] at hnext
    exact hnext

theorem Asks.mono (hIJ : ∀ history effect, I history effect → J history effect) (h : Asks I history p) :
    Asks J history p := by
  induction p generalizing history with
  | ret value => trivial
  | act effect next ih => exact ⟨hIJ history effect h.1, fun answer => ih answer (h.2 answer)⟩

theorem Asks.bind (hfirst : Asks I history p)
    (hsecond : ∀ trace a, Returns p trace a → Asks I (history ++ trace) (f a)) :
    Asks I history (p.bind f) := by
  induction p generalizing history with
  | ret a =>
    have h := hsecond [] a (.nil _)
    rw [List.append_nil] at h
    exact h
  | act effect next ih =>
    refine ⟨hfirst.1, ?_⟩
    intro answer
    refine ih answer (hfirst.2 answer) ?_
    intro trace a hreturns
    have h := hsecond (⟨effect, answer⟩ :: trace) a (.cons hreturns)
    rw [List.append_assoc]
    exact h

@[simp] theorem returns_ask {answer : R effect} :
    Returns (ask effect) trace answer ↔ trace = [⟨effect, answer⟩] := by
  rw [ask, returns_act]
  constructor
  · rintro ⟨answer', rest, rfl, hrest⟩
    obtain ⟨rfl, rfl⟩ := returns_ret.mp hrest
    rfl
  · rintro rfl
    exact ⟨answer, [], rfl, .nil _⟩

theorem asks_ask (h : I history effect) : Asks I history (ask effect) :=
  ⟨h, fun _ => trivial⟩

def eval {S : Type} (answer : (e : E) → S → R e × S) : Program E R α → S → α × S
  | ret value, s => (value, s)
  | act effect next, s => (next (answer effect s).1).eval answer (answer effect s).2

def Obeys (rely : (e : E) → R e → Prop) (guarantee : E → Prop) : Program E R α → Prop
  | ret _ => True
  | act effect next => guarantee effect ∧ ∀ answer, rely effect answer → Obeys rely guarantee (next answer)

def Yields (rely : (e : E) → R e → Prop) (post : α → Prop) : Program E R α → Prop
  | ret value => post value
  | act effect next => ∀ answer, rely effect answer → Yields rely post (next answer)

def Stops (final : Event R → Prop) (post : α → Prop) : Program E R α → Prop
  | ret _ => True
  | act effect next => ∀ answer,
    (final ⟨effect, answer⟩ → ∃ value, next answer = ret value ∧ post value) ∧ Stops final post (next answer)

def embed {E' : Type} {R' : E' → Type} (f : E → E') (g : (e : E) → R' (f e) → R e) :
    Program E R α → Program E' R' α
  | ret value => ret value
  | act effect next => act (f effect) fun answer => (next (g effect answer)).embed f g

section Rules

variable {rely : (e : E) → R e → Prop} {guarantee : E → Prop} {final : Event R → Prop}
  {E' : Type} {R' : E' → Type} {f : E → E'} {g : (e : E) → R' (f e) → R e} {k : α → Program E R β} {post : α → Prop}

theorem Obeys.bind (hfirst : Obeys rely guarantee p) (hsecond : ∀ a, Obeys rely guarantee (k a)) :
    Obeys rely guarantee (p.bind k) := by
  induction p with
  | ret a => exact hsecond a
  | act effect next ih => exact ⟨hfirst.1, fun answer hrely => ih answer (hfirst.2 answer hrely)⟩

theorem Obeys.embed {guarantee' : E' → Prop} (hguarantee : ∀ e, guarantee e → guarantee' (f e))
    (h : Obeys (fun _ _ => True) guarantee p) :
    Obeys (fun _ _ => True) guarantee' (p.embed f g) := by
  induction p with
  | ret a => trivial
  | act effect next ih => exact ⟨hguarantee effect h.1, fun answer _ => ih _ (h.2 _ trivial)⟩

theorem Obeys.of_run (h : Obeys (fun _ _ => True) guarantee p)
    (hrun : Run p trace (act effect next)) : guarantee effect := by
  generalize hq : act effect next = q at hrun
  induction hrun with
  | nil p =>
    subst hq
    exact h.1
  | cons htail ih => exact ih (h.2 _ trivial) hq

theorem Yields.of_forall (h : ∀ a, post a) (p : Program E R α) : Yields rely post p := by
  induction p with
  | ret a => exact h a
  | act effect next ih => exact fun answer _ => ih answer

theorem Yields.bind {mid : α → Prop} {post : β → Prop} (hfirst : Yields rely mid p)
    (hsecond : ∀ a, mid a → Yields rely post (k a)) :
    Yields rely post (p.bind k) := by
  induction p with
  | ret a => exact hsecond a hfirst
  | act effect next ih => exact fun answer hrely => ih answer (hfirst answer hrely)

theorem Yields.embed {rely' : (e : E') → R' e → Prop} (hrely : ∀ e answer, rely' (f e) answer → rely e (g e answer))
    (h : Yields rely post p) : Yields rely' post (p.embed f g) := by
  induction p with
  | ret a => exact h
  | act effect next ih => exact fun answer hanswer => ih _ (h _ (hrely effect answer hanswer))

theorem Yields.of_returns (h : Yields rely post p) (hreturns : Returns p trace value)
    (htrace : ∀ event ∈ trace, rely event.1 event.2) :
    post value := by
  induction p generalizing trace with
  | ret a =>
    obtain ⟨-, rfl⟩ := returns_ret.mp hreturns
    exact h
  | act effect next ih =>
    obtain ⟨answer, rest, rfl, hrest⟩ := returns_act.mp hreturns
    rw [List.forall_mem_cons] at htrace
    exact ih answer (h answer htrace.1) hrest htrace.2

theorem Stops.bind {mid : α → Prop} {post : β → Prop} (hfirst : Stops final mid p)
    (hover : ∀ a, mid a → ∃ value, k a = ret value ∧ post value) (hsecond : ∀ a, Stops final post (k a)) :
    Stops final post (p.bind k) := by
  induction p with
  | ret a => exact hsecond a
  | act effect next ih =>
    intro answer
    refine ⟨fun hfinal => ?_, ih answer (hfirst answer).2⟩
    obtain ⟨a, hnext, ha⟩ := (hfirst answer).1 hfinal
    simp only [hnext]
    exact hover a ha

theorem Stops.embed {final' : Event R' → Prop} (hfinal : ∀ e answer, final' ⟨f e, answer⟩ → final ⟨e, g e answer⟩)
    (h : Stops final post p) : Stops final' post (p.embed f g) := by
  induction p with
  | ret a => trivial
  | act effect next ih =>
    intro answer
    refine ⟨fun hlast => ?_, ih _ (h _).2⟩
    obtain ⟨value, hnext, hvalue⟩ := (h _).1 (hfinal effect answer hlast)
    exact ⟨value, by simp only [hnext, Program.embed], hvalue⟩

theorem Stops.of_run (h : Stops final post p) (hrun : Run p trace q) {event : Event R} (hmem : event ∈ trace)
    (hfinal : final event) :
    ∃ value, q = ret value ∧ post value := by
  induction hrun with
  | nil p => cases hmem
  | cons htail ih =>
    rcases List.mem_cons.mp hmem with rfl | hmem
    · obtain ⟨value, hnext, hvalue⟩ := (h _).1 hfinal
      rw [hnext] at htail
      cases htail
      exact ⟨value, rfl, hvalue⟩
    · exact ih (h _).2 hmem

end Rules

section Failing

variable {δ ε : Type} {err : δ → ε}

def attempt (p : Program E R (Except δ α)) (err : δ → ε) : ExceptT ε (Program E R) α :=
  ExceptT.mk (p.bind fun result => ret (result.mapError err))

def lift (p : Program E R α) : ExceptT ε (Program E R) α := ExceptT.mk (p.bind fun a => ret (.ok a))

def check (result : Except δ α) (err : δ → ε) : ExceptT ε (Program E R) α :=
  ExceptT.mk (ret (result.mapError err))

theorem returns_attempt {p : Program E R (Except δ α)} :
    Returns (attempt p err).run trace (.ok value) ↔ Returns p trace (.ok value) := by
  rw [attempt, ExceptT.run_mk, returns_bind]
  constructor
  · rintro ⟨first, second, result, rfl, hfirst, hsecond⟩
    obtain ⟨rfl, hresult⟩ := returns_ret.mp hsecond
    cases result with
    | error e => cases hresult
    | ok a =>
      cases hresult
      rw [List.append_nil]
      exact hfirst
  · intro h
    exact ⟨trace, [], .ok value, (List.append_nil _).symm, h, .nil _⟩

theorem returns_lift :
    Returns (lift p : ExceptT ε (Program E R) α).run trace (.ok value) ↔ Returns p trace value := by
  rw [lift, ExceptT.run_mk, returns_bind]
  constructor
  · rintro ⟨first, second, a, rfl, hfirst, hsecond⟩
    obtain ⟨rfl, hvalue⟩ := returns_ret.mp hsecond
    cases hvalue
    rw [List.append_nil]
    exact hfirst
  · intro h
    exact ⟨trace, [], value, (List.append_nil _).symm, h, .nil _⟩

theorem returns_check {result : Except δ α} :
    Returns (check result err : ExceptT ε (Program E R) α).run trace (.ok value) ↔
      trace = [] ∧ result = .ok value := by
  refine returns_ret.trans (and_congr_right fun _ => ?_)
  cases result <;> simp [Except.mapError]

theorem returns_pure :
    Returns (pure a : ExceptT ε (Program E R) α).run trace (.ok value) ↔ trace = [] ∧ a = value := by
  rw [ExceptT.run_pure]
  refine returns_ret.trans ?_
  rw [Except.ok.injEq]

theorem not_returns_throw {error : ε} :
    ¬Returns (throw error : ExceptT ε (Program E R) α).run trace (.ok value) := by
  intro h
  cases (returns_ret.mp h).2

theorem returns_seq {x : ExceptT ε (Program E R) α} {f : α → ExceptT ε (Program E R) β} {value : β} :
    Returns (x >>= f).run trace (.ok value) ↔
      ∃ first second a, trace = first ++ second ∧ Returns x.run first (.ok a) ∧
        Returns (f a).run second (.ok value) := by
  refine Iff.trans returns_bind ?_
  constructor
  · rintro ⟨first, second, result, rfl, hfirst, hsecond⟩
    cases result with
    | error e => cases (returns_ret.mp hsecond).2
    | ok a => exact ⟨first, second, a, rfl, hfirst, hsecond⟩
  · rintro ⟨first, second, a, rfl, hfirst, hsecond⟩
    exact ⟨first, second, .ok a, rfl, hfirst, hsecond⟩

theorem Asks.attempt {p : Program E R (Except δ α)} (h : Asks I history p) :
    Asks I history (Program.attempt p err).run :=
  Asks.bind h fun _ _ _ => trivial

theorem Asks.lift (h : Asks I history p) :
    Asks I history (Program.lift p : ExceptT ε (Program E R) α).run :=
  Asks.bind h fun _ _ _ => trivial

theorem Asks.seq {x : ExceptT ε (Program E R) α} {f : α → ExceptT ε (Program E R) β}
    (hfirst : Asks I history x.run)
    (hsecond : ∀ trace a, Returns x.run trace (.ok a) → Asks I (history ++ trace) (f a).run) :
    Asks I history (x >>= f).run := by
  refine Asks.bind hfirst ?_
  intro trace result hreturns
  cases result with
  | error e => exact trivial
  | ok a => exact hsecond trace a hreturns

end Failing

end Program

end interaction
