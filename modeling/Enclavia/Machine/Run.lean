import Mathlib.Data.List.Induction

namespace machine

variable {S A B : Type*} (step : S → A → B × S)

/-- The state reached by folding `step` over a log. -/
def run : S → List A → S
  | s, [] => s
  | s, a :: log => run (step s a).2 log

def results : S → List A → List B
  | _, [] => []
  | s, a :: log => (step s a).1 :: results (step s a).2 log

@[simp] theorem run_nil (s : S) : run step s [] = s := rfl

@[simp] theorem run_cons (s : S) (a : A) (log : List A) :
    run step s (a :: log) = run step (step s a).2 log := rfl

@[simp] theorem results_nil (s : S) : results step s [] = [] := rfl

@[simp] theorem results_cons (s : S) (a : A) (log : List A) :
    results step s (a :: log) = (step s a).1 :: results step (step s a).2 log := rfl

theorem run_append (s : S) (log more : List A) :
    run step s (log ++ more) = run step (run step s log) more := by
  induction log generalizing s with
  | nil => rfl
  | cons a log ih => simp only [List.cons_append, run_cons, ih]

theorem results_append (s : S) (log more : List A) :
    results step s (log ++ more) = results step s log ++ results step (run step s log) more := by
  induction log generalizing s with
  | nil => rfl
  | cons a log ih => simp only [List.cons_append, results_cons, run_cons, ih]

theorem results_length (s : S) (log : List A) : (results step s log).length = log.length := by
  induction log generalizing s with
  | nil => rfl
  | cons a log ih => simp only [results_cons, List.length_cons, ih]

theorem run_concat (s : S) (log : List A) (a : A) :
    run step s (log ++ [a]) = (step (run step s log) a).2 := by
  simp only [run_append, run_cons, run_nil]

/-- What holds at every position of a log, of the log before it and the entry there. -/
theorem forall_split_concat {P : List A → A → Prop} {log : List A} {last : A} :
    (∀ before a after, log ++ [last] = before ++ a :: after → P before a) ↔
      (∀ before a after, log = before ++ a :: after → P before a) ∧ P log last := by
  constructor
  · intro h
    exact ⟨fun before a after hsplit => h before a (after ++ [last]) (by simp [hsplit]), h log last [] rfl⟩
  · rintro ⟨hlog, hlast⟩ before a after hsplit
    rcases List.eq_nil_or_concat after with rfl | ⟨after', last', rfl⟩
    · obtain ⟨rfl, ha⟩ := List.append_inj' hsplit rfl
      cases ha
      exact hlast
    · rw [List.concat_eq_append, ← List.cons_append, ← List.append_assoc] at hsplit
      exact hlog before a after' (List.append_inj' hsplit rfl).1

theorem run_preserves {P : S → Prop} (hstep : ∀ s a, P s → P (step s a).2)
    {s : S} (hs : P s) (log : List A) : P (run step s log) := by
  induction log generalizing s with
  | nil => exact hs
  | cons a log ih => exact ih (hstep s a hs)

theorem results_eq_of_relation {T : Type*} {other : T → A → B × T} {R : S → T → Prop} {Q : A → Prop}
    (hstep : ∀ s t a, Q a → R s t → (step s a).1 = (other t a).1 ∧ R (step s a).2 (other t a).2)
    {s : S} {t : T} (hR : R s t) (log : List A) (hlog : ∀ a ∈ log, Q a) :
    results step s log = results other t log ∧ R (run step s log) (run other t log) := by
  induction log generalizing s t with
  | nil => exact ⟨rfl, hR⟩
  | cons a log ih =>
    obtain ⟨hresult, hnext⟩ := hstep s t a (hlog a List.mem_cons_self) hR
    obtain ⟨hresults, hfinal⟩ := ih hnext fun b hb => hlog b (List.mem_cons_of_mem a hb)
    refine ⟨?_, hfinal⟩
    simp only [results_cons, hresult, hresults]

theorem results_eq_of_bisim {R : S → S → Prop} {Q : A → Prop}
    (hstep : ∀ s t a, Q a → R s t → (step s a).1 = (step t a).1 ∧ R (step s a).2 (step t a).2)
    {s t : S} (hR : R s t) (log : List A) (hlog : ∀ a ∈ log, Q a) :
    results step s log = results step t log ∧ R (run step s log) (run step t log) :=
  results_eq_of_relation step hstep hR log hlog

theorem run_simulates {T : Type*} {spec : T → A → B × T} {f : S → T}
    (hstep : ∀ s a, ((step s a).1, f (step s a).2) = spec (f s) a) (s : S) (log : List A) :
    f (run step s log) = run spec (f s) log ∧ results step s log = results spec (f s) log := by
  induction log generalizing s with
  | nil => exact ⟨rfl, rfl⟩
  | cons a log ih =>
    obtain ⟨hfinal, hresults⟩ := ih (step s a).2
    have hnext : f (step s a).2 = (spec (f s) a).2 := congrArg Prod.snd (hstep s a)
    have hresult : (step s a).1 = (spec (f s) a).1 := congrArg Prod.fst (hstep s a)
    refine ⟨?_, ?_⟩
    · rw [run_cons, run_cons, hfinal, hnext]
    · rw [results_cons, results_cons, hresults, hnext, hresult]

end machine
