import Enclavia.Machine.Run

namespace machine

variable {S A B : Type*}

abbrev MarkedLog (A : Type*) := List (A × Bool)

def MarkedLog.all (log : MarkedLog A) : List A := log.map Prod.fst

def MarkedLog.kept (log : MarkedLog A) : List A := (log.filter fun entry => !entry.2).map Prod.fst

def MarkedLog.keptResults (step : S → A → B × S) : S → MarkedLog A → List B
  | _, [] => []
  | s, (a, marked) :: log =>
    if marked then keptResults step (step s a).2 log
    else (step s a).1 :: keptResults step (step s a).2 log

@[simp] theorem MarkedLog.kept_cons_unmarked (a : A) (log : MarkedLog A) :
    MarkedLog.kept ((a, false) :: log) = a :: MarkedLog.kept log := rfl

theorem MarkedLog.kept_append (log more : MarkedLog A) :
    MarkedLog.kept (log ++ more) = MarkedLog.kept log ++ MarkedLog.kept more := by
  simp only [MarkedLog.kept, List.filter_append, List.map_append]

theorem MarkedLog.keptResults_eq_of_erasure {step : S → A → B × S} {R : S → S → Prop}
    {P : S → S → A → Prop}
    (hkeep : ∀ s t a, R s t → (step s a).1 = (step t a).1 ∧ R (step s a).2 (step t a).2)
    (hskip : ∀ s t a, R s t → P s t a → R (step s a).2 t)
    (log : MarkedLog A) {s t : S} (hR : R s t)
    (hmarked : ∀ before a after, log = before ++ (a, true) :: after →
      P (run step s (MarkedLog.all before)) (run step t (MarkedLog.kept before)) a) :
    MarkedLog.keptResults step s log = results step t (MarkedLog.kept log) ∧
      R (run step s (MarkedLog.all log)) (run step t (MarkedLog.kept log)) := by
  induction log generalizing s t with
  | nil => exact ⟨rfl, hR⟩
  | cons entry log ih =>
    obtain ⟨a, marked⟩ := entry
    cases marked with
    | true =>
      have hP : P s t a := hmarked [] a log rfl
      apply ih (hskip s t a hR hP)
      intro before b after hsplit
      exact hmarked ((a, true) :: before) b after (by rw [hsplit, List.cons_append])
    | false =>
      obtain ⟨hresult, hnext⟩ := hkeep s t a hR
      obtain ⟨hresults, hfinal⟩ := ih hnext fun before b after hsplit =>
        hmarked ((a, false) :: before) b after (by rw [hsplit, List.cons_append])
      refine ⟨?_, hfinal⟩
      rw [MarkedLog.kept_cons_unmarked, results_cons, ← hresult, ← hresults]
      rfl

end machine
