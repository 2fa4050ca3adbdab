import Mathlib.Data.List.Basic

namespace machine

variable {S A : Type*} (step : S → A → Option S)

def exec : S → List A → Option S
  | s, [] => some s
  | s, a :: actions => (step s a).bind fun s' => exec s' actions

def Meets (C : S → A → Prop) : S → List A → Prop
  | _, [] => True
  | s, a :: actions => C s a ∧ ∀ s', step s a = some s' → Meets C s' actions

instance Meets.instDecidable (C : S → A → Prop) [∀ s a, Decidable (C s a)] :
    ∀ s actions, Decidable (Meets step C s actions)
  | _, [] => .isTrue trivial
  | s, a :: actions =>
    match h : step s a with
    | none => decidable_of_iff (C s a) ⟨fun hC => ⟨hC, fun s' hs' => by rw [h] at hs'; cases hs'⟩, And.left⟩
    | some next =>
      have := Meets.instDecidable C next actions
      decidable_of_iff (C s a ∧ Meets step C next actions)
        (and_congr_right fun _ => ⟨fun hrest s' hs' => Option.some.inj (h.symm.trans hs') ▸ hrest,
          fun hall => hall next h⟩)

variable {step} {s s' : S} {a : A} {actions : List A} {C : S → A → Prop}

theorem exec_cons :
    exec step s (a :: actions) = some s' ↔ ∃ mid, step s a = some mid ∧ exec step mid actions = some s' :=
  Option.bind_eq_some_iff

theorem exec_append {first second : List A} :
    exec step s (first ++ second) = (exec step s first).bind fun mid => exec step mid second := by
  induction first generalizing s with
  | nil => rfl
  | cons a first ih =>
    rw [List.cons_append, exec, exec, Option.bind_assoc]
    congr 1
    funext mid
    exact ih

theorem exec_preserves {P : S → Prop} (hstep : ∀ s a s', P s → C s a → step s a = some s' → P s') (hs : P s)
    (hmeets : Meets step C s actions) (hexec : exec step s actions = some s') : P s' := by
  induction actions generalizing s with
  | nil =>
    cases hexec
    exact hs
  | cons a actions ih =>
    obtain ⟨mid, hmid, hrest⟩ := exec_cons.mp hexec
    exact ih (hstep s a mid hs hmeets.1 hmid) (hmeets.2 mid hmid) hrest

theorem Meets.of_forall (hC : ∀ s a, C s a) (s : S) (actions : List A) :
    Meets step C s actions := by
  induction actions generalizing s with
  | nil => trivial
  | cons a actions ih => exact ⟨hC s a, fun s' _ => ih s'⟩

theorem Meets.of_mem {C : A → Prop} (hC : ∀ a ∈ actions, C a) (s : S) : Meets step (fun _ a => C a) s actions := by
  induction actions generalizing s with
  | nil => trivial
  | cons a actions ih =>
    exact ⟨hC a List.mem_cons_self, fun s' _ => ih (fun b hb => hC b (List.mem_cons_of_mem a hb)) s'⟩

theorem exec_invariant {P : S → Prop} (hstep : ∀ s a s', P s → step s a = some s' → P s') (hs : P s)
    (hexec : exec step s actions = some s') : P s' :=
  exec_preserves (fun s a s' hP _ => hstep s a s' hP) hs
    (Meets.of_forall (C := fun _ _ => True) (fun _ _ => trivial) s actions) hexec

end machine
