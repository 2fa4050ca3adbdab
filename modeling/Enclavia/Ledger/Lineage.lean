import Mathlib.Data.List.Nodup

namespace ledger

variable {K C : Type*}

@[ext]
structure Lineage (K C : Type*) where
  owner : K
  items : List C

abbrev Ledger (K C : Type*) := List (Lineage K C)

namespace Ledger

def owners (l : Ledger K C) : List K := l.map Lineage.owner

def create (l : Ledger K C) (key : K) (item : C) : Ledger K C := l ++ [⟨key, [item]⟩]

def append [DecidableEq K] (l : Ledger K C) (key : K) (item : C) : Ledger K C :=
  l.map fun x => if x.owner = key then ⟨x.owner, x.items ++ [item]⟩ else x

def hand_over [DecidableEq K] (l : Ledger K C) (old new : K) : Ledger K C :=
  l.map fun x => if x.owner = old then ⟨new, x.items⟩ else x

/-- Every lineage of the first ledger is still there, at its own position, with its items as a prefix. -/
def Extends (l l' : Ledger K C) : Prop :=
  ∀ (i : Nat) (x : Lineage K C), l[i]? = some x →
    ∃ y : Lineage K C, l'[i]? = some y ∧ x.items <+: y.items

def SameOf (key : K) (l l' : Ledger K C) : Prop :=
  ∀ (i : Nat) (items : List C), l[i]? = some ⟨key, items⟩ ↔ l'[i]? = some ⟨key, items⟩

@[simp] theorem owners_create (l : Ledger K C) (key : K) (item : C) :
    (l.create key item).owners = l.owners ++ [key] := by
  simp only [owners, create, List.map_append, List.map_cons, List.map_nil]

theorem Extends.refl (l : Ledger K C) : l.Extends l := fun _ x hx => ⟨x, hx, List.prefix_rfl⟩

theorem Extends.trans {l l' l'' : Ledger K C} (h : l.Extends l') (h' : l'.Extends l'') :
    l.Extends l'' := by
  intro i x hx
  obtain ⟨y, hy, hxy⟩ := h i x hx
  obtain ⟨z, hz, hyz⟩ := h' i y hy
  exact ⟨z, hz, hxy.trans hyz⟩

theorem extends_create (l : Ledger K C) (key : K) (item : C) : l.Extends (l.create key item) := by
  intro i x hx
  have hi : i < l.length := (List.getElem?_eq_some_iff.mp hx).1
  refine ⟨x, ?_, List.prefix_rfl⟩
  rw [create, List.getElem?_append_left hi, hx]

theorem SameOf.refl (key : K) (l : Ledger K C) : SameOf key l l := fun _ _ => Iff.rfl

theorem sameOf_create {key other : K} (hne : other ≠ key) (l : Ledger K C) (item : C) :
    SameOf other l (l.create key item) := by
  intro i items
  by_cases hi : i < l.length
  · rw [create, List.getElem?_append_left hi]
  · have hnone : l[i]? = none := List.getElem?_eq_none (Nat.le_of_not_lt hi)
    rw [create, List.getElem?_append_right (Nat.le_of_not_lt hi), hnone]
    constructor
    · intro h
      cases h
    · intro h
      obtain ⟨_, hlast⟩ := List.getElem?_eq_some_iff.mp h
      simp only [List.getElem_singleton, Lineage.mk.injEq] at hlast
      exact absurd hlast.1.symm hne

variable [DecidableEq K]

@[simp] theorem owners_append (l : Ledger K C) (key : K) (item : C) :
    (l.append key item).owners = l.owners := by
  simp only [owners, append, List.map_map]
  apply List.map_congr_left
  intro x _
  simp only [Function.comp_apply]
  split <;> rfl

theorem owners_hand_over (l : Ledger K C) (old new : K) :
    (l.hand_over old new).owners = l.owners.map fun k => if k = old then new else k := by
  simp only [owners, hand_over, List.map_map]
  apply List.map_congr_left
  intro x _
  simp only [Function.comp_apply]
  split <;> rfl

theorem nodup_hand_over {l : Ledger K C} {old new : K} (hnodup : l.owners.Nodup)
    (hnew : new ∉ l.owners) : (l.hand_over old new).owners.Nodup := by
  rw [owners_hand_over]
  refine hnodup.map_on ?_
  intro a ha b hb hab
  have hane : a ≠ new := fun h => hnew (h ▸ ha)
  have hbne : b ≠ new := fun h => hnew (h ▸ hb)
  split at hab <;> split at hab <;> simp_all

theorem extends_append (l : Ledger K C) (key : K) (item : C) : l.Extends (l.append key item) := by
  intro i x hx
  rw [append, List.getElem?_map, hx]
  refine ⟨_, rfl, ?_⟩
  dsimp only
  split
  · exact List.prefix_append x.items [item]
  · exact List.prefix_rfl

theorem extends_hand_over (l : Ledger K C) (old new : K) : l.Extends (l.hand_over old new) := by
  intro i x hx
  rw [hand_over, List.getElem?_map, hx]
  refine ⟨_, rfl, ?_⟩
  dsimp only
  split <;> exact List.prefix_rfl

theorem sameOf_append {key other : K} (hne : other ≠ key) (l : Ledger K C) (item : C) :
    SameOf other l (l.append key item) := by
  intro i items
  rw [append, List.getElem?_map]
  cases hx : l[i]? with
  | none => simp
  | some x =>
    simp only [Option.map_some, Option.some.injEq]
    split
    · next howner => simp [Lineage.ext_iff, howner, hne.symm]
    · rfl

theorem sameOf_hand_over {old new other : K} (hold : other ≠ old) (hnew : other ≠ new)
    (l : Ledger K C) : SameOf other l (l.hand_over old new) := by
  intro i items
  rw [hand_over, List.getElem?_map]
  cases hx : l[i]? with
  | none => simp
  | some x =>
    simp only [Option.map_some, Option.some.injEq]
    split
    · next howner => simp [Lineage.ext_iff, howner, hold.symm, hnew.symm]
    · rfl

end Ledger

end ledger
