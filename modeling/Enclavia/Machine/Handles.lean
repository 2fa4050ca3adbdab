import Mathlib.Order.Compare
import Std.Data.ExtTreeMap

namespace machine

variable {H N V : Type} [Ord H] [Std.TransOrd H]

/-- Handles in use: at any time a handle has at most one user, and a user one handle. -/
structure Leases (User : H → N → Prop) : Prop where
  user_unique : ∀ {h n m}, User h n → User h m → n = m
  handle_unique : ∀ {h k n}, User h n → User k n → h = k

def Holds (table : Std.ExtTreeMap H V) (User : H → N → Prop) (Entry : N → V → Prop) : Prop :=
  ∀ h v, table[h]? = some v ↔ ∃ n, User h n ∧ Entry n v

namespace Holds

variable {table : Std.ExtTreeMap H V} {User User' : H → N → Prop} {Entry Entry' : N → V → Prop} {h : H} {n : N}
  {v : V}

theorem get (hholds : Holds table User Entry) (huser : User h n) (hentry : Entry n v) : table[h]? = some v :=
  (hholds h v).mpr ⟨n, huser, hentry⟩

theorem entry (hholds : Holds table User Entry) (hleases : Leases User) (huser : User h n) (hget : table[h]? = some v) :
    Entry n v := by
  obtain ⟨m, hm, hentry⟩ := (hholds h v).mp hget
  cases hleases.user_unique huser hm
  exact hentry

theorem not_entry (hholds : Holds table User Entry) (huser : User h n) (hget : table[h]? = none) : ¬Entry n v := by
  intro hentry
  rw [hholds.get huser hentry] at hget
  cases hget

theorem congr (hholds : Holds table User Entry) (hentry : ∀ h n v, User h n → (Entry n v ↔ Entry' n v)) :
    Holds table User Entry' := by
  intro h v
  rw [hholds h v]
  exact exists_congr fun n => and_congr_right fun huser => hentry h n v huser

theorem users (hholds : Holds table User Entry) (huser : ∀ h n v, Entry n v → (User h n ↔ User' h n)) :
    Holds table User' Entry := by
  intro h v
  rw [hholds h v]
  refine exists_congr fun n => ?_
  constructor
  · rintro ⟨hn, hentry⟩
    exact ⟨(huser h n v hentry).mp hn, hentry⟩
  · rintro ⟨hn, hentry⟩
    exact ⟨(huser h n v hentry).mpr hn, hentry⟩

variable [Std.LawfulEqOrd H]

theorem insert (hholds : Holds table User Entry) (hleases : Leases User) (huser : User h n)
    (hentry : ∀ w, Entry' n w ↔ w = v) (hothers : ∀ k m w, User k m → k ≠ h → (Entry' m w ↔ Entry m w)) :
    Holds (table.insert h v) User Entry' := by
  intro k w
  rw [Std.ExtTreeMap.getElem?_insert]
  split
  · next hkey =>
    cases Std.LawfulEqOrd.eq_of_compare hkey
    rw [Option.some.injEq]
    constructor
    · rintro rfl
      exact ⟨n, huser, (hentry v).mpr rfl⟩
    · rintro ⟨m, hm, hw⟩
      cases hleases.user_unique huser hm
      exact ((hentry w).mp hw).symm
  · next hkey =>
    rw [hholds k w]
    refine exists_congr fun m => and_congr_right fun hm => (hothers k m w hm ?_).symm
    rintro rfl
    exact hkey Std.ReflCmp.compare_self

theorem erase (hholds : Holds table User Entry) (hentry : ∀ n w, User h n → ¬Entry' n w)
    (hothers : ∀ k m w, User k m → k ≠ h → (Entry' m w ↔ Entry m w)) : Holds (table.erase h) User Entry' := by
  intro k w
  rw [Std.ExtTreeMap.getElem?_erase]
  split
  · next hkey =>
    cases Std.LawfulEqOrd.eq_of_compare hkey
    refine iff_of_false nofun ?_
    rintro ⟨m, hm, hw⟩
    exact hentry m w hm hw
  · next hkey =>
    rw [hholds k w]
    refine exists_congr fun m => and_congr_right fun hm => (hothers k m w hm ?_).symm
    rintro rfl
    exact hkey Std.ReflCmp.compare_self

end Holds

end machine
