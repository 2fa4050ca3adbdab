import Mathlib.Data.List.Nodup
import Mathlib.Data.List.Perm.Subperm
import Enclavia.Synchronizer.Raft.Membership

namespace enclavia.synchronizer.raft

theorem forM_ok {ε α : Type} {l : List α} {f : α → Except ε Unit} :
    l.forM f = .ok () ↔ ∀ x ∈ l, f x = .ok () := by
  induction l with
  | nil => simp [pure, Except.pure]
  | cons x l ih =>
    change (f x >>= fun _ => l.forM f) = .ok () ↔ _
    rw [List.forall_mem_cons, ← ih]
    cases f x <;> simp [bind, Except.bind]

theorem forM_error {ε α : Type} {l : List α} {f : α → Except ε Unit} {e : ε} (h : l.forM f = .error e) :
    ∃ x ∈ l, f x = .error e := by
  induction l with
  | nil => cases h
  | cons x l ih =>
    change (f x >>= fun _ => l.forM f) = .error e at h
    cases hx : f x with
    | error e' =>
      rw [hx] at h
      cases h
      exact ⟨x, List.mem_cons_self, hx⟩
    | ok value =>
      rw [hx] at h
      obtain ⟨y, hy, herror⟩ := ih h
      exact ⟨y, List.mem_cons_of_mem x hy, herror⟩

theorem seq_ok {ε β : Type} {x : Except ε Unit} {f : Unit → Except ε β} {b : β} :
    (x >>= f) = .ok b ↔ x = .ok () ∧ f () = .ok b := by
  cases x <;> simp [bind, Except.bind]

theorem countP_le_one_iff {α : Type} {l : List α} (hl : l.Nodup) (p : α → Bool) :
    l.countP p ≤ 1 ↔ ∀ a ∈ l, ∀ b ∈ l, p a → p b → a = b := by
  induction l with
  | nil => simp
  | cons x l ih =>
    obtain ⟨hx, hl⟩ := List.nodup_cons.mp hl
    rw [List.countP_cons]
    by_cases hp : p x
    · rw [if_pos hp]
      have hzero : l.countP p + 1 ≤ 1 ↔ ∀ a ∈ l, ¬p a := by
        rw [← List.countP_eq_zero]
        omega
      rw [hzero]
      constructor
      · intro hnone a ha b hb hpa hpb
        rcases List.mem_cons.mp ha with rfl | ha
        · rcases List.mem_cons.mp hb with rfl | hb
          · rfl
          · exact absurd hpb (hnone b hb)
        · exact absurd hpa (hnone a ha)
      · intro hall a ha hpa
        have heq := hall a (List.mem_cons_of_mem x ha) x List.mem_cons_self hpa hp
        exact hx (heq ▸ ha)
    · rw [if_neg hp, Nat.add_zero, ih hl]
      constructor
      · intro hall a ha b hb hpa hpb
        rcases List.mem_cons.mp ha with rfl | ha
        · exact absurd hpa hp
        · rcases List.mem_cons.mp hb with rfl | hb
          · exact absurd hpb hp
          · exact hall a ha b hb hpa hpb
      · intro hall a ha b hb
        exact hall a (List.mem_cons_of_mem x ha) b (List.mem_cons_of_mem x hb)

theorem nodup_toList (voters : Voters) : voters.toList.Nodup := by
  have hkeys : (voters.toList.map Prod.fst).Nodup := by
    rw [Std.ExtTreeMap.map_fst_toList_eq_keys]
    exact Std.ExtTreeMap.nodup_keys
  exact hkeys.of_map

theorem values_eq_map_toList (voters : Voters) : voters.values = voters.toList.map Prod.snd := by
  obtain ⟨inner⟩ := voters
  induction inner using Std.ExtDTreeMap.inductionOn with
  | mk map =>
    change map.inner.values = (Std.DTreeMap.Internal.Impl.Const.toList map.inner).map Prod.snd
    rw [Std.DTreeMap.Internal.Impl.values_eq_map_snd, Std.DTreeMap.Internal.Impl.Const.toList_eq_toListModel_map,
      List.map_map]
    rfl

theorem size_le_of_injOn {α β : Type} [Ord α] [Ord β] [Std.TransOrd α] [Std.LawfulEqOrd α] [Std.TransOrd β]
    [Std.LawfulEqOrd β] {s : Std.ExtTreeSet α} {t : Std.ExtTreeSet β} (f : α → β) (hf : ∀ a ∈ s, f a ∈ t)
    (hinj : ∀ a ∈ s, ∀ b ∈ s, f a = f b → a = b) : s.size ≤ t.size := by
  have hnodup : s.toList.Nodup := by
    refine Std.ExtTreeSet.distinct_toList.imp ?_
    rintro a b hne rfl
    exact hne Std.ReflCmp.compare_self
  rw [← Std.ExtTreeSet.length_toList, ← Std.ExtTreeSet.length_toList, ← List.length_map (f := f)]
  refine List.Subperm.length_le (List.Nodup.subperm ?_ ?_)
  · refine List.Nodup.map_on ?_ hnodup
    intro a ha b hb
    exact hinj a (Std.ExtTreeSet.mem_toList.mp ha) b (Std.ExtTreeSet.mem_toList.mp hb)
  · intro b hb
    obtain ⟨a, ha, rfl⟩ := List.mem_map.mp hb
    exact Std.ExtTreeSet.mem_toList.mpr (hf a (Std.ExtTreeSet.mem_toList.mp ha))

/-- A set of voters that fills slots as it should: configured names, no two voters in one slot, and
ids derived from the recorded keys. -/
structure Sound (configured_names : Std.ExtTreeSet String) (voters : Voters) : Prop where
  configured : ∀ (id : RaftNodeId) (member : MemberRecord), voters[id]? = some member → member.name ∈ configured_names
  one_holder : ∀ (id id' : RaftNodeId) (member member' : MemberRecord), voters[id]? = some member →
    voters[id']? = some member' → member.name = member'.name → id = id'
  derived : ∀ (id : RaftNodeId) (member : MemberRecord), voters[id]? = some member →
    id = instance_node_id member.pubkey

variable {configured_names : Std.ExtTreeSet String} {voters : Voters}
  {error : AdmissionError} {name : String} {pubkey : ControlPubkey} {plan : AdmissionPlan}

theorem holders_le_one_iff (voters : Voters) (name : String) :
    voters.values.countP (fun member => member.name == name) ≤ 1 ↔
      ∀ (id id' : RaftNodeId) (member member' : MemberRecord), voters[id]? = some member →
        voters[id']? = some member' → member.name = name → member'.name = name → id = id' := by
  rw [values_eq_map_toList, List.countP_map, countP_le_one_iff (nodup_toList voters)]
  constructor
  · intro hall id id' member member' hmember hmember' hname hname'
    have heq := hall (id, member) (Std.ExtTreeMap.mem_toList_iff_getElem?_eq_some.mpr hmember) (id', member')
      (Std.ExtTreeMap.mem_toList_iff_getElem?_eq_some.mpr hmember') (beq_iff_eq.mpr hname) (beq_iff_eq.mpr hname')
    exact congrArg Prod.fst heq
  · rintro hall ⟨id, member⟩ ha ⟨id', member'⟩ hb hpa hpb
    rw [Std.ExtTreeMap.mem_toList_iff_getElem?_eq_some] at ha hb
    have hid := hall id id' member member' ha hb (beq_iff_eq.mp hpa) (beq_iff_eq.mp hpb)
    subst hid
    rw [ha, Option.some.injEq] at hb
    rw [hb]

theorem check_membership_ok : check_membership configured_names voters = .ok () ↔ Sound configured_names voters := by
  have hmem : ∀ member, member ∈ voters.values ↔ ∃ id : RaftNodeId, voters[id]? = some member := by
    intro member
    simp only [values_eq_map_toList, List.mem_map, Prod.exists, exists_eq_right,
      Std.ExtTreeMap.mem_toList_iff_getElem?_eq_some]
  have hchecks : check_membership configured_names voters = .ok () ↔
      (∀ member ∈ voters.values, member.name ∈ configured_names) ∧
      (∀ name ∈ configured_names, voters.values.countP (fun member => member.name == name) ≤ 1) ∧
      ∀ entry ∈ voters.toList, entry.1 = instance_node_id entry.2.pubkey := by
    unfold check_membership
    rw [seq_ok, seq_ok, forM_ok, forM_ok, forM_ok]
    simp [Std.ExtTreeSet.mem_toList]
  rw [hchecks]
  constructor
  · rintro ⟨hconfigured, hholders, hderived⟩
    refine ⟨?_, ?_, ?_⟩
    · intro id member hmember
      exact hconfigured member ((hmem member).mpr ⟨id, hmember⟩)
    · intro id id' member member' hmember hmember' hname
      have hslot := hconfigured member ((hmem member).mpr ⟨id, hmember⟩)
      exact (holders_le_one_iff voters member.name).mp (hholders member.name hslot) id id' member member' hmember
        hmember' rfl hname.symm
    · intro id member hmember
      exact hderived (id, member) (Std.ExtTreeMap.mem_toList_iff_getElem?_eq_some.mpr hmember)
  · intro hsound
    refine ⟨?_, ?_, ?_⟩
    · intro member hmember
      obtain ⟨id, hid⟩ := (hmem member).mp hmember
      exact hsound.configured id member hid
    · intro name hname
      rw [holders_le_one_iff]
      intro id id' member member' hmember hmember' heq heq'
      exact hsound.one_holder id id' member member' hmember hmember' (heq.trans heq'.symm)
    · rintro ⟨id, member⟩ hentry
      exact hsound.derived id member (Std.ExtTreeMap.mem_toList_iff_getElem?_eq_some.mp hentry)

theorem check_membership_error
    (hconfigured : ∀ (id : RaftNodeId) (member : MemberRecord), voters[id]? = some member →
      member.name ∈ configured_names)
    (hderived : ∀ (id : RaftNodeId) (member : MemberRecord), voters[id]? = some member →
      id = instance_node_id member.pubkey)
    (h : check_membership configured_names voters = .error error) :
    ∃ holders name, error = .CorruptMembership holders name := by
  unfold check_membership at h
  have hnames : voters.values.forM (fun member => if !configured_names.contains member.name then
      Except.error (AdmissionError.UnconfiguredVoter member.name) else .ok ()) = .ok () := by
    rw [forM_ok]
    intro member hmember
    rw [values_eq_map_toList, List.mem_map] at hmember
    obtain ⟨⟨id, _⟩, hentry, rfl⟩ := hmember
    have hname := hconfigured id _ (Std.ExtTreeMap.mem_toList_iff_getElem?_eq_some.mp hentry)
    simp [hname]
  rw [hnames] at h
  cases hholders : configured_names.toList.forM (fun name =>
      let holders := voters.values.countP fun member => member.name == name
      if holders > 1 then Except.error (AdmissionError.CorruptMembership holders name) else .ok ()) with
  | error error' =>
    simp only [hholders, bind, Except.bind] at h
    cases h
    obtain ⟨name, -, hname⟩ := forM_error hholders
    dsimp only at hname
    split at hname
    · cases hname
      exact ⟨_, _, rfl⟩
    · cases hname
  | ok value =>
    simp only [hholders, bind, Except.bind] at h
    obtain ⟨⟨id, member⟩, hentry, hmismatch⟩ := forM_error h
    have hid := hderived id member (Std.ExtTreeMap.mem_toList_iff_getElem?_eq_some.mp hentry)
    simp [← hid] at hmismatch

def slot_holder (voters : Voters) (name : String) : Option RaftNodeId :=
  (voters.toList.find? fun (_, member) => member.name == name).map Prod.fst

def planned_voter_ids (voters : Voters) (name : String) (added_id : RaftNodeId) : Std.ExtTreeSet RaftNodeId :=
  let current : Std.ExtTreeSet RaftNodeId := .ofList voters.keys
  let kept := match slot_holder voters name with
    | some evicted => current.erase evicted
    | none => current
  kept.insert added_id

theorem slot_holder_eq_some (hsound : Sound configured_names voters) {id : RaftNodeId} :
    slot_holder voters name = some id ↔
      ∃ member : MemberRecord, voters[id]? = some member ∧ member.name = name := by
  constructor
  · intro h
    obtain ⟨⟨id', member⟩, hfind, rfl⟩ := Option.map_eq_some_iff.mp h
    refine ⟨member, Std.ExtTreeMap.mem_toList_iff_getElem?_eq_some.mp (List.mem_of_find?_eq_some hfind), ?_⟩
    simpa using List.find?_some hfind
  · rintro ⟨member, hmember, hname⟩
    rw [slot_holder]
    cases hfind : voters.toList.find? fun (_, member) => member.name == name with
    | none =>
      have hnone := List.find?_eq_none.mp hfind (id, member)
        (Std.ExtTreeMap.mem_toList_iff_getElem?_eq_some.mpr hmember)
      simp [hname] at hnone
    | some entry =>
      obtain ⟨id', member'⟩ := entry
      have hmember' := Std.ExtTreeMap.mem_toList_iff_getElem?_eq_some.mp (List.mem_of_find?_eq_some hfind)
      have hname' : member'.name = name := by simpa using List.find?_some hfind
      rw [Option.map_some, hsound.one_holder id' id member' member hmember' hmember (hname'.trans hname.symm)]

theorem mem_planned_voter_ids (hsound : Sound configured_names voters) (name : String) (added_id id : RaftNodeId) :
    id ∈ planned_voter_ids voters name added_id ↔
      id = added_id ∨ ∃ member : MemberRecord, voters[id]? = some member ∧ member.name ≠ name := by
  have hcurrent : id ∈ (Std.ExtTreeSet.ofList voters.keys) ↔ ∃ member, voters[id]? = some member := by
    rw [Std.ExtTreeSet.mem_ofList, List.contains_iff_mem, Std.ExtTreeMap.mem_keys,
      Std.ExtTreeMap.mem_iff_isSome_getElem?, Option.isSome_iff_exists]
  rw [planned_voter_ids, Std.ExtTreeSet.mem_insert, Std.LawfulEqCmp.compare_eq_iff_eq, eq_comm]
  refine or_congr_right ?_
  cases hholder : slot_holder voters name with
  | none =>
    rw [hcurrent]
    refine exists_congr fun member => ?_
    refine ⟨fun hmember => ⟨hmember, ?_⟩, And.left⟩
    intro hname
    rw [(slot_holder_eq_some hsound).mpr ⟨member, hmember, hname⟩] at hholder
    cases hholder
  | some evicted =>
    obtain ⟨holder, hholds, hname⟩ := (slot_holder_eq_some hsound).mp hholder
    rw [Std.ExtTreeSet.mem_erase, ne_eq, Std.LawfulEqCmp.compare_eq_iff_eq, hcurrent]
    constructor
    · rintro ⟨hne, member, hmember⟩
      refine ⟨member, hmember, ?_⟩
      intro heq
      exact hne (hsound.one_holder evicted id holder member hholds hmember (hname.trans heq.symm))
    · rintro ⟨member, hmember, hother⟩
      refine ⟨?_, member, hmember⟩
      rintro rfl
      rw [hmember, Option.some.injEq] at hholds
      exact hother (hholds ▸ hname)

theorem planned_voter_ids_size_le (hsound : Sound configured_names voters) (hname : name ∈ configured_names)
    {added_id : RaftNodeId} (hfresh : voters[added_id]? = none) :
    (planned_voter_ids voters name added_id).size ≤ configured_names.size := by
  -- An id stands for the slot its voter is in, and the added one for the candidate's.
  let slot (id : RaftNodeId) : String := (voters[id]?.map MemberRecord.name).getD name
  have hadded : slot added_id = name := by simp [slot, hfresh]
  have hother : ∀ id member, voters[id]? = some member → slot id = member.name := by
    intro id member hmember
    simp [slot, hmember]
  refine size_le_of_injOn slot ?_ ?_
  · intro id hid
    rcases (mem_planned_voter_ids hsound name added_id id).mp hid with rfl | ⟨member, hmember, -⟩
    · exact hadded ▸ hname
    · rw [hother id member hmember]
      exact hsound.configured id member hmember
  · intro id hid id' hid' heq
    rcases (mem_planned_voter_ids hsound name added_id id).mp hid with rfl | ⟨member, hmember, hne⟩
    · rcases (mem_planned_voter_ids hsound name _ id').mp hid' with rfl | ⟨member', hmember', hne'⟩
      · rfl
      · rw [hadded, hother id' member' hmember'] at heq
        exact absurd heq.symm hne'
    · rcases (mem_planned_voter_ids hsound name _ id').mp hid' with rfl | ⟨member', hmember', hne'⟩
      · rw [hadded, hother id member hmember] at heq
        exact absurd heq hne
      · rw [hother id member hmember, hother id' member' hmember'] at heq
        exact hsound.one_holder id id' member member' hmember hmember' heq

theorem plan_admission_fresh (hsound : Sound configured_names voters) (hname : name ∈ configured_names)
    (hfresh : voters[instance_node_id pubkey]? = none) :
    plan_admission configured_names voters name pubkey = .ok
      { added_id := instance_node_id pubkey, added := ⟨name, pubkey⟩, evicted_id := slot_holder voters name,
        new_voter_ids := planned_voter_ids voters name (instance_node_id pubkey), already_member := false } := by
  have hholder : slot_holder voters name ≠ some (instance_node_id pubkey) := by
    intro heq
    obtain ⟨member, hmember, -⟩ := (slot_holder_eq_some hsound).mp heq
    rw [hfresh] at hmember
    cases hmember
  have hsize := planned_voter_ids_size_le hsound hname hfresh
  unfold plan_admission
  simp only [Std.ExtTreeSet.contains_iff_mem.mpr hname, Bool.not_true, Bool.false_eq_true, if_false,
    check_membership_ok.mpr hsound]
  refine (if_neg hholder).trans ?_
  rw [hfresh]
  exact if_neg (Nat.not_lt.mpr hsize)

theorem plan_admission_proposed (hplan : plan_admission configured_names voters name pubkey = .ok plan)
    (hnew : plan.already_member = false) :
    Sound configured_names voters ∧ name ∈ configured_names ∧ voters[instance_node_id pubkey]? = none := by
  have hcases := hplan
  unfold plan_admission at hcases
  split at hcases
  · cases hcases
  next hname =>
  split at hcases
  · cases hcases
  next hcheck =>
  dsimp only at hcases
  split at hcases
  · cases hcases
    cases hnew
  split at hcases
  · cases hcases
  next hfresh => exact ⟨check_membership_ok.mp hcheck, by simpa using hname, hfresh⟩

theorem plan_admission_holder {member : MemberRecord} (hholds : voters[instance_node_id pubkey]? = some member)
    (hplan : plan_admission configured_names voters name pubkey = .ok plan) : plan.already_member = true := by
  by_contra hnew
  obtain ⟨-, -, hfresh⟩ := plan_admission_proposed hplan (by simpa using hnew)
  rw [hholds] at hfresh
  cases hfresh

theorem plan_admission_ok_of_holder (hsound : Sound configured_names voters) {candidate : MemberRecord}
    (hholds : voters[instance_node_id candidate.pubkey]? = some candidate) :
    ∃ plan, plan_admission configured_names voters candidate.name candidate.pubkey = .ok plan := by
  have hholder := (slot_holder_eq_some hsound).mpr ⟨candidate, hholds, rfl⟩
  have hname := hsound.configured _ candidate hholds
  unfold plan_admission
  simp only [Std.ExtTreeSet.contains_iff_mem.mpr hname, Bool.not_true, Bool.false_eq_true, if_false,
    check_membership_ok.mpr hsound]
  exact ⟨_, if_pos hholder⟩

theorem plan_admission_of_check (hname : name ∈ configured_names)
    (hcheck : check_membership configured_names voters = .error error) (pubkey : ControlPubkey) :
    plan_admission configured_names voters name pubkey = .error error := by
  unfold plan_admission
  simp only [Std.ExtTreeSet.contains_iff_mem.mpr hname, Bool.not_true, Bool.false_eq_true, if_false, hcheck]

end enclavia.synchronizer.raft
