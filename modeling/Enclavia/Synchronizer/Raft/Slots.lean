import Enclavia.Synchronizer.Raft.Admission

open interaction

namespace enclavia.synchronizer.raft

namespace Membership

def voters (membership : Membership) : Voters := membership.nodes.filter fun id _ => membership.is_voter id

def replace (membership : Membership) (configs : List (Std.ExtTreeSet RaftNodeId)) : Membership where
  configs
  nodes := membership.nodes.filter fun id _ => !membership.is_voter id || configs.any (·.contains id)

def add_learner (membership : Membership) (id : RaftNodeId) (record : MemberRecord) : Membership :=
  { membership with nodes := membership.nodes.insertIfNew id record }

def change (membership : Membership) (ids : Std.ExtTreeSet RaftNodeId) : Option Membership :=
  if ids.toList.all membership.nodes.contains then
    if ids ∈ membership.configs then some (membership.replace [ids])
    else some (membership.replace (membership.configs.getLast?.toList ++ [ids]))
  else none

end Membership

/-- The membership of a cluster and the executions of `admit` on any of its leaders. -/
structure Admissions where
  membership : Membership
  executions : List AdmitProc

inductive Admissions.Action where
  | start (candidate : MemberRecord)
  | is_leader (k : Nat) (answer : Bool)
  | leader_name (k : Nat) (answer : Option String)
  | read (k : Nat)
  | learn (k : Nat)
  | learner_answer (k : Nat) (answer : Except AddLearnerError Unit)
  | change (k : Nat)
  | change_answer (k : Nat) (answer : Except String Unit)

variable {s : Admissions}

namespace Admissions

def founded (members : Voters) : Admissions := ⟨⟨[.ofList members.keys], members⟩, []⟩

def set (s : Admissions) (k : Nat) (program : AdmitProc) : Admissions :=
  { s with executions := s.executions.set k program }

def step (configured_names : Std.ExtTreeSet String) (s : Admissions) : Action → Option Admissions
  | .start candidate =>
    some { s with executions := s.executions ++ [RaftHandle.admit_steps configured_names candidate] }
  | .is_leader k answer =>
    match s.executions[k]? with
    | some (.act .is_leader next) => some (s.set k (next answer))
    | _ => none
  | .leader_name k answer =>
    match s.executions[k]? with
    | some (.act .leader_name next) => some (s.set k (next answer))
    | _ => none
  | .read k =>
    match s.executions[k]? with
    | some (.act .committed_voters next) => some (s.set k (next s.membership.voters))
    | _ => none
  | .learn k =>
    match s.executions[k]? with
    | some (.act (.add_learner id record) _) => some { s with membership := s.membership.add_learner id record }
    | _ => none
  | .learner_answer k answer =>
    match s.executions[k]? with
    | some (.act (.add_learner _ _) next) => some (s.set k (next answer))
    | _ => none
  | .change k =>
    match s.executions[k]? with
    | some (.act (.change_membership ids) _) =>
      (s.membership.change ids).map fun membership => { s with membership }
    | _ => none
  | .change_answer k answer =>
    match s.executions[k]? with
    | some (.act (.change_membership _) next) => some (s.set k (next answer))
    | _ => none

def Answers (membership : Membership) : (effect : AdmitEffect) → AdmitAnswer effect → Prop
  | .committed_voters, voters => voters = membership.voters
  | _, _ => True

theorem step_cases {configured_names : Std.ExtTreeSet String} {s' : Admissions} {action : Action}
    (h : step configured_names s action = some s') :
    (∃ candidate, action = .start candidate ∧
      s' = { s with executions := s.executions ++ [RaftHandle.admit_steps configured_names candidate] }) ∨
    (∃ (k : Nat) (effect : AdmitEffect) (next : AdmitAnswer effect → AdmitProc) (answer : AdmitAnswer effect),
      s.executions[k]? = some (.act effect next) ∧ Answers s.membership effect answer ∧
      s' = s.set k (next answer)) ∨
    (∃ (k : Nat) (id : RaftNodeId) (record : MemberRecord) (next : Except AddLearnerError Unit → AdmitProc),
      s.executions[k]? = some (.act (.add_learner id record) next) ∧
      s' = { s with membership := s.membership.add_learner id record }) ∨
    ∃ (k : Nat) (ids : Std.ExtTreeSet RaftNodeId) (next : Except String Unit → AdmitProc) (membership : Membership),
      s.executions[k]? = some (.act (.change_membership ids) next) ∧
      s.membership.change ids = some membership ∧ s' = { s with membership } := by
  cases action with
  | start candidate =>
    cases h
    exact .inl ⟨candidate, rfl, rfl⟩
  | is_leader k answer | leader_name k answer =>
    simp only [step] at h
    split at h
    · next next hk =>
      cases h
      exact .inr (.inl ⟨k, _, next, answer, hk, trivial, rfl⟩)
    · cases h
  | read k =>
    simp only [step] at h
    split at h
    · next next hk =>
      cases h
      exact .inr (.inl ⟨k, _, next, _, hk, rfl, rfl⟩)
    · cases h
  | learn k =>
    simp only [step] at h
    split at h
    · next id record next hk =>
      cases h
      exact .inr (.inr (.inl ⟨k, id, record, next, hk, rfl⟩))
    · cases h
  | learner_answer k answer =>
    simp only [step] at h
    split at h
    · next id record next hk =>
      cases h
      exact .inr (.inl ⟨k, _, next, answer, hk, trivial, rfl⟩)
    · cases h
  | change k =>
    simp only [step] at h
    split at h
    · next ids next hk =>
      obtain ⟨membership, hchange, rfl⟩ := Option.map_eq_some_iff.mp h
      exact .inr (.inr (.inr ⟨k, ids, next, membership, hk, hchange, rfl⟩))
    · cases h
  | change_answer k answer =>
    simp only [step] at h
    split at h
    · next ids next hk =>
      cases h
      exact .inr (.inl ⟨k, _, next, answer, hk, trivial, rfl⟩)
    · cases h

def Presented (members : Voters) (actions : List Action) (record : MemberRecord) : Prop :=
  (∃ id : RaftNodeId, members[id]? = some record) ∨ .start record ∈ actions

end Admissions

variable {record : MemberRecord} {actions : List Admissions.Action}

section Slots

variable (presented : MemberRecord → Prop) (configured_names : Std.ExtTreeSet String)

/-- Each key is presented under one name, and no two of them derive the same node id. -/
def Distinct : Prop :=
  ∀ record record', presented record → presented record' →
    instance_node_id record.pubkey = instance_node_id record'.pubkey → record = record'

def Records (members : Voters) : Prop :=
  ∀ (id : RaftNodeId) (record : MemberRecord), members[id]? = some record →
    presented record ∧ id = instance_node_id record.pubkey

structure Fills (ids : Std.ExtTreeSet RaftNodeId) : Prop where
  known : ∀ id ∈ ids, ∃ record, presented record ∧ id = instance_node_id record.pubkey ∧
    record.name ∈ configured_names
  one_holder : ∀ record record', presented record → presented record' →
    instance_node_id record.pubkey ∈ ids → instance_node_id record'.pubkey ∈ ids →
    record.name = record'.name → record = record'

def Relies : (effect : AdmitEffect) → AdmitAnswer effect → Prop
  | .committed_voters, voters => Records presented voters
  | _, _ => True

def Guarantees : AdmitEffect → Prop
  | .add_learner id record => presented record ∧ id = instance_node_id record.pubkey
  | .change_membership ids => Fills presented configured_names ids
  | _ => True

variable {presented configured_names} {candidate : MemberRecord}

theorem fills_planned_voter_ids {voters : Voters} (hrecords : Records presented voters)
    (hdistinct : Distinct presented) (hsound : Sound configured_names voters) (hcandidate : presented candidate)
    (hname : candidate.name ∈ configured_names) :
    Fills presented configured_names
      (planned_voter_ids voters candidate.name (instance_node_id candidate.pubkey)) := by
  -- A presented instance among the planned ones is the candidate, or a voter with its own record.
  have hcases : ∀ record, presented record → instance_node_id record.pubkey ∈
      planned_voter_ids voters candidate.name (instance_node_id candidate.pubkey) →
      record = candidate ∨
        (voters[instance_node_id record.pubkey]? = some record ∧ record.name ≠ candidate.name) := by
    intro record hrecord hid
    rcases (mem_planned_voter_ids hsound _ _ _).mp hid with heq | ⟨member, hmember, hother⟩
    · exact .inl (hdistinct record candidate hrecord hcandidate heq)
    · obtain ⟨hpresented, hderived⟩ := hrecords _ member hmember
      rw [hdistinct record member hrecord hpresented hderived]
      exact .inr ⟨hderived ▸ hmember, hother⟩
  refine ⟨?_, ?_⟩
  · intro id hid
    rcases (mem_planned_voter_ids hsound _ _ _).mp hid with rfl | ⟨member, hmember, -⟩
    · exact ⟨candidate, hcandidate, rfl, hname⟩
    · obtain ⟨hpresented, hderived⟩ := hrecords id member hmember
      exact ⟨member, hpresented, hderived, hsound.configured id member hmember⟩
  · intro record record' hrecord hrecord' hid hid' hslot
    rcases hcases record hrecord hid with rfl | ⟨hvoter, hother⟩
    · rcases hcases record' hrecord' hid' with rfl | ⟨hvoter', hother'⟩
      · rfl
      · exact absurd hslot.symm hother'
    · rcases hcases record' hrecord' hid' with rfl | ⟨hvoter', hother'⟩
      · exact absurd hslot hother
      · exact hdistinct record record' hrecord hrecord'
          (hsound.one_holder _ _ record record' hvoter hvoter' hslot)

theorem change_failed_obeys (message : String) :
    (RaftHandle.change_failed message).Obeys (Relies presented) (Guarantees presented configured_names) := by
  unfold RaftHandle.change_failed
  split
  · exact ⟨trivial, fun _ _ => trivial⟩
  · trivial

theorem admit_steps_obeys (hdistinct : Distinct presented) (hcandidate : presented candidate) :
    (RaftHandle.admit_steps configured_names candidate).Obeys (Relies presented)
      (Guarantees presented configured_names) := by
  refine ⟨trivial, ?_⟩
  intro leader _
  cases leader with
  | false => exact ⟨trivial, fun _ _ => trivial⟩
  | true =>
    refine ⟨trivial, ?_⟩
    intro voters hrecords
    unfold RaftHandle.admit_among
    cases hplan : plan_admission configured_names voters candidate.name candidate.pubkey with
    | error error => trivial
    | ok plan =>
      dsimp only
      unfold RaftHandle.execute_plan
      split
      · trivial
      next hmember =>
      obtain ⟨hsound, hname, hfresh⟩ := plan_admission_proposed hplan (by simpa using hmember)
      rw [plan_admission_fresh hsound hname hfresh, Except.ok.injEq] at hplan
      subst hplan
      refine ⟨⟨hcandidate, rfl⟩, ?_⟩
      intro answer _
      match answer with
      | .error (.Failed message) => exact change_failed_obeys message
      | .error .Elapsed => trivial
      | .ok () =>
        refine ⟨fills_planned_voter_ids hrecords hdistinct hsound hcandidate hname, ?_⟩
        intro answer _
        match answer with
        | .error message => exact change_failed_obeys message
        | .ok () => trivial

/-- The invariant of a membership: it records presented instances, and each of its sets of voters fills
slots with recorded ones. -/
structure WellFilled (presented : MemberRecord → Prop) (configured_names : Std.ExtTreeSet String)
    (membership : Membership) : Prop where
  records : Records presented membership.nodes
  fills : ∀ config ∈ membership.configs, Fills presented configured_names config
  recorded : ∀ config ∈ membership.configs, ∀ id ∈ config, id ∈ membership.nodes

variable {membership : Membership} {id : RaftNodeId} {members : Voters}

theorem WellFilled.add_learner (hfilled : WellFilled presented configured_names membership)
    (hrecord : presented record ∧ id = instance_node_id record.pubkey) :
    WellFilled presented configured_names (membership.add_learner id record) where
  records id' record' hnode := by
    simp only [Membership.add_learner, Std.ExtTreeMap.getElem?_insertIfNew,
      Std.LawfulEqCmp.compare_eq_iff_eq] at hnode
    split at hnode
    · next hnew =>
      cases hnode
      exact hnew.1 ▸ hrecord
    · exact hfilled.records id' record' hnode
  fills := hfilled.fills
  recorded config hconfig id' hid' := by
    simp only [Membership.add_learner, Std.ExtTreeMap.mem_insertIfNew]
    exact .inr (hfilled.recorded config hconfig id' hid')

theorem WellFilled.replace (hfilled : WellFilled presented configured_names membership)
    {configs : List (Std.ExtTreeSet RaftNodeId)}
    (hfills : ∀ config ∈ configs, Fills presented configured_names config)
    (hrecorded : ∀ config ∈ configs, ∀ id ∈ config, id ∈ membership.nodes) :
    WellFilled presented configured_names (membership.replace configs) where
  records id record hnode := by
    simp only [Membership.replace, Std.ExtTreeMap.getElem?_filter', Option.filter_eq_some_iff] at hnode
    exact hfilled.records id record hnode.1
  fills := hfills
  recorded config hconfig id hid := by
    simp only [Membership.replace, Std.ExtTreeMap.mem_filter]
    refine ⟨hrecorded config hconfig id hid, ?_⟩
    rw [Std.ExtTreeMap.getKey_eq]
    have hany : configs.any (·.contains id) = true :=
      List.any_eq_true.mpr ⟨config, hconfig, Std.ExtTreeSet.mem_iff_contains.mp hid⟩
    rw [hany, Bool.or_true]

theorem WellFilled.change (hfilled : WellFilled presented configured_names membership)
    {ids : Std.ExtTreeSet RaftNodeId} (hids : Fills presented configured_names ids) {after : Membership}
    (hchange : membership.change ids = some after) : WellFilled presented configured_names after := by
  unfold Membership.change at hchange
  split at hchange
  · next hknown =>
    have hrecorded : ∀ id ∈ ids, id ∈ membership.nodes := by
      intro id hid
      exact Std.ExtTreeMap.mem_iff_contains.mpr
        (List.all_eq_true.mp hknown id (Std.ExtTreeSet.mem_toList.mpr hid))
    split at hchange
    · cases hchange
      refine hfilled.replace ?_ ?_
      · rintro config hconfig
        exact List.mem_singleton.mp hconfig ▸ hids
      · rintro config hconfig
        exact List.mem_singleton.mp hconfig ▸ hrecorded
    · cases hchange
      have hlast : ∀ config ∈ membership.configs.getLast?.toList ++ [ids],
          config ∈ membership.configs ∨ config = ids := by
        intro config hconfig
        rcases List.mem_append.mp hconfig with hold | hnew
        · exact .inl (List.mem_of_getLast? (Option.mem_toList.mp hold))
        · exact .inr (List.mem_singleton.mp hnew)
      refine hfilled.replace ?_ ?_
      · intro config hconfig
        rcases hlast config hconfig with hold | rfl
        · exact hfilled.fills config hold
        · exact hids
      · intro config hconfig
        rcases hlast config hconfig with hold | rfl
        · exact hfilled.recorded config hold
        · exact hrecorded
  · cases hchange

theorem WellFilled.voters_records (hfilled : WellFilled presented configured_names membership) :
    Records presented membership.voters := by
  intro id record hvoter
  simp only [Membership.voters, Std.ExtTreeMap.getElem?_filter', Option.filter_eq_some_iff] at hvoter
  exact hfilled.records id record hvoter.1

/-- The invariant of a run: the membership is well filled, and every execution asks only for what keeps
it so. -/
structure Admissions.Inv (presented : MemberRecord → Prop) (configured_names : Std.ExtTreeSet String)
    (s : Admissions) : Prop where
  filled : WellFilled presented configured_names s.membership
  obeys : ∀ program ∈ s.executions, program.Obeys (Relies presented) (Guarantees presented configured_names)

theorem Admissions.Inv.founded (hsound : Sound configured_names members) (hmembers : Records presented members)
    (hdistinct : Distinct presented) :
    (Admissions.founded members).Inv presented configured_names where
  filled :=
    { records := hmembers
      fills := by
        intro config hconfig
        obtain rfl := List.mem_singleton.mp hconfig
        have hmem : ∀ id : RaftNodeId, id ∈ Std.ExtTreeSet.ofList members.keys ↔
            ∃ record, members[id]? = some record := by
          intro id
          rw [Std.ExtTreeSet.mem_ofList, List.contains_iff_mem, Std.ExtTreeMap.mem_keys,
            Std.ExtTreeMap.mem_iff_isSome_getElem?, Option.isSome_iff_exists]
        refine ⟨?_, ?_⟩
        · intro id hid
          obtain ⟨record, hrecord⟩ := (hmem id).mp hid
          obtain ⟨hpresented, hderived⟩ := hmembers id record hrecord
          exact ⟨record, hpresented, hderived, hsound.configured id record hrecord⟩
        · intro record record' hrecord hrecord' hid hid' hslot
          obtain ⟨member, hmember⟩ := (hmem _).mp hid
          obtain ⟨member', hmember'⟩ := (hmem _).mp hid'
          obtain ⟨hpresented, hderived⟩ := hmembers _ member hmember
          obtain ⟨hpresented', hderived'⟩ := hmembers _ member' hmember'
          obtain rfl := hdistinct record member hrecord hpresented hderived
          obtain rfl := hdistinct record' member' hrecord' hpresented' hderived'
          exact hdistinct record record' hrecord hrecord'
            (hsound.one_holder _ _ record record' hmember hmember' hslot)
      recorded := by
        intro config hconfig id hid
        obtain rfl := List.mem_singleton.mp hconfig
        rw [Std.ExtTreeSet.mem_ofList, List.contains_iff_mem, Std.ExtTreeMap.mem_keys] at hid
        exact hid }
  obeys _ h := by cases h

private theorem Admissions.Inv.set (hinv : s.Inv presented configured_names) (k : Nat) {program : AdmitProc}
    (hprogram : program.Obeys (Relies presented) (Guarantees presented configured_names)) :
    (s.set k program).Inv presented configured_names where
  filled := hinv.filled
  obeys other hother := by
    rcases List.mem_or_eq_of_mem_set hother with hold | rfl
    · exact hinv.obeys other hold
    · exact hprogram

theorem Admissions.Inv.step (hdistinct : Distinct presented) {s' : Admissions} {action : Admissions.Action}
    (hinv : s.Inv presented configured_names) (hstart : ∀ candidate, action = .start candidate → presented candidate)
    (hstep : s.step configured_names action = some s') : s'.Inv presented configured_names := by
  rcases Admissions.step_cases hstep with ⟨candidate, rfl, rfl⟩ | ⟨k, effect, next, answer, hk, hanswer, rfl⟩ |
    ⟨k, id, record, next, hk, rfl⟩ | ⟨k, ids, next, membership, hk, hchange, rfl⟩
  · refine ⟨hinv.filled, ?_⟩
    intro program hprogram
    rcases List.mem_append.mp hprogram with hold | hnew
    · exact hinv.obeys program hold
    · obtain rfl := List.mem_singleton.mp hnew
      exact admit_steps_obeys hdistinct (hstart candidate rfl)
  · obtain ⟨-, hnext⟩ := hinv.obeys _ (List.mem_of_getElem? hk)
    refine hinv.set k (hnext answer ?_)
    cases effect with
    | committed_voters =>
      have hvoters : answer = s.membership.voters := hanswer
      exact hvoters ▸ hinv.filled.voters_records
    | is_leader | leader_name | add_learner id record | change_membership ids => trivial
  · obtain ⟨hguarantee, -⟩ := hinv.obeys _ (List.mem_of_getElem? hk)
    exact ⟨hinv.filled.add_learner hguarantee, hinv.obeys⟩
  · obtain ⟨hguarantee, -⟩ := hinv.obeys _ (List.mem_of_getElem? hk)
    exact ⟨hinv.filled.change hguarantee hchange, hinv.obeys⟩

theorem Admissions.run_filled (hsound : Sound configured_names members)
    (hdistinct : Distinct (Admissions.Presented members actions))
    (hexec : machine.exec (Admissions.step configured_names) (.founded members) actions = some s) :
    WellFilled (Admissions.Presented members actions) configured_names s.membership := by
  have hmembers : Records (Admissions.Presented members actions) members := fun id record hrecord =>
    ⟨.inl ⟨id, hrecord⟩, hsound.derived id record hrecord⟩
  refine (machine.exec_preserves (C := fun _ action => ∀ candidate, action = .start candidate →
    Admissions.Presented members actions candidate) ?_ (Admissions.Inv.founded hsound hmembers hdistinct) ?_
      hexec).filled
  · intro s action s' hinv hstart hstep
    exact hinv.step hdistinct hstart hstep
  · refine machine.Meets.of_mem ?_ _
    rintro action haction candidate rfl
    exact .inr haction

namespace Membership

def Agrees (membership : Membership) : Prop :=
  ∀ (id id' : RaftNodeId) (record record' : MemberRecord), membership.is_voter id = true →
    membership.is_voter id' = true → membership.nodes[id]? = some record →
    membership.nodes[id']? = some record' → record.name = record'.name → id = id'

theorem is_voter_iff : membership.is_voter id = true ↔ ∃ config ∈ membership.configs, id ∈ config := by
  simp [is_voter, Std.ExtTreeSet.contains_iff_mem]

theorem getElem?_voters :
    membership.voters[id]? = some record ↔ membership.nodes[id]? = some record ∧ membership.is_voter id = true := by
  rw [voters, Std.ExtTreeMap.getElem?_filter', Option.filter_eq_some_iff]

end Membership

namespace WellFilled

theorem voters_configured (hfilled : WellFilled presented configured_names membership)
    (hdistinct : Distinct presented) (hvoter : membership.voters[id]? = some record) :
    record.name ∈ configured_names := by
  obtain ⟨hnode, hvotes⟩ := Membership.getElem?_voters.mp hvoter
  obtain ⟨config, hconfig, hid⟩ := Membership.is_voter_iff.mp hvotes
  obtain ⟨known, hknown, hderived, hname⟩ := (hfilled.fills config hconfig).known id hid
  obtain ⟨hpresented, hderived'⟩ := hfilled.records id record hnode
  rw [hdistinct record known hpresented hknown (hderived'.symm.trans hderived)]
  exact hname

theorem sound_iff (hfilled : WellFilled presented configured_names membership) (hdistinct : Distinct presented) :
    Sound configured_names membership.voters ↔ membership.Agrees := by
  constructor
  · intro hsound id id' record record' hvotes hvotes' hnode hnode' hslot
    exact hsound.one_holder id id' record record' (Membership.getElem?_voters.mpr ⟨hnode, hvotes⟩)
      (Membership.getElem?_voters.mpr ⟨hnode', hvotes'⟩) hslot
  · intro hagrees
    refine ⟨fun id record hvoter => hfilled.voters_configured hdistinct hvoter, ?_, ?_⟩
    · intro id id' record record' hvoter hvoter' hslot
      obtain ⟨hnode, hvotes⟩ := Membership.getElem?_voters.mp hvoter
      obtain ⟨hnode', hvotes'⟩ := Membership.getElem?_voters.mp hvoter'
      exact hagrees id id' record record' hvotes hvotes' hnode hnode' hslot
    · intro id record hvoter
      exact (hfilled.records id record (Membership.getElem?_voters.mp hvoter).1).2

variable {config : Std.ExtTreeSet RaftNodeId compare}

theorem one_holder (hfilled : WellFilled presented configured_names membership)
    (hconfig : config ∈ membership.configs) {id' : RaftNodeId} (hid : id ∈ config) (hid' : id' ∈ config)
    {record' : MemberRecord} (hnode : membership.nodes[id]? = some record)
    (hnode' : membership.nodes[id']? = some record') (hslot : record.name = record'.name) : id = id' := by
  obtain ⟨hpresented, hderived⟩ := hfilled.records id record hnode
  obtain ⟨hpresented', hderived'⟩ := hfilled.records id' record' hnode'
  have heq := (hfilled.fills config hconfig).one_holder record record' hpresented hpresented' (hderived ▸ hid)
    (hderived' ▸ hid') hslot
  rw [hderived, hderived', heq]

theorem agrees_of_uniform (hfilled : WellFilled presented configured_names membership)
    {config : Std.ExtTreeSet RaftNodeId} (huniform : membership.configs = [config]) : membership.Agrees := by
  intro id id' record record' hvotes hvotes' hnode hnode' hslot
  have hmem : ∀ id, membership.is_voter id = true → id ∈ config := by
    intro id hvotes
    obtain ⟨config', hconfig', hid⟩ := Membership.is_voter_iff.mp hvotes
    rw [huniform, List.mem_singleton] at hconfig'
    exact hconfig' ▸ hid
  exact hfilled.one_holder (huniform ▸ List.mem_singleton_self config) (hmem id hvotes) (hmem id' hvotes') hnode
    hnode' hslot

theorem size_le (hfilled : WellFilled presented configured_names membership) (hdistinct : Distinct presented)
    (hconfig : config ∈ membership.configs) :
    config.size ≤ configured_names.size := by
  let slot (id : RaftNodeId) : String := (membership.nodes[id]?.map MemberRecord.name).getD ""
  have hrecord : ∀ id ∈ config, ∃ record, membership.nodes[id]? = some record ∧ slot id = record.name := by
    intro id hid
    have hnode := hfilled.recorded config hconfig id hid
    rw [Std.ExtTreeMap.mem_iff_isSome_getElem?, Option.isSome_iff_exists] at hnode
    obtain ⟨record, hrecord⟩ := hnode
    exact ⟨record, hrecord, by simp [slot, hrecord]⟩
  refine size_le_of_injOn slot ?_ ?_
  · intro id hid
    obtain ⟨record, hnode, hslot⟩ := hrecord id hid
    have hvotes := Membership.is_voter_iff.mpr ⟨config, hconfig, hid⟩
    rw [hslot]
    exact hfilled.voters_configured hdistinct (Membership.getElem?_voters.mpr ⟨hnode, hvotes⟩)
  · intro id hid id' hid' heq
    obtain ⟨record, hnode, hslot⟩ := hrecord id hid
    obtain ⟨record', hnode', hslot'⟩ := hrecord id' hid'
    exact hfilled.one_holder hconfig hid hid' hnode hnode' (hslot.symm.trans (heq.trans hslot'))

end WellFilled

/-- One instance per slot, after any interleaving of admissions on plans however stale. -/
theorem one_instance_per_slot {members : Voters} {actions : List Admissions.Action} {s : Admissions}
    (hsound : Sound configured_names members) (hdistinct : Distinct (Admissions.Presented members actions))
    (hexec : machine.exec (Admissions.step configured_names) (.founded members) actions = some s) :
    (∀ config ∈ s.membership.configs, config.size ≤ configured_names.size ∧
      (∀ id ∈ config, ∃ record, s.membership.nodes[id]? = some record ∧ record.name ∈ configured_names ∧
        id = instance_node_id record.pubkey) ∧
      ∀ id ∈ config, ∀ id' ∈ config, ∀ record record', s.membership.nodes[id]? = some record →
        s.membership.nodes[id']? = some record' → record.name = record'.name → id = id') ∧
    ∀ candidate, s.membership.voters[instance_node_id candidate.pubkey]? = some candidate →
      ∃ result, RaftHandle.admit_among configured_names candidate s.membership.voters = .ret result ∧
        ((∃ config, s.membership.configs = [config]) → result = .ok true) := by
  have hfilled := Admissions.run_filled hsound hdistinct hexec
  refine ⟨?_, ?_⟩
  · intro config hconfig
    refine ⟨hfilled.size_le hdistinct hconfig, ?_, ?_⟩
    · intro id hid
      have hnode := hfilled.recorded config hconfig id hid
      rw [Std.ExtTreeMap.mem_iff_isSome_getElem?, Option.isSome_iff_exists] at hnode
      obtain ⟨record, hrecord⟩ := hnode
      have hvotes := Membership.is_voter_iff.mpr ⟨config, hconfig, hid⟩
      exact ⟨record, hrecord, hfilled.voters_configured hdistinct (Membership.getElem?_voters.mpr ⟨hrecord, hvotes⟩),
        (hfilled.records id record hrecord).2⟩
    · intro id hid id' hid' record record' hnode hnode' hslot
      exact hfilled.one_holder hconfig hid hid' hnode hnode' hslot
  · intro candidate hholds
    unfold RaftHandle.admit_among
    cases hplan : plan_admission configured_names s.membership.voters candidate.name candidate.pubkey with
    | error error =>
      refine ⟨_, rfl, ?_⟩
      rintro ⟨config, huniform⟩
      have hvoters := (hfilled.sound_iff hdistinct).mpr (hfilled.agrees_of_uniform huniform)
      obtain ⟨plan, hok⟩ := plan_admission_ok_of_holder hvoters hholds
      rw [hplan] at hok
      cases hok
    | ok plan =>
      refine ⟨.ok true, ?_, fun _ => rfl⟩
      simp only [RaftHandle.execute_plan, plan_admission_holder hholds hplan, if_true]

namespace sample

def slot_names : Std.ExtTreeSet String := .ofList ["a", "b"]

def slot_record (name : String) (n : UInt8) : MemberRecord := ⟨name, Vector.replicate 65 n⟩

def slot_records : List MemberRecord := [slot_record "a" 1, slot_record "b" 2]

def replacement : MemberRecord := slot_record "a" 4

def slot_members : Voters := .ofList (slot_records.map fun record => (instance_node_id record.pubkey, record))

def joint_admission : List Admissions.Action :=
  [.start replacement, .is_leader 0 true, .read 0, .learn 0, .learner_answer 0 (.ok ()), .change 0]

def uniform_admission : List Admissions.Action := joint_admission ++ [.change 0, .change_answer 0 (.ok ())]

theorem slot_sound : Sound slot_names slot_members := check_membership_ok.mp (by decide +kernel)

theorem slot_ids_nodup : ((replacement :: slot_records).map fun record => instance_node_id record.pubkey).Nodup := by
  decide +kernel

theorem slot_presented (hstart : ∀ record, .start record ∈ actions → record = replacement)
    (hpresented : Admissions.Presented slot_members actions record) :
    record ∈ replacement :: slot_records := by
  obtain ⟨id, hmember⟩ | hstarted := hpresented
  · have hmem := Std.ExtTreeMap.mem_toList_iff_getElem?_eq_some.mpr hmember
    have hrecords : slot_members.toList.map Prod.snd = slot_records.reverse := by decide +kernel
    have hrecord : record ∈ slot_members.toList.map Prod.snd := List.mem_map_of_mem hmem
    rw [hrecords, List.mem_reverse] at hrecord
    exact List.mem_cons_of_mem _ hrecord
  · exact hstart record hstarted ▸ List.mem_cons_self

theorem slot_distinct (hstart : ∀ record, .start record ∈ actions → record = replacement) :
    Distinct (Admissions.Presented slot_members actions) := fun _ _ hpresented hpresented' hid =>
  List.inj_on_of_nodup_map slot_ids_nodup (slot_presented hstart hpresented) (slot_presented hstart hpresented') hid

end sample

open sample in
/-- A replacement of one of two members is admitted. -/
theorem one_instance_per_slot_replacement :
    ∃ s, machine.exec (Admissions.step slot_names) (.founded slot_members) uniform_admission = some s ∧
      (∀ config ∈ s.membership.configs, config.size ≤ 2) ∧
      RaftHandle.admit_among slot_names replacement s.membership.voters = .ret (.ok true) := by
  have hrun : (machine.exec (Admissions.step slot_names) (.founded slot_members) uniform_admission).map (fun s =>
      (s.membership.configs.length, s.membership.voters[instance_node_id replacement.pubkey]?)) =
      some (1, some replacement) := by
    decide +kernel
  obtain ⟨s, hexec, hs⟩ := Option.map_eq_some_iff.mp hrun
  have hstart : ∀ record, .start record ∈ uniform_admission → record = replacement := by
    simp [uniform_admission, joint_admission]
  obtain ⟨hslots, hagain⟩ := one_instance_per_slot slot_sound (slot_distinct hstart) hexec
  obtain ⟨result, hresult, hok⟩ := hagain replacement (congrArg Prod.snd hs)
  refine ⟨s, hexec, fun config hconfig => (hslots config hconfig).1, ?_⟩
  rw [hresult, hok (List.length_eq_one_iff.mp (congrArg Prod.fst hs))]

/-- Admission of a fresh instance into a configured slot is refused exactly if the membership in force
is a joint one whose halves hold some slot with different voters, and then as corrupt. -/
theorem admission_refused_iff {members : Voters} {actions : List Admissions.Action} {s : Admissions}
    (hsound : Sound configured_names members) (hdistinct : Distinct (Admissions.Presented members actions))
    (hexec : machine.exec (Admissions.step configured_names) (.founded members) actions = some s)
    {name : String} (hname : name ∈ configured_names) {pubkey : ControlPubkey}
    (hfresh : ∀ record, Admissions.Presented members actions record →
      instance_node_id pubkey ≠ instance_node_id record.pubkey) :
    ((∃ plan, plan_admission configured_names s.membership.voters name pubkey = .ok plan) ↔ s.membership.Agrees) ∧
    ∀ error, plan_admission configured_names s.membership.voters name pubkey = .error error →
      ∃ holders slot, error = .CorruptMembership holders slot := by
  have hfilled := Admissions.run_filled hsound hdistinct hexec
  have hnew : s.membership.voters[instance_node_id pubkey]? = none := by
    rw [Option.eq_none_iff_forall_ne_some]
    intro record hvoter
    obtain ⟨hpresented, hderived⟩ := hfilled.voters_records _ record hvoter
    exact hfresh record hpresented hderived
  rw [← hfilled.sound_iff hdistinct, ← check_membership_ok]
  cases hcheck : check_membership configured_names s.membership.voters with
  | ok value =>
    have hplan := plan_admission_fresh (check_membership_ok.mp hcheck) hname hnew
    refine ⟨iff_of_true ⟨_, hplan⟩ rfl, ?_⟩
    intro error herror
    rw [hplan] at herror
    cases herror
  | error refusal =>
    rw [plan_admission_of_check hname hcheck]
    refine ⟨iff_of_false nofun nofun, ?_⟩
    rintro error ⟨⟩
    exact check_membership_error (fun id record hvoter => hfilled.voters_configured hdistinct hvoter)
      (fun id record hvoter => (hfilled.voters_records id record hvoter).2) hcheck

namespace sample

def fresh_pubkey : ControlPubkey := Vector.replicate 65 5

theorem joint_admission_refusal :
    (machine.exec (Admissions.step slot_names) (.founded slot_members) joint_admission).map (fun s =>
      (plan_admission slot_names s.membership.voters "b" fresh_pubkey).map fun _ => ()) =
      some (.error (.CorruptMembership 2 "a")) := by
  decide +kernel

end sample

open sample in
/-- A leader that stops between the joint and the uniform membership of a replacement leaves both holders
of the slot among the voters, and no instance is admitted any more, into any slot. -/
theorem admission_wedged_by_abandoned_change :
    ∃ s, machine.exec (Admissions.step slot_names) (.founded slot_members) joint_admission = some s ∧
      plan_admission slot_names s.membership.voters "b" fresh_pubkey = .error (.CorruptMembership 2 "a") := by
  obtain ⟨s, hexec, hs⟩ := Option.map_eq_some_iff.mp joint_admission_refusal
  refine ⟨s, hexec, ?_⟩
  cases hplan : plan_admission slot_names s.membership.voters "b" fresh_pubkey with
  | ok plan =>
    rw [hplan] at hs
    cases hs
  | error error =>
    rw [hplan] at hs
    simpa only [Except.map, Except.error.injEq] using hs

open sample in
/-- An admission that was given up between the two changes. -/
theorem admission_refused_iff_abandoned :
    ∃ s, machine.exec (Admissions.step slot_names) (.founded slot_members) joint_admission = some s ∧
      ¬ s.membership.Agrees := by
  obtain ⟨s, hexec, hs⟩ := Option.map_eq_some_iff.mp joint_admission_refusal
  have hstart : ∀ record, .start record ∈ joint_admission → record = replacement := by simp [joint_admission]
  have hfresh : ∀ record ∈ replacement :: slot_records,
      instance_node_id fresh_pubkey ≠ instance_node_id record.pubkey := by
    decide +kernel
  have hname : "b" ∈ slot_names := by decide +kernel
  have hiff := admission_refused_iff slot_sound (slot_distinct hstart) hexec hname fun record hpresented =>
    hfresh record (slot_presented hstart hpresented)
  refine ⟨s, hexec, fun hagrees => ?_⟩
  obtain ⟨plan, hplan⟩ := hiff.1.mpr hagrees
  rw [hplan] at hs
  cases hs

end Slots

end enclavia.synchronizer.raft
