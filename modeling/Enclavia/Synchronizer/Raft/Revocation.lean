import Enclavia.Synchronizer.Raft.Replicas
import Enclavia.Synchronizer.Raft.ViewSteps

namespace enclavia.synchronizer.raft

variable {entry : KeyState} {link_hash : Bytes32}

namespace View

theorem is_revoked_iff (v : View) (key : PcrKey) (link_hash : Bytes32) :
    v.is_revoked key link_hash ↔ ∃ hashes, v.revoked_links[key]? = some hashes ∧ link_hash ∈ hashes := by
  rw [is_revoked]
  cases v.revoked_links[key]? with
  | none | some hashes => simp

theorem is_revoked_revoke (v : View) (key other : PcrKey) (link_hash hash : Bytes32) :
    View.is_revoked
        { v with
          revoked_links :=
            v.revoked_links.insert key ((v.revoked_links[key]?.getD ∅).insert link_hash) }
        other hash ↔
      (key = other ∧ link_hash = hash) ∨ v.is_revoked other hash := by
  simp only [is_revoked_iff, getElem?_insert_key]
  by_cases hkey : key = other
  · subst hkey
    simp only [if_true, Option.some.injEq, exists_eq_left', Std.ExtTreeSet.mem_insert,
      Std.LawfulEqCmp.compare_eq_iff_eq, true_and]
    cases v.revoked_links[key]? with
    | none | some hashes => simp
  · simp only [hkey, if_false, false_and, false_or]

variable {v : View} {key : PcrKey} {link_hash : Bytes32}

theorem apply_is_revoked
    (hrevoked : v.is_revoked key link_hash) (op : ReplicatedOp) :
    (v.apply op).2.is_revoked key link_hash := by
  obtain ⟨e, happly⟩ | ⟨entry, after, happly, happlies⟩ := apply_cases v op
  · rw [happly]
    exact hrevoked
  rw [happly]
  cases happlies with
  | register hfree hretired | pin hlive | transition hne hlive hunrevoked hfree hretired => exact hrevoked
  | revoke hretired hlive => exact (is_revoked_revoke v _ _ _ _).mpr (.inr hrevoked)

theorem apply_transition_revoked {old_key new_key : PcrKey}
    {new_control_pubkey : ControlPubkey} {valid_until_ms : Int64}
    {commitment : Commitment} (hrevoked : v.is_revoked old_key link_hash) :
    ∃ e, (v.apply (.Transition old_key new_key new_control_pubkey link_hash valid_until_ms
      commitment)).1 = .Rejected e := by
  obtain ⟨e, happly⟩ | ⟨entry, after, happly, happlies⟩ := apply_cases v
    (.Transition old_key new_key new_control_pubkey link_hash valid_until_ms commitment)
  · rw [happly]
    exact ⟨e, rfl⟩
  · cases happlies with
    | transition hne hlive hunrevoked hfree hretired =>
      rw [hunrevoked] at hrevoked
      cases hrevoked

theorem apply_revoke_revokes (happlied : (v.apply (.Revoke key link_hash)).1 = .Applied entry) :
    (v.apply (.Revoke key link_hash)).2.is_revoked key link_hash := by
  have happlies := apply_applied happlied
  generalize (v.apply (.Revoke key link_hash)).2 = after at happlies
  cases happlies with
  | revoke hretired hlive => exact (is_revoked_revoke v _ _ _ _).mpr (.inl ⟨rfl, rfl⟩)

structure AgreeUpTo (key : PcrKey) (link_hash : Bytes32) (v w : View) : Prop where
  state : v.state = w.state
  retired : v.retired = w.retired
  revoked : ∀ other hash, ¬(key = other ∧ link_hash = hash) →
    (v.is_revoked other hash ↔ w.is_revoked other hash)

def Uses (key : PcrKey) (link_hash : Bytes32) : ReplicatedOp → Prop
  | .Transition old_key _ _ hash _ _ => old_key = key ∧ hash = link_hash
  | _ => False

theorem AgreeUpTo.apply {w : View}
    (hagree : AgreeUpTo key link_hash v w) {op : ReplicatedOp} (hop : ¬Uses key link_hash op) :
    (v.apply op).1 = (w.apply op).1 ∧ AgreeUpTo key link_hash (v.apply op).2 (w.apply op).2 := by
  obtain ⟨state, retired, links⟩ := v
  obtain ⟨state', retired', links'⟩ := w
  obtain ⟨hstate, hretired, hrevoked⟩ := hagree
  simp only at hstate hretired
  subst hstate hretired
  have hsame : AgreeUpTo key link_hash ⟨state, retired, links⟩ ⟨state, retired, links'⟩ :=
    ⟨rfl, rfl, hrevoked⟩
  cases op with
  | Register named commitment control_pubkey | Pin named expected_version commitment =>
    simp only [View.apply]
    split
    · exact ⟨rfl, hsame⟩
    · split
      · exact ⟨rfl, hsame⟩
      · exact ⟨rfl, rfl, rfl, hrevoked⟩
  | Transition old_key new_key new_control_pubkey hash valid_until_ms commitment =>
    have hlink : is_revoked ⟨state, retired, links⟩ old_key hash =
        is_revoked ⟨state, retired, links'⟩ old_key hash := by
      rw [Bool.eq_iff_iff]
      exact hrevoked old_key hash fun huses => hop ⟨huses.1.symm, huses.2.symm⟩
    simp only [View.apply, hlink]
    repeat' split
    all_goals first
      | exact ⟨rfl, hsame⟩
      | exact ⟨rfl, rfl, rfl, hrevoked⟩
  | Revoke named hash =>
    simp only [View.apply]
    split
    · exact ⟨rfl, hsame⟩
    · split
      · exact ⟨rfl, hsame⟩
      · refine ⟨rfl, rfl, rfl, ?_⟩
        intro other hash' hother
        rw [is_revoked_revoke ⟨state, retired, links⟩, is_revoked_revoke ⟨state, retired, links'⟩,
          hrevoked other hash' hother]

theorem agreeUpTo_revoke (v : View) (key : PcrKey) (link_hash : Bytes32) :
    AgreeUpTo key link_hash (v.apply (.Revoke key link_hash)).2 v := by
  obtain ⟨e, happly⟩ | ⟨entry, after, happly, happlies⟩ := apply_cases v (.Revoke key link_hash)
  · rw [happly]
    exact ⟨rfl, rfl, fun _ _ _ => Iff.rfl⟩
  · rw [happly]
    cases happlies with
    | revoke hretired hlive =>
      refine ⟨rfl, rfl, ?_⟩
      intro other hash hother
      rw [is_revoked_revoke]
      exact or_iff_right hother

end View

theorem replay_is_revoked {before after : List ReplicatedOp} {key : PcrKey}
    (happlied : (apply_one (replay before) (.Revoke key link_hash)).1 = .Applied entry) :
    (view (replay (before ++ .Revoke key link_hash :: after))).is_revoked key link_hash := by
  rw [apply_one_result] at happlied
  have hrevoked := View.apply_revoke_revokes happlied
  rw [replay_view, machine.run_append, machine.run_cons, ← replay_view]
  exact machine.run_preserves View.apply (P := fun v => v.is_revoked key link_hash)
    (fun v op h => View.apply_is_revoked h op) hrevoked after

theorem replay_without_revoke (before after : List ReplicatedOp) (key : PcrKey) (link_hash : Bytes32)
    (hafter : ∀ op ∈ after, ¬View.Uses key link_hash op) :
    machine.results apply_one (replay (before ++ [.Revoke key link_hash])) after =
        machine.results apply_one (replay before) after ∧
      View.AgreeUpTo key link_hash (view (replay (before ++ .Revoke key link_hash :: after)))
        (view (replay (before ++ after))) := by
  have hstart := View.agreeUpTo_revoke (view (replay before)) key link_hash
  obtain ⟨hresults, hagree⟩ := machine.results_eq_of_bisim View.apply
    (Q := fun op => ¬View.Uses key link_hash op) (fun v w op hop h => h.apply hop) hstart after hafter
  refine ⟨?_, ?_⟩
  · rw [(machine.run_simulates apply_one apply_one_view _ after).2,
      (machine.run_simulates apply_one apply_one_view _ after).2, replay_concat_view]
    exact hresults
  · rw [replay_view, replay_view, machine.run_append, machine.run_append, machine.run_cons,
      ← replay_view]
    exact hagree

variable {log : List ReplicatedOp} {i : Nat} {op : ReplicatedOp}

private theorem split_at
    (hop : log[i]? = some op) : log = log.take i ++ op :: log.drop (i + 1) := by
  obtain ⟨hlength, hget⟩ := List.getElem?_eq_some_iff.mp hop
  rw [← hget, List.getElem_cons_drop, List.take_append_drop]

private theorem take_split_at {position : Nat}
    (hop : log[i]? = some op) (hlt : i < position) :
    ∃ between, log.take position = log.take i ++ op :: between := by
  have hi : (log.take position)[i]? = some op := by rw [List.getElem?_take_of_lt hlt, hop]
  have htake : log.take i = (log.take position).take i := by
    rw [List.take_take, Nat.min_eq_left (Nat.le_of_lt hlt)]
  rw [htake]
  exact ⟨_, split_at hi⟩

theorem replay_eraseIdx_revoke {key : PcrKey} (hrevoke : log[i]? = some (.Revoke key link_hash))
    (hafter : ∀ op ∈ log.drop (i + 1), ¬View.Uses key link_hash op) :
    replay_results (log.eraseIdx i) = (replay_results log).eraseIdx i ∧
      View.AgreeUpTo key link_hash (view (replay log)) (view (replay (log.eraseIdx i))) := by
  have hlength : i < log.length := (List.getElem?_eq_some_iff.mp hrevoke).1
  have htake : (log.take i).length = i := by
    rw [List.length_take]
    omega
  have hsplit := split_at hrevoke
  generalize log.take i = before at hsplit htake
  generalize log.drop (i + 1) = after at hsplit hafter
  subst hsplit htake
  obtain ⟨hresults, hagree⟩ := replay_without_revoke before after key link_hash hafter
  have herase : (before ++ .Revoke key link_hash :: after).eraseIdx before.length = before ++ after := by
    rw [List.eraseIdx_append_of_length_le (Nat.le_refl _), Nat.sub_self, List.eraseIdx_cons_zero]
  rw [herase]
  refine ⟨?_, hagree⟩
  rw [replay_results, replay_results, machine.results_append, machine.results_append,
    machine.results_cons, List.eraseIdx_append_of_length_le (Nat.le_of_eq (machine.results_length _ _ _)),
    machine.results_length, Nat.sub_self, List.eraseIdx_cons_zero]
  rw [replay_concat] at hresults
  exact congrArg _ hresults.symm

/-- Once `Revoke` has applied at a position, no later transition through its link applies, in the log itself and on any
replica after any run of snapshots, installs and restarts. -/
theorem revocation_permanent_and_exact (log : List ReplicatedOp) (i : Nat) (key : PcrKey)
    (link_hash : Bytes32) (hrevoke : log[i]? = some (.Revoke key link_hash))
    (happlied : ∃ entry, (apply_one (replay (log.take i)) (.Revoke key link_hash)).1 = .Applied entry) :
    (∀ position new_key new_control_pubkey valid_until_ms commitment, i < position →
      log[position]? = some
        (.Transition key new_key new_control_pubkey link_hash valid_until_ms commitment) →
      (∃ e, (apply_one (replay (log.take position))
        (.Transition key new_key new_control_pubkey link_hash valid_until_ms commitment)).1 =
          .Rejected e) ∧
      ∀ actions action result,
        (Replicas.step log (machine.run (Replicas.step log) Replicas.start actions) action).1 =
          some (position, result) → ∃ e, result = .Rejected e) ∧
      ((∀ position new_key new_control_pubkey valid_until_ms commitment, i < position →
          log[position]? ≠ some
            (.Transition key new_key new_control_pubkey link_hash valid_until_ms commitment)) →
        replay_results (log.eraseIdx i) = (replay_results log).eraseIdx i ∧
          (replay (log.eraseIdx i)).state = (replay log).state ∧
          (replay (log.eraseIdx i)).retired = (replay log).retired) := by
  obtain ⟨entry, happlied⟩ := happlied
  refine ⟨?_, ?_⟩
  · intro position new_key new_control_pubkey valid_until_ms commitment hlt hposition
    have hrejected : ∃ e, (apply_one (replay (log.take position))
        (.Transition key new_key new_control_pubkey link_hash valid_until_ms commitment)).1 =
          .Rejected e := by
      obtain ⟨between, hbetween⟩ := take_split_at hrevoke hlt
      rw [hbetween, apply_one_result]
      exact View.apply_transition_revoked (replay_is_revoked happlied)
    refine ⟨hrejected, ?_⟩
    intro actions action result hstep
    obtain ⟨op, hop, hresult⟩ := Replicas.run_result hstep
    rw [hposition, Option.some.injEq] at hop
    subst hop
    obtain ⟨e, he⟩ := hrejected
    exact ⟨e, hresult.trans he⟩
  · intro hunused
    have hafter : ∀ op ∈ log.drop (i + 1), ¬View.Uses key link_hash op := by
      intro op hop huses
      obtain ⟨j, hj⟩ := List.mem_iff_getElem?.mp hop
      rw [List.getElem?_drop] at hj
      cases op with
      | Transition old_key new_key new_control_pubkey hash valid_until_ms commitment =>
        obtain ⟨rfl, rfl⟩ := huses
        exact hunused _ _ _ _ _ (by omega) hj
      | Register | Pin | Revoke => exact huses
    obtain ⟨hresults, hagree⟩ := replay_eraseIdx_revoke hrevoke hafter
    exact ⟨hresults, hagree.state.symm, hagree.retired.symm⟩

/-- A revocation between a registration and the transition it forbids. -/
theorem revocation_permanent_and_exact_sample :
    let key : UInt8 → PcrKey := fun n => ⟨Vector.replicate 32 n⟩
    let commitment : Commitment := ⟨Vector.replicate 32 7⟩
    let link : Bytes32 := Vector.replicate 32 9
    let transition := ReplicatedOp.Transition (key 1) (key 2) (Vector.replicate 65 5) link 0 commitment
    let log := [ReplicatedOp.Register (key 1) commitment (Vector.replicate 65 4),
      .Revoke (key 1) link, transition]
    ∃ e, (apply_one (replay (log.take 2)) transition).1 = .Rejected e := by
  intro key commitment link transition log
  have happlied : (apply_one (replay (log.take 1)) (.Revoke (key 1) link)).1 =
      .Applied ⟨commitment, ⟨0⟩, Vector.replicate 65 4⟩ := by
    decide +kernel
  have hpermanent := (revocation_permanent_and_exact log 1 (key 1) link rfl ⟨_, happlied⟩).1
  exact (hpermanent 2 _ _ _ _ (by decide) rfl).1

end enclavia.synchronizer.raft
