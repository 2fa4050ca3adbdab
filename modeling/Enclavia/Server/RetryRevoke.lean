import Enclavia.Server.RevokeSystem
import Enclavia.Volume.Rollback

open interaction enclavia.protocol enclavia.synchronizer enclavia.synchronizer.wire

namespace enclavia.server

open enclavia.crypto (Codecs Env Provision Staged)

/-- What a revocation changes: the volume, the synchronizer's state, and the links that the chain host has taken. -/
structure StorageEnclave where
  volume : crypto.World
  sync : StateMachine
  links : List ChainLink

def Current (own_key : PcrKey) (control_pubkey : ControlPubkey) (sync : StateMachine) : Prop :=
  sync.retired.contains own_key = false ∧
    ∃ state, sync.state[own_key]? = some state ∧ state.control_pubkey = control_pubkey

theorem apply_revoke_current {own_key : PcrKey} {control_pubkey : ControlPubkey} {sync : StateMachine}
    (h : Current own_key control_pubkey sync) (link_hash : Bytes32) :
    ∃ state sync', sync.apply_revoke own_key link_hash = (.ok state, sync') ∧ Current own_key control_pubkey sync' ∧
      sync'.is_revoked own_key link_hash = true := by
  obtain ⟨hretired, state, hstate, hkey⟩ := h
  refine ⟨state, { sync with
      revoked_links := sync.revoked_links.insert own_key ((sync.revoked_links[own_key]?.getD ∅).insert link_hash) },
    ?_, ⟨hretired, state, hstate, hkey⟩, ?_⟩
  · unfold StateMachine.apply_revoke
    rw [hretired, hstate]
    rfl
  · unfold StateMachine.is_revoked
    simp only [Std.ExtTreeMap.getElem?_insert_self, Std.ExtTreeSet.contains_insert_self]

section Semantics

variable {DateTime : Type} (lib : LinkLibrary DateTime) (codecs : Codecs) (env : Env) (own_key : PcrKey)

def Commits (sync : StateMachine) (link : ChainLink) (sync' : StateMachine) : Prop :=
  ∃ entry verified state, sync.state[own_key]? = some entry ∧
    verify_revocation_link lib link entry.control_pubkey = .ok verified ∧
    sync.apply_revoke own_key verified.link_hash = (.ok state, sync')

def RevokeWorks (s : StorageEnclave) : (e : RevokeEffect) → RevokeAnswer e → StorageEnclave → Prop
  | .build_chain_attestation _, answer, s' => s' = s ∧ ∃ doc, answer = .ok doc
  | .now, _, s' => s' = s
  | .dial_relay, answer, s' => s' = s ∧ answer = .ok ()
  | .handshake, answer, s' => s' = s ∧ ∃ hash, answer = some (.ok hash)
  | .session_attestation _, answer, s' => s' = s ∧ ∃ doc, answer = some (.ok doc)
  | .authenticate _, answer, s' =>
    s' = s ∧ ∃ capabilities, CAPABILITY_REVOCATION ∈ capabilities ∧ answer = some (.ok capabilities)
  | .rpc (.Revoke link), answer, s' =>
    (∃ sync', Commits lib own_key s.sync link sync' ∧ answer = some (.ok .RevokeOk) ∧
      s' = { s with sync := sync' }) ∨
    (¬∃ sync', Commits lib own_key s.sync link sync') ∧ (∃ error, answer = some (.ok (.Err error))) ∧ s' = s
  | .rpc _, _, s' => s' = s
  | .sleep, _, s' => s' = s
  | .enclavia_crypto_revoke_upgrade, answer, s' =>
    ∃ result volume, Program.Exec (crypto.World.Works env) (crypto.revoke_upgrade codecs) s.volume
      (.ret result) volume ∧
      answer.1 = result.isOk ∧ s' = { s with volume := volume }
  | .submit_chain_link_to_host link, answer, s' => answer = .ok () ∧ s' = { s with links := s.links ++ [link] }

/-- An effect that may go wrong: a commit or a submission that fails may have happened, and a rollback that fails may
have got anywhere. -/
def RevokeStep (s : StorageEnclave) (e : RevokeEffect) (answer : RevokeAnswer e) (s' : StorageEnclave) : Prop :=
  RevokeWorks lib codecs env own_key s e answer s' ∨ match e with
    | .rpc (.Revoke link) =>
      answer ≠ some (.ok .RevokeOk) ∧ ∃ sync', (sync' = s.sync ∨ Commits lib own_key s.sync link sync') ∧
        s' = { s with sync := sync' }
    | .enclavia_crypto_revoke_upgrade =>
      ∃ p volume, Program.Exec (crypto.World.Step env) (crypto.revoke_upgrade codecs) s.volume p volume ∧
        (answer.1 = true → p = .ret (.ok ())) ∧ s' = { s with volume := volume }
    | .submit_chain_link_to_host link => s' = s ∨ s' = { s with links := s.links ++ [link] }
    | _ => s' = s

end Semantics

variable {synchronizer_trust : Bool}

section Retry

variable {DateTime : Type} {lib : LinkLibrary DateTime} {codecs : Codecs} {env : Env} {own_key : PcrKey}
  {control_pubkey : ControlPubkey} {provision : Provision} {ghost : crypto.State} {s s' : StorageEnclave}

/-- What holds of the enclave from the first attempt on: its key is current, and what its volume is staged for is the
rollback to the world that the upgrade's preparation began with. -/
structure Revocable (provision : Provision) (codecs : Codecs) (own_key : PcrKey) (control_pubkey : ControlPubkey)
    (ghost : crypto.State) (s : StorageEnclave) : Prop where
  current : Current own_key control_pubkey s.sync
  staged : Staged provision codecs { ghost with world := s.volume }

theorem exec_state {p q : crypto.Proc (Except String Unit)} {w w' : crypto.World}
    (hobeys : Program.Obeys (fun _ _ => True) crypto.RollsBack p)
      (hexec : Program.Exec (crypto.World.Step env) p w q w') :
    Program.Exec (crypto.State.Step env) p { ghost with world := w } q { ghost with world := w' } := by
  induction hexec with
  | refl p w => exact .refl _ _
  | @head e next answer w w₁ w₂ q hstep _ ih =>
    have hobserve : crypto.State.observe { ghost with world := w } e w₁ = { ghost with world := w₁ } := by
      have hrollsBack := hobeys.1
      cases e with
      | write_rollback_stash stash | luksAddKey n file new_file => exact hrollsBack.elim
      | _ => rfl
    exact .head ⟨w₁, hstep, hobserve.symm⟩ (ih (hobeys.2 answer trivial))

theorem Staged.of_exec {p : crypto.Proc (Except String Unit)} {w w' : crypto.World}
    (h : Staged provision codecs { ghost with world := w })
    (hexec : Program.Exec (crypto.World.Step env) (crypto.revoke_upgrade codecs) w p w') :
    Staged provision codecs { ghost with world := w' } := by
  have hguards := (crypto.revoke_upgrade_staged h).of_exec (exec_state crypto.revoke_upgrade_rollsBack hexec)
  cases p with
  | ret value => exact hguards
  | act e next => exact hguards.1

theorem Current.of_commits {link : ChainLink} {sync sync' : StateMachine} (h : Current own_key control_pubkey sync)
    (hcommits : Commits lib own_key sync link sync') : Current own_key control_pubkey sync' := by
  obtain ⟨entry, verified, state, -, -, happly⟩ := hcommits
  obtain ⟨state', sync'', happly', hcurrent, -⟩ := apply_revoke_current h verified.link_hash
  rw [happly] at happly'
  cases happly'
  exact hcurrent

theorem Revocable.step (h : Revocable provision codecs own_key control_pubkey ghost s) {e : RevokeEffect}
    {answer : RevokeAnswer e}
    (hstep : RevokeStep lib codecs env own_key s e answer s') :
    Revocable provision codecs own_key control_pubkey ghost s' := by
  have hsame : ∀ {t : StorageEnclave}, t = s → Revocable provision codecs own_key control_pubkey ghost t := fun ht =>
    ht ▸ h
  rcases hstep with hworks | hfault
  · cases e with
    | build_chain_attestation payload => exact hsame hworks.1
    | now => exact hsame hworks
    | dial_relay | handshake | session_attestation hash | authenticate doc => exact hsame hworks.1
    | rpc request =>
      cases request with
      | Revoke link =>
        rcases hworks with ⟨sync', hcommits, -, rfl⟩ | ⟨-, -, rfl⟩
        · exact ⟨h.current.of_commits hcommits, h.staged⟩
        · exact h
      | _ => exact hsame hworks
    | sleep => exact hsame hworks
    | enclavia_crypto_revoke_upgrade =>
      obtain ⟨result, volume, hexec, -, rfl⟩ := hworks
      exact ⟨h.current, Staged.of_exec h.staged (hexec.mono fun _ _ _ _ h => crypto.World.step_of_works h.1 h.2)⟩
    | submit_chain_link_to_host link =>
      obtain ⟨-, rfl⟩ := hworks
      exact ⟨h.current, h.staged⟩
  · cases e with
    | rpc request =>
      cases request with
      | Revoke link =>
        obtain ⟨-, sync', rfl | hcommits, rfl⟩ := hfault
        · exact h
        · exact ⟨h.current.of_commits hcommits, h.staged⟩
      | _ => exact hsame hfault
    | enclavia_crypto_revoke_upgrade =>
      obtain ⟨p, volume, hexec, -, rfl⟩ := hfault
      exact ⟨h.current, Staged.of_exec h.staged hexec⟩
    | submit_chain_link_to_host link =>
      rcases hfault with rfl | rfl
      · exact h
      · exact ⟨h.current, h.staged⟩
    | _ => exact hsame hfault

theorem Revocable.of_exec {p q : RevokeProc (Bool × String)}
    (h : Revocable provision codecs own_key control_pubkey ghost s)
    (hexec : Program.Exec (RevokeStep lib codecs env own_key) p s q s') :
    Revocable provision codecs own_key control_pubkey ghost s' := by
  induction hexec with
  | refl p s => exact h
  | head hstep _ ih => exact ih (h.step hstep)

section FaultFree

variable {link : ChainLink} {payload : RevocationPayload DateTime} {chain_payload payload_signature : List UInt8}
  {post : Bool × String → StorageEnclave → Prop} {attempts : Nat}

structure Committed (own_key : PcrKey) (link_hash : Bytes32) (s s' : StorageEnclave) : Prop where
  volume : s'.volume = s.volume
  links : s'.links = s.links
  revoked : s'.sync.is_revoked own_key link_hash = true

theorem Commits.revoked {sync sync' : StateMachine} (hcommits : Commits lib own_key sync link sync')
    (h : Current own_key control_pubkey sync)
    (hverify : verify_revocation_link lib link control_pubkey = .ok ⟨payload.revokes_link⟩) :
    sync'.is_revoked own_key payload.revokes_link = true := by
  obtain ⟨entry, verified, state, hentry, hverified, happly⟩ := hcommits
  obtain ⟨state', sync'', happly', -, hrevoked⟩ := apply_revoke_current h payload.revokes_link
  obtain ⟨-, entry', hentry', hkey⟩ := h
  cases hentry.symm.trans hentry'
  rw [hkey, hverify] at hverified
  cases hverified
  cases happly.symm.trans happly'
  exact hrevoked

section Commit

variable (h : Current own_key control_pubkey s.sync)
  (hverify : verify_revocation_link lib link control_pubkey = .ok ⟨payload.revokes_link⟩)

include h hverify

theorem commits_of_current :
    ∃ sync', Commits lib own_key s.sync link sync' := by
  obtain ⟨state, sync', happly, -⟩ := apply_revoke_current h payload.revokes_link
  obtain ⟨-, entry, hentry, hkey⟩ := h
  rw [← hkey] at hverify
  exact ⟨sync', entry, ⟨payload.revokes_link⟩, state, hentry, hverify, happly⟩

theorem revoke_attempt_ends :
    Program.Ends (RevokeWorks lib codecs env own_key)
      (fun result s' => result = .ok () ∧ Committed own_key payload.revokes_link s s') (revoke_attempt link) s := by
  obtain ⟨sync₁, hcommits₁⟩ := commits_of_current h hverify
  refine ⟨⟨_, _, rfl, rfl⟩, ?_⟩
  rintro _ _ ⟨rfl, rfl⟩
  refine ⟨⟨some (.ok []), _, rfl, [], rfl⟩, ?_⟩
  rintro _ _ ⟨rfl, handshake_hash, rfl⟩
  refine ⟨⟨some (.ok []), _, rfl, [], rfl⟩, ?_⟩
  rintro _ _ ⟨rfl, doc, rfl⟩
  refine ⟨⟨some (.ok [CAPABILITY_REVOCATION]), _, rfl, _, List.mem_singleton_self _, rfl⟩, ?_⟩
  rintro _ _ ⟨rfl, capabilities, hmem, rfl⟩
  dsimp only [Program.bind]
  rw [revoke_on, if_neg (not_not_intro hmem)]
  refine ⟨⟨_, _, .inl ⟨sync₁, hcommits₁, rfl, rfl⟩⟩, ?_⟩
  rintro answer s' (⟨sync', hcommits, rfl, rfl⟩ | ⟨hno, -⟩)
  · exact ⟨rfl, rfl, rfl, hcommits.revoked h hverify⟩
  · exact absurd ⟨sync₁, hcommits₁⟩ hno

theorem commit_revocation_ends (hattempts : 0 < attempts) :
    Program.Ends (RevokeWorks lib codecs env own_key)
      (fun result s' => result = .ok () ∧ Committed own_key payload.revokes_link s s')
      (commit_revocation attempts link) s := by
  obtain ⟨attempts, rfl⟩ := Nat.exists_eq_succ_of_ne_zero hattempts.ne'
  refine ⟨⟨(0 : Nat), s, rfl⟩, ?_⟩
  rintro now _ rfl
  refine (revoke_attempt_ends h hverify).bind _ ?_
  rintro _ s' ⟨rfl, hcommitted⟩
  exact ⟨rfl, hcommitted⟩

end Commit

theorem run_revoke_upgrade_ends {rollback : Bool} (h : Current own_key control_pubkey s.sync)
    (hattempts : 0 < attempts) (hpoint : lib.p256.from_sec1_bytes control_pubkey = true)
    (hsignature : verify_payload_signature (verifying_key lib control_pubkey) .RevocationPayload chain_payload
      payload_signature = .ok ())
    (hpayload : decode_canonical lib.revocations chain_payload = .ok payload)
    (hfinish : ∀ attestation durable s', s'.volume = s.volume →
      (synchronizer_trust = true → s'.sync.is_revoked own_key payload.revokes_link = true) →
      Program.Ends (RevokeWorks lib codecs env own_key) post
        (finish_revocation rollback durable ⟨.Revocation, chain_payload, attestation, some payload_signature⟩) s') :
    Program.Ends (RevokeWorks lib codecs env own_key) post
      (run_revoke_upgrade lib (verifying_key lib control_pubkey) synchronizer_trust attempts chain_payload
        payload_signature rollback) s := by
  have hcheck : check_signature lib .RevocationPayload control_pubkey chain_payload payload_signature = .ok () := by
    unfold verify_payload_signature at hsignature
    unfold check_signature
    split at hsignature
    · next hok => simp [hpoint, hok, Except.mapError]
    all_goals cases hsignature
  unfold run_revoke_upgrade
  simp only [hsignature, hpayload]
  refine ⟨⟨.ok [], _, rfl, [], rfl⟩, ?_⟩
  rintro _ _ ⟨rfl, attestation, rfl⟩
  dsimp only
  have hverify : verify_revocation_link lib ⟨.Revocation, chain_payload, attestation, some payload_signature⟩
      control_pubkey = .ok ⟨payload.revokes_link⟩ := by
    simp [verify_revocation_link, hcheck, hpayload]
  split
  · refine (commit_revocation_ends h hverify hattempts).bind _ ?_
    rintro _ s' ⟨rfl, hcommitted⟩
    exact hfinish attestation _ s' hcommitted.volume fun _ => hcommitted.revoked
  · next htrust => exact hfinish attestation _ _ rfl fun h => absurd h htrust

/-- The revocation is done: it is committed if the enclave pins its storage, the volume is as it was before the
upgrade was prepared, and the host has the link. -/
def Revoked (own_key : PcrKey) (synchronizer_trust : Bool) (link_hash : Bytes32) (chain_payload : List UInt8)
    (base : crypto.World) (result : Bool × String) (s : StorageEnclave) : Prop :=
  result.1 = true ∧ (synchronizer_trust = true → s.sync.is_revoked own_key link_hash = true) ∧
    s.volume.blob = base.blob ∧ s.volume.slots = base.slots ∧
    ∃ link ∈ s.links, link.kind = .Revocation ∧ link.payload = chain_payload

variable (link) in
theorem finish_revocation_ends {link_hash : Bytes32} {durable : String}
    (hrevoke : Program.Ends (crypto.World.Works env) (crypto.RolledBack ghost.base) (crypto.revoke_upgrade codecs)
      s.volume)
    (hrevoked : synchronizer_trust = true → s.sync.is_revoked own_key link_hash = true)
    (hkind : link.kind = .Revocation) :
    Program.Ends (RevokeWorks lib codecs env own_key)
      (Revoked own_key synchronizer_trust link_hash link.payload ghost.base) (finish_revocation true durable link)
        s := by
  obtain ⟨result₁, volume₁, hexec₁⟩ := hrevoke.exists_exec
  refine ⟨⟨(result₁.isOk, ""), _, result₁, volume₁, hexec₁, rfl, rfl⟩, ?_⟩
  rintro ⟨ok, message⟩ _ ⟨result, volume, hexec, rfl, rfl⟩
  obtain ⟨rfl, hblob, hslots⟩ := hrevoke.of_exec hexec
  refine ⟨⟨_, _, rfl, rfl⟩, ?_⟩
  rintro _ _ ⟨rfl, rfl⟩
  exact ⟨rfl, hrevoked, hblob, hslots, link, List.mem_append_right _ (List.mem_singleton_self _), hkind, rfl⟩

theorem finish_revocation_fails {durable : String}
    (hfails : Program.Ends (crypto.World.Works env) crypto.Fails (crypto.revoke_upgrade codecs) s.volume) :
    Program.Ends (RevokeWorks lib codecs env own_key) (fun result _ => result.1 = false)
      (finish_revocation true durable link) s := by
  obtain ⟨result₁, volume₁, hexec₁⟩ := hfails.exists_exec
  refine ⟨⟨(result₁.isOk, ""), _, result₁, volume₁, hexec₁, rfl, rfl⟩, ?_⟩
  rintro ⟨ok, message⟩ _ ⟨result, volume, hexec, rfl, rfl⟩
  obtain ⟨message, rfl⟩ := hfails.of_exec hexec
  exact rfl

theorem Revocable.retry_fails (h : Revocable provision codecs own_key control_pubkey ghost s)
    (hvalid : provision.Valid codecs env) (hattempts : 0 < attempts)
    (hpoint : lib.p256.from_sec1_bytes control_pubkey = true)
    (hsignature : verify_payload_signature (verifying_key lib control_pubkey) .RevocationPayload chain_payload
      payload_signature = .ok ())
    (hpayload : decode_canonical lib.revocations chain_payload = .ok payload)
    (hno : ¬∃ stash, s.volume.stash = some (.whole stash) ∧ s.volume.slots stash.new_keyslot ≠ none) :
    ¬Program.Ends (RevokeWorks lib codecs env own_key)
      (Revoked own_key synchronizer_trust payload.revokes_link chain_payload ghost.base)
      (run_revoke_upgrade lib (verifying_key lib control_pubkey) synchronizer_trust attempts chain_payload
        payload_signature true) s := by
  intro hends
  have hfails : Program.Ends (RevokeWorks lib codecs env own_key) (fun result _ => result.1 = false)
      (run_revoke_upgrade lib (verifying_key lib control_pubkey) synchronizer_trust attempts chain_payload
        payload_signature true) s := by
    refine run_revoke_upgrade_ends h.current hattempts hpoint hsignature hpayload ?_
    intro attestation durable s' hvolume _
    refine finish_revocation_fails ?_
    rw [hvolume]
    exact h.staged.revoke_upgrade_fails hvalid hno
  obtain ⟨result, s', hrevoked, hfailed⟩ := hends.compatible hfails
  cases hfailed.symm.trans hrevoked.1

end FaultFree

/-- After a revocation that has failed anywhere, the retry with the same payload succeeds exactly if the stash is still
there and the slot it records is live. -/
theorem retried_revocation_finishes_iff {payload : RevocationPayload DateTime}
    {chain_payload payload_signature : List UInt8} {synchronizer_trust : Bool} {attempts : Nat} {message : String}
    (hvalid : provision.Valid codecs env) (hattempts : 0 < attempts)
    (hpoint : lib.p256.from_sec1_bytes control_pubkey = true)
    (hsignature : verify_payload_signature (verifying_key lib control_pubkey) .RevocationPayload chain_payload
      payload_signature = .ok ())
    (hpayload : decode_canonical lib.revocations chain_payload = .ok payload)
    (h : Revocable provision codecs own_key control_pubkey ghost s)
    (hfailed : Program.Exec (RevokeStep lib codecs env own_key)
      (run_revoke_upgrade lib (verifying_key lib control_pubkey) synchronizer_trust attempts chain_payload
        payload_signature true) s (.ret (false, message)) s') :
    Program.Ends (RevokeWorks lib codecs env own_key)
      (Revoked own_key synchronizer_trust payload.revokes_link chain_payload ghost.base)
      (run_revoke_upgrade lib (verifying_key lib control_pubkey) synchronizer_trust attempts chain_payload
        payload_signature true) s' ↔
      ∃ stash, s'.volume.stash = some (.whole stash) ∧ s'.volume.slots stash.new_keyslot ≠ none := by
  have h' := h.of_exec hfailed
  constructor
  · intro hends
    by_contra hno
    exact h'.retry_fails hvalid hattempts hpoint hsignature hpayload hno hends
  · intro hstash
    refine run_revoke_upgrade_ends h'.current hattempts hpoint hsignature hpayload ?_
    intro attestation durable t hvolume hrevoked
    have hrevoke := (h'.staged.revoke_upgrade_ends_iff hvalid).mpr hstash
    rw [← hvolume] at hrevoke
    exact finish_revocation_ends ⟨.Revocation, chain_payload, attestation, some payload_signature⟩ hrevoke hrevoked rfl

end Retry

namespace sample

open enclavia.synchronizer.raft.sample

def enclave : StorageEnclave :=
  ⟨crypto.sample.upgraded, { StateMachine.new with state := (∅ : Std.ExtTreeMap PcrKey KeyState).insert old_key held },
    []⟩

theorem enclave_current : Current old_key control_key enclave.sync :=
  ⟨by decide +kernel, held, Std.ExtTreeMap.getElem?_insert_self, rfl⟩

theorem enclave_revocable :
    ∃ ghost, Revocable crypto.sample.provision crypto.sample.codecs old_key control_key ghost enclave := by
  obtain ⟨ghost, hreaches, hworld, -⟩ := crypto.sample.reaches_upgraded crypto.sample.booted trivial
  have hstaged := crypto.Staged.of_reaches trivial (fun _ => id) rfl crypto.sample.staged hreaches
  refine ⟨ghost, enclave_current, ?_⟩
  change Staged _ _ { ghost with world := crypto.sample.upgraded }
  rw [← hworld]
  exact hstaged

theorem signature_verifies : verify_payload_signature (verifying_key revoke_library control_key) .RevocationPayload [2]
    signature = .ok () := by decide +kernel

theorem revoking_commits : ∃ s attestation,
    Program.Exec (RevokeStep revoke_library crypto.sample.codecs crypto.sample.env old_key) revoking enclave
      (finish_revocation true DURABLE ⟨.Revocation, [2], attestation, some signature⟩) s ∧
    s.volume = crypto.sample.upgraded := by
  have hverify : verify_revocation_link revoke_library revocation_link control_key = .ok ⟨revocation.revokes_link⟩ := by
    have hcheck : check_signature revoke_library .RevocationPayload control_key [2] signature = .ok () := by
      decide +kernel
    have hpayload : decode_canonical revoke_library.revocations [2] = .ok revocation := rfl
    simp [verify_revocation_link, revocation_link, hcheck, hpayload]
  have hends := @commit_revocation_ends Int revoke_library crypto.sample.codecs crypto.sample.env old_key control_key
    enclave revocation_link revocation 1 enclave_current hverify Nat.one_pos
  obtain ⟨result, s, hexec⟩ := hends.exists_exec
  obtain ⟨rfl, hcommitted⟩ := hends.of_exec hexec
  refine ⟨s, [], ?_, hcommitted.volume⟩
  have hpayload : decode_canonical revoke_library.revocations [2] = .ok revocation := rfl
  unfold revoking run_revoke_upgrade
  simp only [signature_verifies, hpayload]
  refine .head (.inl ⟨rfl, [], rfl⟩) ?_
  exact (hexec.mono fun _ _ _ _ => .inl).bind (.refl _ _)

end sample

open sample enclavia.synchronizer.raft.sample in
/-- The rollback command couldn't be started. -/
theorem retried_revocation_finishes_iff_not_started : ∃ (ghost : crypto.State) (message : String) (s : StorageEnclave),
    Program.Exec (RevokeStep revoke_library crypto.sample.codecs crypto.sample.env old_key) revoking enclave
      (.ret (false, message)) s ∧
    Program.Ends (RevokeWorks revoke_library crypto.sample.codecs crypto.sample.env old_key)
      (Revoked old_key true revocation.revokes_link [2] ghost.base) revoking s := by
  obtain ⟨ghost, hrevocable⟩ := enclave_revocable
  obtain ⟨s, attestation, hexec, hvolume⟩ := revoking_commits
  have hfailed := hexec.trans (.head (.inr ⟨crypto.revoke_upgrade crypto.sample.codecs, s.volume, .refl _ _,
    nofun, rfl⟩ : RevokeStep _ _ _ _ s .enclavia_crypto_revoke_upgrade (false, "") _) (.refl _ _))
  refine ⟨ghost, _, _, hfailed, ?_⟩
  refine (retried_revocation_finishes_iff crypto.sample.valid Nat.one_pos (by decide +kernel) signature_verifies rfl
    hrevocable hfailed).mpr ?_
  refine ⟨⟨crypto.sample.to_vec crypto.sample.blob, 1⟩, congrArg crypto.World.stash hvolume, ?_⟩
  rw [hvolume, crypto.sample.upgraded_slots_new]
  nofun

open sample enclavia.synchronizer.raft.sample in
/-- The host didn't take the link. -/
theorem revocation_stuck_after_rollback : ∃ (ghost : crypto.State) (message : String) (s : StorageEnclave),
    Revocable crypto.sample.provision crypto.sample.codecs old_key control_key ghost enclave ∧
    Program.Exec (RevokeStep revoke_library crypto.sample.codecs crypto.sample.env old_key) revoking enclave
      (.ret (false, message)) s ∧
    ¬Program.Ends (RevokeWorks revoke_library crypto.sample.codecs crypto.sample.env old_key)
      (Revoked old_key true revocation.revokes_link [2] ghost.base) revoking s := by
  obtain ⟨ghost, hrevocable⟩ := enclave_revocable
  obtain ⟨s, attestation, hexec, hvolume⟩ := revoking_commits
  have hends := @crypto.revoke_upgrade_ends crypto.sample.provision crypto.sample.codecs crypto.sample.env
    crypto.sample.upgraded ⟨crypto.sample.to_vec crypto.sample.blob, 1⟩ crypto.sample.valid rfl
    crypto.sample.upgraded_slots_current rfl ⟨crypto.sample.blob, rfl, rfl, rfl, rfl⟩ _
    crypto.sample.upgraded_slots_new (by decide)
  obtain ⟨result, volume, hroll⟩ := hends.exists_exec
  obtain ⟨rfl, -, -, hstash⟩ := hends.of_exec hroll
  rw [← hvolume] at hroll
  have hrolled : RevokeStep revoke_library crypto.sample.codecs crypto.sample.env old_key s
      .enclavia_crypto_revoke_upgrade (true, "") { s with volume := volume } := .inl ⟨_, volume, hroll, rfl, rfl⟩
  have hlost : RevokeStep revoke_library crypto.sample.codecs crypto.sample.env old_key { s with volume := volume }
      (.submit_chain_link_to_host ⟨.Revocation, [2], attestation, some signature⟩) (.error "connection reset")
      { s with volume := volume } := .inr (.inl rfl)
  have hfailed := hexec.trans (.head hrolled (.head hlost (.refl _ _)))
  refine ⟨ghost, _, _, hrevocable, hfailed, ?_⟩
  refine (hrevocable.of_exec hfailed).retry_fails crypto.sample.valid Nat.one_pos (by decide +kernel) signature_verifies
    rfl ?_
  rintro ⟨stash, hsome, -⟩
  cases hstash.symm.trans hsome

end enclavia.server
