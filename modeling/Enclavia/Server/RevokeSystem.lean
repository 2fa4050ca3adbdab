import Enclavia.Server.Revoke
import Enclavia.Synchronizer.Raft.Revocation
import Enclavia.Synchronizer.Raft.TransitionAuthenticity
import Mathlib.Logic.Relation

open interaction enclavia.protocol enclavia.synchronizer enclavia.synchronizer.wire enclavia.synchronizer.raft

namespace enclavia.server

/-- An enclave that revokes an upgrade, next to the committed log of the synchronizer. -/
structure Revoking where
  log : List ReplicatedOp
  program : RevokeProc (Bool × String)
  history : List (Event RevokeAnswer × Nat)

def AppliedIn (log : List ReplicatedOp) (op : ReplicatedOp) : Prop :=
  ∃ before after state, log = before ++ op :: after ∧ (apply_one (replay before) op).1 = .Applied state

def Served {DateTime : Type} (lib : LinkLibrary DateTime) (build : Build) (session_key : PcrKey)
    (control_pubkey : ControlPubkey) (log : List ReplicatedOp) (request : Request) (response : Response) : Prop :=
  ∃ events answered, (handle_on_leader lib build session_key control_pubkey request).Returns events answered ∧
    answered.response = response ∧
    ∀ op state, (⟨.client_write op, .committed (.Applied state)⟩ : ServeEvent) ∈ events → AppliedIn log op

variable {log : List ReplicatedOp}

namespace Revoking

variable {DateTime : Type} (lib : LinkLibrary DateTime) (build : Build) (own_key : PcrKey)
    (control_pubkey : ControlPubkey)

def Allows (log : List ReplicatedOp) : (effect : RevokeEffect) → RevokeAnswer effect → Prop
  | .rpc request, some (.ok response) =>
    (∀ error, response ≠ .Err error) → Served lib build own_key control_pubkey log request response
  | _, _ => True

/-- Whatever is committed at any time, also attempts whose answers are lost, or the enclave gets an answer. -/
inductive Step (s : Revoking) : Revoking → Prop
  | commit (op : ReplicatedOp) : Step s { s with log := s.log ++ [op] }
  | answer {effect : RevokeEffect} {next : RevokeAnswer effect → RevokeProc (Bool × String)}
      (hprogram : s.program = .act effect next) (answer : RevokeAnswer effect)
      (hallows : Allows lib build own_key control_pubkey s.log effect answer) :
      Step s { s with program := next answer, history := s.history ++ [(⟨effect, answer⟩, s.log.length)] }

def Reaches : Revoking → Revoking → Prop := Relation.ReflTransGen (Step lib build own_key control_pubkey)

def start (program : RevokeProc (Bool × String)) (log : List ReplicatedOp) : Revoking := ⟨log, program, []⟩

variable {lib build own_key control_pubkey} {s t : Revoking} {program : RevokeProc (Bool × String)}

theorem served_revoke {link : ChainLink} (h : Served lib build own_key control_pubkey log (.Revoke link) .RevokeOk) :
    ∃ payload, decode_canonical lib.revocations link.payload = .ok payload ∧
      AppliedIn log (.Revoke own_key payload.revokes_link) := by
  obtain ⟨events, answered, hreturns, hresponse, hwrites⟩ := h
  obtain ⟨answer, rest, rfl, hverify⟩ := Program.returns_act.mp hreturns
  rcases answer with _ | state
  · obtain ⟨-, rfl⟩ := Program.returns_ret.mp hverify
    cases hresponse
  dsimp only at hverify
  split at hverify
  · obtain ⟨-, rfl⟩ := Program.returns_ret.mp hverify
    cases hresponse
  next verified hverified =>
  obtain ⟨payload, hpayload, rfl⟩ := verify_revocation_link_ok hverified
  refine ⟨payload, hpayload, ?_⟩
  obtain ⟨first, second, result, rfl, hwrite, hanswer⟩ := Program.returns_bind.mp hverify
  obtain ⟨outcome, rest, rfl, hresult⟩ := Program.returns_act.mp hwrite
  rcases result with error | entry
  · exfalso
    cases error <;> (obtain ⟨-, rfl⟩ := Program.returns_ret.mp hanswer; cases hresponse)
  · split at hresult
    · exact hwrites _ _ (List.mem_cons_of_mem _ (List.mem_append_left _ List.mem_cons_self))
    all_goals exact nomatch (Program.returns_ret.mp hresult).2

variable (lib build own_key control_pubkey program) in
/-- The enclave has run its program over its history, and each answer was allowed by the log of its moment. -/
structure Inv (s : Revoking) : Prop where
  run : program.Run (s.history.map (·.1)) s.program
  grown : ∀ item ∈ s.history, item.2 ≤ s.log.length
  sorted : s.history.Pairwise fun first second => first.2 ≤ second.2
  allowed : ∀ item ∈ s.history, Allows lib build own_key control_pubkey (s.log.take item.2) item.1.1 item.1.2

theorem Inv.start (log : List ReplicatedOp) :
    Inv lib build own_key control_pubkey program (start program log) := by
  constructor
  · exact .nil _
  all_goals simp [Revoking.start]

theorem Inv.step (h : Inv lib build own_key control_pubkey program s)
    (hstep : Step lib build own_key control_pubkey s t) : Inv lib build own_key control_pubkey program t := by
  cases hstep with
  | commit op =>
    refine ⟨h.run, fun item hitem => ?_, h.sorted, fun item hitem => ?_⟩
    · have hle := h.grown item hitem
      simp only [List.length_append]
      omega
    · rw [List.take_append_of_le_length (h.grown item hitem)]
      exact h.allowed item hitem
  | answer hprogram answer hallows =>
    have hrun := h.run
    rw [hprogram] at hrun
    constructor
    · simp only [List.map_append, List.map_cons, List.map_nil]
      exact hrun.snoc answer
    · intro item hitem
      rcases List.mem_append.mp hitem with hitem | hitem
      · exact h.grown item hitem
      · cases List.mem_singleton.mp hitem
        exact Nat.le_refl _
    · refine List.pairwise_append.mpr ⟨h.sorted, List.pairwise_singleton .., fun item hitem last hlast => ?_⟩
      rw [List.mem_singleton.mp hlast]
      exact h.grown item hitem
    · intro item hitem
      rcases List.mem_append.mp hitem with hitem | hitem
      · exact h.allowed item hitem
      · rw [List.mem_singleton.mp hitem, List.take_length]
        exact hallows

theorem Inv.reaches (hreaches : Reaches lib build own_key control_pubkey (.start program log) s) :
    Inv lib build own_key control_pubkey program s := by
  induction hreaches with
  | refl => exact .start log
  | tail _ hstep ih => exact ih.step hstep

theorem first_confirmation {chain_payload : List UInt8} {history : List (Event RevokeAnswer × Nat)}
    (h : ∃ item ∈ history, Confirms chain_payload item.1) :
    ∃ before item after, history = before ++ item :: after ∧ Confirms chain_payload item.1 ∧
      ∀ earlier ∈ before, ¬Confirms chain_payload earlier.1 := by
  induction history with
  | nil => simp at h
  | cons first rest ih =>
    by_cases hfirst : Confirms chain_payload first.1
    · exact ⟨[], first, rest, rfl, hfirst, by simp⟩
    · obtain ⟨item, hmem, hconfirms⟩ := h
      rcases List.mem_cons.mp hmem with rfl | hmem
      · exact absurd hconfirms hfirst
      · obtain ⟨before, item, after, rfl, hconfirms, hbefore⟩ := ih ⟨item, hmem, hconfirms⟩
        refine ⟨first :: before, item, after, rfl, hconfirms, fun earlier hmem => ?_⟩
        rcases List.mem_cons.mp hmem with rfl | hmem
        · exact hfirst
        · exact hbefore earlier hmem

theorem transition_rejected {before : List ReplicatedOp} {key : PcrKey} {link_hash : Bytes32} {state : KeyState}
    (happlied : (apply_one (replay before) (.Revoke key link_hash)).1 = .Applied state) (later : List ReplicatedOp)
    (new_key : PcrKey) (new_control_pubkey : ControlPubkey) (valid_until_ms : Int64) (commitment : Commitment) :
    ∃ e, (apply_one (replay (before ++ .Revoke key link_hash :: later))
      (.Transition key new_key new_control_pubkey link_hash valid_until_ms commitment)).1 = .Rejected e := by
  rw [apply_one_result]
  exact View.apply_transition_revoked (replay_is_revoked happlied)

end Revoking

section Pinned

variable {DateTime : Type} {lib : LinkLibrary DateTime} {build : Build} {own_key : PcrKey}
  {control_pubkey : ControlPubkey} {pubkey : VerifyingKey} {attempts : Nat}
  {chain_payload payload_signature : List UInt8} {rollback : Bool} {log : List ReplicatedOp} {s : Revoking}

theorem Revoking.confirmed_before
    (hinv : s.Inv lib build own_key control_pubkey
      (run_revoke_upgrade lib pubkey true attempts chain_payload payload_signature rollback))
    {before after : List (Event RevokeAnswer × Nat)} {item : Event RevokeAnswer × Nat}
    (hsplit : s.history = before ++ item :: after) (hirrevocable : Irrevocable item.1.1) :
    ∃ earlier ∈ before, Confirms chain_payload earlier.1 := by
  have hrun := hinv.run
  rw [hsplit, List.map_append, List.map_cons] at hrun
  obtain ⟨event, hmem, hconfirms⟩ := run_revoke_upgrade_asks.of_run hrun hirrevocable
  rw [List.nil_append, List.mem_map] at hmem
  obtain ⟨earlier, hearlier, rfl⟩ := hmem
  exact ⟨earlier, hearlier, hconfirms⟩

/-- An enclave that pins its storage revokes an upgrade, next to anything else that is committed. -/
theorem revocation_is_final (hreaches : Revoking.Reaches lib build own_key control_pubkey
      (.start (run_revoke_upgrade lib pubkey true attempts chain_payload payload_signature rollback) log) s) :
    (∀ message, s.program = .ret (true, message) → ∃ payload before after state,
      decode_canonical lib.revocations chain_payload = .ok payload ∧
      s.log = before ++ .Revoke own_key payload.revokes_link :: after ∧
      (apply_one (replay before) (.Revoke own_key payload.revokes_link)).1 = .Applied state ∧
      (∀ item ∈ s.history, Irrevocable item.1.1 → before.length < item.2) ∧
      ∀ later new_key new_control_pubkey valid_until_ms commitment, ∃ e,
        (apply_one (replay (before ++ .Revoke own_key payload.revokes_link :: later))
          (.Transition own_key new_key new_control_pubkey payload.revokes_link valid_until_ms commitment)).1 =
            .Rejected e) ∧
    ((∀ item ∈ s.history, ¬Confirms chain_payload item.1) → ∀ item ∈ s.history, ¬Irrevocable item.1.1) := by
  have hinv := Revoking.Inv.reaches hreaches
  constructor
  · intro message hdone
    have hrun := hinv.run
    rw [hdone] at hrun
    obtain ⟨event, hmem, hconfirms⟩ := run_revoke_upgrade_ok hrun
    obtain ⟨confirmation, hconfirmation, rfl⟩ := List.mem_map.mp hmem
    obtain ⟨first, item, rest, hhistory, ⟨link, hlink, hevent⟩, hfirst⟩ :=
      Revoking.first_confirmation ⟨confirmation, hconfirmation, hconfirms⟩
    have hitem : item ∈ s.history := hhistory ▸ List.mem_append_right _ List.mem_cons_self
    have hallowed := hinv.allowed item hitem
    rw [hevent] at hallowed
    obtain ⟨payload, hpayload, before, after, state, hlog, happlied⟩ :=
      Revoking.served_revoke (hallowed (fun _ => nofun))
    have hlength : before.length < item.2 := by
      have h := congrArg List.length hlog
      simp only [List.length_take, List.length_append, List.length_cons] at h
      omega
    refine ⟨payload, before, after ++ s.log.drop item.2, state, hlink ▸ hpayload, ?_, happlied, ?_,
      Revoking.transition_rejected happlied⟩
    · rw [← List.cons_append, ← List.append_assoc, ← hlog, List.take_append_drop]
    · intro item' hitem' hirrevocable
      rw [hhistory] at hitem'
      rcases List.mem_append.mp hitem' with hearly | hlate
      · -- nothing irrevocable comes before the first confirmation
        obtain ⟨a, b, rfl⟩ := List.append_of_mem hearly
        obtain ⟨earlier, hearlier, hconfirms⟩ := Revoking.confirmed_before hinv
          (hhistory.trans (List.append_assoc ..)) hirrevocable
        exact absurd hconfirms (hfirst earlier (List.mem_append_left _ hearlier))
      · rcases List.mem_cons.mp hlate with rfl | hlate
        · exact hlength
        · have hsorted := hinv.sorted
          rw [hhistory] at hsorted
          have hle := (List.pairwise_cons.mp (List.pairwise_append.mp hsorted).2.1).1 item' hlate
          omega
  · intro hunconfirmed item hitem hirrevocable
    obtain ⟨before, after, hsplit⟩ := List.append_of_mem hitem
    obtain ⟨earlier, hearlier, hconfirms⟩ := Revoking.confirmed_before hinv hsplit hirrevocable
    exact hunconfirmed earlier (hsplit ▸ List.mem_append_left _ hearlier) hconfirms

end Pinned

namespace sample

open enclavia.synchronizer.raft.sample

def revocation : RevocationPayload Int := ⟨0, 0, 0, [], crypto.sha256 [1]⟩

def revoke_library : LinkLibrary Int :=
  { link_library with revocations := { encode := fun _ => [2], from_reader := fun _ => .ok revocation } }

def control_key : ControlPubkey := Vector.replicate 65 4

def signature : List UInt8 := (signed_message .RevocationPayload [2] ++ List.replicate 64 0).take 64

def revocation_link : ChainLink := ⟨.Revocation, [2], [], some signature⟩

def revoking : RevokeProc (Bool × String) :=
  run_revoke_upgrade revoke_library (verifying_key revoke_library control_key) true 1 [2] signature true

def answers : List (Event RevokeAnswer) :=
  [⟨.build_chain_attestation [2], .ok []⟩, ⟨.now, (0 : Nat)⟩, ⟨.dial_relay, .ok ()⟩, ⟨.handshake, some (.ok [])⟩,
    ⟨.session_attestation [], some (.ok [])⟩, ⟨.authenticate [], some (.ok ["revocation"])⟩,
    ⟨.rpc (.Revoke revocation_link), some (.ok .RevokeOk)⟩, ⟨.enclavia_crypto_revoke_upgrade, (true, "")⟩,
    ⟨.submit_chain_link_to_host revocation_link, .ok ()⟩]

theorem revoking_returns : revoking.Returns answers (true, "revoke-upgrade completed: chain link submitted") := by
  have hsignature : verify_payload_signature (verifying_key revoke_library control_key) .RevocationPayload [2]
    signature =
      .ok () := by decide +kernel
  have hpayload : decode_canonical revoke_library.revocations [2] = .ok revocation := rfl
  have hsession : open_session.Returns [⟨.handshake, some (.ok [])⟩, ⟨.session_attestation [], some (.ok [])⟩,
      ⟨.authenticate [], some (.ok ["revocation"])⟩] (.ok ["revocation"]) := .cons (.cons (.cons (.nil _)))
  have hrevoke : (revoke_on ["revocation"] revocation_link).Returns
      [⟨.rpc (.Revoke revocation_link), some (.ok .RevokeOk)⟩] (.ok ()) := .cons (.nil _)
  have hattempt : (revoke_attempt revocation_link).Returns ((answers.drop 2).take 5) (.ok ()) :=
    .cons (Program.returns_bind.mpr ⟨_, _, _, rfl, hsession, hrevoke⟩)
  have hcommit : (commit_revocation 1 revocation_link).Returns ((answers.drop 1).take 6) (.ok ()) :=
    .cons (Program.returns_bind.mpr ⟨_, [], _, rfl, hattempt, .nil _⟩)
  have hfinish : (finish_revocation true DURABLE revocation_link).Returns (answers.drop 7)
      (true, "revoke-upgrade completed: chain link submitted") := .cons (.cons (.nil _))
  unfold revoking run_revoke_upgrade
  simp only [hsignature, hpayload]
  exact .cons (Program.returns_bind.mpr ⟨_, _, _, rfl, hcommit, hfinish⟩)

theorem reaches_of_run {lib : LinkLibrary Int} {build : Build} {own_key : PcrKey} {control_pubkey : ControlPubkey}
    {events : List (Event RevokeAnswer)} {current program : RevokeProc (Bool × String)}
    (hrun : current.Run events program)
    (hallows : ∀ event ∈ events, Revoking.Allows lib build own_key control_pubkey log event.1 event.2)
    (history : List (Event RevokeAnswer × Nat)) :
    Revoking.Reaches lib build own_key control_pubkey ⟨log, current, history⟩
      ⟨log, program, history ++ events.map (·, log.length)⟩ := by
  induction hrun generalizing history with
  | nil =>
    rw [List.map_nil, List.append_nil]
    exact .refl
  | @cons effect next answer trace q htail ih =>
    have hstep : Revoking.Step lib build own_key control_pubkey ⟨log, .act effect next, history⟩
        ⟨log, next answer, history ++ [(⟨effect, answer⟩, log.length)]⟩ :=
      .answer rfl answer (hallows _ List.mem_cons_self)
    have hrest := ih (fun event hevent => hallows event (List.mem_cons_of_mem _ hevent))
      (history ++ [(⟨effect, answer⟩, log.length)])
    rw [List.append_assoc] at hrest
    exact .head hstep hrest

def with_revocation (log : List ReplicatedOp) (key : PcrKey) : List ReplicatedOp :=
  log ++ [.Revoke key (crypto.sha256 [1])]

def revoked (log : List ReplicatedOp) (key : PcrKey) : Revoking :=
  ⟨with_revocation log key, .ret (true, "revoke-upgrade completed: chain link submitted"),
    answers.map (·, (with_revocation log key).length)⟩

theorem reaches_revoked {key : PcrKey} {state : KeyState} (entry : KeyState)
    (hkey : entry.control_pubkey = control_key)
    (happlied : (apply_one (replay log) (.Revoke key (crypto.sha256 [1]))).1 = .Applied state) :
    Revoking.Reaches revoke_library ⟨false, false⟩ key control_key (.start revoking log) (revoked log key) := by
  have hsignature : check_signature revoke_library .RevocationPayload control_key [2] signature = .ok () := by
    decide +kernel
  have hpayload : decode_canonical revoke_library.revocations [2] = .ok revocation := rfl
  have hverified : verify_revocation_link revoke_library revocation_link entry.control_pubkey =
      .ok ⟨crypto.sha256 [1]⟩ := by
    rw [hkey]
    simp [verify_revocation_link, revocation_link, hsignature, hpayload, revocation]
  have hserved : Served revoke_library ⟨false, false⟩ key control_key (with_revocation log key)
      (.Revoke revocation_link) .RevokeOk := by
    refine ⟨[⟨.get key, some entry⟩, ⟨.client_write (.Revoke key (crypto.sha256 [1])), .committed (.Applied state)⟩],
      .new .RevokeOk, ?_, rfl, ?_⟩
    · refine .cons ?_
      simp only [hverified]
      exact .cons (.nil _)
    · intro op state' hmem
      simp only [List.mem_cons, List.not_mem_nil, or_false] at hmem
      rcases hmem with hmem | hmem
      · cases hmem
      · cases hmem
        exact ⟨log, [], state, rfl, happlied⟩
  have hcommit : Revoking.Step revoke_library ⟨false, false⟩ key control_key (.start revoking log)
      ⟨with_revocation log key, revoking, []⟩ := .commit _
  refine .head hcommit (reaches_of_run revoking_returns ?_ [])
  intro event hmem
  simp only [answers, List.mem_cons, List.not_mem_nil, or_false] at hmem
  rcases hmem with rfl | rfl | rfl | rfl | rfl | rfl | rfl | rfl | rfl
  case inr.inr.inr.inr.inr.inr.inl => exact fun _ => hserved
  all_goals trivial

def other_key : PcrKey := ⟨Vector.replicate 32 9⟩

def other_log : List ReplicatedOp :=
  .Register other_key ⟨Vector.replicate 32 7⟩ control_key :: (before_read ++ after_read)

def held : KeyState := ⟨⟨Vector.replicate 32 7⟩, ⟨0⟩, control_key⟩

end sample

open sample enclavia.synchronizer.raft.sample in
/-- The enclave revokes its own upgrade. -/
theorem revocation_is_final_upgrade : ∃ before after state,
    (revoked before_read old_key).log = before ++ .Revoke old_key (crypto.sha256 [1]) :: after ∧
    (apply_one (replay before) (.Revoke old_key (crypto.sha256 [1]))).1 = .Applied state ∧
    (∀ item ∈ (revoked before_read old_key).history, Irrevocable item.1.1 → before.length < item.2) ∧
    ∀ later new_key new_control_pubkey valid_until_ms commitment, ∃ e,
      (apply_one (replay (before ++ .Revoke old_key (crypto.sha256 [1]) :: later))
        (.Transition old_key new_key new_control_pubkey (crypto.sha256 [1]) valid_until_ms commitment)).1 =
          .Rejected e := by
  have happlied : (apply_one (replay before_read) (.Revoke old_key (crypto.sha256 [1]))).1 = .Applied held := by
    decide +kernel
  obtain ⟨payload, before, after, state, hpayload, hrest⟩ :=
    (revocation_is_final (reaches_revoked held rfl happlied)).1 _ rfl
  cases hpayload
  exact ⟨before, after, state, hrest⟩

open sample enclavia.synchronizer.raft.sample in
/-- An enclave of the same owner is told to revoke the upgrade of another one. -/
theorem upgrade_of_another_key_not_revoked : ∃ s : Revoking, ∃ payload state,
    Revoking.Reaches revoke_library ⟨false, false⟩ other_key control_key (.start revoking other_log) s ∧
    s.program = .ret (true, "revoke-upgrade completed: chain link submitted") ∧
    decode_canonical revoke_library.revocations [2] = .ok payload ∧
    payload.revokes_link = upgrade_link_hash upgrade_link.payload ∧
    (apply_one (replay s.log) (.Transition old_key new_key (Vector.replicate 65 5) payload.revokes_link
      (Int64.ofInt 4600000) ⟨Vector.replicate 32 8⟩)).1 = .Applied state := by
  have happlied : (apply_one (replay other_log) (.Revoke other_key (crypto.sha256 [1]))).1 = .Applied held := by
    decide +kernel
  refine ⟨revoked other_log other_key, revocation, ⟨⟨Vector.replicate 32 8⟩, ⟨1⟩, Vector.replicate 65 5⟩,
    reaches_revoked held rfl happlied, rfl, rfl, rfl, ?_⟩
  decide +kernel

end enclavia.server
