import Enclavia.Synchronizer.Client
import Enclavia.Synchronizer.Raft.Serve

open interaction enclavia.protocol enclavia.synchronizer enclavia.synchronizer.wire

namespace enclavia.server

def CAPABILITY_REVOCATION : String := "revocation"

def RETRY_BUDGET : Nat := 60000

def RETRY_BACKOFF : Nat := 2000

inductive Failure where
  | Fatal (message : String)
  | Retry (message : String)

inductive RevokeEffect where
  | build_chain_attestation (payload : List UInt8)
  | now
  | dial_relay
  | handshake
  | session_attestation (handshake_hash : List UInt8)
  | authenticate (doc : List UInt8)
  | rpc (request : Request)
  | sleep
  | enclavia_crypto_revoke_upgrade
  | submit_chain_link_to_host (link : ChainLink)

abbrev RevokeAnswer : RevokeEffect → Type
  | .build_chain_attestation _ => Except String (List UInt8)
  | .now => Nat
  | .dial_relay => Except String Unit
  | .handshake => Option (Except client.ClientError (List UInt8))
  | .session_attestation _ => Option (Except String (List UInt8))
  | .authenticate _ => Option (Except client.ClientError (List String))
  | .rpc _ => Option (Except client.ClientError Response)
  | .sleep => Unit
  | .enclavia_crypto_revoke_upgrade => Bool × String
  | .submit_chain_link_to_host _ => Except String Unit

abbrev RevokeProc := Program RevokeEffect RevokeAnswer

def open_session : RevokeProc (Except Failure (List String)) :=
  .act .handshake fun
    | none => .ret (.error (.Retry "synchronizer session setup timed out"))
    | some (.error _) => .ret (.error (.Retry "synchronizer handshake"))
    | some (.ok handshake_hash) =>
      .act (.session_attestation handshake_hash) fun
        | none => .ret (.error (.Retry "synchronizer session setup timed out"))
        | some (.error message) => .ret (.error (.Fatal message))
        | some (.ok doc) =>
          .act (.authenticate doc) fun
            | none => .ret (.error (.Retry "synchronizer session setup timed out"))
            | some (.error .Io) | some (.error .ConnectionClosed) =>
              .ret (.error (.Retry "synchronizer session setup"))
            | some (.error _) => .ret (.error (.Fatal "synchronizer session authentication failed"))
            | some (.ok capabilities) => .ret (.ok capabilities)

def revoke_on (capabilities : List String) (link : ChainLink) : RevokeProc (Except Failure Unit) :=
  if CAPABILITY_REVOCATION ∉ capabilities then
    .ret (.error (.Fatal ("the synchronizer does not advertise `revocation`, so it would not enforce this " ++
      "revocation; refusing to report the upgrade as revoked")))
  else
    .act (.rpc (.Revoke link)) fun
      | none => .ret (.error (.Retry "synchronizer revoke timed out after 30s"))
      | some (.error .Io) | some (.error .ConnectionClosed) => .ret (.error (.Retry "synchronizer session dropped"))
      | some (.error _) => .ret (.error (.Fatal "synchronizer revoke failed"))
      | some (.ok .RevokeOk) => .ret (.ok ())
      | some (.ok (.Err .Unavailable)) =>
        .ret (.error (.Retry "the synchronizer has no quorum right now (Unavailable)"))
      | some (.ok (.Err _)) => .ret (.error (.Fatal "the synchronizer rejected the revocation"))
      | some (.ok _) => .ret (.error (.Fatal "synchronizer revoke failed: unexpected response: expected RevokeOk"))

def revoke_attempt (link : ChainLink) : RevokeProc (Except Failure Unit) :=
  .act .dial_relay fun
    | .error message => .ret (.error (.Retry message))
    | .ok () =>
      open_session.bind fun
        | .error failure => .ret (.error failure)
        | .ok capabilities => revoke_on capabilities link

def commit_loop (link : ChainLink) (deadline : Nat) : (attempts : Nat) → RevokeProc (Except String Unit)
  | 0 => .ret (.error "synchronizer did not commit the revocation within 60s")
  | attempts + 1 =>
    (revoke_attempt link).bind fun
      | .ok () => .ret (.ok ())
      | .error (.Fatal message) => .ret (.error message)
      | .error (.Retry message) =>
        .act .now fun now =>
          if now + RETRY_BACKOFF ≥ deadline then
            .ret (.error s!"synchronizer did not commit the revocation within 60s: {message}")
          else .act .sleep fun _ => commit_loop link deadline attempts

def commit_revocation (attempts : Nat) (link : ChainLink) : RevokeProc (Except String Unit) :=
  .act .now fun now => commit_loop link (now + RETRY_BUDGET) attempts

def verify_payload_signature (pubkey : VerifyingKey) (domain : SignedDomain)
    (chain_payload payload_signature : List UInt8) :
    Except String Unit :=
  match verify_control_signature pubkey domain chain_payload payload_signature with
  | .ok () => .ok ()
  | .error .Shape => .error "payload_signature must be 64 bytes raw r||s"
  | .error .Invalid => .error "payload_signature does not verify under the control pubkey"

def DURABLE : String :=
  (" (the synchronizer already committed the revocation: the upgrade link is revoked for good and can never move " ++
    "the pin; retry to finish the remaining steps)")

def finish_revocation (rollback : Bool) (durable : String) (link : ChainLink) : RevokeProc (Bool × String) :=
  let submit : RevokeProc (Bool × String) := .act (.submit_chain_link_to_host link) fun
    | .error message => .ret (false, s!"chain-host submission failed: {message}{durable}")
    | .ok () => .ret (true, "revoke-upgrade completed: chain link submitted")
  if rollback then
    .act .enclavia_crypto_revoke_upgrade fun (ok, message) =>
      if !ok then .ret (false, s!"storage rollback failed: {message}{durable}") else submit
  else submit

variable {DateTime : Type} (lib : LinkLibrary DateTime)

def run_revoke_upgrade (pubkey : VerifyingKey) (synchronizer_trust : Bool) (attempts : Nat)
    (chain_payload payload_signature : List UInt8) (rollback : Bool) : RevokeProc (Bool × String) :=
  match verify_payload_signature pubkey .RevocationPayload chain_payload payload_signature with
  | .error message => .ret (false, message)
  | .ok () =>
    match decode_canonical lib.revocations chain_payload with
    | .error error => .ret (false, s!"chain payload is not a valid RevocationPayload: {error.message}")
    | .ok _ =>
      .act (.build_chain_attestation chain_payload) fun
        | .error message => .ret (false, s!"chain attestation failed: {message}")
        | .ok attestation =>
          let link : ChainLink := ⟨.Revocation, chain_payload, attestation, some payload_signature⟩
          if synchronizer_trust then
            (commit_revocation attempts link).bind fun
              | .error message =>
                .ret (false, s!"synchronizer did not commit the revocation, upgrade NOT revoked: {message}")
              | .ok () => finish_revocation rollback DURABLE link
          else finish_revocation rollback "" link

/-- What can't be taken back: the rollback of the staged key, and the emission of the link. -/
def Irrevocable : RevokeEffect → Prop
  | .enclavia_crypto_revoke_upgrade | .submit_chain_link_to_host _ => True
  | _ => False

def Confirms (chain_payload : List UInt8) (event : Event RevokeAnswer) : Prop :=
  ∃ link : ChainLink, link.payload = chain_payload ∧ event = ⟨.rpc (.Revoke link), some (.ok .RevokeOk)⟩

def Reversible (_ : List (Event RevokeAnswer)) (effect : RevokeEffect) : Prop := ¬Irrevocable effect

variable {lib} {link : ChainLink} {history trace : List (Event RevokeAnswer)}

theorem open_session_asks : Program.Asks Reversible history open_session := by
  refine ⟨nofun, ?_⟩
  rintro (_ | (error | handshake_hash))
  · trivial
  · trivial
  refine ⟨nofun, ?_⟩
  rintro (_ | (message | doc))
  · trivial
  · trivial
  refine ⟨nofun, ?_⟩
  rintro (_ | (error | capabilities))
  · trivial
  · cases error <;> trivial
  · trivial

theorem revoke_on_asks {capabilities : List String} :
    Program.Asks Reversible history (revoke_on capabilities link) := by
  unfold revoke_on
  split
  · trivial
  refine ⟨nofun, ?_⟩
  rintro (_ | (error | response))
  · trivial
  · cases error <;> trivial
  · cases response with
    | Err error => cases error <;> trivial
    | _ => trivial

theorem revoke_attempt_asks : Program.Asks Reversible history (revoke_attempt link) := by
  refine ⟨nofun, ?_⟩
  rintro (message | _)
  · trivial
  refine open_session_asks.bind ?_
  rintro trace (failure | capabilities) -
  · trivial
  · exact revoke_on_asks

theorem commit_loop_asks {deadline attempts : Nat} :
    Program.Asks Reversible history (commit_loop link deadline attempts) := by
  induction attempts generalizing history with
  | zero => trivial
  | succ attempts ih =>
    refine revoke_attempt_asks.bind ?_
    rintro trace ((message | message) | _) -
    · trivial
    · refine ⟨nofun, fun now => ?_⟩
      dsimp only
      split
      · trivial
      · exact ⟨nofun, fun _ => ih⟩
    · trivial

theorem revoke_attempt_ok (h : (revoke_attempt link).Returns trace (.ok ())) :
    ⟨.rpc (.Revoke link), some (.ok .RevokeOk)⟩ ∈ trace := by
  obtain ⟨answer, rest, rfl, hopen⟩ := Program.returns_act.mp h
  rcases answer with message | _
  · exact nomatch (Program.returns_ret.mp hopen).2
  obtain ⟨first, second, result, rfl, -, hrevoke⟩ := Program.returns_bind.mp hopen
  rcases result with failure | capabilities
  · exact nomatch (Program.returns_ret.mp hrevoke).2
  dsimp only [revoke_on] at hrevoke
  split at hrevoke
  · exact nomatch (Program.returns_ret.mp hrevoke).2
  obtain ⟨answer, rest, rfl, hanswer⟩ := Program.returns_act.mp hrevoke
  split at hanswer
  case h_5 => simp
  all_goals exact nomatch (Program.returns_ret.mp hanswer).2

theorem commit_loop_ok {deadline attempts : Nat} (h : (commit_loop link deadline attempts).Returns trace (.ok ())) :
    ⟨.rpc (.Revoke link), some (.ok .RevokeOk)⟩ ∈ trace := by
  induction attempts generalizing trace with
  | zero => exact nomatch (Program.returns_ret.mp h).2
  | succ attempts ih =>
    obtain ⟨first, second, result, rfl, hattempt, hrest⟩ := Program.returns_bind.mp h
    rcases result with (message | message) | _
    · exact nomatch (Program.returns_ret.mp hrest).2
    · obtain ⟨now, rest, rfl, hnow⟩ := Program.returns_act.mp hrest
      split at hnow
      · exact nomatch (Program.returns_ret.mp hnow).2
      · obtain ⟨_, rest, rfl, hloop⟩ := Program.returns_act.mp hnow
        exact List.mem_append_right _ (List.mem_cons_of_mem _ (List.mem_cons_of_mem _ (ih hloop)))
    · exact List.mem_append_left _ (revoke_attempt_ok hattempt)

theorem finish_revocation_asks {chain_payload : List UInt8} {rollback : Bool} {durable : String}
    (hconfirmed : ∃ event ∈ history, Confirms chain_payload event) :
    Program.Asks (fun history effect => Irrevocable effect → ∃ event ∈ history, Confirms chain_payload event) history
      (finish_revocation rollback durable link) := by
  have hsubmit {history : List (Event RevokeAnswer)} (hconfirmed : ∃ event ∈ history, Confirms chain_payload event) :
      Program.Asks (fun history effect => Irrevocable effect → ∃ event ∈ history, Confirms chain_payload event) history
        (.act (.submit_chain_link_to_host link) fun
          | .error message => .ret (false, s!"chain-host submission failed: {message}{durable}")
          | .ok () => .ret (true, "revoke-upgrade completed: chain link submitted")) := by
    refine ⟨fun _ => hconfirmed, ?_⟩
    rintro (message | _) <;> trivial
  unfold finish_revocation
  dsimp only
  split
  · refine ⟨fun _ => hconfirmed, ?_⟩
    rintro ⟨ok, message⟩
    dsimp only
    split
    · trivial
    · obtain ⟨event, hmem, hconfirms⟩ := hconfirmed
      exact hsubmit ⟨event, List.mem_append_left _ hmem, hconfirms⟩
  · exact hsubmit hconfirmed

section Pinned

variable {pubkey : VerifyingKey} {attempts : Nat} {chain_payload payload_signature : List UInt8} {rollback : Bool}

theorem run_revoke_upgrade_asks :
    Program.Asks (fun history effect => Irrevocable effect → ∃ event ∈ history, Confirms chain_payload event) []
      (run_revoke_upgrade lib pubkey true attempts chain_payload payload_signature rollback) := by
  unfold run_revoke_upgrade
  split
  · trivial
  split
  · trivial
  refine ⟨nofun, ?_⟩
  rintro (message | attestation)
  · trivial
  refine Program.Asks.bind ⟨nofun, fun now => commit_loop_asks.mono fun _ _ h hirrevocable => absurd hirrevocable h⟩ ?_
  rintro trace (message | _) hcommit
  · trivial
  obtain ⟨now, rest, rfl, hloop⟩ := Program.returns_act.mp hcommit
  have hmem := commit_loop_ok hloop
  exact finish_revocation_asks ⟨_, List.mem_append_right _ (List.mem_cons_of_mem _ hmem), _, rfl, rfl⟩

theorem run_revoke_upgrade_ok {message : String}
    (h : (run_revoke_upgrade lib pubkey true attempts chain_payload payload_signature rollback).Returns trace
      (true, message)) :
    ∃ event ∈ trace, Confirms chain_payload event := by
  unfold run_revoke_upgrade at h
  split at h
  · exact nomatch (Program.returns_ret.mp h).2
  split at h
  · exact nomatch (Program.returns_ret.mp h).2
  obtain ⟨answer, rest, rfl, hlink⟩ := Program.returns_act.mp h
  rcases answer with message | attestation
  · exact nomatch (Program.returns_ret.mp hlink).2
  obtain ⟨first, second, result, rfl, hcommit, hfinish⟩ := Program.returns_bind.mp hlink
  rcases result with message | _
  · exact nomatch (Program.returns_ret.mp hfinish).2
  obtain ⟨now, rest, rfl, hloop⟩ := Program.returns_act.mp hcommit
  have hmem := commit_loop_ok hloop
  exact ⟨_, List.mem_cons_of_mem _ (List.mem_append_left _ (List.mem_cons_of_mem _ hmem)), _, rfl, rfl⟩

end Pinned

end enclavia.server
