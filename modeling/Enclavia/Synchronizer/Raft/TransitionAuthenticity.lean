import Enclavia.Synchronizer.Raft.Births
import Enclavia.Synchronizer.Raft.Serve
import Enclavia.Synchronizer.Raft.ViewSteps

open interaction enclavia.protocol enclavia.synchronizer.wire

namespace enclavia.synchronizer.raft

variable {DateTime : Type} {lib : LinkLibrary DateTime} {build : Build}

theorem asks_client_write {I : List ServeEvent → ServeEffect → Prop} {history : List ServeEvent}
    {op : ReplicatedOp} {f : Except RaftHandleError KeyState → ServeProc Answered}
    (hop : I history (.client_write op)) (hf : ∀ history result, Program.Asks I history (f result)) :
    Program.Asks I history ((RaftHandle.client_write op).bind f) := by
  refine Program.Asks.bind ⟨hop, ?_⟩ fun _ result _ => hf _ result
  intro outcome
  cases outcome with
  | committed result => cases result <;> trivial
  | failed message | elapsed => trivial

def SubmitsVerified (lib : LinkLibrary DateTime) (build : Build) (session_key : PcrKey)
    (control_pubkey : ControlPubkey) (request : Request) (history : List ServeEvent) : ServeEffect → Prop
  | .client_write (.Transition old_key new_key new_control_pubkey link_hash valid_until_ms commitment) =>
    ∃ link payload state now_ms, request = .Transition link commitment ∧
      ⟨.get old_key, some state⟩ ∈ history ∧ ⟨.now_ms, .ok now_ms⟩ ∈ history ∧
      Authorizes lib build link old_key new_key state.control_pubkey now_ms payload ∧
      new_key = session_key ∧ new_control_pubkey = control_pubkey ∧
      link_hash = upgrade_link_hash link.payload ∧
      valid_until_ms = lib.chrono.timestamp_millis payload.valid_until
  | _ => True

theorem handle_transition_submits_verified (session_key : PcrKey) (control_pubkey : ControlPubkey)
    (link : ChainLink) (commitment : Commitment) :
    Program.Asks (SubmitsVerified lib build session_key control_pubkey (.Transition link commitment)) []
      (handle_transition lib build session_key control_pubkey link commitment) := by
  unfold handle_transition
  cases hdecoded : decode_transition_link lib link with
  | error error => trivial
  | ok decoded =>
    refine ⟨trivial, ?_⟩
    intro answer
    cases answer with
    | none => trivial
    | some state =>
      refine ⟨trivial, ?_⟩
      intro answer
      cases answer with
      | error message => trivial
      | ok now_ms =>
        dsimp only
        cases hverified : verify_transition_link lib build link decoded session_key state.control_pubkey now_ms with
        | error error => trivial
        | ok verified =>
          obtain ⟨payload, hauthorizes, hsession, rfl⟩ := verify_transition_link_ok hdecoded hverified
          refine asks_client_write ?_ ?_
          · exact ⟨link, payload, state, now_ms, rfl, by simp, by simp, hauthorizes, hsession, rfl, rfl, rfl⟩
          · intro history result
            split <;> trivial

theorem handle_on_leader_submits_verified (session_key : PcrKey) (control_pubkey : ControlPubkey)
    (request : Request) :
    Program.Asks (SubmitsVerified lib build session_key control_pubkey request) []
      (handle_on_leader lib build session_key control_pubkey request) := by
  cases request with
  | Get key =>
    simp only [handle_on_leader, handle_get]
    split
    · trivial
    · refine Program.Asks.bind ⟨trivial, ?_⟩ ?_
      · intro outcome
        cases outcome with
        | linearizable => exact ⟨trivial, fun _ => trivial⟩
        | failed message | elapsed => trivial
      · intro trace result _
        split <;> trivial
  | Register key commitment =>
    simp only [handle_on_leader, handle_register]
    split
    · trivial
    · exact asks_client_write trivial fun _ result => by split <;> trivial
  | Pin key expected_version commitment =>
    simp only [handle_on_leader, handle_pin]
    split
    · trivial
    · exact asks_client_write trivial fun _ result => by split <;> trivial
  | Transition link commitment => exact handle_transition_submits_verified session_key control_pubkey link commitment
  | Revoke link =>
    refine ⟨trivial, ?_⟩
    intro answer
    cases answer with
    | none => trivial
    | some state =>
      dsimp only
      cases verify_revocation_link lib link state.control_pubkey with
      | error error => trivial
      | ok verified => exact asks_client_write trivial fun _ result => by split <;> trivial

theorem transition_applied {sm : StateMachine} {old_key new_key : PcrKey} {new_control_pubkey : ControlPubkey}
    {link_hash : Bytes32} {valid_until_ms : Int64} {commitment : Commitment} {state : KeyState}
    (happlied : (apply_one sm (.Transition old_key new_key new_control_pubkey link_hash valid_until_ms
      commitment)).1 = .Applied state) :
    ∃ entry, sm.get old_key = some entry ∧ entry.commitment = commitment := by
  rw [apply_one_result] at happlied
  have happlies := View.apply_applied happlied
  generalize ((view sm).apply _).2 = after at happlies
  cases happlies with
  | transition hne hlive => exact ⟨_, hlive, rfl⟩

/-- A transition that applies is authentic, whatever was committed between the leader's read (the log `before`) and the
entry. -/
theorem transition_authentic (hraw : lib.RawSignatures) {session_key : PcrKey} {control_pubkey : ControlPubkey}
    {request : Request} {events : List ServeEvent} {old_key new_key : PcrKey} {new_control_pubkey : ControlPubkey}
    {link_hash : Bytes32} {valid_until_ms : Int64} {commitment : Commitment}
    {next : WriteOutcome → ServeProc Answered}
    (hsubmits : Program.Run (handle_on_leader lib build session_key control_pubkey request) events
      (.act (.client_write (.Transition old_key new_key new_control_pubkey link_hash valid_until_ms
        commitment)) next))
    {before between : List ReplicatedOp}
    (hread : ∀ key answer, (⟨.get key, answer⟩ : ServeEvent) ∈ events → answer = (replay before).get key)
    {state : KeyState}
    (happlied : (apply_one (replay (before ++ between)) (.Transition old_key new_key new_control_pubkey
      link_hash valid_until_ms commitment)).1 = .Applied state) :
    ∃ link payload signature entry now_ms, request = .Transition link commitment ∧
      new_key = session_key ∧ link_hash = crypto.sha256 link.payload ∧
      (⟨.now_ms, .ok now_ms⟩ : ServeEvent) ∈ events ∧
      (replay (before ++ between)).get old_key = some entry ∧ entry.commitment = commitment ∧
      (∃ earlier op later born, before ++ between = earlier ++ op :: later ∧
        op.born = some (old_key, entry.control_pubkey) ∧ (apply_one (replay earlier) op).1 = .Applied born) ∧
      link.signature = some signature ∧ signature.length = 64 ∧
      Authorizes lib build link old_key new_key entry.control_pubkey now_ms payload := by
  have hverified := (handle_on_leader_submits_verified session_key control_pubkey request).of_run_act hsubmits
  obtain ⟨link, payload, held, now_ms, hrequest, hget, hnow, hauthorizes, hsession, -, hhash, -⟩ := hverified
  have hlive := (hread old_key (some held) hget).symm
  obtain ⟨entry, hentry, hcommitment⟩ := transition_applied happlied
  obtain ⟨earlier, op, later, hsplit, hborn, born, happly⟩ := born_of_live hentry
  obtain ⟨signature, hsignature, hslice, -⟩ := hauthorizes.signature
  -- The pubkey the leader read is still the one in force where the entry applies.
  rw [← control_pubkey_frozen hlive hentry] at hauthorizes
  exact ⟨link, payload, signature, entry, now_ms, hrequest, hsession, hhash, hnow, hentry, hcommitment,
    ⟨earlier, op, later, born, hsplit, hborn, happly⟩, hsignature, hraw signature hslice, hauthorizes⟩

namespace sample

def old_key : PcrKey :=
  ⟨#v[180, 214, 198, 179, 197, 1, 203, 168, 120, 102, 71, 166, 62, 135, 186, 59, 51, 167, 9, 208, 128, 229, 196,
    169, 175, 159, 20, 147, 103, 226, 122, 223]⟩

def new_key : PcrKey :=
  ⟨#v[233, 4, 136, 203, 38, 27, 217, 225, 32, 44, 158, 169, 180, 181, 121, 102, 184, 98, 88, 17, 53, 251, 127, 178,
    46, 38, 124, 1, 225, 4, 48, 12]⟩

def upgrade : UpgradePayload Int where
  enclave_id := 0
  «from» := .uniform 1
  «to» := .uniform 2
  image_digest := "sha256:target"
  valid_from := 1000000
  valid_until := 4600000
  issued_at := 0
  nonce := []

def link_library : LinkLibrary Int where
  p256 :=
    { from_sec1_bytes := fun _ => true
      from_slice := fun signature => signature.length == 64
      verify := fun _ message signature => signature == (message ++ List.replicate 64 0).take 64 }
  docs :=
    { validate_at_doc_timestamp := fun bytes =>
        let pcr : List UInt8 := List.replicate 48 1
        .ok { timestamp := 0, pcrs := .ofList [(0, pcr), (1, pcr), (2, pcr)], nonce := none, user_data := some bytes }
      decode_attestation_document := fun _ => .error "not used"
      validate_expected_nonce := fun doc nonce => if doc.nonce = some nonce then .ok () else .error "nonce mismatch"
      validate_expected_nonce_ok := expected_nonce_ok }
  chrono :=
    { timestamp_millis := Int64.ofInt
      signed_duration_since := fun later earlier => (later - earlier) * 1000000 }
  upgrades := { encode := fun _ => [1], from_reader := fun _ => .ok upgrade }
  revocations := { encode := fun _ => [], from_reader := fun _ => .error "not used" }

def upgrade_link : ChainLink where
  kind := .Upgrade
  payload := [1]
  attestation := (crypto.sha256 [1]).toList
  signature := some ((signed_message .UpgradePayload [1] ++ List.replicate 64 0).take 64)

def before_read : List ReplicatedOp := [.Register old_key ⟨Vector.replicate 32 7⟩ (Vector.replicate 65 4)]

def after_read : List ReplicatedOp := [.Pin old_key ⟨0⟩ ⟨Vector.replicate 32 8⟩]

theorem decode_upgrade_link : decode_transition_link link_library upgrade_link = .ok ⟨old_key, new_key⟩ := by
  have hdecode : decode_transition_link link_library upgrade_link =
      .ok ⟨⟨(PinIdentity.uniform 1).key⟩, ⟨(PinIdentity.uniform 2).key⟩⟩ := rfl
  rw [hdecode, PinIdentity.uniform_one_key, PinIdentity.uniform_two_key]
  rfl

theorem verify_upgrade_link :
    verify_transition_link link_library ⟨false, false⟩ upgrade_link ⟨old_key, new_key⟩ new_key
      (Vector.replicate 65 4) 2000000 =
        .ok ⟨old_key, new_key, crypto.sha256 [1], Int64.ofInt 4600000⟩ := by
  decide +kernel

def transition : ReplicatedOp :=
  .Transition old_key new_key (Vector.replicate 65 5) (crypto.sha256 [1]) (Int64.ofInt 4600000)
    ⟨Vector.replicate 32 8⟩

def read_events : List ServeEvent :=
  [⟨.get old_key, some ⟨⟨Vector.replicate 32 7⟩, ⟨0⟩, Vector.replicate 65 4⟩⟩, ⟨.now_ms, .ok 2000000⟩]

theorem upgrade_link_submitted :
    ∃ next, Program.Run (handle_on_leader link_library ⟨false, false⟩ new_key (Vector.replicate 65 5)
      (.Transition upgrade_link ⟨Vector.replicate 32 8⟩)) read_events (.act (.client_write transition) next) := by
  simp only [handle_on_leader, handle_transition, decode_upgrade_link]
  refine ⟨?next, .cons (.cons ?_)⟩
  rotate_left
  · dsimp only
    rw [verify_upgrade_link]
    exact .nil _

end sample

open sample in
/-- A signed upgrade from a registered key. -/
theorem transition_authentic_upgrade :
    ∃ link payload signature entry now_ms,
      Request.Transition upgrade_link ⟨Vector.replicate 32 8⟩ = .Transition link ⟨Vector.replicate 32 8⟩ ∧
      new_key = new_key ∧ crypto.sha256 [1] = crypto.sha256 link.payload ∧
      (⟨.now_ms, .ok now_ms⟩ : ServeEvent) ∈ read_events ∧
      (replay (before_read ++ after_read)).get old_key = some entry ∧
      entry.commitment = ⟨Vector.replicate 32 8⟩ ∧
      (∃ earlier op later born, before_read ++ after_read = earlier ++ op :: later ∧
        op.born = some (old_key, entry.control_pubkey) ∧ (apply_one (replay earlier) op).1 = .Applied born) ∧
      link.signature = some signature ∧ signature.length = 64 ∧
      Authorizes link_library ⟨false, false⟩ link old_key new_key entry.control_pubkey now_ms payload := by
  obtain ⟨next, hrun⟩ := upgrade_link_submitted
  have hraw : link_library.RawSignatures := fun signature h => by simpa [link_library] using h
  have hread : ∀ key answer, (⟨.get key, answer⟩ : ServeEvent) ∈ read_events →
      answer = (replay before_read).get key := by
    intro key answer hmem
    rcases List.mem_cons.mp hmem with heq | hmem
    · cases heq
      decide +kernel
    · cases List.mem_singleton.mp hmem
  have happlied : (apply_one (replay (before_read ++ after_read)) transition).1 =
      .Applied ⟨⟨Vector.replicate 32 8⟩, ⟨1⟩, Vector.replicate 65 5⟩ := by decide +kernel
  exact transition_authentic hraw hrun hread happlied

end enclavia.synchronizer.raft
