import Enclavia.NbdClient.Oracle
import Enclavia.NbdClient.Region
import Enclavia.Synchronizer.ChainLinks

open interaction enclavia.protocol enclavia.synchronizer enclavia.synchronizer.wire

namespace enclavia.nbd_client

inductive GetOutcome where
  | Found (commitment : Bytes32) (version : Version)
  | NotFound

inductive BootDecision where
  | Serve
  | RegisterThenServe
  | TransitionOrFailStop (reason : String)
  | FailStop (reason : String)

inductive ImageRole where
  | Genesis
  | UpgradeTarget

def boot_decision (region : List UInt8) (outcome : GetOutcome) (role : ImageRole) : BootDecision :=
  match outcome with
  | .Found commitment _ =>
    if commitment_of_region region = commitment then .Serve
    else .FailStop ("superblock commitment mismatch: device content does not match the synchronizer's pinned state " ++
      "(rollback or corruption); refusing to serve")
  | .NotFound =>
    if region_is_blank region then
      match role with
      | .Genesis => .RegisterThenServe
      | .UpgradeTarget =>
        .TransitionOrFailStop ("this image is an upgrade target and the synchronizer has no pinned state for it: it " ++
          "can only adopt its predecessor's pin by a Transition, never register a fresh volume; refusing to serve")
    else
      .TransitionOrFailStop ("device carries a written superblock region but the synchronizer has no pinned state " ++
        "for this enclave (rollback evidence: history was erased); refusing to serve")

def get_outcome : Except ClientError (Commitment × Version) → Except ClientError GetOutcome
  | .ok (commitment, version) => .ok (.Found commitment.bytes version)
  | .error (.Rpc .NotFound) => .ok .NotFound
  | .error error => .error error

def kind_text : ChainLinkKind → String
  | .Boot => "Boot"
  | .Upgrade => "Upgrade"
  | .Revocation => "Revocation"

section Verify

variable {DateTime : Type} (lib : LinkLibrary DateTime) (key : PcrKey) (region : List UInt8)

def usable_link (fail_reason : String) : Option ChainLink → Except String ChainLink
  | none => .error (s!"boot verify: {fail_reason} (no upgrade link available from chain-host, so this is not a " ++
      s!"recoverable staged upgrade)")
  | some link =>
    if link.kind ≠ .Upgrade then
      .error (s!"boot verify: {fail_reason} (chain-host returned a {kind_text link.kind} link where only an Upgrade " ++
        s!"link can authorize a transition)")
    else
      match decode_canonical lib.upgrades link.payload with
      | .ok payload =>
        if ⟨payload.to.key⟩ = key then .ok link
        else .error (s!"boot verify: {fail_reason} (chain-host returned an upgrade link whose target is not this " ++
          s!"enclave's identity)")
      | .error error =>
        .error (s!"boot verify: {fail_reason} (chain-host returned an upgrade link whose payload is not a canonical " ++
          s!"UpgradePayload: {error.message})")

def transition_error (fail_reason : String) : ClientError → String
  | .Rpc .TransitionCommitmentMismatch =>
    (s!"boot verify: {fail_reason} (this volume does not hold the predecessor's latest pinned state: wrong, blank " ++
      "or rolled-back volume. The synchronizer refused the transition and the predecessor keeps its pin, so the " ++
      "upgrade can still run on the right volume)")
  | .Rpc .Unavailable =>
    (s!"boot verify: {fail_reason} (the synchronizer could not confirm the PCR transition: the outcome is unknown " ++
      "and it may have committed; reboot to re-verify)")
  | error => s!"boot verify: {fail_reason} (the synchronizer rejected the PCR transition: {error.message})"

def reverify : Option (Except ClientError (Commitment × Version)) → Except String Version
  | none => .error s!"boot verify: post-transition Get timed out after {SYNC_RPC_TIMEOUT} (synchronizer unreachable)"
  | some result =>
    match get_outcome result with
    | .error error => .error s!"boot verify: post-transition Get failed: {error.message}"
    | .ok outcome =>
      match boot_decision region outcome .UpgradeTarget, outcome with
      | .Serve, .Found _ version => .ok version
      | .FailStop reason, _ => .error s!"boot verify: {reason}"
      | _, _ => .error ("boot verify: the synchronizer reported no pin under our key immediately after accepting " ++
          "the transition (inconsistent oracle state); refusing to serve")

def transition_and_reverify (fail_reason : String) : SessionProc (Except String Version) :=
  .act .upgrade_link fun fetched =>
    match usable_link lib key fail_reason fetched with
    | .error message => .ret (.error message)
    | .ok link =>
      (Client.transition link ⟨commitment_of_region region⟩).bind fun
        | none => .ret (.error (s!"boot verify: Transition timed out after {SYNC_RPC_TIMEOUT} (synchronizer " ++
            s!"unreachable; the outcome is unknown and the transition may have committed: reboot to re-verify)"))
        | some (.error error) => .ret (.error (transition_error fail_reason error))
        | some (.ok _) => (Client.get key).bind fun result => .ret (reverify region result)

def register_fresh : SessionProc (Except String Version) :=
  (Client.register key ⟨commitment_of_region region⟩).bind fun
    | none => .ret (.error s!"boot verify: Register timed out after {SYNC_RPC_TIMEOUT} (synchronizer unreachable)")
    | some (.ok ()) => .ret (.ok ⟨0⟩)
    | some (.error (.Rpc .AlreadyRegistered)) =>
      (disambiguate_conflict key (commitment_of_region region)).bind fun
        | .error (_, message) => .ret (.error s!"boot verify: Register found the key registered: {message}")
        | .ok version =>
          if version ≠ ⟨0⟩ then
            .ret (.error (s!"boot verify: registration raced (the key is at version {version.val} != 0); another " ++
              s!"session owns this key"))
          else .ret (.ok ⟨0⟩)
    | some (.error error) => .ret (.error s!"boot verify: Register failed: {error.message}")

def verify_or_register (role : ImageRole) : SessionProc (Except String Version) :=
  (Client.get key).bind fun
    | none => .ret (.error s!"boot verify: Get timed out after {SYNC_RPC_TIMEOUT} (synchronizer unreachable)")
    | some result =>
      match get_outcome result with
      | .error error => .ret (.error s!"boot verify: synchronizer Get failed: {error.message}")
      | .ok outcome =>
        match boot_decision region outcome role, outcome with
        | .Serve, .Found _ version => .ret (.ok version)
        | .Serve, .NotFound => .ret (.error "Serve implies Found")
        | .RegisterThenServe, _ => register_fresh key region
        | .TransitionOrFailStop reason, _ => transition_and_reverify lib key region reason
        | .FailStop reason, _ => .ret (.error s!"boot verify: {reason}")

end Verify

end enclavia.nbd_client
