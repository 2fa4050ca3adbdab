import Enclavia.Protocol.Chain
import Enclavia.Protocol.Signing
import Enclavia.Synchronizer.Raft.Network

open enclavia.protocol enclavia.synchronizer.mesh

namespace enclavia.synchronizer.wire

inductive TransitionLinkError where
  | NotAnUpgradeLink (kind : ChainLinkKind)
  | MissingSignature
  | SignatureShape
  | BadControlPubkey
  | SignatureInvalid
  | PayloadDecode (message : String)
  | Attestation (error : AttestationError)
  | SessionKeyMismatch
  | SelfTransition
  | NotYetValid (valid_from_ms : Int64) (now_ms : UInt64)
  | Expired (valid_until_ms : Int64) (now_ms : UInt64)
  | WindowInvalid
deriving DecidableEq

inductive RevocationLinkError where
  | NotARevocationLink (kind : ChainLinkKind)
  | MissingSignature
  | SignatureShape
  | BadControlPubkey
  | SignatureInvalid
  | PayloadDecode (message : String)

def TRANSITION_CLOCK_TOLERANCE_MS : UInt64 := 60000

def past_valid_until (now_ms : UInt64) (valid_until_ms : Int64) : Bool :=
  (now_ms.toNat : Int) > valid_until_ms.toInt + TRANSITION_CLOCK_TOLERANCE_MS.toNat

structure DecodedTransition where
  old_key : PcrKey
  new_key : PcrKey

structure VerifiedTransition where
  old_key : PcrKey
  new_key : PcrKey
  link_hash : Bytes32
  valid_until_ms : Int64
deriving DecidableEq

structure VerifiedRevocation where
  link_hash : Bytes32

/-- The third-party code behind the verification of chain links: signatures, attestation documents,
CBOR and dates. -/
structure LinkLibrary (DateTime : Type) where
  p256 : P256 (List UInt8)
  docs : DocLibrary (List UInt8)
  chrono : Chrono DateTime
  upgrades : Codec (UpgradePayload DateTime)
  revocations : Codec (RevocationPayload DateTime)

def LinkLibrary.RawSignatures {DateTime : Type} (lib : LinkLibrary DateTime) : Prop :=
  ∀ signature, lib.p256.from_slice signature = true → signature.length = 64

variable {DateTime : Type} (lib : LinkLibrary DateTime)

def verifying_key (pubkey : ControlPubkey) : VerifyingKey where
  signature_from_slice := lib.p256.from_slice
  verify := lib.p256.verify pubkey

def validate_chain_link (build : Build) (attestation payload : List UInt8) :
    Except AttestationError (ValidatedAttestation (List UInt8)) :=
  if build.debug_mode then
    if build.dangerous_skip_chain then lib.docs.validate_chain_link_with attestation payload .Skip
    else .error .SkipChainNotCompiled
  else lib.docs.validate_chain_link_with attestation payload .Verify

def decode_transition_link (link : ChainLink) : Except TransitionLinkError DecodedTransition :=
  if link.kind ≠ .Upgrade then .error (.NotAnUpgradeLink link.kind)
  else if link.signature.isNone then .error .MissingSignature
  else
    match decode_canonical lib.upgrades link.payload with
    | .error error => .error (.PayloadDecode error.message)
    | .ok payload => .ok { old_key := ⟨payload.from.key⟩, new_key := ⟨payload.to.key⟩ }

def check_signature (domain : SignedDomain) (control_pubkey : ControlPubkey) (payload signature : List UInt8) :
    Except (Option ControlSignatureError) Unit :=
  if !lib.p256.from_sec1_bytes control_pubkey then .error none
  else (verify_control_signature (verifying_key lib control_pubkey) domain payload signature).mapError some

def verify_transition_link (build : Build) (link : ChainLink) (decoded : DecodedTransition)
    (session_key : PcrKey) (old_control_pubkey : ControlPubkey) (now_ms : UInt64) :
    Except TransitionLinkError VerifiedTransition :=
  if decoded.new_key ≠ session_key then .error .SessionKeyMismatch
  else if decoded.new_key = decoded.old_key then .error .SelfTransition
  else
    match link.signature with
    | none => .error .MissingSignature
    | some sig_bytes =>
      match check_signature lib .UpgradePayload old_control_pubkey link.payload sig_bytes with
      | .error none => .error .BadControlPubkey
      | .error (some .Shape) => .error .SignatureShape
      | .error (some .Invalid) => .error .SignatureInvalid
      | .ok () =>
        match decode_canonical lib.upgrades link.payload with
        | .error error => .error (.PayloadDecode error.message)
        | .ok payload =>
          let valid_from_ms := lib.chrono.timestamp_millis payload.valid_from
          let earliest_ms : Int := valid_from_ms.toInt - TRANSITION_CLOCK_TOLERANCE_MS.toNat
          let valid_until_ms := lib.chrono.timestamp_millis payload.valid_until
          if !upgrade_window_is_valid lib.chrono payload.valid_from payload.valid_until then
            .error .WindowInvalid
          else if (now_ms.toNat : Int) < earliest_ms then .error (.NotYetValid valid_from_ms now_ms)
          else if past_valid_until now_ms valid_until_ms then .error (.Expired valid_until_ms now_ms)
          else
            match (validate_chain_link lib build link.attestation link.payload).bind
                (·.require_identity payload.from) with
            | .error error => .error (.Attestation error)
            | .ok () =>
              .ok { old_key := decoded.old_key, new_key := decoded.new_key,
                    link_hash := upgrade_link_hash link.payload, valid_until_ms }

def verify_revocation_link (link : ChainLink) (control_pubkey : ControlPubkey) :
    Except RevocationLinkError VerifiedRevocation :=
  if link.kind ≠ .Revocation then .error (.NotARevocationLink link.kind)
  else
    match link.signature with
    | none => .error .MissingSignature
    | some sig_bytes =>
      match check_signature lib .RevocationPayload control_pubkey link.payload sig_bytes with
      | .error none => .error .BadControlPubkey
      | .error (some .Shape) => .error .SignatureShape
      | .error (some .Invalid) => .error .SignatureInvalid
      | .ok () =>
        match decode_canonical lib.revocations link.payload with
        | .error error => .error (.PayloadDecode error.message)
        | .ok payload => .ok { link_hash := payload.revokes_link }

variable {lib} {link : ChainLink} {decoded : DecodedTransition} {control_pubkey : ControlPubkey}

theorem decode_transition_link_ok (h : decode_transition_link lib link = .ok decoded) :
    ∃ payload, decode_canonical lib.upgrades link.payload = .ok payload ∧
      decoded = ⟨⟨payload.from.key⟩, ⟨payload.to.key⟩⟩ := by
  unfold decode_transition_link at h
  split at h
  · cases h
  · split at h
    · cases h
    · split at h
      · cases h
      · next payload hpayload =>
        cases h
        exact ⟨payload, hpayload, rfl⟩

theorem check_signature_ok {domain : SignedDomain} {payload signature : List UInt8}
    (h : check_signature lib domain control_pubkey payload signature = .ok ()) :
    lib.p256.from_sec1_bytes control_pubkey = true ∧ lib.p256.from_slice signature = true ∧
      lib.p256.verify control_pubkey (signed_message domain payload) signature = true := by
  unfold check_signature at h
  split at h
  · cases h
  · next hkey =>
    cases hverify : verify_control_signature (verifying_key lib control_pubkey) domain payload signature with
    | error error =>
      rw [hverify] at h
      cases h
    | ok value =>
      obtain ⟨hslice, hsig⟩ := verify_control_signature_ok.mp hverify
      exact ⟨by simpa using hkey, hslice, hsig⟩

theorem validate_chain_link_binds {build : Build} {attestation payload : List UInt8}
    {value : ValidatedAttestation (List UInt8)}
    (h : validate_chain_link lib build attestation payload = .ok value) :
    ∃ doc chain_verified,
      lib.docs.decode attestation (if build.debug_mode then .Skip else .Verify) = .ok (doc, chain_verified) ∧
      doc.user_data = some (crypto.sha256 payload).toList ∧
      PinIdentity.from_doc_pcrs doc.pcrs = .ok value.identity := by
  unfold validate_chain_link at h
  split at h
  · next hdebug =>
    rw [if_pos hdebug]
    split at h
    · exact DocLibrary.validate_chain_link_with_binds h
    · cases h
  · next hdebug =>
    rw [if_neg hdebug]
    exact DocLibrary.validate_chain_link_with_binds h

/-- A link by which the holder of `old_key`, with the control key `old_control_pubkey`, hands its pin to `new_key` at
the time `now_ms`. -/
structure Authorizes (lib : LinkLibrary DateTime) (build : Build) (link : ChainLink) (old_key new_key : PcrKey)
    (old_control_pubkey : ControlPubkey) (now_ms : UInt64) (payload : UpgradePayload DateTime) : Prop where
  decodes : lib.upgrades.from_reader link.payload = .ok payload
  canonical : link.payload = lib.upgrades.encode payload
  old_key : old_key = ⟨payload.from.key⟩
  new_key : new_key = ⟨payload.to.key⟩
  signature : ∃ signature, link.signature = some signature ∧ lib.p256.from_slice signature = true ∧
    lib.p256.verify old_control_pubkey (signed_message .UpgradePayload link.payload) signature = true
  attestation : ∃ doc chain_verified,
    lib.docs.decode link.attestation (if build.debug_mode then .Skip else .Verify) = .ok (doc, chain_verified) ∧
      doc.user_data = some (crypto.sha256 link.payload).toList ∧
      PinIdentity.from_doc_pcrs doc.pcrs = .ok payload.from
  window : lib.chrono.signed_duration_since payload.valid_until payload.valid_from ≥ UPGRADE_WINDOW_MIN
  not_early : (lib.chrono.timestamp_millis payload.valid_from).toInt - TRANSITION_CLOCK_TOLERANCE_MS.toNat ≤
    now_ms.toNat
  not_late : (now_ms.toNat : Int) ≤
    (lib.chrono.timestamp_millis payload.valid_until).toInt + TRANSITION_CLOCK_TOLERANCE_MS.toNat

theorem verify_transition_link_ok {build : Build} {session_key : PcrKey} {old_control_pubkey : ControlPubkey}
    {now_ms : UInt64} {verified : VerifiedTransition} (hdecoded : decode_transition_link lib link = .ok decoded)
    (hverified : verify_transition_link lib build link decoded session_key old_control_pubkey now_ms = .ok verified) :
    ∃ payload, Authorizes lib build link decoded.old_key decoded.new_key old_control_pubkey now_ms payload ∧
      decoded.new_key = session_key ∧
      verified = ⟨decoded.old_key, decoded.new_key, upgrade_link_hash link.payload,
        lib.chrono.timestamp_millis payload.valid_until⟩ := by
  obtain ⟨payload, hpayload, rfl⟩ := decode_transition_link_ok hdecoded
  unfold verify_transition_link at hverified
  split at hverified
  · cases hverified
  next hsession =>
  split at hverified
  · cases hverified
  split at hverified
  · cases hverified
  next signature hsignature =>
  split at hverified
  iterate 3 cases hverified
  next hcheck =>
  rw [hpayload] at hverified
  dsimp only at hverified
  split at hverified
  · cases hverified
  next hwindow =>
  split at hverified
  · cases hverified
  next hearly =>
  split at hverified
  · cases hverified
  next hlate =>
  cases hdoc : validate_chain_link lib build link.attestation link.payload with
  | error error =>
    rw [hdoc] at hverified
    cases hverified
  | ok doc =>
    rw [hdoc, Except.bind] at hverified
    cases hidentity : doc.require_identity payload.from with
    | error error =>
      rw [hidentity] at hverified
      cases hverified
    | ok value =>
      rw [hidentity] at hverified
      cases hverified
      obtain ⟨-, hslice, hverify⟩ := check_signature_ok hcheck
      obtain ⟨nsm, chain_verified, hdecode, hdata, hpcrs⟩ := validate_chain_link_binds hdoc
      rw [ValidatedAttestation.require_identity_ok.mp hidentity] at hpcrs
      refine ⟨payload, ?_, Decidable.not_not.mp hsession, rfl⟩
      exact
        { decodes := (decode_canonical_ok.mp hpayload).1
          canonical := (decode_canonical_ok.mp hpayload).2.symm
          old_key := rfl
          new_key := rfl
          signature := ⟨signature, hsignature, hslice, hverify⟩
          attestation := ⟨nsm, chain_verified, hdecode, hdata, hpcrs⟩
          window := by simpa [upgrade_window_is_valid] using hwindow
          not_early := Int.not_lt.mp hearly
          not_late := by simpa [past_valid_until] using hlate }

theorem verify_revocation_link_ok {verified : VerifiedRevocation}
    (h : verify_revocation_link lib link control_pubkey = .ok verified) :
    ∃ payload, decode_canonical lib.revocations link.payload = .ok payload ∧ verified = ⟨payload.revokes_link⟩ := by
  unfold verify_revocation_link at h
  split at h
  · cases h
  split at h
  · cases h
  split at h
  iterate 3 cases h
  split at h
  · cases h
  next payload hpayload =>
  cases h
  exact ⟨payload, hpayload, rfl⟩

end enclavia.synchronizer.wire
