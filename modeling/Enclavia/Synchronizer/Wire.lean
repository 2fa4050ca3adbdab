import Enclavia.Protocol.Session
import Enclavia.Synchronizer.Types

open interaction enclavia.protocol

namespace enclavia.synchronizer

variable {Blob : Type} {nsm_doc : Blob} {handshake_hash : List UInt8} {now_ms : UInt64}

inductive Frame (Blob : Type) where
  | Authenticate (nsm_doc : Blob) (protocol_version : UInt32) (capabilities : List String)
  | Rpc (request : FieldValue Blob)

def PROTOCOL_VERSION : UInt32 := 1

def CAPABILITY_REVOCATION : String := "revocation"

def SUPPORTED_CAPABILITIES : List String := [CAPABILITY_REVOCATION]

namespace Frame

def authenticate (nsm_doc : Blob) : Frame Blob :=
  .Authenticate nsm_doc PROTOCOL_VERSION SUPPORTED_CAPABILITIES

def encode : Frame Blob → Plaintext Blob
  | .Authenticate nsm_doc protocol_version capabilities =>
    [("frame", .Text "Authenticate"), ("nsm_doc", .Bytes nsm_doc),
      ("protocol_version", .Number protocol_version.toNat), ("capabilities", .Texts capabilities)]
  | .Rpc request => [("frame", .Text "Rpc"), ("request", request)]

def decode (message : Plaintext Blob) : Except DecodeError (Frame Blob) := do
  match ← message.text "frame" with
  | "Authenticate" =>
    let nsm_doc ← message.bytes "nsm_doc"
    let protocol_version ← message.u32_or_default "protocol_version"
    let capabilities ← message.texts_or_default "capabilities"
    return .Authenticate nsm_doc protocol_version capabilities
  | "Rpc" => return .Rpc (← message.field "request")
  | _ => .error .UnknownVariant

theorem decode_encode (frame : Frame Blob) : decode frame.encode = .ok frame := by
  cases frame with
  | Authenticate nsm_doc protocol_version capabilities =>
    let message := (Authenticate nsm_doc protocol_version capabilities).encode
    have hnumber : message.number "protocol_version" (2 ^ 32) = .ok protocol_version.toNat :=
      if_pos protocol_version.toNat_lt
    have hversion : message.u32_or_default "protocol_version" = .ok protocol_version := by
      have hfind : message.find "protocol_version" = .ok (some (.Number protocol_version.toNat)) := rfl
      simp only [Plaintext.u32_or_default, hfind, hnumber, bind, Except.bind, pure, Except.pure,
        UInt32.ofNat_toNat]
    have hdecode : decode message = (do
        let version ← message.u32_or_default "protocol_version"
        return .Authenticate nsm_doc version capabilities) := rfl
    exact hdecode.trans (by rw [hversion]; rfl)
  | Rpc request => rfl

theorem decode_authenticate_mem {message : Plaintext Blob} {version : UInt32} {capabilities : List String}
    (h : decode message = .ok (.Authenticate nsm_doc version capabilities)) :
    nsm_doc ∈ message.blobs := by
  obtain ⟨tag, -, hframe⟩ := Plaintext.bind_ok.mp h
  split at hframe
  · obtain ⟨doc, hdoc, hrest⟩ := Plaintext.bind_ok.mp hframe
    obtain ⟨version', -, hrest⟩ := Plaintext.bind_ok.mp hrest
    obtain ⟨capabilities', -, hrest⟩ := Plaintext.bind_ok.mp hrest
    cases hrest
    exact Plaintext.bytes_mem hdoc
  · obtain ⟨request, -, hrest⟩ := Plaintext.bind_ok.mp hframe
    cases hrest
  · cases hframe

end Frame

/-- What the other end of a session advertised, and what the session may use of it. -/
structure PeerProtocol where
  version : UInt32
  capabilities : List String

def negotiate_capabilities (peer : List String) : List String :=
  SUPPORTED_CAPABILITIES.filter (· ∈ peer)

def PeerProtocol.from_advertised (version : UInt32) (capabilities : List String) : PeerProtocol :=
  ⟨version, negotiate_capabilities capabilities⟩

/-- How a node was built: whether its documents skip the certificate chain, and whether the code
that does so was compiled in. -/
structure Build where
  debug_mode : Bool
  dangerous_skip_chain : Bool

namespace attest

def validate_session_at (lib : DocLibrary Blob) (build : Build) (nsm_doc : Blob)
    (handshake_hash : List UInt8) (now_ms : UInt64) :
    Except AttestationError (ValidatedAttestation Blob) :=
  if build.debug_mode then
    if build.dangerous_skip_chain then lib.validate_session_with nsm_doc handshake_hash .Skip now_ms
    else .error .SkipChainNotCompiled
  else lib.validate_session_with nsm_doc handshake_hash .Verify now_ms

def session_facts (lib : DocLibrary Blob) (build : Build) (nsm_doc : Blob)
    (handshake_hash : List UInt8) (now_ms : UInt64) :
    Except AttestationError (PcrKey × ControlPubkey) :=
  match validate_session_at lib build nsm_doc handshake_hash now_ms with
  | .error error => .error error
  | .ok doc => doc.control_pubkey.map (⟨doc.identity.key⟩, ·)

variable {lib : DocLibrary Blob} {build : Build}

theorem map_ok {ε α β : Type} {x : Except ε α} {f : α → β} {b : β} :
    x.map f = .ok b ↔ ∃ a, x = .ok a ∧ f a = b := by
  cases x <;> simp [Except.map]

theorem validate_session_at_production (hbuild : build.debug_mode = false) :
    validate_session_at lib build nsm_doc handshake_hash now_ms =
      lib.validate_session_with nsm_doc handshake_hash .Verify now_ms := by
  rw [validate_session_at, hbuild]
  rfl

theorem session_facts_ok {session_key : PcrKey} {pubkey : ControlPubkey} (hbuild : build.debug_mode = false) :
    session_facts lib build nsm_doc handshake_hash now_ms = .ok (session_key, pubkey) ↔
      ∃ doc identity, lib.validate_at_doc_timestamp nsm_doc = .ok doc ∧
        ¬DocLibrary.abs_diff doc.timestamp now_ms > MAX_SESSION_DOC_CLOCK_SKEW_MS ∧
        doc.nonce = some handshake_hash ∧ PinIdentity.from_doc_pcrs doc.pcrs = .ok identity ∧
        session_key = ⟨identity.key⟩ ∧ doc.user_data = some pubkey.toList ∧ pubkey[0] = 0x04 := by
  unfold session_facts
  rw [validate_session_at_production hbuild]
  constructor
  · intro h
    split at h
    · cases h
    · next value hvalue =>
      obtain ⟨doc, identity, hdoc, hskew, hnonce, hidentity, rfl⟩ := DocLibrary.validate_session_with_ok.mp hvalue
      obtain ⟨key, hkey, hpair⟩ := map_ok.mp h
      cases hpair
      obtain ⟨hdata, hfirst⟩ := ValidatedAttestation.control_pubkey_ok.mp hkey
      exact ⟨doc, identity, hdoc, hskew, hnonce, hidentity, rfl, hdata, hfirst⟩
  · rintro ⟨doc, identity, hdoc, hskew, hnonce, hidentity, rfl, hdata, hfirst⟩
    rw [DocLibrary.validate_session_with_ok.mpr ⟨doc, identity, hdoc, hskew, hnonce, hidentity, rfl⟩]
    exact map_ok.mpr ⟨pubkey, ValidatedAttestation.control_pubkey_ok.mpr ⟨hdata, hfirst⟩, rfl⟩

end attest

inductive ServerPcrPolicy where
  | Expected (expected : List Pcrs)

inductive ServerAuthError where
  | Attestation (error : AttestationError)
  | PcrRejected

def verify_server_attestation (lib : DocLibrary Blob) (build : Build) (nsm_doc : Blob)
    (handshake_hash : List UInt8) (policy : ServerPcrPolicy) (now_ms : UInt64) :
    Except ServerAuthError Pcrs :=
  let ⟨expected⟩ := policy
  match attest.validate_session_at lib build nsm_doc handshake_hash now_ms with
  | .error error => .error (.Attestation error)
  | .ok doc =>
    match doc.require_pcrs_in expected with
    | .ok pcrs => .ok pcrs
    | .error .PcrsNotExpected => .error .PcrRejected
    | .error error => .error (.Attestation error)

theorem verify_server_attestation_ok {lib : DocLibrary Blob} {build : Build} {expected : List Pcrs} {pcrs : Pcrs}
    (hbuild : build.debug_mode = false) :
    verify_server_attestation lib build nsm_doc handshake_hash (.Expected expected) now_ms = .ok pcrs ↔
      ∃ doc identity, lib.validate_at_doc_timestamp nsm_doc = .ok doc ∧
        ¬DocLibrary.abs_diff doc.timestamp now_ms > MAX_SESSION_DOC_CLOCK_SKEW_MS ∧
        doc.nonce = some handshake_hash ∧ PinIdentity.from_doc_pcrs doc.pcrs = .ok identity ∧
        identity.image_pcrs = pcrs ∧ pcrs ∈ expected := by
  simp only [verify_server_attestation, attest.validate_session_at_production hbuild]
  constructor
  · intro h
    split at h
    · cases h
    · next value hvalue =>
      obtain ⟨doc, identity, hdoc, hskew, hnonce, hidentity, hdata⟩ :=
        DocLibrary.validate_session_with_ok.mp hvalue
      have hpcrs : value.pcrs = identity.image_pcrs := by rw [hdata, ValidatedAttestation.pcrs]
      unfold ValidatedAttestation.require_pcrs_in at h
      by_cases hmem : value.pcrs ∈ expected
      · rw [if_pos hmem] at h
        cases h
        exact ⟨doc, identity, hdoc, hskew, hnonce, hidentity, hpcrs.symm, hmem⟩
      · rw [if_neg hmem] at h
        cases h
  · rintro ⟨doc, identity, hdoc, hskew, hnonce, hidentity, rfl, hmem⟩
    rw [DocLibrary.validate_session_with_ok.mpr ⟨doc, identity, hdoc, hskew, hnonce, hidentity, rfl⟩]
    dsimp only
    rw [ValidatedAttestation.require_pcrs_in, if_pos (by exact hmem)]
    rfl

end enclavia.synchronizer
