import Enclavia.Protocol.PinIdentity

namespace enclavia.protocol

def CONTROL_PUBKEY_LEN : Nat := 65

def MAX_SESSION_DOC_CLOCK_SKEW_MS : UInt64 := 24 * 60 * 60 * 1000

inductive RejectionReason where
  | Malformed
  | NotYetValid
  | Expired
  | UntrustedChain
  | Signature
  | ClockSkew
  | NonceMismatch
  | PayloadBindingMismatch
  | PcrMismatch
  | SkipChainNotCompiled
deriving DecidableEq

inductive AttestationError where
  | Validation (reason : RejectionReason) (detail : String)
  | InvalidControlPubkey
  | PayloadBindingMismatch
  | PcrsNotExpected
  | InvalidIdentity (error : PinIdentityError)
  | SkipChainNotCompiled
deriving DecidableEq

structure AttestationDoc where
  timestamp : UInt64
  pcrs : DocPcrs
  nonce : Option (List UInt8)
  user_data : Option (List UInt8)

/-- The code that decodes documents and checks their certificate chain and signature, over the
byte strings `Blob` that travel on the wire. -/
structure DocLibrary (Blob : Type) where
  validate_at_doc_timestamp : Blob → Except (RejectionReason × String) AttestationDoc
  decode_attestation_document : Blob → Except String AttestationDoc
  validate_expected_nonce : AttestationDoc → List UInt8 → Except String Unit
  validate_expected_nonce_ok : ∀ doc nonce, validate_expected_nonce doc nonce = .ok () ↔ doc.nonce = some nonce

theorem expected_nonce_ok (doc : AttestationDoc) (nonce : List UInt8) :
    (if doc.nonce = some nonce then .ok () else .error "nonce mismatch" : Except String Unit) = .ok () ↔
      doc.nonce = some nonce := by
  split <;> simp [*]

inductive Provenance where
  | Session (chain_verified : Bool)
  | ChainLink (chain_verified : Bool)

structure ValidatedAttestation (Blob : Type) where
  bytes : Blob
  identity : PinIdentity
  timestamp_ms : UInt64
  user_data : Option (List UInt8)
  provenance : Provenance

structure Pcrs where
  pcr0 : List UInt8
  pcr1 : List UInt8
  pcr2 : List UInt8
deriving DecidableEq

def PinIdentity.image_pcrs (identity : PinIdentity) : Pcrs where
  pcr0 := identity.image[0].toList
  pcr1 := identity.image[1].toList
  pcr2 := identity.image[2].toList

inductive Chain where
  | Verify
  | Skip

variable {Blob : Type} {bytes : Blob} {doc : AttestationDoc} {value : ValidatedAttestation Blob}

namespace ValidatedAttestation

def from_doc (bytes : Blob) (doc : AttestationDoc) (provenance : Provenance) :
    Except AttestationError (ValidatedAttestation Blob) :=
  match PinIdentity.from_doc_pcrs doc.pcrs with
  | .error error => .error (.InvalidIdentity error)
  | .ok identity =>
    .ok { bytes, identity, timestamp_ms := doc.timestamp, user_data := doc.user_data, provenance }

def pcrs (doc : ValidatedAttestation Blob) : Pcrs := doc.identity.image_pcrs

def control_pubkey (doc : ValidatedAttestation Blob) :
    Except AttestationError (Vector UInt8 CONTROL_PUBKEY_LEN) :=
  match doc.user_data with
  | none => .error .InvalidControlPubkey
  | some bytes =>
    if h : bytes.length = CONTROL_PUBKEY_LEN then
      if bytes.head? ≠ some 0x04 then .error .InvalidControlPubkey else .ok ⟨bytes.toArray, h⟩
    else .error .InvalidControlPubkey

def require_pcrs (doc : ValidatedAttestation Blob) (expected : Pcrs) : Except AttestationError Unit :=
  if doc.pcrs ≠ expected then
    .error (.Validation .PcrMismatch "attestation document PCR0-2 differ from the expected values")
  else .ok ()

def require_identity (doc : ValidatedAttestation Blob) (expected : PinIdentity) :
    Except AttestationError Unit :=
  match doc.require_pcrs expected.image_pcrs with
  | .error error => .error error
  | .ok () =>
    if doc.identity ≠ expected then
      .error (.Validation .PcrMismatch
        "attestation document user PCRs (16-31) differ from the expected identity")
    else .ok ()

def require_pcrs_in (doc : ValidatedAttestation Blob) (expected : List Pcrs) :
    Except AttestationError Pcrs :=
  if doc.pcrs ∈ expected then .ok doc.pcrs else .error .PcrsNotExpected

end ValidatedAttestation

namespace DocLibrary

variable (lib : DocLibrary Blob)

def decode_only (bytes : Blob) : Except AttestationError AttestationDoc :=
  (lib.decode_attestation_document bytes).mapError (.Validation .Malformed)

def decode (bytes : Blob) : Chain → Except AttestationError (AttestationDoc × Bool)
  | .Verify =>
    match lib.validate_at_doc_timestamp bytes with
    | .error (reason, detail) => .error (.Validation reason detail)
    | .ok doc => .ok (doc, true)
  | .Skip => (lib.decode_only bytes).map (·, false)

def check_nonce (doc : AttestationDoc) (handshake_hash : List UInt8) : Except AttestationError Unit :=
  (lib.validate_expected_nonce doc handshake_hash).mapError (.Validation .NonceMismatch)

def abs_diff (a b : UInt64) : UInt64 := if a < b then b - a else a - b

def validate_session_with (bytes : Blob) (handshake_hash : List UInt8) (chain : Chain) (now_ms : UInt64) :
    Except AttestationError (ValidatedAttestation Blob) :=
  match lib.decode bytes chain with
  | .error error => .error error
  | .ok (doc, chain_verified) =>
    let timestamp := doc.timestamp
    let skew := abs_diff timestamp now_ms
    if skew > MAX_SESSION_DOC_CLOCK_SKEW_MS then
      .error (.Validation .ClockSkew
        (s!"document timestamp {timestamp} ms is {skew} ms from the local clock {now_ms} ms (limit " ++
          s!"{MAX_SESSION_DOC_CLOCK_SKEW_MS} ms)"))
    else
      match lib.check_nonce doc handshake_hash with
      | .error error => .error error
      | .ok () => ValidatedAttestation.from_doc bytes doc (.Session chain_verified)

def validate_chain_link_with (bytes : Blob) (payload : List UInt8) (chain : Chain) :
    Except AttestationError (ValidatedAttestation Blob) :=
  match lib.decode bytes chain with
  | .error error => .error error
  | .ok (doc, chain_verified) =>
    match doc.user_data with
    | none => .error .PayloadBindingMismatch
    | some user_data =>
      if user_data ≠ (crypto.sha256 payload).toList then .error .PayloadBindingMismatch
      else ValidatedAttestation.from_doc bytes doc (.ChainLink chain_verified)

end DocLibrary

theorem ValidatedAttestation.from_doc_ok {provenance : Provenance} :
    from_doc bytes doc provenance = .ok value ↔
      ∃ identity, PinIdentity.from_doc_pcrs doc.pcrs = .ok identity ∧
        value = ⟨bytes, identity, doc.timestamp, doc.user_data, provenance⟩ := by
  unfold from_doc
  constructor
  · intro h
    split at h
    · cases h
    · next identity hidentity =>
      cases h
      exact ⟨identity, hidentity, rfl⟩
  · rintro ⟨identity, hidentity, rfl⟩
    rw [hidentity]

theorem ValidatedAttestation.control_pubkey_ok {doc : ValidatedAttestation Blob}
    {key : Vector UInt8 CONTROL_PUBKEY_LEN} :
    doc.control_pubkey = .ok key ↔ doc.user_data = some key.toList ∧ key[0] = 0x04 := by
  unfold control_pubkey
  constructor
  · intro h
    split at h
    · cases h
    · next bytes hbytes =>
      split at h
      · split at h
        · cases h
        · next hlen hfirst =>
          cases h
          rw [Decidable.not_not] at hfirst
          refine ⟨by rw [hbytes, Vector.toList_mk], ?_⟩
          rw [List.head?_eq_getElem?] at hfirst
          obtain ⟨hpos, hget⟩ := List.getElem?_eq_some_iff.mp hfirst
          exact hget
      · cases h
  · rintro ⟨hdata, hfirst⟩
    have hhead : key.toList.head? = some 0x04 := by
      rw [List.head?_eq_getElem?, List.getElem?_eq_some_iff]
      exact ⟨by rw [Vector.length_toList]; decide, by simpa using hfirst⟩
    have hlen : key.toList.length = CONTROL_PUBKEY_LEN := Vector.length_toList
    simp only [hdata, hhead, dif_pos hlen, ne_eq, not_true_eq_false, if_false]
    exact congrArg Except.ok (Vector.toList_inj.mp Vector.toList_mk)

theorem ValidatedAttestation.require_identity_ok {doc : ValidatedAttestation Blob} {expected : PinIdentity} :
    doc.require_identity expected = .ok () ↔ doc.identity = expected := by
  unfold require_identity require_pcrs
  constructor
  · intro h
    split at h
    · cases h
    · split at h
      · cases h
      · next hidentity => exact Decidable.not_not.mp hidentity
  · rintro rfl
    simp [pcrs]

namespace DocLibrary

variable {lib : DocLibrary Blob} {handshake_hash payload : List UInt8}

theorem decode_verify_ok {chain_verified : Bool} :
    lib.decode bytes .Verify = .ok (doc, chain_verified) ↔
      lib.validate_at_doc_timestamp bytes = .ok doc ∧ chain_verified = true := by
  simp only [decode]
  constructor
  · intro h
    split at h
    · cases h
    · next doc' hdoc =>
      cases h
      exact ⟨hdoc, rfl⟩
  · rintro ⟨hdoc, rfl⟩
    rw [hdoc]

theorem check_nonce_ok :
    lib.check_nonce doc handshake_hash = .ok () ↔ doc.nonce = some handshake_hash := by
  rw [← lib.validate_expected_nonce_ok, check_nonce]
  cases lib.validate_expected_nonce doc handshake_hash <;> simp [Except.mapError]

theorem validate_session_with_ok {now_ms : UInt64} :
    lib.validate_session_with bytes handshake_hash .Verify now_ms = .ok value ↔
      ∃ doc identity, lib.validate_at_doc_timestamp bytes = .ok doc ∧
        ¬abs_diff doc.timestamp now_ms > MAX_SESSION_DOC_CLOCK_SKEW_MS ∧
        doc.nonce = some handshake_hash ∧ PinIdentity.from_doc_pcrs doc.pcrs = .ok identity ∧
        value = ⟨bytes, identity, doc.timestamp, doc.user_data, .Session true⟩ := by
  constructor
  · intro h
    unfold validate_session_with at h
    split at h
    · cases h
    · next doc chain_verified hdecode =>
      dsimp only at h
      split at h
      · cases h
      · next hskew =>
        split at h
        · cases h
        · next hnonce =>
          obtain ⟨identity, hidentity, rfl⟩ := ValidatedAttestation.from_doc_ok.mp h
          obtain ⟨hdoc, rfl⟩ := decode_verify_ok.mp hdecode
          exact ⟨doc, identity, hdoc, hskew, check_nonce_ok.mp hnonce, hidentity, rfl⟩
  · rintro ⟨doc, identity, hdoc, hskew, hnonce, hidentity, rfl⟩
    rw [validate_session_with, decode_verify_ok.mpr ⟨hdoc, rfl⟩]
    simp only [if_neg hskew, check_nonce_ok.mpr hnonce]
    exact ValidatedAttestation.from_doc_ok.mpr ⟨identity, hidentity, rfl⟩

theorem validate_chain_link_with_binds {chain : Chain}
    (h : lib.validate_chain_link_with bytes payload chain = .ok value) :
    ∃ doc chain_verified, lib.decode bytes chain = .ok (doc, chain_verified) ∧
      doc.user_data = some (crypto.sha256 payload).toList ∧
      PinIdentity.from_doc_pcrs doc.pcrs = .ok value.identity := by
  unfold validate_chain_link_with at h
  split at h
  · cases h
  · next doc chain_verified hdecode =>
    split at h
    · cases h
    · next user_data hdata =>
      split at h
      · cases h
      · next hdigest =>
        rw [Decidable.not_not] at hdigest
        obtain ⟨identity, hidentity, rfl⟩ := ValidatedAttestation.from_doc_ok.mp h
        exact ⟨doc, chain_verified, hdecode, by rw [hdata, hdigest], hidentity⟩

theorem validate_chain_link_with_ok (h : lib.validate_chain_link_with bytes payload .Verify = .ok value) :
    ∃ doc, lib.validate_at_doc_timestamp bytes = .ok doc ∧
      doc.user_data = some (crypto.sha256 payload).toList := by
  obtain ⟨doc, chain_verified, hdecode, hdata, -⟩ := validate_chain_link_with_binds h
  exact ⟨doc, (decode_verify_ok.mp hdecode).1, hdata⟩

end DocLibrary

end enclavia.protocol
