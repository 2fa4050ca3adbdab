import Enclavia.Bytes.Hex
import Enclavia.Protocol.Attestation
import Enclavia.Protocol.Chain
import Enclavia.Protocol.Signing

namespace enclavia.protocol.chain

inductive ChainLinkKind where
  | Boot
  | Upgrade
  | Revocation
deriving DecidableEq

/-- An entry of an enclave's public chain. -/
structure ChainLink where
  id : Option Uuid
  sequence : Option Nat
  kind : ChainLinkKind
  payload : List UInt8
  attestation : List UInt8
  signature : Option (List UInt8)

def ChainLink.with_assignment (link : ChainLink) (id : Uuid) (sequence : Nat) : ChainLink :=
  { link with id := some id, sequence := some sequence }

structure PcrsHex where
  pcr0 : String
  pcr1 : String
  pcr2 : String
deriving DecidableEq

structure AntiRollbackSetting where
  enabled : Bool
  upgrade_target : Bool
  debug_attestation : Bool
  synchronizer_pcrs : List PcrsHex

inductive AntiRollbackChange where
  | TurnedOff
  | TurnedOn
  | NotUpgradeTarget
  | DebugAttestationChanged
  | NoTrustedSynchronizer
deriving DecidableEq

def AntiRollbackSetting.check_successor (setting next : AntiRollbackSetting) : Except AntiRollbackChange Unit :=
  match setting.enabled, next.enabled with
  | false, false => .ok ()
  | true, false => .error .TurnedOff
  | false, true => .error .TurnedOn
  | true, true =>
    if !next.upgrade_target then .error .NotUpgradeTarget
    else if next.debug_attestation ≠ setting.debug_attestation then .error .DebugAttestationChanged
    else if next.synchronizer_pcrs.isEmpty then .error .NoTrustedSynchronizer
    else .ok ()

structure BootPayload (DateTime : Type) where
  enclave_id : Uuid
  image_digest : String
  pcrs : PcrsHex
  booted_at : DateTime
  nonce : List UInt8
  anti_rollback : AntiRollbackSetting

inductive Outcome where
  | Append (sequence : Nat)
  | Dedup
deriving DecidableEq

inductive ChainValidationError where
  | Attestation (error : AttestationError)
  | EmptyAttestation
  | PayloadDecode (kind : ChainLinkKind) (msg : String)
  | EnclaveIdMismatch
  | PcrMismatch
  | UpgradeFromMismatch
  | UpgradeWindowInvalid
  | ImageDigestMismatch
  | BootHasSignature
  | SignatureMissing (kind : ChainLinkKind)
  | BadControlPubkey (msg : String)
  | SignatureShape
  | SignatureInvalid
  | NonUpgradableSigned (kind : ChainLinkKind)
  | NonUpgradableSecondBoot
  | AntiRollbackChanged (change : AntiRollbackChange)
  | NoGenesisYet
  | RevokeTargetMissing
  | RevokeTargetWrongKind (kind : ChainLinkKind)
  | RevokePastActivation
  | AlreadyRevoked
  | RevokeLinkHashMismatch
  | DuplicatePayload (kind : ChainLinkKind)
  | UpgradeNotYetActive
  | UpgradeExpired
  | PromotionIdentityMismatch
  | CorruptStoredPayload (kind : ChainLinkKind) (msg : String)
  | CorruptStoredPcrHex (index : Nat)
deriving DecidableEq

def PcrsHex.to_pcrs (pcrs : PcrsHex) : Except ChainValidationError Pcrs :=
  match bytes.hex_decode pcrs.pcr0 with
  | none => .error (.CorruptStoredPcrHex 0)
  | some pcr0 =>
    match bytes.hex_decode pcrs.pcr1 with
    | none => .error (.CorruptStoredPcrHex 1)
    | some pcr1 =>
      match bytes.hex_decode pcrs.pcr2 with
      | none => .error (.CorruptStoredPcrHex 2)
      | some pcr2 => .ok { pcr0, pcr1, pcr2 }

def image_pcrs_hex (identity : PinIdentity) : PcrsHex where
  pcr0 := bytes.hex_encode identity.image_pcrs.pcr0
  pcr1 := bytes.hex_encode identity.image_pcrs.pcr1
  pcr2 := bytes.hex_encode identity.image_pcrs.pcr2

@[simp] theorem to_pcrs_image_pcrs_hex (identity : PinIdentity) :
    (image_pcrs_hex identity).to_pcrs = .ok identity.image_pcrs := by
  simp [image_pcrs_hex, PcrsHex.to_pcrs, PinIdentity.image_pcrs]

def PcrsHex.same_as (pcrs other : PcrsHex) : Bool :=
  bytes.eq_ignore_ascii_case pcrs.pcr0 other.pcr0 && bytes.eq_ignore_ascii_case pcrs.pcr1 other.pcr1 &&
    bytes.eq_ignore_ascii_case pcrs.pcr2 other.pcr2

theorem PcrsHex.to_pcrs_of_same_as {pcrs other : PcrsHex} (h : pcrs.same_as other = true) :
    pcrs.to_pcrs = other.to_pcrs := by
  simp only [same_as, Bool.and_eq_true] at h
  obtain ⟨⟨h0, h1⟩, h2⟩ := h
  simp only [to_pcrs, bytes.hex_decode_of_eq_ignore_ascii_case h0, bytes.hex_decode_of_eq_ignore_ascii_case h1,
    bytes.hex_decode_of_eq_ignore_ascii_case h2]

/-- The third-party code behind the validation of a chain: documents, signatures, CBOR and dates, which are instants
in nanoseconds. -/
structure ChainLibrary (DateTime : Type) where
  docs : DocLibrary (List UInt8)
  dangerous_skip_chain : Bool
  from_sec1_bytes : List UInt8 → Except String VerifyingKey
  chrono : Chrono DateTime
  instant : DateTime → Int
  boots : Codec (BootPayload DateTime)
  upgrades : Codec (UpgradePayload DateTime)
  revocations : Codec (RevocationPayload DateTime)

/-- What the validator knows besides the link: the enclave's row and the chain so far. -/
structure ChainContext where
  enclave_id : Uuid
  enclave_pcrs : PcrsHex
  enclave_image_digest : String
  control_public_key : Option (List UInt8)
  upgradable : Bool
  prior_chain : List ChainLink

variable {DateTime : Type} (lib : ChainLibrary DateTime)

def link_attestation (link : ChainLink) (debug_mode : Bool) :
    Except AttestationError (ValidatedAttestation (List UInt8)) :=
  if debug_mode then
    if lib.dangerous_skip_chain then lib.docs.validate_chain_link_with link.attestation link.payload .Skip
    else .error .SkipChainNotCompiled
  else lib.docs.validate_chain_link_with link.attestation link.payload .Verify

def last_boot (prior : List ChainLink) : Option ChainLink := prior.reverse.find? fun l => l.kind = .Boot

def validate_boot (link : ChainLink) (ctx : ChainContext) : Except ChainValidationError Outcome :=
  if link.signature.isSome then .error .BootHasSignature
  else
    match decode_canonical lib.boots link.payload with
    | .error error => .error (.PayloadDecode .Boot error.message)
    | .ok parsed =>
      if parsed.enclave_id ≠ ctx.enclave_id then .error .EnclaveIdMismatch
      else if parsed.pcrs ≠ ctx.enclave_pcrs then .error .PcrMismatch
      else if parsed.image_digest ≠ ctx.enclave_image_digest then .error .ImageDigestMismatch
      else
        match last_boot ctx.prior_chain with
        | none => .ok (.Append ctx.prior_chain.length)
        | some prev =>
          match decode_canonical lib.boots prev.payload with
          | .error error => .error (.CorruptStoredPayload .Boot error.message)
          | .ok prev_payload =>
            if prev_payload.image_digest = parsed.image_digest then .ok .Dedup
            else if !ctx.upgradable then .error .NonUpgradableSecondBoot
            else
              match prev_payload.anti_rollback.check_successor parsed.anti_rollback with
              | .error change => .error (.AntiRollbackChanged change)
              | .ok () => .ok (.Append ctx.prior_chain.length)

def signed_payload_seen (link : ChainLink) (prior : List ChainLink) : Bool :=
  prior.any fun l => l.kind = link.kind ∧ l.payload = link.payload

def check_link_signature (link : ChainLink) (domain : SignedDomain) (ctx : ChainContext) :
    Except ChainValidationError Unit :=
  if !ctx.upgradable then .error (.NonUpgradableSigned link.kind)
  else
    match link.signature with
    | none => .error (.SignatureMissing link.kind)
    | some sig_bytes =>
      match ctx.control_public_key with
      | none => .error (.BadControlPubkey "upgradable enclave is missing control_public_key in context")
      | some pubkey_bytes =>
        match lib.from_sec1_bytes pubkey_bytes with
        | .error message => .error (.BadControlPubkey message)
        | .ok verifying =>
          match verify_control_signature verifying domain link.payload sig_bytes with
          | .error .Shape => .error .SignatureShape
          | .error .Invalid => .error .SignatureInvalid
          | .ok () => .ok ()

def validate_upgrade (link : ChainLink) (ctx : ChainContext) (attested : PinIdentity) :
    Except ChainValidationError Outcome :=
  match check_link_signature lib link .UpgradePayload ctx with
  | .error error => .error error
  | .ok () =>
    match decode_canonical lib.upgrades link.payload with
    | .error error => .error (.PayloadDecode .Upgrade error.message)
    | .ok parsed =>
      if parsed.enclave_id ≠ ctx.enclave_id then .error .EnclaveIdMismatch
      else if !upgrade_window_is_valid lib.chrono parsed.valid_from parsed.valid_until then
        .error .UpgradeWindowInvalid
      else if parsed.from ≠ attested then .error .UpgradeFromMismatch
      else if signed_payload_seen link ctx.prior_chain then .ok .Dedup
      else if ctx.prior_chain.isEmpty then .error .NoGenesisYet
      else .ok (.Append ctx.prior_chain.length)

def check_not_revoked (revokes : Uuid) : List ChainLink → Except ChainValidationError Unit
  | [] => .ok ()
  | existing :: rest =>
    if existing.kind ≠ .Revocation then check_not_revoked revokes rest
    else
      match decode_canonical lib.revocations existing.payload with
      | .error error => .error (.CorruptStoredPayload .Revocation error.message)
      | .ok existing_payload =>
        if existing_payload.revokes = revokes then .error .AlreadyRevoked else check_not_revoked revokes rest

def validate_revocation (link : ChainLink) (ctx : ChainContext) (now : DateTime) :
    Except ChainValidationError Outcome :=
  match check_link_signature lib link .RevocationPayload ctx with
  | .error error => .error error
  | .ok () =>
    match decode_canonical lib.revocations link.payload with
    | .error error => .error (.PayloadDecode .Revocation error.message)
    | .ok revoke =>
      if revoke.enclave_id ≠ ctx.enclave_id then .error .EnclaveIdMismatch
      else if signed_payload_seen link ctx.prior_chain then .ok .Dedup
      else
        match ctx.prior_chain.find? fun l => l.id = some revoke.revokes with
        | none => .error .RevokeTargetMissing
        | some target =>
          if target.kind ≠ .Upgrade then .error (.RevokeTargetWrongKind target.kind)
          else if revoke.revokes_link ≠ upgrade_link_hash target.payload then .error .RevokeLinkHashMismatch
          else
            match decode_canonical lib.upgrades target.payload with
            | .error error => .error (.CorruptStoredPayload .Upgrade error.message)
            | .ok target_upgrade =>
              if lib.instant target_upgrade.valid_from ≤ lib.instant now then .error .RevokePastActivation
              else
                match check_not_revoked lib revoke.revokes ctx.prior_chain with
                | .error error => .error error
                | .ok () =>
                  if ctx.prior_chain.isEmpty then .error .NoGenesisYet
                  else .ok (.Append ctx.prior_chain.length)

def validate_chain_link (link : ChainLink) (ctx : ChainContext) (now : DateTime) (debug_mode : Bool) :
    Except ChainValidationError Outcome :=
  if link.attestation.isEmpty then .error .EmptyAttestation
  else
    match ctx.enclave_pcrs.to_pcrs with
    | .error error => .error error
    | .ok recorded_pcrs =>
      match link_attestation lib link debug_mode with
      | .error error => .error (.Attestation error)
      | .ok doc =>
        match doc.require_pcrs recorded_pcrs with
        | .error error => .error (.Attestation error)
        | .ok () =>
          match link.kind with
          | .Boot => validate_boot lib link ctx
          | .Upgrade => validate_upgrade lib link ctx doc.identity
          | .Revocation => validate_revocation lib link ctx now

variable {lib} {link : ChainLink} {ctx : ChainContext} {outcome : Outcome}

theorem require_pcrs_ok {doc : ValidatedAttestation (List UInt8)} {expected : Pcrs} :
    doc.require_pcrs expected = .ok () ↔ doc.identity.image_pcrs = expected := by
  unfold ValidatedAttestation.require_pcrs ValidatedAttestation.pcrs
  split <;> simp_all

theorem last_boot_append (prior : List ChainLink) (link : ChainLink) :
    last_boot (prior ++ [link]) = if link.kind = .Boot then some link else last_boot prior := by
  simp only [last_boot, List.reverse_append, List.reverse_singleton, List.singleton_append, List.find?_cons]
  split <;> simp_all

/-- What a boot link says of itself, and that it is about the enclave and the version of the context. -/
structure BootOf (lib : ChainLibrary DateTime) (ctx : ChainContext) (link : ChainLink)
    (payload : BootPayload DateTime) : Prop where
  decoded : decode_canonical lib.boots link.payload = .ok payload
  enclave_id : payload.enclave_id = ctx.enclave_id
  pcrs : payload.pcrs = ctx.enclave_pcrs
  image_digest : payload.image_digest = ctx.enclave_image_digest

theorem validate_boot_ok (h : validate_boot lib link ctx = .ok outcome) :
    ∃ payload, BootOf lib ctx link payload ∧
      (last_boot ctx.prior_chain = none ∧ outcome = .Append ctx.prior_chain.length ∨
        ∃ prev prev_payload, last_boot ctx.prior_chain = some prev ∧
          decode_canonical lib.boots prev.payload = .ok prev_payload ∧
          (prev_payload.image_digest = payload.image_digest ∧ outcome = .Dedup ∨
            prev_payload.image_digest ≠ payload.image_digest ∧
              prev_payload.anti_rollback.check_successor payload.anti_rollback = .ok () ∧
              outcome = .Append ctx.prior_chain.length)) := by
  unfold validate_boot at h
  split at h
  · cases h
  split at h
  · cases h
  next payload hdecoded =>
  split at h
  · cases h
  next hid =>
  split at h
  · cases h
  next hpcrs =>
  split at h
  · cases h
  next hdigest =>
  refine ⟨payload, ⟨hdecoded, not_not.mp hid, not_not.mp hpcrs, not_not.mp hdigest⟩, ?_⟩
  split at h
  · next hlast =>
    cases h
    exact .inl ⟨hlast, rfl⟩
  next prev hlast =>
  refine .inr ⟨prev, ?_⟩
  split at h
  · cases h
  next prev_payload hprev =>
  refine ⟨prev_payload, hlast, hprev, ?_⟩
  split at h
  · next hsame =>
    cases h
    exact .inl ⟨hsame, rfl⟩
  next hother =>
  split at h
  · cases h
  split at h
  · cases h
  next hsuccessor =>
  cases h
  exact .inr ⟨hother, hsuccessor, rfl⟩

theorem check_link_signature_ok {domain : SignedDomain} (h : check_link_signature lib link domain ctx = .ok ()) :
    ∃ signature key verifying, link.signature = some signature ∧ ctx.control_public_key = some key ∧
      lib.from_sec1_bytes key = .ok verifying ∧
      verify_control_signature verifying domain link.payload signature = .ok () := by
  unfold check_link_signature at h
  split at h
  · cases h
  split at h
  · cases h
  next signature hsignature =>
  split at h
  · cases h
  next key hkey =>
  split at h
  · cases h
  next verifying hverifying =>
  split at h
  · cases h
  · cases h
  · next hverified => exact ⟨signature, key, verifying, hsignature, hkey, hverifying, hverified⟩

theorem validate_upgrade_ok {attested : PinIdentity} (h : validate_upgrade lib link ctx attested = .ok outcome) :
    check_link_signature lib link .UpgradePayload ctx = .ok () ∧
      ∃ payload, decode_canonical lib.upgrades link.payload = .ok payload ∧ payload.enclave_id = ctx.enclave_id ∧
        payload.from = attested ∧ (signed_payload_seen link ctx.prior_chain = true ∧ outcome = .Dedup ∨
          signed_payload_seen link ctx.prior_chain = false ∧ ctx.prior_chain ≠ [] ∧
            outcome = .Append ctx.prior_chain.length) := by
  unfold validate_upgrade at h
  split at h
  · cases h
  next hsigned =>
  refine ⟨hsigned, ?_⟩
  split at h
  · cases h
  next payload hdecoded =>
  split at h
  · cases h
  next hid =>
  split at h
  · cases h
  split at h
  · cases h
  next hfrom =>
  refine ⟨payload, hdecoded, not_not.mp hid, not_not.mp hfrom, ?_⟩
  split at h
  · next hseen =>
    cases h
    exact .inl ⟨hseen, rfl⟩
  next hseen =>
  split at h
  · cases h
  next hprior =>
  cases h
  exact .inr ⟨Bool.not_eq_true _ ▸ hseen, fun hnil => hprior (by rw [hnil]; rfl), rfl⟩

theorem validate_revocation_ok {now : DateTime} (h : validate_revocation lib link ctx now = .ok outcome) :
    check_link_signature lib link .RevocationPayload ctx = .ok () ∧
      ∃ payload, decode_canonical lib.revocations link.payload = .ok payload ∧ payload.enclave_id = ctx.enclave_id ∧
        (signed_payload_seen link ctx.prior_chain = true ∧ outcome = .Dedup ∨
          signed_payload_seen link ctx.prior_chain = false ∧ outcome = .Append ctx.prior_chain.length ∧
            ∃ target, ctx.prior_chain.find? (fun l => l.id = some payload.revokes) = some target ∧
              target.kind = .Upgrade ∧ payload.revokes_link = upgrade_link_hash target.payload) := by
  unfold validate_revocation at h
  split at h
  · cases h
  next hsigned =>
  refine ⟨hsigned, ?_⟩
  split at h
  · cases h
  next payload hdecoded =>
  split at h
  · cases h
  next hid =>
  refine ⟨payload, hdecoded, not_not.mp hid, ?_⟩
  split at h
  · next hseen =>
    cases h
    exact .inl ⟨hseen, rfl⟩
  next hseen =>
  split at h
  · cases h
  next target htarget =>
  split at h
  · cases h
  next hkind =>
  split at h
  · cases h
  next hlink =>
  split at h
  · cases h
  split at h
  · cases h
  split at h
  · cases h
  split at h
  · cases h
  cases h
  exact .inr ⟨Bool.not_eq_true _ ▸ hseen, rfl, target, htarget, not_not.mp hkind, not_not.mp hlink⟩

theorem validate_chain_link_ok {now : DateTime} {debug_mode : Bool}
    (h : validate_chain_link lib link ctx now debug_mode = .ok outcome) :
    ∃ doc, link_attestation lib link debug_mode = .ok doc ∧
      ctx.enclave_pcrs.to_pcrs = .ok doc.identity.image_pcrs ∧
      (match link.kind with
        | .Boot => validate_boot lib link ctx
        | .Upgrade => validate_upgrade lib link ctx doc.identity
        | .Revocation => validate_revocation lib link ctx now) = .ok outcome := by
  unfold validate_chain_link at h
  split at h
  · cases h
  split at h
  · cases h
  next recorded hrecorded =>
  split at h
  · cases h
  next doc hdoc =>
  split at h
  · cases h
  next hpcrs =>
  exact ⟨doc, hdoc, by rw [hrecorded, require_pcrs_ok.mp hpcrs], h⟩

namespace sample

def codec {T : Type} (nonce : T → List UInt8) (payloads : List T) : Codec T where
  encode := nonce
  from_reader bytes := (payloads.find? fun payload => nonce payload = bytes).elim (.error "unknown") .ok

/-- A library in which documents are written out, a byte for all PCRs before the user data, and every signature
verifies. -/
def library (boots : List (BootPayload Int)) (upgrades : List (UpgradePayload Int))
    (revocations : List (RevocationPayload Int)) : ChainLibrary Int where
  docs :=
    { validate_at_doc_timestamp := fun bytes =>
        let pcr : List UInt8 := List.replicate 48 (bytes.headD 0)
        .ok { timestamp := 0, pcrs := .ofList [(0, pcr), (1, pcr), (2, pcr)], nonce := none, user_data := bytes.tail }
      decode_attestation_document := fun _ => .error "not used"
      validate_expected_nonce := fun doc nonce => if doc.nonce = some nonce then .ok () else .error "nonce mismatch"
      validate_expected_nonce_ok := expected_nonce_ok }
  dangerous_skip_chain := false
  from_sec1_bytes := fun _ => .ok ⟨fun _ => true, fun _ _ => true⟩
  chrono := { timestamp_millis := Int64.ofInt, signed_duration_since := fun later earlier => later - earlier }
  instant := id
  boots := codec (·.nonce) boots
  upgrades := codec (·.nonce) upgrades
  revocations := codec (·.nonce) revocations

def setting (enabled : Bool) : AntiRollbackSetting where
  enabled := enabled
  upgrade_target := true
  debug_attestation := false
  synchronizer_pcrs := [image_pcrs_hex (.uniform 9)]

def boot (byte : UInt8) (image_digest : String) (enabled : Bool) : BootPayload Int where
  enclave_id := 0
  image_digest := image_digest
  pcrs := image_pcrs_hex (.uniform byte)
  booted_at := 0
  nonce := [byte]
  anti_rollback := setting enabled

def stored (id : Uuid) (kind : ChainLinkKind) (byte : UInt8) (payload : List UInt8) : ChainLink where
  id := some id
  sequence := none
  kind := kind
  payload := payload
  attestation := byte :: (crypto.sha256 payload).toList
  signature := if kind = .Boot then none else some []

variable {boots : List (BootPayload Int)} {upgrades : List (UpgradePayload Int)}
  {revocations : List (RevocationPayload Int)} {byte : UInt8}

theorem measured (hbyte : byte ∈ [1, 2, 3]) :
    PinIdentity.from_doc_pcrs
      (.ofList [(0, List.replicate 48 byte), (1, List.replicate 48 byte), (2, List.replicate 48 byte)]) =
        .ok (.uniform byte) := by
  have hall : ∀ byte ∈ [(1 : UInt8), 2, 3], PinIdentity.from_doc_pcrs
      (.ofList [(0, List.replicate 48 byte), (1, List.replicate 48 byte), (2, List.replicate 48 byte)]) =
        .ok (.uniform byte) := by decide +kernel
  exact hall byte hbyte

theorem link_attestation_stored (hbyte : byte ∈ [1, 2, 3]) (id : Uuid) (kind : ChainLinkKind) (payload : List UInt8) :
    link_attestation (library boots upgrades revocations) (stored id kind byte payload) false =
      .ok ⟨byte :: (crypto.sha256 payload).toList, .uniform byte, 0, some (crypto.sha256 payload).toList,
        .ChainLink true⟩ := by
  refine (if_neg Bool.false_ne_true).trans ?_
  refine (if_neg (not_not_intro rfl)).trans ?_
  exact ValidatedAttestation.from_doc_ok.mpr ⟨.uniform byte, measured hbyte, rfl⟩

theorem validate_stored (hbyte : byte ∈ [1, 2, 3]) (hctx : ctx.enclave_pcrs = image_pcrs_hex (.uniform byte))
    (id : Uuid) (kind : ChainLinkKind) (payload : List UInt8) (now : Int) :
    validate_chain_link (library boots upgrades revocations) (stored id kind byte payload) ctx now false =
      match kind with
      | .Boot => validate_boot (library boots upgrades revocations) (stored id kind byte payload) ctx
      | .Upgrade =>
        validate_upgrade (library boots upgrades revocations) (stored id kind byte payload) ctx (.uniform byte)
      | .Revocation =>
        validate_revocation (library boots upgrades revocations) (stored id kind byte payload) ctx now := by
  rw [validate_chain_link, if_neg (by simp [stored]), hctx, to_pcrs_image_pcrs_hex]
  dsimp only
  rw [link_attestation_stored hbyte]
  dsimp only
  rw [require_pcrs_ok.mpr rfl]
  rfl

end sample

end enclavia.protocol.chain
