namespace enclavia.protocol

inductive SignedDomain where
  | UpgradePayload
  | RevocationPayload
  | ControlCommand
deriving DecidableEq

def SignedDomain.context : SignedDomain → List UInt8
  | .UpgradePayload => "enclavia/upgrade-payload/v1\x00".toUTF8.toList
  | .RevocationPayload => "enclavia/revocation-payload/v1\x00".toUTF8.toList
  | .ControlCommand => "enclavia/control-command/v1\x00".toUTF8.toList

def signed_message (domain : SignedDomain) (bytes : List UInt8) : List UInt8 := domain.context ++ bytes

inductive ControlSignatureError where
  | Shape
  | Invalid
deriving DecidableEq

structure VerifyingKey where
  signature_from_slice : List UInt8 → Bool
  verify : List UInt8 → List UInt8 → Bool

def verify_control_signature (verifying_key : VerifyingKey) (domain : SignedDomain)
    (bytes signature : List UInt8) : Except ControlSignatureError Unit :=
  if !verifying_key.signature_from_slice signature then .error .Shape
  else if !verifying_key.verify (signed_message domain bytes) signature then .error .Invalid
  else .ok ()

inductive CanonicalDecodeError where
  | Decode (message : String)
  | NotCanonical

def CanonicalDecodeError.message : CanonicalDecodeError → String
  | .Decode message => s!"not a valid encoding: {message}"
  | .NotCanonical => "not the canonical encoding of the decoded value"

structure Codec (T : Type) where
  encode : T → List UInt8
  from_reader : List UInt8 → Except String T

variable {T : Type} {bytes : List UInt8} {codec : Codec T}

def decode_canonical (codec : Codec T) (bytes : List UInt8) : Except CanonicalDecodeError T :=
  match codec.from_reader bytes with
  | .error message => .error (.Decode message)
  | .ok value => if codec.encode value ≠ bytes then .error .NotCanonical else .ok value

theorem verify_control_signature_ok {verifying_key : VerifyingKey} {domain : SignedDomain} {signature : List UInt8} :
    verify_control_signature verifying_key domain bytes signature = .ok () ↔
      verifying_key.signature_from_slice signature = true ∧
        verifying_key.verify (signed_message domain bytes) signature = true := by
  unfold verify_control_signature
  cases verifying_key.signature_from_slice signature <;>
    cases verifying_key.verify (signed_message domain bytes) signature <;> simp

theorem decode_canonical_ok {value : T} :
    decode_canonical codec bytes = .ok value ↔
      codec.from_reader bytes = .ok value ∧ codec.encode value = bytes := by
  unfold decode_canonical
  constructor
  · intro h
    split at h
    · cases h
    · next decoded hdecoded =>
      split at h
      · cases h
      · next hencode =>
        cases h
        exact ⟨hdecoded, Decidable.not_not.mp hencode⟩
  · rintro ⟨hdecoded, hencode⟩
    rw [hdecoded]
    exact if_neg (not_not_intro hencode)

theorem SignedDomain.context_length (domain : SignedDomain) : 10 ≤ domain.context.length := by
  cases domain <;> decide +kernel

theorem take_signed_message (domain : SignedDomain) (bytes : List UInt8) :
    (signed_message domain bytes).take 10 = domain.context.take 10 :=
  List.take_append_of_le_length domain.context_length

theorem SignedDomain.eq_of_take_context {first second : SignedDomain}
    (h : first.context.take 10 = second.context.take 10) : first = second := by
  revert first second
  have hall : ∀ first ∈ [SignedDomain.UpgradePayload, .RevocationPayload, .ControlCommand],
      ∀ second ∈ [SignedDomain.UpgradePayload, .RevocationPayload, .ControlCommand],
        first.context.take 10 = second.context.take 10 → first = second := by
    decide +kernel
  intro first second
  apply hall
  · cases first <;> simp
  · cases second <;> simp

theorem signed_message_injective {first second : SignedDomain} {other : List UInt8}
    (h : signed_message first bytes = signed_message second other) : first = second ∧ bytes = other := by
  have hdomain : first = second := by
    apply SignedDomain.eq_of_take_context
    rw [← take_signed_message first bytes, ← take_signed_message second other, h]
  subst hdomain
  exact ⟨rfl, List.append_cancel_left h⟩

theorem decode_canonical_injective {other : List UInt8} {value : T} (h : decode_canonical codec bytes = .ok value)
    (hother : decode_canonical codec other = .ok value) :
    bytes = other :=
  (decode_canonical_ok.mp h).2.symm.trans (decode_canonical_ok.mp hother).2

/-- A signature authorizes one value in one domain, among the messages for which none is forged. -/
theorem signature_authorizes_one_value (verifying_key : VerifyingKey) (InPlay : List UInt8 → Prop)
    (made : List UInt8 → Option (List UInt8))
    (hunforgeable : ∀ message signature, InPlay message → verifying_key.verify message signature = true →
      made signature = some message) :
    (∀ first second bytes other, signed_message first bytes = signed_message second other →
      first = second ∧ bytes = other) ∧
    (∀ (T : Type) (codec : Codec T) bytes value, decode_canonical codec bytes = .ok value →
      codec.encode value = bytes ∧ ∀ other, decode_canonical codec other = .ok value → other = bytes) ∧
    ∀ domain bytes signature, InPlay (signed_message domain bytes) →
      verify_control_signature verifying_key domain bytes signature = .ok () →
      (∀ second other, InPlay (signed_message second other) →
        verify_control_signature verifying_key second other signature = .ok () → second = domain ∧ other = bytes) ∧
      ∀ (T : Type) (codec : Codec T) value other second, InPlay (signed_message domain other) →
        verify_control_signature verifying_key domain other signature = .ok () →
        decode_canonical codec bytes = .ok value → decode_canonical codec other = .ok second → second = value := by
  have hmade : ∀ {domain bytes signature}, InPlay (signed_message domain bytes) →
      verify_control_signature verifying_key domain bytes signature = .ok () →
      made signature = some (signed_message domain bytes) :=
    fun hplay h => hunforgeable _ _ hplay (verify_control_signature_ok.mp h).2
  refine ⟨fun _ _ _ _ => signed_message_injective, ?_, ?_⟩
  · intro T codec bytes value h
    exact ⟨(decode_canonical_ok.mp h).2, fun other hother => decode_canonical_injective hother h⟩
  · intro domain bytes signature hplay h
    have hsame : ∀ second other, InPlay (signed_message second other) →
        verify_control_signature verifying_key second other signature = .ok () → second = domain ∧ other = bytes := by
      intro second other hother_play hother
      exact signed_message_injective (Option.some.inj ((hmade hother_play hother).symm.trans (hmade hplay h)))
    refine ⟨hsame, ?_⟩
    intro T codec value other second hother_play hother hvalue hsecond
    obtain ⟨-, rfl⟩ := hsame domain other hother_play hother
    rw [hvalue] at hsecond
    exact (Except.ok.inj hsecond).symm

namespace signing

/-- A key with signatures of 64 bytes, which are the first bytes of the message. -/
def short_key : VerifyingKey where
  signature_from_slice signature := signature.length == 64
  verify message signature := signature == (message ++ List.replicate 64 0).take 64

/-- The payload `[7]`, in any domain. -/
def Seven (message : List UInt8) : Prop := ∃ domain, message = signed_message domain [7]

theorem short_key_made {message signature : List UInt8} (hplay : Seven message)
    (hverify : short_key.verify message signature = true) :
    [SignedDomain.UpgradePayload, .RevocationPayload, .ControlCommand].findSome? (fun domain =>
      if short_key.verify (signed_message domain [7]) signature then some (signed_message domain [7]) else none) =
        some message := by
  obtain ⟨domain, rfl⟩ := hplay
  obtain rfl := eq_of_beq hverify
  cases domain <;> decide +kernel

end signing

open signing in
/-- The signature of the revocation `[7]` is refused for an upgrade. -/
theorem signature_authorizes_one_value_short : ∃ signature : List UInt8, signature.length = 64 ∧
    verify_control_signature short_key .RevocationPayload [7] signature = .ok () ∧
    verify_control_signature short_key .UpgradePayload [7] signature ≠ .ok () := by
  have haccepted : verify_control_signature short_key .RevocationPayload [7]
      ((signed_message .RevocationPayload [7] ++ List.replicate 64 0).take 64) = .ok () :=
    verify_control_signature_ok.mpr ⟨by decide +kernel, by decide +kernel⟩
  refine ⟨_, by decide +kernel, haccepted, fun h => ?_⟩
  have hsame := ((signature_authorizes_one_value short_key Seven _ fun _ _ => short_key_made).2.2
    _ _ _ ⟨_, rfl⟩ haccepted).1 .UpgradePayload [7] ⟨_, rfl⟩ h
  cases hsame.1

end enclavia.protocol
