import Enclavia.Interaction.Protocol
import Enclavia.Protocol.Signing
import Enclavia.Server.Session

open interaction enclavia.protocol

namespace enclavia.server

abbrev Nonce := Vector UInt8 32

structure RekeyParams where
  new_public_key : List UInt8
  new_key_id : String

inductive ControlCommand where
  | PrepareUpgrade (payload payload_signature : List UInt8) (rekey : Option RekeyParams) (nonce : Nonce)
  | RevokeUpgrade (payload payload_signature : List UInt8) (rollback : Bool) (nonce : Nonce)

def ControlCommand.nonce : ControlCommand → Nonce
  | .PrepareUpgrade _ _ _ nonce => nonce
  | .RevokeUpgrade _ _ _ nonce => nonce

inductive ControlEffect where
  | receive
  | control_nonce
  | take_nonce
  | attest (nonce : Nonce)
  | dispatch (command : ControlCommand)
  | serve (message : ClientMessage (List UInt8))
  | send (reply : Plaintext (List UInt8))

abbrev ControlAnswer : ControlEffect → Type
  | .receive => Option (ClientMessage (List UInt8))
  | .control_nonce | .take_nonce => Nonce
  | .attest _ => Except String (List UInt8)
  | .dispatch _ => Bool × String
  | .serve _ | .send _ => Bool

abbrev ControlProc := Program ControlEffect ControlAnswer

variable (codec : Codec ControlCommand) (control_pubkey : Option VerifyingKey)

def handle_control (payload signature : List UInt8) : ControlProc (Bool × String) :=
  .act .take_nonce fun expected =>
    match control_pubkey with
    | none => .ret (false, "control channel disabled (no control_public_key configured)")
    | some pubkey =>
      match verify_control_signature pubkey .ControlCommand payload signature with
      | .error .Shape => .ret (false, "signature must be 64 bytes raw r||s")
      | .error .Invalid => .ret (false, "signature verification failed")
      | .ok () =>
        match decode_canonical codec payload with
        | .error error => .ret (false, s!"malformed payload: {error.message}")
        | .ok command =>
          if command.nonce ≠ expected then .ret (false, "stale nonce, fetch a fresh attestation")
          else .act (.dispatch command) .ret

def control_result (message : String) : Plaintext (List UInt8) :=
  [("type", .Text "ControlResult"), ("success", .Other), ("message", .Text message)]

def control_nonce_message : Plaintext (List UInt8) := [("type", .Text "ControlNonce"), ("nonce", .Other)]

def client_round (kind : ChannelKind) : ControlProc Bool :=
  .act .receive fun
    | none => .ret false
    | some message =>
      if !ClientMessage.allowed message kind then .act (.send (refusal kind)) fun _ => .ret false
      else
        match message with
        | .RequestAttestation =>
          .act .control_nonce fun nonce =>
            .act (.attest nonce) fun
              | .error _ => .ret false
              | .ok data => .act (.send (attestation_message data)) fun _ => .ret true
        | .GetControlNonce =>
          .act .control_nonce fun _ => .act (.send control_nonce_message) fun _ => .ret true
        | .Control payload signature =>
          (handle_control codec control_pubkey payload signature).bind fun result =>
            .act (.send (control_result result.2)) .ret
        | message => .act (.serve message) .ret

/-- The signature of a command verifies under the control key in the command's domain, and the command is what the
payload canonically encodes. -/
structure Authorised (payload signature : List UInt8) (command : ControlCommand) : Prop where
  verified : ∃ pubkey, control_pubkey = some pubkey ∧
    verify_control_signature pubkey .ControlCommand payload signature = .ok ()
  decoded : decode_canonical codec payload = .ok command

inductive ControlStage where
  | idle
  | received (payload signature : List UInt8)
  | taken (payload signature : List UInt8) (expected : Nonce)
  | dispatched

namespace ControlStage

def allowed (kind : ChannelKind) : ControlStage → ControlEffect → Prop
  | .received _ _, .take_nonce => kind = .Control
  | .taken payload signature expected, .dispatch command =>
    Authorised codec control_pubkey payload signature command ∧ command.nonce = expected
  | _, .take_nonce | _, .dispatch _ => False
  | _, _ => True

def advance : ControlStage → (effect : ControlEffect) → ControlAnswer effect → ControlStage
  | _, .receive, some (.Control payload signature) => .received payload signature
  | .received payload signature, .take_nonce, expected => .taken payload signature expected
  | .taken _ _ _, .dispatch _, _ => .dispatched
  | _, .send _, _ => .idle
  | stage, _, _ => stage

theorem advance_of_ne {effect : ControlEffect} (heffect : effect ≠ .take_nonce) (stage : ControlStage)
    (answer : ControlAnswer effect) : stage.advance effect answer = stage ∨
      ∀ payload signature expected, stage.advance effect answer ≠ .taken payload signature expected := by
  cases effect with
  | take_nonce => exact absurd rfl heffect
  | receive =>
    rcases answer with _ | message
    · exact .inl (by cases stage <;> rfl)
    · cases message with
      | Control payload signature => exact .inr (by cases stage <;> exact nofun)
      | _ => exact .inl (by cases stage <;> rfl)
  | send reply => exact .inr (by cases stage <;> exact nofun)
  | dispatch command =>
    cases stage with
    | taken payload signature expected => exact .inr nofun
    | _ => exact .inl rfl
  | _ => exact .inl (by cases stage <;> rfl)

def protocol (kind : ChannelKind) : Protocol ControlEffect ControlAnswer ControlStage where
  allowed := allowed codec control_pubkey kind
  rely _ _ := True
  advance := advance

end ControlStage

variable {codec control_pubkey}

theorem handle_control_follows {payload signature : List UInt8} {kind : ChannelKind} (hkind : kind = .Control) :
    (handle_control codec control_pubkey payload signature).Follows (ControlStage.protocol codec control_pubkey kind)
      (fun stage _ => (∃ expected, stage = .taken payload signature expected) ∨ stage = .dispatched)
      (.received payload signature) := by
  refine ⟨hkind, fun expected _ => ?_⟩
  dsimp only
  split
  · exact .inl ⟨expected, rfl⟩
  · split
    · exact .inl ⟨expected, rfl⟩
    · exact .inl ⟨expected, rfl⟩
    · next hverified =>
      split
      · exact .inl ⟨expected, rfl⟩
      · next command hdecoded =>
        split
        · exact .inl ⟨expected, rfl⟩
        · next hnonce =>
          exact ⟨⟨⟨⟨_, rfl, hverified⟩, hdecoded⟩, not_not.mp hnonce⟩, fun _ _ => .inr rfl⟩

theorem client_round_follows {kind : ChannelKind} :
    (client_round codec control_pubkey kind).Follows (ControlStage.protocol codec control_pubkey kind)
      (fun stage again => again = true → stage = .idle) .idle := by
  refine ⟨trivial, ?_⟩
  rintro (_ | message) -
  · exact nofun
  dsimp only
  split
  · exact ⟨by cases message <;> trivial, fun _ _ => nofun⟩
  · next hallowed =>
    cases message with
    | RequestAttestation =>
      refine ⟨trivial, fun nonce _ => ⟨trivial, ?_⟩⟩
      rintro (error | data) -
      · exact nofun
      · exact ⟨trivial, fun _ _ _ => rfl⟩
    | GetControlNonce => exact ⟨trivial, fun nonce _ => ⟨trivial, fun _ _ _ => rfl⟩⟩
    | Control payload signature =>
      have hkind : kind = .Control := by
        cases kind with
        | Public => exact absurd rfl hallowed
        | Control => rfl
      refine (handle_control_follows hkind).bind ?_
      rintro stage result (⟨expected, rfl⟩ | rfl)
      · exact ⟨trivial, fun _ _ _ => rfl⟩
      · exact ⟨trivial, fun _ _ _ => rfl⟩
    | Data id payload | OpenStream id payload | StreamData id payload | StreamClose id half =>
      exact ⟨trivial, fun _ _ _ => rfl⟩

theorem handle_control_returns {payload signature : List UInt8} {trace : List (Event ControlAnswer)}
    {result : Bool × String}
    (hreturns : (handle_control codec control_pubkey payload signature).Returns trace result) :
    ∃ expected, trace = [⟨.take_nonce, expected⟩] ∧ result.1 = false ∨
      ∃ command answer, trace = [⟨.take_nonce, expected⟩, ⟨.dispatch command, answer⟩] ∧ result = answer ∧
        Authorised codec control_pubkey payload signature command ∧ command.nonce = expected := by
  obtain ⟨expected, rest, rfl, h⟩ := Program.returns_act.mp hreturns
  clear hreturns
  refine ⟨expected, ?_⟩
  have hrefused {message : String} (h : (Program.ret (false, message) : ControlProc _).Returns rest result) :
      ⟨.take_nonce, expected⟩ :: rest = [(⟨.take_nonce, expected⟩ : Event ControlAnswer)] ∧ result.1 = false := by
    obtain ⟨rfl, rfl⟩ := Program.returns_ret.mp h
    exact ⟨rfl, rfl⟩
  split at h
  · exact .inl (hrefused h)
  · split at h
    · exact .inl (hrefused h)
    · exact .inl (hrefused h)
    · next hverified =>
      split at h
      · exact .inl (hrefused h)
      · next command hdecoded =>
        split at h
        · exact .inl (hrefused h)
        · next hnonce =>
          obtain ⟨answer, rest, rfl, hanswer⟩ := Program.returns_act.mp h
          obtain ⟨rfl, rfl⟩ := Program.returns_ret.mp hanswer
          exact .inr ⟨command, answer, rfl, rfl, ⟨⟨_, rfl, hverified⟩, hdecoded⟩, not_not.mp hnonce⟩

end enclavia.server
