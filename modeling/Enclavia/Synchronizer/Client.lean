import Enclavia.Synchronizer.Wire

open interaction enclavia.protocol

namespace enclavia.synchronizer.client

variable {Blob : Type} {lib : DocLibrary Blob} {build : Build} {server_policy : ServerPcrPolicy}
  {control_pubkey : ControlPubkey}

inductive ClientError where
  | Io
  | Handshake (message : String)
  | Crypto
  | CborEncode
  | Cbor (error : DecodeError)
  | FrameTooLarge (len : UInt32)
  | ConnectionClosed
  | ServerAttestation (error : AttestationError)
  | ServerPcrRejected
  | ServerAuthMissing

def ClientError.of_transport : TransportError → ClientError
  | .Io => .Io
  | .Crypto => .Crypto
  | .FrameTooLarge len => .FrameTooLarge len
  | .Encode => .CborEncode

def ClientError.of_server_auth : ServerAuthError → ClientError
  | .Attestation error => .ServerAttestation error
  | .PcrRejected => .ServerPcrRejected

def write_frame (frame : Frame Blob) : ExceptT ClientError (Proc Blob) Unit :=
  Program.attempt (Proc.write frame.encode) .of_transport

def read_frame : ExceptT ClientError (Proc Blob) (Frame Blob) := do
  match ← Proc.read_decoded Frame.decode .of_transport .Cbor with
  | none => throw .ConnectionClosed
  | some frame => return frame

def start : ExceptT ClientError (Proc Blob) (List UInt8) := Program.attempt Proc.handshake .Handshake

def authenticate (lib : DocLibrary Blob) (build : Build) (server_policy : ServerPcrPolicy)
    (handshake_hash : List UInt8) (nsm_doc : Blob) : ExceptT ClientError (Proc Blob) PeerProtocol := do
  write_frame (.authenticate nsm_doc)
  match ← read_frame with
  | .Rpc _ => throw .ServerAuthMissing
  | .Authenticate server_doc protocol_version capabilities =>
    let now_ms ← Program.lift Proc.system_now
    let _ ← Program.check
      (verify_server_attestation lib build server_doc handshake_hash server_policy now_ms) .of_server_auth
    return PeerProtocol.from_advertised protocol_version capabilities

inductive SetupError where
  | Client (error : ClientError)
  | Attestation (message : String)

def connect_and_authenticate (lib : DocLibrary Blob) (build : Build) (server_policy : ServerPcrPolicy)
    (control_pubkey : ControlPubkey) : ExceptT SetupError (Proc Blob) PeerProtocol := do
  let handshake_hash ← Program.attempt start.run .Client
  let doc ← Program.attempt (Proc.attest handshake_hash (some control_pubkey.toList)) .Attestation
  Program.attempt (authenticate lib build server_policy handshake_hash doc).run .Client

section Runs

variable {trace : List (SessionEvent Blob)} {protocol : PeerProtocol}

theorem read_frame_returns {frame : Frame Blob} :
    read_frame.run.Returns trace (.ok frame) ↔
      ∃ message, trace = [.received message] ∧ Frame.decode message = .ok frame := by
  rw [read_frame, Program.returns_seq]
  constructor
  · rintro ⟨_, _, frame', rfl, hread, hrest⟩
    cases frame' with
    | none => cases Program.not_returns_throw hrest
    | some frame' =>
      obtain ⟨message, rfl, hdecode⟩ := Proc.returns_read_decoded.mp hread
      obtain ⟨rfl, rfl⟩ := Program.returns_pure.mp hrest
      exact ⟨message, rfl, hdecode⟩
  · rintro ⟨message, rfl, hdecode⟩
    exact ⟨[_], [], some frame, rfl, Proc.returns_read_decoded.mpr ⟨message, rfl, hdecode⟩,
      Program.returns_pure.mpr ⟨rfl, rfl⟩⟩

theorem authenticate_returns {handshake_hash : List UInt8} {nsm_doc : Blob} :
    (authenticate lib build server_policy handshake_hash nsm_doc).run.Returns trace (.ok protocol) ↔
      ∃ message server_doc version capabilities now_ms pcrs,
        trace = [.sent (Frame.authenticate nsm_doc).encode, .received message, .system_told now_ms] ∧
        Frame.decode message = .ok (.Authenticate server_doc version capabilities) ∧
        verify_server_attestation lib build server_doc handshake_hash server_policy now_ms = .ok pcrs ∧
        PeerProtocol.from_advertised version capabilities = protocol := by
  rw [authenticate, Program.returns_seq]
  constructor
  · rintro ⟨_, _, ⟨⟩, rfl, hwrite, hreading⟩
    rw [write_frame, Program.returns_attempt, Proc.returns_write] at hwrite
    obtain ⟨_, _, frame, rfl, hread, hverifying⟩ := Program.returns_seq.mp hreading
    obtain ⟨message, rfl, hdecode⟩ := read_frame_returns.mp hread
    cases frame with
    | Rpc request => cases Program.not_returns_throw hverifying
    | Authenticate server_doc version capabilities =>
      obtain ⟨_, _, now_ms, rfl, hnow, hchecking⟩ := Program.returns_seq.mp hverifying
      rw [Program.returns_lift, Proc.returns_system_now] at hnow
      obtain ⟨_, _, pcrs, rfl, hcheck, hpure⟩ := Program.returns_seq.mp hchecking
      obtain ⟨rfl, hverify⟩ := Program.returns_check.mp hcheck
      obtain ⟨rfl, hprotocol⟩ := Program.returns_pure.mp hpure
      subst hwrite hnow
      exact ⟨message, server_doc, version, capabilities, now_ms, pcrs, rfl, hdecode, hverify, hprotocol⟩
  · rintro ⟨message, server_doc, version, capabilities, now_ms, pcrs, rfl, hdecode, hverify, rfl⟩
    refine ⟨[_], [_, _], (), rfl, Program.returns_attempt.mpr (Proc.returns_write.mpr rfl), ?_⟩
    refine Program.returns_seq.mpr ⟨[_], [_], .Authenticate server_doc version capabilities, rfl,
      read_frame_returns.mpr ⟨message, rfl, hdecode⟩, ?_⟩
    refine Program.returns_seq.mpr ⟨[_], [], now_ms, rfl,
      Program.returns_lift.mpr (Proc.returns_system_now.mpr rfl), ?_⟩
    exact Program.returns_seq.mpr ⟨[], [], pcrs, rfl, Program.returns_check.mpr ⟨rfl, hverify⟩,
      Program.returns_pure.mpr ⟨rfl, rfl⟩⟩

theorem connect_and_authenticate_returns :
    (connect_and_authenticate lib build server_policy control_pubkey).run.Returns trace (.ok protocol) ↔
      ∃ hash doc message server_doc version capabilities now_ms pcrs,
        trace = [.handshaken hash, .attested hash (some control_pubkey.toList) doc,
          .sent (Frame.authenticate doc).encode, .received message, .system_told now_ms] ∧
        Frame.decode message = .ok (.Authenticate server_doc version capabilities) ∧
        verify_server_attestation lib build server_doc hash server_policy now_ms = .ok pcrs ∧
        PeerProtocol.from_advertised version capabilities = protocol := by
  rw [connect_and_authenticate, Program.returns_seq]
  constructor
  · rintro ⟨_, _, hash, rfl, hhash, hattesting⟩
    rw [Program.returns_attempt, start, Program.returns_attempt, Proc.returns_handshake] at hhash
    obtain ⟨_, _, doc, rfl, hattest, hauthenticate⟩ := Program.returns_seq.mp hattesting
    rw [Program.returns_attempt, Proc.returns_attest] at hattest
    rw [Program.returns_attempt, authenticate_returns] at hauthenticate
    obtain ⟨message, server_doc, version, capabilities, now_ms, pcrs, rfl, hrest⟩ := hauthenticate
    subst hhash hattest
    exact ⟨hash, doc, message, server_doc, version, capabilities, now_ms, pcrs, rfl, hrest⟩
  · rintro ⟨hash, doc, message, server_doc, version, capabilities, now_ms, pcrs, rfl, hrest⟩
    refine ⟨[_], [_, _, _, _], hash, rfl, Program.returns_attempt.mpr
      (Program.returns_attempt.mpr (Proc.returns_handshake.mpr rfl)), ?_⟩
    refine Program.returns_seq.mpr ⟨[_], [_, _, _], doc, rfl,
      Program.returns_attempt.mpr (Proc.returns_attest.mpr rfl), ?_⟩
    exact Program.returns_attempt.mpr
      (authenticate_returns.mpr ⟨message, server_doc, version, capabilities, now_ms, pcrs, rfl, hrest⟩)

end Runs

theorem connect_and_authenticate_speaks :
    Program.Asks (Speaks lib (· = some control_pubkey.toList)
        fun _ message => ∃ doc, message = (Frame.authenticate doc).encode) []
      (connect_and_authenticate lib build server_policy control_pubkey).run := by
  refine Program.Asks.seq (Program.Asks.attempt (Program.Asks.attempt (Program.asks_ask trivial))) ?_
  intro _ hash hhash
  rw [Program.returns_attempt, start, Program.returns_attempt, Proc.returns_handshake] at hhash
  subst hhash
  refine Program.Asks.seq (Program.Asks.attempt (Program.asks_ask ⟨by simp, rfl⟩)) ?_
  intro _ doc hattest
  rw [Program.returns_attempt, Proc.returns_attest] at hattest
  subst hattest
  refine Program.Asks.attempt (Program.Asks.seq
    (Program.Asks.attempt (Program.asks_ask ⟨⟨doc, rfl⟩, .inl ?_⟩)) ?_)
  · intro bytes hbytes _ _
    have hdoc : bytes = doc := by
      simpa [Frame.authenticate, Frame.encode, Plaintext.blobs] using hbytes
    subst hdoc
    exact ⟨hash, some control_pubkey.toList, by simp⟩
  · intro writing _ _
    refine Program.Asks.seq (Program.Asks.seq (Proc.asks_read_decoded trivial) ?_) ?_
    · intro reading frame _
      cases frame <;> exact trivial
    · intro reading frame _
      cases frame with
      | Rpc request => exact trivial
      | Authenticate server_doc version capabilities =>
        refine Program.Asks.seq (Program.Asks.lift (Program.asks_ask trivial)) ?_
        intro _ _ _
        exact Program.Asks.seq trivial fun _ _ _ => trivial

end enclavia.synchronizer.client
