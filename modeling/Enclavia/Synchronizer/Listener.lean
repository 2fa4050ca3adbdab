import Enclavia.Synchronizer.Wire

open interaction enclavia.protocol

namespace enclavia.synchronizer.listener

variable {Blob : Type} {lib : DocLibrary Blob}

inductive ConnError where
  | Io
  | FrameTooLarge (len : UInt32)
  | Cbor (error : DecodeError)
  | CborEncode
  | Attestation (error : AttestationError)
  | LocalAttestation (message : String)
  | Protocol (message : String)
  | Handshake (message : String)
  | Crypto

def ConnError.of_transport : TransportError → ConnError
  | .Io => .Io
  | .Crypto => .Crypto
  | .FrameTooLarge len => .FrameTooLarge len
  | .Encode => .CborEncode

def read_frame : ExceptT ConnError (Proc Blob) (Option (Frame Blob)) :=
  Proc.read_decoded Frame.decode .of_transport .Cbor

def write_cbor_frame (frame : Frame Blob) : ExceptT ConnError (Proc Blob) Unit :=
  Program.attempt (Proc.write frame.encode) .of_transport

def handle_connection (lib : DocLibrary Blob) (build : Build) :
    ExceptT ConnError (Proc Blob) (Option (PcrKey × ControlPubkey)) := do
  let handshake_hash ← Program.attempt Proc.handshake .Handshake
  match ← read_frame with
  | none => return none
  | some (.Rpc _) => throw (.Protocol "first frame must be Authenticate")
  | some (.Authenticate nsm_doc _ _) =>
    let now_ms ← Program.attempt Proc.trusted_now fun e => .LocalAttestation s!"trusted time: {e}"
    let session ← Program.check
      (attest.session_facts lib build nsm_doc handshake_hash now_ms) .Attestation
    let own_doc ← Program.attempt (Proc.attest handshake_hash none) .LocalAttestation
    write_cbor_frame (.authenticate own_doc)
    return some session

theorem handle_connection_returns {build : Build} {trace : List (SessionEvent Blob)}
    {session : PcrKey × ControlPubkey} :
    (handle_connection lib build).run.Returns trace (.ok (some session)) ↔
      ∃ hash message nsm_doc version capabilities now_ms own_doc,
        trace = [.handshaken hash, .received message, .told now_ms, .attested hash none own_doc,
          .sent (Frame.authenticate own_doc).encode] ∧
        Frame.decode message = .ok (.Authenticate nsm_doc version capabilities) ∧
        attest.session_facts lib build nsm_doc hash now_ms = .ok session := by
  rw [handle_connection, Program.returns_seq]
  constructor
  · rintro ⟨_, _, hash, rfl, hhash, hreading⟩
    rw [Program.returns_attempt, Proc.returns_handshake] at hhash
    obtain ⟨_, _, frame, rfl, hread, hserving⟩ := Program.returns_seq.mp hreading
    cases frame with
    | none => cases (Program.returns_pure.mp hserving).2
    | some frame =>
      obtain ⟨message, rfl, hdecode⟩ := Proc.returns_read_decoded.mp hread
      cases frame with
      | Rpc request => cases Program.not_returns_throw hserving
      | Authenticate nsm_doc version capabilities =>
        obtain ⟨_, _, now_ms, rfl, hnow, hchecking⟩ := Program.returns_seq.mp hserving
        rw [Program.returns_attempt, Proc.returns_trusted_now] at hnow
        obtain ⟨_, _, session', rfl, hcheck, hattesting⟩ := Program.returns_seq.mp hchecking
        obtain ⟨rfl, hfacts⟩ := Program.returns_check.mp hcheck
        obtain ⟨_, _, own_doc, rfl, hattest, hwriting⟩ := Program.returns_seq.mp hattesting
        rw [Program.returns_attempt, Proc.returns_attest] at hattest
        obtain ⟨_, _, ⟨⟩, rfl, hwrite, hpure⟩ := Program.returns_seq.mp hwriting
        rw [write_cbor_frame, Program.returns_attempt, Proc.returns_write] at hwrite
        obtain ⟨rfl, hsession⟩ := Program.returns_pure.mp hpure
        cases hsession
        subst hhash hnow hattest hwrite
        exact ⟨hash, message, nsm_doc, version, capabilities, now_ms, own_doc, rfl, hdecode, hfacts⟩
  · rintro ⟨hash, message, nsm_doc, version, capabilities, now_ms, own_doc, rfl, hdecode, hfacts⟩
    refine ⟨[_], [_, _, _, _], hash, rfl, Program.returns_attempt.mpr (Proc.returns_handshake.mpr rfl), ?_⟩
    refine Program.returns_seq.mpr ⟨[_], [_, _, _], some (.Authenticate nsm_doc version capabilities), rfl,
      Proc.returns_read_decoded.mpr ⟨message, rfl, hdecode⟩, ?_⟩
    refine Program.returns_seq.mpr ⟨[_], [_, _], now_ms, rfl,
      Program.returns_attempt.mpr (Proc.returns_trusted_now.mpr rfl), ?_⟩
    refine Program.returns_seq.mpr ⟨[], [_, _], session, rfl, Program.returns_check.mpr ⟨rfl, hfacts⟩, ?_⟩
    refine Program.returns_seq.mpr ⟨[_], [_], own_doc, rfl,
      Program.returns_attempt.mpr (Proc.returns_attest.mpr rfl), ?_⟩
    exact Program.returns_seq.mpr ⟨[_], [], (), rfl,
      Program.returns_attempt.mpr (Proc.returns_write.mpr rfl), Program.returns_pure.mpr ⟨rfl, rfl⟩⟩

theorem handle_connection_speaks {build : Build} :
    Program.Asks (Speaks lib (· = none) fun _ _ => True) [] (handle_connection lib build).run := by
  refine Program.Asks.seq (Program.Asks.attempt (Program.asks_ask trivial)) ?_
  intro _ hash hhash
  rw [Program.returns_attempt, Proc.returns_handshake] at hhash
  subst hhash
  refine Program.Asks.seq (Proc.asks_read_decoded trivial) ?_
  intro reading frame _
  cases frame with
  | none => exact trivial
  | some frame =>
    cases frame with
    | Rpc request => exact trivial
    | Authenticate nsm_doc version capabilities =>
      refine Program.Asks.seq (Program.Asks.attempt (Program.asks_ask trivial)) ?_
      intro asking now_ms _
      refine Program.Asks.seq trivial ?_
      intro checking session _
      refine Program.Asks.seq (Program.Asks.attempt (Program.asks_ask ⟨by simp, rfl⟩)) ?_
      intro _ own_doc hattest
      rw [Program.returns_attempt, Proc.returns_attest] at hattest
      subst hattest
      refine Program.Asks.seq (Program.Asks.attempt (Program.asks_ask ⟨trivial, .inl ?_⟩)) fun _ _ _ => trivial
      intro bytes hbytes doc _
      have hown : bytes = own_doc := by
        simpa [Frame.authenticate, Frame.encode, Plaintext.blobs] using hbytes
      subst hown
      exact ⟨hash, none, by simp⟩

end enclavia.synchronizer.listener
