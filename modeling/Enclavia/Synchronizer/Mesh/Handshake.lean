import Enclavia.Synchronizer.Wire

open interaction enclavia.protocol

namespace enclavia.synchronizer.mesh

variable {Blob : Type}

def ATTEST_TIMEOUT : Nat := 10000

def PEER_AUTH_READ_TIMEOUT : Nat := 15000

inductive MeshFrame (Blob : Type) where
  | Authenticate (nsm_doc identity_sig : Blob)
  | Hello (sender : String)
  | Ping
  | Pong
  | Rpc (envelope : Blob)

namespace MeshFrame

def encode : MeshFrame Blob → Plaintext Blob
  | .Authenticate nsm_doc identity_sig =>
    [("frame", .Text "Authenticate"), ("nsm_doc", .Bytes nsm_doc), ("identity_sig", .Bytes identity_sig)]
  | .Hello sender => [("frame", .Text "Hello"), ("from", .Text sender)]
  | .Ping => [("frame", .Text "Ping")]
  | .Pong => [("frame", .Text "Pong")]
  | .Rpc envelope => [("frame", .Text "Rpc"), ("envelope", .Bytes envelope)]

def decode (message : Plaintext Blob) : Except DecodeError (MeshFrame Blob) := do
  match ← message.text "frame" with
  | "Authenticate" =>
    let nsm_doc ← message.bytes "nsm_doc"
    let identity_sig ← message.bytes "identity_sig"
    return .Authenticate nsm_doc identity_sig
  | "Hello" => return .Hello (← message.text "from")
  | "Ping" => return .Ping
  | "Pong" => return .Pong
  | "Rpc" => return .Rpc (← message.bytes "envelope")
  | _ => .error .UnknownVariant

theorem decode_encode (frame : MeshFrame Blob) : decode frame.encode = .ok frame := by
  cases frame <;> rfl

theorem decode_authenticate_mem {message : Plaintext Blob} {nsm_doc identity_sig : Blob}
    (h : decode message = .ok (.Authenticate nsm_doc identity_sig)) : nsm_doc ∈ message.blobs := by
  obtain ⟨tag, -, hframe⟩ := Plaintext.bind_ok.mp h
  split at hframe
  · obtain ⟨doc, hdoc, hrest⟩ := Plaintext.bind_ok.mp hframe
    obtain ⟨sig, -, hrest⟩ := Plaintext.bind_ok.mp hrest
    cases hrest
    exact Plaintext.bytes_mem hdoc
  · obtain ⟨sender, -, hrest⟩ := Plaintext.bind_ok.mp hframe
    cases hrest
  · cases hframe
  · cases hframe
  · obtain ⟨envelope, -, hrest⟩ := Plaintext.bind_ok.mp hframe
    cases hrest
  · cases hframe

theorem decode_customer_authenticate (nsm_doc : Blob) (protocol_version : UInt32)
    (capabilities : List String) :
    decode (Frame.Authenticate nsm_doc protocol_version capabilities).encode =
      .error (.MissingField "identity_sig") :=
  rfl

theorem customer_decode_authenticate (nsm_doc identity_sig : Blob) :
    Frame.decode (Authenticate nsm_doc identity_sig).encode = .ok (.Authenticate nsm_doc 0 []) :=
  rfl

end MeshFrame

inductive MeshIdentityError where
  | BadPubkey
  | SignatureShape
  | SignatureInvalid

structure P256 (Blob : Type) where
  from_sec1_bytes : ControlPubkey → Bool
  from_slice : Blob → Bool
  verify : ControlPubkey → List UInt8 → Blob → Bool

def verify_mesh_identity (p256 : P256 Blob) (mesh_pubkey : ControlPubkey) (signature : Blob)
    (handshake_hash : List UInt8) : Except MeshIdentityError Unit :=
  if !p256.from_sec1_bytes mesh_pubkey then .error .BadPubkey
  else if !p256.from_slice signature then .error .SignatureShape
  else if !p256.verify mesh_pubkey handshake_hash signature then .error .SignatureInvalid
  else .ok ()

structure PcrAllowlist where
  allowed : Std.ExtTreeSet PcrKey

def PcrAllowlist.self_only (self_pcr_digest : PcrKey) : PcrAllowlist :=
  ⟨Std.ExtTreeSet.empty.insert self_pcr_digest⟩

def PcrAllowlist.admits (allowlist : PcrAllowlist) (digest : PcrKey) : Bool :=
  allowlist.allowed.contains digest

@[simp] theorem PcrAllowlist.self_only_admits (own digest : PcrKey) :
    (self_only own).admits digest = true ↔ digest = own := by
  rw [admits, ← Std.ExtTreeSet.mem_iff_contains, self_only, mem_insert_key]
  simp [eq_comm]

structure MeshIdentity (Blob : Type) where
  pubkey : ControlPubkey
  sign_handshake : List UInt8 → Blob

structure PeerIdentity where
  pcr_digest : PcrKey
  mesh_pubkey : ControlPubkey

inductive CborError where
  | Encode
  | Decode (error : DecodeError)

inductive HandshakeError where
  | Io
  | Noise (message : String)
  | Crypto
  | LocalAttestation (message : String)
  | FrameTooLarge (len : UInt32)
  | Cbor (error : CborError)
  | NotAuthenticate
  | PeerAttestation (error : AttestationError)
  | PcrNotAllowed
  | IdentitySignature (error : MeshIdentityError)
  | PeerClosed
  | Timeout (phase : String) (after_ms : Nat)

def HandshakeError.of_transport : TransportError → HandshakeError
  | .Io => .Io
  | .Crypto => .Crypto
  | .FrameTooLarge len => .FrameTooLarge len
  | .Encode => .Cbor .Encode

def with_deadline {α : Type} (phase : String) (after_ms : Nat)
    (p : ExceptT HandshakeError (Proc Blob) α) : ExceptT HandshakeError (Proc Blob) α :=
  ExceptT.mk ((Proc.deadline phase after_ms).bind fun elapsed =>
    if elapsed then .ret (.error (.Timeout phase after_ms)) else p.run)

def write_frame (frame : MeshFrame Blob) : ExceptT HandshakeError (Proc Blob) Unit :=
  Program.attempt (Proc.write frame.encode) .of_transport

def read_frame : ExceptT HandshakeError (Proc Blob) (Option (MeshFrame Blob)) :=
  Proc.read_decoded MeshFrame.decode .of_transport fun e => .Cbor (.Decode e)

def read_peer_authenticate : ExceptT HandshakeError (Proc Blob) (Blob × Blob) := do
  match ← with_deadline "peer Authenticate read" PEER_AUTH_READ_TIMEOUT read_frame with
  | some (.Authenticate nsm_doc identity_sig) => return (nsm_doc, identity_sig)
  | some _ => throw .NotAuthenticate
  | none => throw .PeerClosed

def exchange (auth : MeshFrame Blob) : Role → ExceptT HandshakeError (Proc Blob) (Blob × Blob)
  | .Initiator => do
    write_frame auth
    read_peer_authenticate
  | .Responder => do
    let got ← read_peer_authenticate
    write_frame auth
    return got

structure Verifier (Blob : Type) where
  lib : DocLibrary Blob
  p256 : P256 Blob
  build : Build

def Verifier.verify_peer (verifier : Verifier Blob) (allowlist : PcrAllowlist)
    (handshake_hash : List UInt8) (peer_doc peer_sig : Blob) (now_ms : UInt64) :
    Except HandshakeError PeerIdentity :=
  match attest.session_facts verifier.lib verifier.build peer_doc handshake_hash now_ms with
  | .error error => .error (.PeerAttestation error)
  | .ok (pcr_digest, peer_pubkey) =>
    if !allowlist.admits pcr_digest then .error .PcrNotAllowed
    else
      match verify_mesh_identity verifier.p256 peer_pubkey peer_sig handshake_hash with
      | .error error => .error (.IdentitySignature error)
      | .ok () => .ok { pcr_digest, mesh_pubkey := peer_pubkey }

theorem Verifier.verify_peer_ok {verifier : Verifier Blob} {allowlist : PcrAllowlist}
    {handshake_hash : List UInt8} {peer_doc peer_sig : Blob} {now_ms : UInt64} {peer : PeerIdentity} :
    verifier.verify_peer allowlist handshake_hash peer_doc peer_sig now_ms = .ok peer ↔
      attest.session_facts verifier.lib verifier.build peer_doc handshake_hash now_ms =
          .ok (peer.pcr_digest, peer.mesh_pubkey) ∧
        allowlist.admits peer.pcr_digest = true ∧
        verify_mesh_identity verifier.p256 peer.mesh_pubkey peer_sig handshake_hash = .ok () := by
  unfold verify_peer
  constructor
  · intro h
    split at h
    · cases h
    · next pcr_digest peer_pubkey hfacts =>
      split at h
      · cases h
      · next hadmits =>
        split at h
        · cases h
        · next hsignature =>
          cases h
          exact ⟨hfacts, by simpa using hadmits, hsignature⟩
  · rintro ⟨hfacts, hadmits, hsignature⟩
    simp [hfacts, hadmits, hsignature]

def mutual_authenticate (verifier : Verifier Blob) (role : Role) (identity : MeshIdentity Blob)
    (allowlist : PcrAllowlist) : ExceptT HandshakeError (Proc Blob) PeerIdentity := do
  let handshake_hash ← Program.attempt Proc.handshake .Noise
  let nsm_doc ← with_deadline "local attest" ATTEST_TIMEOUT
    (Program.attempt (Proc.attest handshake_hash (some identity.pubkey.toList)) .LocalAttestation)
  let identity_sig := identity.sign_handshake handshake_hash
  let (peer_doc, peer_sig) ← exchange (.Authenticate nsm_doc identity_sig) role
  let now_ms ← Program.attempt Proc.trusted_now fun e => .LocalAttestation s!"trusted time: {e}"
  Program.check (verifier.verify_peer allowlist handshake_hash peer_doc peer_sig now_ms) id

section Runs

variable {trace : List (SessionEvent Blob)}

theorem with_deadline_returns {α : Type} {phase : String} {after_ms : Nat}
    {p : ExceptT HandshakeError (Proc Blob) α} {value : α} :
    (with_deadline phase after_ms p).run.Returns trace (.ok value) ↔
      ∃ rest, trace = .in_time phase after_ms :: rest ∧ p.run.Returns rest (.ok value) := by
  rw [with_deadline, ExceptT.run_mk, Program.returns_bind]
  constructor
  · rintro ⟨first, rest, elapsed, rfl, hfirst, hrest⟩
    obtain rfl := Program.returns_ask.mp hfirst
    cases elapsed with
    | true => cases (Program.returns_ret.mp hrest).2
    | false => exact ⟨rest, rfl, hrest⟩
  · rintro ⟨rest, rfl, hrest⟩
    exact ⟨[_], rest, false, rfl, Program.returns_ask.mpr rfl, hrest⟩

theorem write_frame_returns {frame : MeshFrame Blob} :
    (write_frame frame).run.Returns trace (.ok ()) ↔ trace = [.sent frame.encode] := by
  rw [write_frame, Program.returns_attempt, Proc.returns_write]

theorem read_peer_authenticate_returns {nsm_doc identity_sig : Blob} :
    read_peer_authenticate.run.Returns trace (.ok (nsm_doc, identity_sig)) ↔
      ∃ message, trace = [.in_time "peer Authenticate read" PEER_AUTH_READ_TIMEOUT, .received message] ∧
        MeshFrame.decode message = .ok (.Authenticate nsm_doc identity_sig) := by
  rw [read_peer_authenticate, Program.returns_seq]
  constructor
  · rintro ⟨first, second, frame, rfl, hfirst, hsecond⟩
    obtain ⟨rest, rfl, hread⟩ := with_deadline_returns.mp hfirst
    cases frame with
    | none => cases Program.not_returns_throw hsecond
    | some frame =>
      obtain ⟨message, rfl, hdecode⟩ := Proc.returns_read_decoded.mp hread
      cases frame with
      | Authenticate nsm_doc' identity_sig' =>
        obtain ⟨rfl, hpair⟩ := Program.returns_pure.mp hsecond
        cases hpair
        exact ⟨message, rfl, hdecode⟩
      | Hello sender | Ping | Pong | Rpc envelope => cases Program.not_returns_throw hsecond
  · rintro ⟨message, rfl, hdecode⟩
    refine ⟨[_, _], [], some (.Authenticate nsm_doc identity_sig), rfl,
      with_deadline_returns.mpr ⟨_, rfl, ?_⟩, Program.returns_pure.mpr ⟨rfl, rfl⟩⟩
    exact Proc.returns_read_decoded.mpr ⟨message, rfl, hdecode⟩

def exchange_events (auth : MeshFrame Blob) (message : Plaintext Blob) : Role → List (SessionEvent Blob)
  | .Initiator =>
    [.sent auth.encode, .in_time "peer Authenticate read" PEER_AUTH_READ_TIMEOUT, .received message]
  | .Responder =>
    [.in_time "peer Authenticate read" PEER_AUTH_READ_TIMEOUT, .received message, .sent auth.encode]

theorem exchange_returns {auth : MeshFrame Blob} {role : Role} {nsm_doc identity_sig : Blob} :
    (exchange auth role).run.Returns trace (.ok (nsm_doc, identity_sig)) ↔
      ∃ message, trace = exchange_events auth message role ∧
        MeshFrame.decode message = .ok (.Authenticate nsm_doc identity_sig) := by
  cases role with
  | Initiator =>
    rw [exchange, Program.returns_seq]
    constructor
    · rintro ⟨first, second, ⟨⟩, rfl, hwrite, hread⟩
      obtain rfl := write_frame_returns.mp hwrite
      obtain ⟨message, rfl, hdecode⟩ := read_peer_authenticate_returns.mp hread
      exact ⟨message, rfl, hdecode⟩
    · rintro ⟨message, rfl, hdecode⟩
      exact ⟨[_], [_, _], (), rfl, write_frame_returns.mpr rfl,
        read_peer_authenticate_returns.mpr ⟨message, rfl, hdecode⟩⟩
  | Responder =>
    rw [exchange, Program.returns_seq]
    constructor
    · rintro ⟨_, _, ⟨nsm_doc', identity_sig'⟩, rfl, hread, hrest⟩
      obtain ⟨message, rfl, hdecode⟩ := read_peer_authenticate_returns.mp hread
      obtain ⟨first, second, ⟨⟩, rfl, hwrite, hpure⟩ := Program.returns_seq.mp hrest
      rw [write_frame_returns] at hwrite
      obtain ⟨rfl, hpair⟩ := Program.returns_pure.mp hpure
      cases hpair
      subst hwrite
      exact ⟨message, rfl, hdecode⟩
    · rintro ⟨message, rfl, hdecode⟩
      refine ⟨[_, _], [_], (nsm_doc, identity_sig), rfl,
        read_peer_authenticate_returns.mpr ⟨message, rfl, hdecode⟩, ?_⟩
      exact Program.returns_seq.mpr
        ⟨[_], [], (), rfl, write_frame_returns.mpr rfl, Program.returns_pure.mpr ⟨rfl, rfl⟩⟩

theorem mutual_authenticate_returns {verifier : Verifier Blob} {role : Role}
    {identity : MeshIdentity Blob} {allowlist : PcrAllowlist} {peer : PeerIdentity} :
    (mutual_authenticate verifier role identity allowlist).run.Returns trace (.ok peer) ↔
      ∃ hash nsm_doc message peer_doc peer_sig now_ms,
        trace = [.handshaken hash, .in_time "local attest" ATTEST_TIMEOUT,
            .attested hash (some identity.pubkey.toList) nsm_doc] ++
          exchange_events (.Authenticate nsm_doc (identity.sign_handshake hash)) message role ++
          [.told now_ms] ∧
        MeshFrame.decode message = .ok (.Authenticate peer_doc peer_sig) ∧
        verifier.verify_peer allowlist hash peer_doc peer_sig now_ms = .ok peer := by
  rw [mutual_authenticate, Program.returns_seq]
  constructor
  · rintro ⟨_, _, hash, rfl, hhash, hattesting⟩
    rw [Program.returns_attempt, Proc.returns_handshake] at hhash
    obtain ⟨_, _, nsm_doc, rfl, hdeadline, hexchanging⟩ := Program.returns_seq.mp hattesting
    obtain ⟨_, rfl, hattest⟩ := with_deadline_returns.mp hdeadline
    rw [Program.returns_attempt, Proc.returns_attest] at hattest
    obtain ⟨_, _, ⟨peer_doc, peer_sig⟩, rfl, hexchange, hasking⟩ := Program.returns_seq.mp hexchanging
    obtain ⟨message, rfl, hdecode⟩ := exchange_returns.mp hexchange
    obtain ⟨_, _, now_ms, rfl, hnow, hcheck⟩ := Program.returns_seq.mp hasking
    rw [Program.returns_attempt, Proc.returns_trusted_now] at hnow
    obtain ⟨rfl, hverify⟩ := Program.returns_check.mp hcheck
    subst hhash hattest hnow
    exact ⟨hash, nsm_doc, message, peer_doc, peer_sig, now_ms, by simp, hdecode, hverify⟩
  · rintro ⟨hash, nsm_doc, message, peer_doc, peer_sig, now_ms, rfl, hdecode, hverify⟩
    rw [List.append_assoc]
    refine ⟨[_], _ :: _ :: _, hash, rfl, Program.returns_attempt.mpr (Proc.returns_handshake.mpr rfl), ?_⟩
    refine Program.returns_seq.mpr ⟨[_, _], _, nsm_doc, rfl, ?_, ?_⟩
    · exact with_deadline_returns.mpr ⟨[_], rfl, Program.returns_attempt.mpr (Proc.returns_attest.mpr rfl)⟩
    refine Program.returns_seq.mpr ⟨_, [_], (peer_doc, peer_sig), rfl,
      exchange_returns.mpr ⟨message, rfl, hdecode⟩, ?_⟩
    exact Program.returns_seq.mpr ⟨[_], [], now_ms, rfl,
      Program.returns_attempt.mpr (Proc.returns_trusted_now.mpr rfl), Program.returns_check.mpr ⟨rfl, hverify⟩⟩

end Runs

section Discipline

variable {lib : DocLibrary Blob} {user_data : Option (List UInt8) → Prop}
  {sends : List (SessionEvent Blob) → Plaintext Blob → Prop} {history : List (SessionEvent Blob)}

theorem with_deadline_speaks {α : Type} {phase : String} {after_ms : Nat}
    {p : ExceptT HandshakeError (Proc Blob) α}
    (h : Program.Asks (Speaks lib user_data sends) (history ++ [.in_time phase after_ms]) p.run) :
    Program.Asks (Speaks lib user_data sends) history (with_deadline phase after_ms p).run := by
  refine ⟨trivial, ?_⟩
  intro elapsed
  cases elapsed with
  | true => exact trivial
  | false => exact h

theorem read_peer_authenticate_speaks :
    Program.Asks (Speaks lib user_data sends) history (read_peer_authenticate : ExceptT _ (Proc Blob) _).run := by
  refine Program.Asks.seq (with_deadline_speaks ?_) ?_
  · exact Proc.asks_read_decoded trivial
  · intro trace frame _
    cases frame with
    | none => exact trivial
    | some frame => cases frame <;> exact trivial

def Answering (role : Role) (history : List (SessionEvent Blob)) (_ : Plaintext Blob) : Prop :=
  role = .Responder → ∃ message nsm_doc identity_sig,
    .received message ∈ history ∧ MeshFrame.decode message = .ok (.Authenticate nsm_doc identity_sig)

theorem exchange_speaks {role : Role} {hash : List UInt8} {data : Option (List UInt8)}
    {nsm_doc identity_sig : Blob} (hattested : .attested hash data nsm_doc ∈ history)
    (hsig : ∀ doc, lib.validate_at_doc_timestamp identity_sig ≠ .ok doc) :
    Program.Asks (Speaks lib user_data (Answering role)) history
      (exchange (.Authenticate nsm_doc identity_sig) role).run := by
  have hdocs (later : List (SessionEvent Blob)) :
      ∀ bytes ∈ (MeshFrame.Authenticate nsm_doc identity_sig).encode.blobs, ∀ doc,
        lib.validate_at_doc_timestamp bytes = .ok doc →
          ∃ nonce data, .attested nonce data bytes ∈ history ++ later := by
    intro bytes hbytes doc hdoc
    have hcases : bytes = nsm_doc ∨ bytes = identity_sig := by
      simpa [MeshFrame.encode, Plaintext.blobs] using hbytes
    obtain rfl | rfl := hcases
    · exact ⟨hash, data, List.mem_append_left _ hattested⟩
    · exact absurd hdoc (hsig doc)
  cases role with
  | Initiator =>
    refine Program.Asks.seq (Program.Asks.attempt (Program.asks_ask ⟨nofun, .inl ?_⟩)) ?_
    · simpa using hdocs []
    · intro _ _ _
      exact read_peer_authenticate_speaks
  | Responder =>
    refine Program.Asks.seq read_peer_authenticate_speaks ?_
    rintro trace ⟨peer_doc, peer_sig⟩ hread
    obtain ⟨message, rfl, hdecode⟩ := read_peer_authenticate_returns.mp hread
    refine Program.Asks.seq (Program.Asks.attempt (Program.asks_ask ⟨?_, .inl (hdocs _)⟩)) fun _ _ _ => trivial
    intro _
    exact ⟨message, peer_doc, peer_sig, by simp, hdecode⟩

theorem mutual_authenticate_speaks {verifier : Verifier Blob} {role : Role}
    {identity : MeshIdentity Blob} {allowlist : PcrAllowlist}
    (hsig : ∀ hash doc, verifier.lib.validate_at_doc_timestamp (identity.sign_handshake hash) ≠ .ok doc) :
    Program.Asks (Speaks verifier.lib (· = some identity.pubkey.toList) (Answering role)) []
      (mutual_authenticate verifier role identity allowlist).run := by
  refine Program.Asks.seq (Program.Asks.attempt (Program.asks_ask trivial)) ?_
  intro _ hash hhash
  rw [Program.returns_attempt, Proc.returns_handshake] at hhash
  subst hhash
  refine Program.Asks.seq (with_deadline_speaks (Program.Asks.attempt (Program.asks_ask ⟨by simp, rfl⟩))) ?_
  intro _ nsm_doc hdeadline
  obtain ⟨_, rfl, hattest⟩ := with_deadline_returns.mp hdeadline
  rw [Program.returns_attempt, Proc.returns_attest] at hattest
  subst hattest
  have hmem : .attested hash (some identity.pubkey.toList) nsm_doc ∈
      ([] ++ [SessionEvent.handshaken hash] ++ [.in_time "local attest" ATTEST_TIMEOUT,
        .attested hash (some identity.pubkey.toList) nsm_doc] : List (SessionEvent Blob)) := by
    simp
  refine Program.Asks.seq (exchange_speaks hmem (hsig hash)) ?_
  intro _ _ _
  exact Program.Asks.seq (Program.Asks.attempt (Program.asks_ask trivial)) fun _ _ _ => trivial

end Discipline

end enclavia.synchronizer.mesh
