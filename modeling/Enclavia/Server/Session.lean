import Enclavia.Protocol.Session

open interaction enclavia.protocol

namespace enclavia.server

variable {Blob : Type} {lib : DocLibrary Blob} {history : List (SessionEvent Blob)}

inductive ChannelKind where
  | Public
  | Control

namespace ClientMessage

def decode (message : Plaintext Blob) : Except DecodeError (ClientMessage Blob) := do
  match ← message.text "type" with
  | "RequestAttestation" => return .RequestAttestation
  | "Data" => return .Data (← message.number "id" (2 ^ 64)) (← message.bytes "payload")
  | "Control" => return .Control (← message.bytes "payload") (← message.bytes "signature")
  | "GetControlNonce" => return .GetControlNonce
  | "OpenStream" => return .OpenStream (← message.number "id" (2 ^ 64)) (← message.bytes "payload")
  | "StreamData" => return .StreamData (← message.number "id" (2 ^ 64)) (← message.bytes "payload")
  | "StreamClose" =>
    let id ← message.number "id" (2 ^ 64)
    match ← message.text "half" with
    | "Write" => return .StreamClose id .Write
    | "Both" => return .StreamClose id .Both
    | _ => .error .UnknownVariant
  | _ => .error .UnknownVariant

def allowed : ClientMessage Blob → ChannelKind → Bool
  | .GetControlNonce, .Public => false
  | .Control _ _, .Public => false
  | .Data _ _, .Control => false
  | .OpenStream _ _, .Control => false
  | .StreamData _ _, .Control => false
  | .StreamClose _ _, .Control => false
  | _, _ => true

end ClientMessage

def attestation_message (data : Blob) : Plaintext Blob :=
  [("type", .Text "Attestation"), ("data", .Bytes data), ("control_nonce", .Other)]

def refusal (kind : ChannelKind) : Plaintext Blob :=
  let port := match kind with
    | .Public => "public"
    | .Control => "control"
  [("type", .Text "ControlResult"), ("success", .Other),
    ("message", .Text s!"message not accepted on the {port} channel")]

def write_replies : List (Plaintext Blob) → Proc Blob Bool
  | [] => .ret true
  | reply :: rest => (Proc.write reply).bind fun
    | .ok () => write_replies rest
    | .error _ => .ret false

def client_loop (kind : ChannelKind) (handshake_hash : List UInt8) :
    Nat → ExceptT String (Proc Blob) Unit
  | 0 => return ()
  | rounds + 1 => do
    match ← Program.lift Proc.read with
    | .error _ | .ok none => return ()
    | .ok (some plaintext) =>
      match ClientMessage.decode plaintext with
      | .error _ => return ()
      | .ok message =>
        if !ClientMessage.allowed message kind then
          let _ ← Program.lift (Proc.write (refusal kind))
          return ()
        else
          match message with
          | .RequestAttestation =>
            let control_nonce ← Program.lift Proc.control_nonce
            let data ← Program.attempt (Proc.attest handshake_hash (some control_nonce.toList)) id
            let _ ← Program.lift (Proc.write (attestation_message data))
            client_loop kind handshake_hash rounds
          | message =>
            let replies ← Program.lift (Proc.serve message)
            if ← Program.lift (write_replies replies) then client_loop kind handshake_hash rounds
            else return ()

def handle_client (kind : ChannelKind) (rounds : Nat) : ExceptT String (Proc Blob) Unit := do
  let handshake_hash ← Program.attempt Proc.handshake id
  client_loop kind handshake_hash rounds

def ControlNonce (data : Option (List UInt8)) : Prop := ∃ nonce : Vector UInt8 32, data = some nonce.toList

abbrev ServerSpeaks (lib : DocLibrary Blob) :=
  Speaks lib ControlNonce fun _ _ => True

theorem write_replies_speaks {message : ClientMessage Blob} {replies rest : List (Plaintext Blob)}
    (hserved : .served message replies ∈ history) (hsub : rest ⊆ replies) :
    Program.Asks (ServerSpeaks lib) history (write_replies rest) := by
  induction rest generalizing history with
  | nil => exact trivial
  | cons reply rest ih =>
    have hreply := hsub List.mem_cons_self
    refine Program.Asks.bind (Program.asks_ask ⟨trivial, .inr ⟨message, replies, hserved, hreply⟩⟩) ?_
    intro trace result _
    cases result with
    | error e => exact trivial
    | ok _ => exact ih (List.mem_append_left _ hserved) (List.subset_of_cons_subset hsub)

theorem client_loop_speaks {kind : ChannelKind} {handshake_hash : List UInt8} {rounds : Nat}
    (hhash : .handshaken handshake_hash ∈ history) :
    Program.Asks (ServerSpeaks lib) history (client_loop kind handshake_hash rounds).run := by
  induction rounds generalizing history with
  | zero => exact trivial
  | succ rounds ih =>
    have hserve (message : ClientMessage Blob) {history : List (SessionEvent Blob)}
        (hhash : .handshaken handshake_hash ∈ history) :
        Program.Asks (ServerSpeaks lib) history (do
          let replies ← Program.lift (Proc.serve message)
          if ← Program.lift (write_replies replies) then client_loop kind handshake_hash rounds
          else return () : ExceptT String (Proc Blob) Unit).run := by
      refine Program.Asks.seq (Program.Asks.lift (Program.asks_ask trivial)) ?_
      intro _ replies hreplies
      obtain rfl := Program.returns_ask.mp (Program.returns_lift.mp hreplies)
      refine Program.Asks.seq (Program.Asks.lift (write_replies_speaks
        (List.mem_append_right _ (List.mem_singleton_self _)) (List.Subset.refl replies))) ?_
      intro writing continued _
      cases continued with
      | false => exact trivial
      | true => exact ih (List.mem_append_left _ (List.mem_append_left _ hhash))
    refine Program.Asks.seq (Program.Asks.lift (Program.asks_ask trivial)) ?_
    intro reading result _
    replace hhash : .handshaken handshake_hash ∈ history ++ reading := List.mem_append_left _ hhash
    match result with
    | .error _ => exact trivial
    | .ok none => exact trivial
    | .ok (some plaintext) =>
      dsimp only
      split
      · exact trivial
      · split
        · refine Program.Asks.seq (Program.Asks.lift (Program.asks_ask ⟨trivial, .inl ?_⟩)) fun _ _ _ => trivial
          simp [refusal, Plaintext.blobs]
        · split
          · refine Program.Asks.seq (Program.Asks.lift (Program.asks_ask trivial)) ?_
            intro asking control_nonce _
            refine Program.Asks.seq (Program.Asks.attempt (Program.asks_ask
              ⟨List.mem_append_left _ hhash, control_nonce, rfl⟩)) ?_
            intro _ data hattest
            rw [Program.returns_attempt, Proc.returns_attest] at hattest
            subst hattest
            refine Program.Asks.seq (Program.Asks.lift (Program.asks_ask ⟨trivial, .inl ?_⟩)) ?_
            · intro bytes hbytes _ _
              have hdata : bytes = data := by
                simpa [attestation_message, Plaintext.blobs] using hbytes
              subst hdata
              exact ⟨handshake_hash, some control_nonce.toList, by simp⟩
            · intro _ _ _
              refine ih (List.mem_append_left _ (List.mem_append_left _ (List.mem_append_left _ hhash)))
          · exact hserve _ hhash

theorem handle_client_speaks {kind : ChannelKind} {rounds : Nat} :
    Program.Asks (ServerSpeaks lib) [] (handle_client kind rounds).run := by
  refine Program.Asks.seq (Program.Asks.attempt (Program.asks_ask trivial)) ?_
  intro _ hash hhash
  rw [Program.returns_attempt, Proc.returns_handshake] at hhash
  subst hhash
  exact client_loop_speaks (by simp)

end enclavia.server
