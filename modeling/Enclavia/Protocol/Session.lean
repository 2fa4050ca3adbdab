import Enclavia.Interaction.Network
import Enclavia.Protocol.Attestation

open interaction

namespace enclavia.protocol

inductive FieldValue (Blob : Type) where
  | Bytes (bytes : Blob)
  | Text (text : String)
  | Number (number : Nat)
  | Texts (texts : List String)
  | Other

abbrev Plaintext (Blob : Type) := List (String × FieldValue Blob)

inductive DecodeError where
  | MissingField (name : String)
  | DuplicateField (name : String)
  | InvalidType (name : String)
  | UnknownVariant

namespace Plaintext

variable {Blob : Type}

def blobs (message : Plaintext Blob) : List Blob :=
  message.filterMap fun
    | (_, .Bytes bytes) => some bytes
    | _ => none

def find (message : Plaintext Blob) (name : String) : Except DecodeError (Option (FieldValue Blob)) :=
  match message.filter (·.1 == name) with
  | [] => .ok none
  | [(_, value)] => .ok (some value)
  | _ => .error (.DuplicateField name)

def field (message : Plaintext Blob) (name : String) : Except DecodeError (FieldValue Blob) := do
  match ← message.find name with
  | none => .error (.MissingField name)
  | some value => .ok value

def bytes (message : Plaintext Blob) (name : String) : Except DecodeError Blob := do
  match ← message.field name with
  | .Bytes bytes => .ok bytes
  | _ => .error (.InvalidType name)

def text (message : Plaintext Blob) (name : String) : Except DecodeError String := do
  match ← message.field name with
  | .Text text => .ok text
  | _ => .error (.InvalidType name)

def number (message : Plaintext Blob) (name : String) (bound : Nat) : Except DecodeError Nat := do
  match ← message.field name with
  | .Number number => if number < bound then .ok number else .error (.InvalidType name)
  | _ => .error (.InvalidType name)

def u32_or_default (message : Plaintext Blob) (name : String) : Except DecodeError UInt32 := do
  match ← message.find name with
  | none => .ok 0
  | some _ => return UInt32.ofNat (← message.number name (2 ^ 32))

def texts_or_default (message : Plaintext Blob) (name : String) : Except DecodeError (List String) := do
  match ← message.find name with
  | none => .ok []
  | some (.Texts texts) => .ok texts
  | some _ => .error (.InvalidType name)

theorem bind_ok {ε α β : Type} {x : Except ε α} {f : α → Except ε β} {b : β} :
    x >>= f = .ok b ↔ ∃ a, x = .ok a ∧ f a = .ok b := by
  cases x with
  | error e => exact ⟨nofun, nofun⟩
  | ok a =>
    constructor
    · intro h
      exact ⟨a, rfl, h⟩
    · rintro ⟨a', ha, hf⟩
      cases ha
      exact hf

theorem find_mem {message : Plaintext Blob} {name : String} {value : FieldValue Blob}
    (h : message.find name = .ok (some value)) : (name, value) ∈ message := by
  unfold find at h
  split at h
  · cases h
  · next key value' hfilter =>
    cases h
    have hmem : (key, value) ∈ message.filter (·.1 == name) := by rw [hfilter]; exact List.mem_singleton_self _
    obtain ⟨hmessage, hkey⟩ := List.mem_filter.mp hmem
    exact eq_of_beq hkey ▸ hmessage
  · cases h

theorem bytes_mem {message : Plaintext Blob} {name : String} {value : Blob}
    (h : message.bytes name = .ok value) : value ∈ message.blobs := by
  obtain ⟨found, hfield, hvalue⟩ := bind_ok.mp h
  obtain ⟨entry, hfind, hentry⟩ := bind_ok.mp hfield
  cases entry with
  | none => cases hentry
  | some entry =>
    cases hentry
    cases found with
    | Bytes bytes =>
      cases hvalue
      exact List.mem_filterMap.mpr ⟨_, find_mem hfind, rfl⟩
    | Text text | Number number | Texts texts | Other => cases hvalue

end Plaintext

inductive StreamHalf where
  | Write
  | Both

inductive ClientMessage (Blob : Type) where
  | RequestAttestation
  | Data (id : Nat) (payload : Blob)
  | Control (payload signature : Blob)
  | GetControlNonce
  | OpenStream (id : Nat) (payload : Blob)
  | StreamData (id : Nat) (payload : Blob)
  | StreamClose (id : Nat) (half : StreamHalf)

inductive TransportError where
  | Io
  | Crypto
  | FrameTooLarge (len : UInt32)
  | Encode

/-- What a session's program asks of its own machine: the Noise handshake, whose answer is the
handshake hash, documents of its own NSM, clocks, whether a deadline has passed, the server's
control nonce, and the server's own work on the other messages of its clients. -/
inductive Request (Blob : Type) where
  | handshake
  | attest (nonce : List UInt8) (user_data : Option (List UInt8))
  | trusted_now
  | system_now
  | deadline (phase : String) (after_ms : Nat)
  | control_nonce
  | serve (message : ClientMessage Blob)

def Reply (Blob : Type) : Request Blob → Type
  | .handshake => Except String (List UInt8)
  | .attest _ _ => Except String Blob
  | .trusted_now => Except String UInt64
  | .system_now => UInt64
  | .deadline _ _ => Bool
  | .control_nonce => Vector UInt8 32
  | .serve _ => List (Plaintext Blob)

abbrev SessionEffect (Blob : Type) := Effect (Plaintext Blob) (Request Blob)

abbrev SessionAnswer (Blob : Type) : SessionEffect Blob → Type :=
  Answer TransportError (Plaintext Blob) (Reply Blob)

abbrev SessionEvent (Blob : Type) := Event (SessionAnswer Blob)

abbrev Proc (Blob : Type) := Program (SessionEffect Blob) (SessionAnswer Blob)

variable {Blob : Type}

namespace Proc

def call (request : Request Blob) : Proc Blob (Reply Blob request) := Program.ask (Effect.call request)

def handshake : Proc Blob (Except String (List UInt8)) := call .handshake

def attest (nonce : List UInt8) (user_data : Option (List UInt8)) : Proc Blob (Except String Blob) :=
  call (.attest nonce user_data)

def trusted_now : Proc Blob (Except String UInt64) := call .trusted_now

def system_now : Proc Blob UInt64 := call .system_now

def deadline (phase : String) (after_ms : Nat) : Proc Blob Bool :=
  call (.deadline phase after_ms)

def control_nonce : Proc Blob (Vector UInt8 32) := call .control_nonce

def serve (message : ClientMessage Blob) : Proc Blob (List (Plaintext Blob)) :=
  call (.serve message)

def read : Proc Blob (Except TransportError (Option (Plaintext Blob))) := Program.ask Effect.read

def write (message : Plaintext Blob) : Proc Blob (Except TransportError Unit) :=
  Program.ask (Effect.write message)

def read_decoded {ε : Type} {Frame : Type} (decode : Plaintext Blob → Except DecodeError Frame)
    (of_transport : TransportError → ε) (of_decode : DecodeError → ε) :
    ExceptT ε (Proc Blob) (Option Frame) := do
  match ← Program.attempt Proc.read of_transport with
  | none => return none
  | some message => return some (← Program.check (decode message) of_decode)

end Proc

namespace SessionEvent

def handshaken (hash : List UInt8) : SessionEvent Blob := ⟨.call .handshake, .ok hash⟩

def attested (nonce : List UInt8) (user_data : Option (List UInt8)) (bytes : Blob) : SessionEvent Blob :=
  ⟨.call (.attest nonce user_data), .ok bytes⟩

def received (message : Plaintext Blob) : SessionEvent Blob := ⟨.read, .ok (some message)⟩

def sent (message : Plaintext Blob) : SessionEvent Blob := ⟨.write message, .ok ()⟩

def told (now_ms : UInt64) : SessionEvent Blob := ⟨.call .trusted_now, .ok now_ms⟩

def system_told (now_ms : UInt64) : SessionEvent Blob := ⟨.call .system_now, now_ms⟩

def in_time (phase : String) (after_ms : Nat) : SessionEvent Blob := ⟨.call (.deadline phase after_ms), false⟩

def served (message : ClientMessage Blob) (replies : List (Plaintext Blob)) : SessionEvent Blob :=
  ⟨.call (.serve message), replies⟩

end SessionEvent

namespace Proc

variable {trace : List (SessionEvent Blob)}

@[simp] theorem returns_handshake {hash : List UInt8} :
    Program.Returns Proc.handshake trace (.ok hash) ↔ trace = [.handshaken hash] :=
  Program.returns_ask

@[simp] theorem returns_attest {nonce : List UInt8} {user_data : Option (List UInt8)} {bytes : Blob} :
    Program.Returns (Proc.attest nonce user_data) trace (.ok bytes) ↔
      trace = [.attested nonce user_data bytes] :=
  Program.returns_ask

@[simp] theorem returns_trusted_now {now_ms : UInt64} :
    Program.Returns Proc.trusted_now trace (.ok now_ms) ↔ trace = [.told now_ms] :=
  Program.returns_ask

@[simp] theorem returns_system_now {now_ms : UInt64} :
    Program.Returns Proc.system_now trace now_ms ↔ trace = [.system_told now_ms] :=
  Program.returns_ask

@[simp] theorem returns_read {message : Plaintext Blob} :
    Program.Returns Proc.read trace (.ok (some message)) ↔ trace = [.received message] :=
  Program.returns_ask

@[simp] theorem returns_write {message : Plaintext Blob} :
    Program.Returns (Proc.write message) trace (.ok ()) ↔ trace = [.sent message] :=
  Program.returns_ask

section Decoded

variable {ε Frame : Type} {decode : Plaintext Blob → Except DecodeError Frame}
  {of_transport : TransportError → ε} {of_decode : DecodeError → ε}

theorem returns_read_decoded {frame : Frame} :
    Program.Returns (read_decoded decode of_transport of_decode).run trace (.ok (some frame)) ↔
      ∃ message, trace = [.received message] ∧ decode message = .ok frame := by
  rw [read_decoded, Program.returns_seq]
  constructor
  · rintro ⟨first, second, message, rfl, hfirst, hsecond⟩
    rw [Program.returns_attempt] at hfirst
    cases message with
    | none => cases (Program.returns_pure.mp hsecond).2
    | some message =>
      rw [Proc.returns_read] at hfirst
      subst hfirst
      obtain ⟨first, second, frame', rfl, hcheck, hpure⟩ := Program.returns_seq.mp hsecond
      obtain ⟨rfl, hdecode⟩ := Program.returns_check.mp hcheck
      obtain ⟨rfl, hframe⟩ := Program.returns_pure.mp hpure
      cases hframe
      exact ⟨message, rfl, hdecode⟩
  · rintro ⟨message, rfl, hdecode⟩
    refine ⟨[_], [], some message, rfl, Program.returns_attempt.mpr (Proc.returns_read.mpr rfl), ?_⟩
    exact Program.returns_seq.mpr
      ⟨[], [], frame, rfl, Program.returns_check.mpr ⟨rfl, hdecode⟩, Program.returns_pure.mpr ⟨rfl, rfl⟩⟩

theorem asks_read_decoded {I : List (SessionEvent Blob) → SessionEffect Blob → Prop}
    {history : List (SessionEvent Blob)} (hread : I history .read) :
    Program.Asks I history (read_decoded decode of_transport of_decode).run := by
  refine Program.Asks.seq (Program.Asks.attempt (Program.asks_ask hread)) ?_
  intro trace message _
  cases message with
  | none => exact trivial
  | some message => exact Program.Asks.seq trivial fun _ _ _ => trivial

end Decoded

end Proc

def Speaks (lib : DocLibrary Blob) (user_data : Option (List UInt8) → Prop)
    (sends : List (SessionEvent Blob) → Plaintext Blob → Prop) (history : List (SessionEvent Blob)) :
    SessionEffect Blob → Prop
  | .call (.attest nonce data) => .handshaken nonce ∈ history ∧ user_data data
  | .write message =>
    sends history message ∧
      ((∀ bytes ∈ message.blobs, ∀ doc, lib.validate_at_doc_timestamp bytes = .ok doc →
          ∃ nonce data, .attested nonce data bytes ∈ history) ∨
        ∃ request replies, .served request replies ∈ history ∧ message ∈ replies)
  | _ => True

end enclavia.protocol
