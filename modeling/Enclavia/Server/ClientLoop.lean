import Enclavia.Bytes.Frames
import Enclavia.Server.Session
import Mathlib.Logic.Relation

open enclavia.protocol

namespace enclavia.server

/-- The Noise transport of a session, with the counter of the direction, and the CBOR codec of the client's messages. -/
structure CborTransport where
  write_message : Nat → List UInt8 → List UInt8
  read_message : Nat → List UInt8 → Option (List UInt8)
  into_writer : ClientMessage (List UInt8) → List UInt8
  from_reader : List UInt8 → Option (ClientMessage (List UInt8))
  read_write_message : ∀ nonce payload, read_message nonce (write_message nonce payload) = some payload
  length_write_message : ∀ nonce payload, (write_message nonce payload).length = payload.length + 16
  from_reader_into_writer : ∀ message, from_reader (into_writer message) = some message

def BUFFER_SIZE : Nat := 65535

def MAX_PAYLOAD_SIZE : Nat := 4 * 1024 * 1024

def MAX_IN_FLIGHT : Nat := 64

inductive Closed where
  | receive
  | hang_up
  | idle
  | refused
  | failed

inductive Phase where
  | selecting (receive : bytes.FrameReader)
  | handling (message : ClientMessage (List UInt8))
  | responding (response : Plaintext (List UInt8))
  | closed (why : Closed)

/-- A task that was spawned and has not ended: it forwards a request, or pumps a stream. -/
inductive Spawned where
  | data (id : Nat)
  | pump (id : Nat)
deriving DecidableEq

/-- A connection: the bytes between the client and the server, those that have arrived and were not read, and the state
of the server with its tasks, each of which holds a permit. -/
structure ClientConnection where
  sent : List (ClientMessage (List UInt8))
  in_flight : List UInt8
  arrived : List UInt8
  phase : Phase
  nonce : Nat
  decoded : List (ClientMessage (List UInt8))
  streams : List Nat
  responses : List (Plaintext (List UInt8))
  stream_done : List Nat
  tasks : List Spawned

def error_message (id : Nat) (message : String) : Plaintext (List UInt8) :=
  [("type", .Text "Error"), ("id", .Number id), ("message", .Text message)]

namespace ClientConnection

variable (transport : CborTransport) (kind : ChannelKind)

def Sendable (message : ClientMessage (List UInt8)) : Prop :=
  (transport.into_writer message).length + 16 ≤ BUFFER_SIZE

def client_send (s : ClientConnection) (message : ClientMessage (List UInt8)) : ClientConnection :=
  { s with
    sent := s.sent ++ [message]
    in_flight := s.in_flight ++ bytes.frame (transport.write_message s.sent.length (transport.into_writer message)) }

def poll (s : ClientConnection) (receive : bytes.FrameReader) : ClientConnection :=
  match receive.poll BUFFER_SIZE s.arrived with
  | (.pending receive, left) => { s with phase := .selecting receive, arrived := left }
  | (.too_large _, left) => { s with phase := .closed .receive, arrived := left }
  | (.ready encrypted, left) =>
    match transport.read_message s.nonce encrypted with
    | none => { s with phase := .closed .receive, arrived := left }
    | some payload =>
      match transport.from_reader payload with
      | none => { s with phase := .closed .receive, arrived := left, nonce := s.nonce + 1 }
      | some message =>
        { s with phase := .handling message, arrived := left, nonce := s.nonce + 1, decoded := s.decoded ++ [message] }

inductive Serves (s : ClientConnection) :
    ClientMessage (List UInt8) → List Nat → List (Plaintext (List UInt8)) → List Spawned → Prop
  | attestation : Serves s .RequestAttestation s.streams [] s.tasks
  | nonce : Serves s .GetControlNonce s.streams [] s.tasks
  | control {payload signature : List UInt8} : Serves s (.Control payload signature) s.streams [] s.tasks
  | large_data {id : Nat} {payload : List UInt8} (h : MAX_PAYLOAD_SIZE < payload.length) :
      Serves s (.Data id payload) s.streams [error_message id "payload too large"] s.tasks
  | data {id : Nat} {payload : List UInt8} (h : payload.length ≤ MAX_PAYLOAD_SIZE)
      (hpermit : s.tasks.length < MAX_IN_FLIGHT) : Serves s (.Data id payload) s.streams [] (.data id :: s.tasks)
  | large_stream {id : Nat} {payload : List UInt8} (h : MAX_PAYLOAD_SIZE < payload.length) :
      Serves s (.OpenStream id payload) s.streams [error_message id "payload too large"] s.tasks
  | open_stream {id : Nat} {payload : List UInt8} (h : payload.length ≤ MAX_PAYLOAD_SIZE)
      (hpermit : s.tasks.length < MAX_IN_FLIGHT) :
      Serves s (.OpenStream id payload) (s.streams.insert id) [] (.pump id :: s.tasks)
  | large_stream_data {id : Nat} {payload : List UInt8} (hid : id ∈ s.streams) (h : MAX_PAYLOAD_SIZE < payload.length) :
      Serves s (.StreamData id payload) s.streams [error_message id "payload too large"] s.tasks
  | stream_data {id : Nat} {payload : List UInt8} (hid : id ∈ s.streams) (h : payload.length ≤ MAX_PAYLOAD_SIZE) :
      Serves s (.StreamData id payload) s.streams [] s.tasks
  | stream_gone {id : Nat} {payload : List UInt8} (hid : id ∈ s.streams) (h : payload.length ≤ MAX_PAYLOAD_SIZE) :
      Serves s (.StreamData id payload) (s.streams.erase id) [] s.tasks
  | unknown_stream {id : Nat} {payload : List UInt8} (hid : id ∉ s.streams) :
      Serves s (.StreamData id payload) s.streams [error_message id "unknown stream id"] s.tasks
  | close_write {id : Nat} : Serves s (.StreamClose id .Write) s.streams [] s.tasks
  | close_write_gone {id : Nat} (hid : id ∈ s.streams) :
      Serves s (.StreamClose id .Write) (s.streams.erase id) [] s.tasks
  | close {id : Nat} : Serves s (.StreamClose id .Both) (s.streams.erase id) [] s.tasks

/-- One step of the client, the network, the container's tasks or the server. -/
inductive Step (wins : ClientConnection → Prop) (s : ClientConnection) : ClientConnection → Prop
  | client_send (message : ClientMessage (List UInt8)) (hsendable : Sendable transport message) :
      Step wins s (s.client_send transport message)
  | deliver (n : Nat) :
      Step wins s { s with arrived := s.arrived ++ s.in_flight.take n, in_flight := s.in_flight.drop n }
  | answer {id : Nat} {response : Plaintext (List UInt8)} (htask : .data id ∈ s.tasks)
      (hid : ("id", .Number id) ∈ response) (hroom : s.responses.length < MAX_IN_FLIGHT) :
      Step wins s { s with responses := s.responses ++ [response], tasks := s.tasks.erase (.data id) }
  | respond {id : Nat} {response : Plaintext (List UInt8)} (htask : .pump id ∈ s.tasks)
      (hid : ("id", .Number id) ∈ response) (hroom : s.responses.length < MAX_IN_FLIGHT) :
      Step wins s { s with responses := s.responses ++ [response] }
  | finish {id : Nat} (htask : .pump id ∈ s.tasks) (hroom : s.stream_done.length < MAX_IN_FLIGHT) :
      Step wins s { s with stream_done := s.stream_done ++ [id], tasks := s.tasks.erase (.pump id) }
  | poll {receive : bytes.FrameReader} (hphase : s.phase = .selecting receive) : Step wins s (s.poll transport receive)
  | timeout {receive : bytes.FrameReader} (hphase : s.phase = .selecting receive) (hstreams : s.streams = []) :
      Step wins s { s with phase := .closed .idle }
  | hang_up {receive : bytes.FrameReader} (hphase : s.phase = .selecting receive) :
      Step wins s { s with phase := .closed .hang_up }
  | response {receive : bytes.FrameReader} {response : Plaintext (List UInt8)} {rest : List (Plaintext (List UInt8))}
      (hphase : s.phase = .selecting receive) (hresponses : s.responses = response :: rest) (hwins : wins s) :
      Step wins s { s with phase := .responding response, responses := rest }
  | stream_done {receive : bytes.FrameReader} {id : Nat} {rest : List Nat} (hphase : s.phase = .selecting receive)
      (hdone : s.stream_done = id :: rest) (hwins : wins s) :
      Step wins s { s with phase := .selecting .start, stream_done := rest, streams := s.streams.erase id }
  | responded {response : Plaintext (List UInt8)} (hphase : s.phase = .responding response) :
      Step wins s { s with phase := .selecting .start }
  | refuse {message : ClientMessage (List UInt8)} (hphase : s.phase = .handling message)
      (hallowed : ClientMessage.allowed message kind = false) : Step wins s { s with phase := .closed .refused }
  | serve {message : ClientMessage (List UInt8)} {streams : List Nat} {responses : List (Plaintext (List UInt8))}
      {tasks : List Spawned} (hphase : s.phase = .handling message)
        (hallowed : ClientMessage.allowed message kind = true)
      (hserves : Serves s message streams responses tasks)
      (hroom : responses ≠ [] → s.responses.length < MAX_IN_FLIGHT) :
      Step wins s
        { s with phase := .selecting .start, streams := streams, responses := s.responses ++ responses, tasks := tasks }
  | fail (hphase : (∃ message, s.phase = .handling message) ∨ ∃ response, s.phase = .responding response) :
      Step wins s { s with phase := .closed .failed }

def Reaches (wins : ClientConnection → Prop) : ClientConnection → ClientConnection → Prop :=
  Relation.ReflTransGen (Step transport kind wins)

def initial : ClientConnection := ⟨[], [], [], .selecting .start, 0, [], [], [], [], []⟩

def encrypted (nonce : Nat) : List (ClientMessage (List UInt8)) → List (List UInt8)
  | [] => []
  | message :: rest => transport.write_message nonce (transport.into_writer message) :: encrypted (nonce + 1) rest

end ClientConnection

def Phase.consumed : Phase → List UInt8
  | .selecting receive => receive.consumed
  | _ => []

namespace ClientConnection

/-- The messages that were decoded are those that were sent, as far as they were read: what was read of a message that
isn't decoded is still held, and nothing but frames is read. -/
structure Intact (s : ClientConnection) : Prop where
  in_order : s.decoded <+: s.sent
  framed : s.phase ≠ .closed .receive
  complete : ∀ receive, s.phase = .selecting receive → s.arrived = [] → s.in_flight = [] → s.decoded = s.sent

/-- The server stands within the frames of the messages that are not decoded. -/
structure Following (transport : CborTransport) (s : ClientConnection) (rest : List (ClientMessage (List UInt8))) :
    Prop where
  nonce : s.nonce = s.decoded.length
  stream : s.phase.consumed ++ (s.arrived ++ s.in_flight) = bytes.frames (encrypted transport s.decoded.length rest)
  waits : ∀ receive, s.phase = .selecting receive → receive.Waits BUFFER_SIZE

structure Inv (transport : CborTransport) (s : ClientConnection) (rest : List (ClientMessage (List UInt8))) : Prop where
  sent : s.sent = s.decoded ++ rest
  sendable : ∀ message ∈ s.sent, Sendable transport message
  framed : s.phase ≠ .closed .receive
  following : (∀ why, s.phase ≠ .closed why) → Following transport s rest

section Reading

variable {transport : CborTransport} {kind : ChannelKind} {wins : ClientConnection → Prop}
  {s t : ClientConnection} {rest : List (ClientMessage (List UInt8))}

theorem encrypted_concat (nonce : Nat) (message : ClientMessage (List UInt8)) :
    encrypted transport nonce (rest ++ [message]) =
      encrypted transport nonce rest ++
        [transport.write_message (nonce + rest.length) (transport.into_writer message)] := by
  induction rest generalizing nonce with
  | nil => rfl
  | cons first rest ih =>
    have hnonce : nonce + 1 + rest.length = nonce + (rest.length + 1) := by omega
    rw [List.cons_append, encrypted, encrypted, ih, hnonce]
    rfl

theorem encrypted_fits {nonce : Nat} (h : ∀ message ∈ rest, Sendable transport message) :
    ∀ content ∈ encrypted transport nonce rest, content.length ≤ BUFFER_SIZE := by
  induction rest generalizing nonce with
  | nil => simp [encrypted]
  | cons first rest ih =>
    intro content hcontent
    rcases List.mem_cons.mp hcontent with rfl | hcontent
    · rw [transport.length_write_message]
      exact h first List.mem_cons_self
    · exact ih (fun message hmem => h message (List.mem_cons_of_mem _ hmem)) content hcontent

namespace Inv

theorem rest_fits (h : Inv transport s rest) {nonce : Nat} :
    ∀ content ∈ encrypted transport nonce rest, content.length ≤ BUFFER_SIZE :=
  encrypted_fits fun message hmem => h.sendable message (h.sent ▸ List.mem_append_right _ hmem)

theorem intact (h : Inv transport s rest) : Intact s where
  in_order := ⟨rest, h.sent.symm⟩
  framed := h.framed
  complete receive hphase harrived hin_flight := by
    have hfollowing := h.following (by rw [hphase]; exact nofun)
    have hstream := hfollowing.stream
    rw [hphase, harrived, hin_flight, List.append_nil, List.append_nil] at hstream
    have hnil := bytes.eq_nil_of_consumed (by decide) h.rest_fits (hfollowing.waits receive hphase) hstream
    rw [h.sent]
    cases rest with
    | nil => exact (List.append_nil _).symm
    | cons first rest => cases hnil

theorem rephase (h : Inv transport s rest) (hsent : t.sent = s.sent) (hdecoded : t.decoded = s.decoded)
    (hnonce : t.nonce = s.nonce) (hstream : t.arrived ++ t.in_flight = s.arrived ++ s.in_flight)
    (hphase : t.phase = s.phase ∨ (∃ why, t.phase = .closed why ∧ why ≠ .receive) ∨
      (∀ why, s.phase ≠ .closed why) ∧ s.phase.consumed = [] ∧
        (t.phase = .selecting .start ∨ ∃ response, t.phase = .responding response)) : Inv transport t rest where
  sent := by rw [hsent, hdecoded, h.sent]
  sendable := by
    rw [hsent]
    exact h.sendable
  framed := by
    rcases hphase with hphase | ⟨why, hphase, hwhy⟩ | ⟨-, -, hphase | ⟨response, hphase⟩⟩
    · rw [hphase]
      exact h.framed
    all_goals
      rw [hphase]
      simp_all
  following hopen := by
    rcases hphase with hphase | ⟨why, hphase, -⟩ | ⟨hopen', hconsumed, hphase⟩
    · have hfollowing := h.following (hphase ▸ hopen)
      refine ⟨?_, ?_, ?_⟩
      · rw [hnonce, hdecoded, hfollowing.nonce]
      · rw [hphase, hstream, hdecoded, hfollowing.stream]
      · rw [hphase]
        exact hfollowing.waits
    · exact absurd hphase (hopen why)
    · have hfollowing := h.following hopen'
      have hconsumed' : t.phase.consumed = [] := by
        rcases hphase with hphase | ⟨response, hphase⟩ <;> rw [hphase] <;> rfl
      refine ⟨?_, ?_, ?_⟩
      · rw [hnonce, hdecoded, hfollowing.nonce]
      · rw [hconsumed', hstream, hdecoded, ← hfollowing.stream, hconsumed]
      · intro receive hreceive
        rcases hphase with hphase | ⟨response, hphase⟩
        · cases hphase.symm.trans hreceive
          exact Nat.zero_lt_succ 3
        · cases hphase.symm.trans hreceive

theorem send (h : Inv transport s rest) {message : ClientMessage (List UInt8)}
    (hsendable : Sendable transport message) :
    Inv transport (s.client_send transport message) (rest ++ [message]) where
  sent := (congrArg (· ++ [message]) h.sent).trans (List.append_assoc ..)
  sendable := by
    intro message' hmem
    rcases List.mem_append.mp hmem with hmem | hmem
    · exact h.sendable message' hmem
    · cases List.mem_singleton.mp hmem
      exact hsendable
  framed := h.framed
  following hopen := by
    have hfollowing := h.following hopen
    refine ⟨hfollowing.nonce, ?_, hfollowing.waits⟩
    have hlength : s.decoded.length + rest.length = s.sent.length := by rw [h.sent, List.length_append]
    have hframe : bytes.frames (encrypted transport s.decoded.length (rest ++ [message])) =
        bytes.frames (encrypted transport s.decoded.length rest) ++
          bytes.frame (transport.write_message s.sent.length (transport.into_writer message)) := by
      rw [encrypted_concat, hlength]
      simp [bytes.frames]
    simp only [client_send, hframe, ← hfollowing.stream, List.append_assoc]

theorem poll (h : Inv transport s rest) {receive : bytes.FrameReader} (hphase : s.phase = .selecting receive) :
    ∃ rest', Inv transport (s.poll transport receive) rest' := by
  have hfollowing := h.following (by rw [hphase]; exact nofun)
  have hstream := hfollowing.stream
  rw [hphase] at hstream
  have hpolled := bytes.poll_polled (by decide) h.rest_fits (hfollowing.waits receive hphase) hstream
  unfold ClientConnection.poll
  generalize receive.poll BUFFER_SIZE s.arrived = result at hpolled
  cases hpolled with
  | pending receive' hwaits hconsumed =>
    refine ⟨rest, h.sent, h.sendable, nofun, fun _ => ⟨hfollowing.nonce, ?_, ?_⟩⟩
    · have hstream' : receive'.consumed ++ s.in_flight = bytes.frames (encrypted transport s.decoded.length rest) := by
        rw [hconsumed, List.append_assoc]
        exact hstream
      exact hstream'
    · intro receive'' hreceive
      cases hreceive
      exact hwaits
  | ready first others left hcontents hleft =>
    cases rest with
    | nil => cases hcontents
    | cons message rest =>
      cases hcontents
      dsimp only
      rw [hfollowing.nonce, transport.read_write_message]
      dsimp only
      rw [transport.from_reader_into_writer]
      refine ⟨rest, ?_, h.sendable, nofun, fun _ => ⟨?_, ?_, nofun⟩⟩
      · simp [h.sent]
      · simp
      · simpa [Phase.consumed] using hleft

theorem step (hwins : ∀ s, wins s → s.phase.consumed = []) (h : Inv transport s rest)
    (hstep : Step transport kind wins s t) : ∃ rest', Inv transport t rest' := by
  cases hstep with
  | client_send message hsendable => exact ⟨_, h.send hsendable⟩
  | deliver n =>
    refine ⟨rest, h.rephase rfl rfl rfl ?_ (.inl rfl)⟩
    rw [List.append_assoc, List.take_append_drop]
  | answer | respond | finish => exact ⟨rest, h.rephase rfl rfl rfl rfl (.inl rfl)⟩
  | poll hphase => exact h.poll hphase
  | timeout hphase hstreams | hang_up hphase => exact ⟨rest, h.rephase rfl rfl rfl rfl (.inr (.inl ⟨_, rfl, nofun⟩))⟩
  | @response receive response tail hphase hresponses hwin =>
    refine ⟨rest, h.rephase rfl rfl rfl rfl (.inr (.inr ⟨?_, hwins s hwin, .inr ⟨response, rfl⟩⟩))⟩
    rw [hphase]
    exact nofun
  | stream_done hphase hdone hwin =>
    refine ⟨rest, h.rephase rfl rfl rfl rfl (.inr (.inr ⟨?_, hwins s hwin, .inl rfl⟩))⟩
    rw [hphase]
    exact nofun
  | responded hphase | serve hphase hallowed hserves hroom =>
    refine ⟨rest, h.rephase rfl rfl rfl rfl (.inr (.inr ⟨?_, ?_, .inl rfl⟩))⟩ <;> rw [hphase]
    · exact nofun
    · rfl
  | refuse hphase hallowed | fail hphase => exact ⟨rest, h.rephase rfl rfl rfl rfl (.inr (.inl ⟨_, rfl, nofun⟩))⟩

theorem initial : Inv transport initial [] where
  sent := rfl
  sendable := nofun
  framed := nofun
  following _ := by
    refine ⟨rfl, rfl, ?_⟩
    intro receive hreceive
    cases hreceive
    exact Nat.zero_lt_succ 3

theorem reaches (hwins : ∀ s, wins s → s.phase.consumed = []) (h : Inv transport s rest)
    (hreaches : Reaches transport kind wins s t) : ∃ rest', Inv transport t rest' := by
  induction hreaches with
  | refl => exact ⟨rest, h⟩
  | tail _ hstep ih =>
    obtain ⟨rest', h'⟩ := ih
    exact h'.step hwins hstep

end Inv

/-- As long as no other arm wins while a `receive` is within a frame, the server decodes the client's messages in
order, and all of them once their bytes are there. -/
theorem decodes_messages_in_order (hwins : ∀ s, wins s → s.phase.consumed = [])
    (hreaches : Reaches transport kind wins initial s) : Intact s := by
  obtain ⟨rest, h⟩ := Inv.reaches hwins Inv.initial hreaches
  exact h.intact

end Reading

namespace sample

def with_number (n : Nat) (rest : List UInt8) : List UInt8 := List.replicate n 0 ++ 1 :: rest

def number (bytes : List UInt8) : Nat := (bytes.takeWhile (· = 0)).length

def behind (bytes : List UInt8) : List UInt8 := (bytes.dropWhile (· = 0)).tail

theorem number_with_number (n : Nat) (rest : List UInt8) : number (with_number n rest) = n := by
  rw [number, with_number, List.takeWhile_append_of_pos (by simp), List.takeWhile_cons_of_neg (by simp)]
  simp

theorem behind_with_number (n : Nat) (rest : List UInt8) : behind (with_number n rest) = rest := by
  rw [behind, with_number, List.dropWhile_append_of_pos (by simp), List.dropWhile_cons_of_neg (by simp), List.tail_cons]

def into_writer : ClientMessage (List UInt8) → List UInt8
  | .RequestAttestation => [0]
  | .GetControlNonce => [1]
  | .Data id payload => 2 :: with_number id payload
  | .OpenStream id payload => 3 :: with_number id payload
  | .StreamData id payload => 4 :: with_number id payload
  | .StreamClose id .Write => 5 :: with_number id []
  | .StreamClose id .Both => 6 :: with_number id []
  | .Control payload signature => 7 :: with_number payload.length (payload ++ signature)

def from_reader : List UInt8 → Option (ClientMessage (List UInt8))
  | 0 :: _ => some .RequestAttestation
  | 1 :: _ => some .GetControlNonce
  | 2 :: rest => some (.Data (number rest) (behind rest))
  | 3 :: rest => some (.OpenStream (number rest) (behind rest))
  | 4 :: rest => some (.StreamData (number rest) (behind rest))
  | 5 :: rest => some (.StreamClose (number rest) .Write)
  | 6 :: rest => some (.StreamClose (number rest) .Both)
  | 7 :: rest => some (.Control ((behind rest).take (number rest)) ((behind rest).drop (number rest)))
  | _ => none

def transport : CborTransport where
  write_message _ payload := payload ++ List.replicate 16 0
  read_message _ message := some (message.take (message.length - 16))
  into_writer := into_writer
  from_reader := from_reader
  read_write_message _ payload := by simp
  length_write_message _ payload := by simp
  from_reader_into_writer message := by
    cases message with
    | StreamClose id half => cases half <;> simp [into_writer, from_reader, number_with_number]
    | _ => simp [into_writer, from_reader, number_with_number, behind_with_number]

variable {wins : ClientConnection → Prop}

/-- The client's first request has been decoded and is with the container, and of its second the length is there. -/
def forwarding : ClientConnection where
  sent := [.Data 0 [5], .Data 1 []]
  in_flight := transport.write_message 1 (into_writer (.Data 1 []))
  arrived := bytes.be 4 19
  phase := .selecting .start
  nonce := 1
  decoded := [.Data 0 [5]]
  streams := []
  responses := []
  stream_done := []
  tasks := [.data 0]

theorem reaches_forwarding : Reaches transport .Public wins initial forwarding := by
  have hsent : Reaches transport .Public wins initial _ :=
    .tail .refl (.client_send (.Data 0 [5]) (show _ ≤ BUFFER_SIZE by decide))
  have hdecoded := (hsent.tail (.deliver 23)).tail (.poll rfl)
  have hserved := hdecoded.tail (.serve rfl rfl (.data (by decide) (by decide)) nofun)
  exact (hserved.tail (.client_send (.Data 1 []) (show _ ≤ BUFFER_SIZE by decide))).tail (.deliver 4)

/-- The server has read the length, and then the container's answer to the first request is ready. -/
def answered : ClientConnection :=
  { forwarding with
    phase := .selecting (.content 19 [])
    arrived := []
    responses := [error_message 0 "connection refused"]
    tasks := [] }

theorem reaches_answered : Reaches transport .Public wins initial answered :=
  .tail (.tail reaches_forwarding (.poll rfl))
    (@Step.answer _ _ _ _ 0 (error_message 0 "connection refused") (by decide)
      (List.mem_cons_of_mem _ List.mem_cons_self) (by decide))

end sample

/-- The server has decoded one message, and reads another one in two pieces. -/
theorem decodes_messages_in_order_split : Intact sample.answered ∧ sample.answered.decoded = [.Data 0 [5]] ∧
    Reaches sample.transport .Public (fun s => s.phase.consumed = []) initial sample.answered :=
  ⟨decodes_messages_in_order (fun _ => id) sample.reaches_answered, rfl, sample.reaches_answered⟩

/-- The answer to the first request wins while the server has read the length of the second one only. -/
theorem message_lost_in_select : ∃ s, Reaches sample.transport .Public (fun _ => True) initial s ∧ ¬Intact s := by
  have hdropped : Reaches sample.transport .Public (fun _ => True) initial
      { sample.answered with phase := .selecting .start, responses := [] } :=
    .tail (.tail sample.reaches_answered (.response rfl rfl trivial)) (.responded rfl)
  have hpolled := Relation.ReflTransGen.tail (.tail hdropped (.deliver 19)) (.poll rfl)
  exact ⟨_, hpolled, fun h => h.framed rfl⟩

end ClientConnection

end enclavia.server
