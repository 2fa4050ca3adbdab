import Enclavia.Machine.Channel
import Enclavia.Machine.Guarded
import Enclavia.Server.ClientLoop

open machine enclavia.protocol

namespace enclavia.server

inductive ServerMessage (Blob : Type) where
  | Data (id : Nat) (payload : Blob)
  | Error (id : Nat) (message : String)
  | StreamData (id : Nat) (payload : Blob)
  | StreamClose (id : Nat)
deriving DecidableEq

inductive StreamCommand (Blob : Type) where
  | Data (payload : Blob)
  | Close (half : StreamHalf)

/-- A message in the response channel, and the number of the `Data` request that it answers, if it is one's reply. -/
structure Outgoing (Blob : Type) where
  message : ServerMessage Blob
  request : Option Nat
deriving DecidableEq

inductive TaskState (Blob : Type) where
  | forwarding
  | answering (response : ServerMessage Blob)
  | connecting
  | pumping (workload_eof : Bool)
  | relaying (response : ServerMessage Blob) (next : Option Bool)
  | writing (workload_eof : Bool)
  | finishing
  | finished

structure Task (Blob : Type) where
  id : Nat
  request : Option Nat
  state : TaskState Blob
  cmds : Channel (StreamCommand Blob) MAX_IN_FLIGHT

namespace Task

variable {Blob : Type} (self : Task Blob)

def unfinished : Bool :=
  match self.state with
  | .finished => false
  | _ => true

def listening : Bool :=
  match self.state with
  | .connecting | .pumping _ | .relaying _ _ | .writing _ => true
  | _ => false

end Task

inductive Ended where
  | idle
  | refused
  | send_failed

inductive Loop (Blob : Type) where
  | selecting
  | replying (response : Outgoing Blob)
  | acquiring_data (id : Nat) (request : Nat)
  | acquiring_stream (id : Nat)
  | commanding (id : Nat) (task : Nat) (command : StreamCommand Blob)
  | sending (response : Outgoing Blob)
  | ended (why : Ended)

def Loop.handling {Blob : Type} : Loop Blob → Bool
  | .replying _ | .acquiring_data _ _ | .acquiring_stream _ | .commanding _ _ _ => true
  | _ => false

/-- What the handler asks of payloads and messages: their lengths, and those of the messages' CBOR. -/
structure Sizes (Blob : Type) where
  payload_len : Blob → Nat
  encoded_len : ServerMessage Blob → Nat

/-- A session on the public port. -/
structure Handler (Blob : Type) where
  loop : Loop Blob
  responses : Channel (Outgoing Blob) MAX_IN_FLIGHT
  stream_done : Channel Nat MAX_IN_FLIGHT
  streams : List (Nat × Nat)
  tasks : List (Task Blob)
  received : List Nat
  produced : List (Outgoing Blob)
  sent : List (Outgoing Blob)

inductive TaskEvent (Blob : Type) where
  | answered (result : Except String Blob)
  | connected (result : Except String Unit)
  | read (result : Except String (Option Blob))
  | command
  | written (result : Except String Unit)
  | push

inductive HandlerEvent (Blob : Type) where
  | receive (message : ClientMessage Blob)
  | proceed
  | take_response
  | transmit
  | reap
  | idle
  | task (n : Nat) (event : TaskEvent Blob)

namespace Handler

variable {Blob : Type}

def new : Handler Blob where
  loop := .selecting
  responses := .new
  stream_done := .new
  streams := []
  tasks := []
  received := []
  produced := []
  sent := []

variable (self : Handler Blob)

def permit : Bool := (self.tasks.filter Task.unfinished).length < MAX_IN_FLIGHT

def set_task (n : Nat) (task : Task Blob) : Handler Blob := { self with tasks := self.tasks.set n task }

def remove (id : Nat) : Handler Blob :=
  { self with
    streams := self.streams.filter fun entry => entry.1 ≠ id
    tasks := match self.streams.lookup id with
      | some n => self.tasks.modify n fun task => { task with cmds := task.cmds.drop_sender }
      | none => self.tasks }

def respond (response : Outgoing Blob) : Option (Handler Blob) :=
  match self.responses.try_send response with
  | .ok responses => some { self with responses, produced := self.produced ++ [response] }
  | .error _ => none

/-- The arm of `select!` for a message, up to the `await` in it. -/
def receive (sizes : Sizes Blob) : ClientMessage Blob → Handler Blob
  | .RequestAttestation => self
  | .GetControlNonce | .Control _ _ => { self with loop := .ended .refused }
  | .Data id payload =>
    let next := { self with received := self.received ++ [id] }
    if sizes.payload_len payload > MAX_PAYLOAD_SIZE then
      { next with loop := .replying ⟨.Error id "payload too large", some self.received.length⟩ }
    else { next with loop := .acquiring_data id self.received.length }
  | .OpenStream id payload =>
    if sizes.payload_len payload > MAX_PAYLOAD_SIZE then
      { self with loop := .replying ⟨.Error id "payload too large", none⟩ }
    else { self with loop := .acquiring_stream id }
  | .StreamData id payload =>
    match self.streams.lookup id with
    | some n =>
      if sizes.payload_len payload > MAX_PAYLOAD_SIZE then
        { self with loop := .replying ⟨.Error id "payload too large", none⟩ }
      else { self with loop := .commanding id n (.Data payload) }
    | none => { self with loop := .replying ⟨.Error id "unknown stream id", none⟩ }
  | .StreamClose id half =>
    match self.streams.lookup id with
    | some n => { self with loop := .commanding id n (.Close half) }
    | none => self

def command (id n : Nat) (command : StreamCommand Blob) : Option (Handler Blob) :=
  let after := { self with loop := .selecting }
  match self.tasks[n]? with
  | none => some (after.remove id)
  | some task =>
    if task.listening then
      match task.cmds.try_send command with
      | .ok cmds =>
        let next := after.set_task n { task with cmds }
        match command with
        | .Close .Both => some (next.remove id)
        | _ => some next
      | .error _ => none
    else some (after.remove id)

def proceed : Option (Handler Blob) :=
  match self.loop with
  | .replying response => (self.respond response).map fun next => { next with loop := .selecting }
  | .acquiring_data id request =>
    if self.permit then
      some { self with loop := .selecting, tasks := self.tasks ++ [⟨id, some request, .forwarding, .new⟩] }
    else none
  | .acquiring_stream id =>
    if self.permit then
      let replaced := self.remove id
      some { replaced with
        loop := .selecting
        streams := (id, replaced.tasks.length) :: replaced.streams
        tasks := replaced.tasks ++ [⟨id, none, .connecting, .new⟩] }
    else none
  | .commanding id n command => self.command id n command
  | _ => none

def task_step (n : Nat) (task : Task Blob) : TaskEvent Blob → Option (Handler Blob)
  | .answered result =>
    match task.state with
    | .forwarding =>
      some (self.set_task n { task with state := .answering (match result with
        | .ok payload => .Data task.id payload
        | .error message => .Error task.id message) })
    | _ => none
  | .connected result =>
    match task.state with
    | .connecting =>
      some (self.set_task n { task with state := match result with
        | .ok () => .pumping false
        | .error message => .relaying (.Error task.id message) none })
    | _ => none
  | .read result =>
    match task.state with
    | .pumping false =>
      some (self.set_task n { task with state := match result with
        | .ok (some payload) => .relaying (.StreamData task.id payload) (some false)
        | .ok none => .relaying (.StreamClose task.id) (some true)
        | .error message => .relaying (.Error task.id message) none })
    | _ => none
  | .command =>
    match task.state with
    | .pumping workload_eof =>
      match task.cmds.queue with
      | .Data _ :: _ => some (self.set_task n { task with cmds := task.cmds.skip 1, state := .writing workload_eof })
      | .Close .Write :: _ => some (self.set_task n { task with cmds := task.cmds.skip 1 })
      | .Close .Both :: _ => some (self.set_task n { task with cmds := task.cmds.skip 1, state := .finishing })
      | [] => if task.cmds.sender then none else some (self.set_task n { task with state := .finishing })
    | _ => none
  | .written result =>
    match task.state with
    | .writing workload_eof =>
      some (self.set_task n { task with state := match result with
        | .ok () => .pumping workload_eof
        | .error message => .relaying (.Error task.id message) none })
    | _ => none
  | .push =>
    match task.state with
    | .answering response =>
      (self.respond ⟨response, task.request⟩).map fun next => next.set_task n { task with state := .finished }
    | .relaying response next =>
      (self.respond ⟨response, none⟩).map fun after =>
        after.set_task n { task with state := match next with
          | some workload_eof => .pumping workload_eof
          | none => .finishing }
    | .finishing =>
      match self.stream_done.try_send task.id with
      | .ok stream_done => some ({ self with stream_done }.set_task n { task with state := .finished })
      | .error _ => none
    | _ => none

def fits (sizes : Sizes Blob) (message : ServerMessage Blob) : Bool :=
  sizes.encoded_len message + 16 ≤ BUFFER_SIZE

def step (sizes : Sizes Blob) (self : Handler Blob) : HandlerEvent Blob → Option (Handler Blob)
  | .receive message =>
    match self.loop with
    | .selecting => some (self.receive sizes message)
    | _ => none
  | .proceed => self.proceed
  | .take_response =>
    match self.loop, self.responses.queue with
    | .selecting, response :: _ =>
      some { self with loop := .sending response, responses := self.responses.skip 1 }
    | _, _ => none
  | .transmit =>
    match self.loop with
    | .sending response =>
      if fits sizes response.message then some { self with loop := .selecting, sent := self.sent ++ [response] }
      else some { self with loop := .ended .send_failed }
    | _ => none
  | .reap =>
    match self.loop, self.stream_done.queue with
    | .selecting, id :: _ => some ({ self with stream_done := self.stream_done.skip 1 }.remove id)
    | _, _ => none
  | .idle =>
    match self.loop, self.streams with
    | .selecting, [] => some { self with loop := .ended .idle }
    | _, _ => none
  | .task n event =>
    match self.loop with
    | .ended _ => none
    | _ => self.tasks[n]?.bind fun task => self.task_step n task event

end Handler

end enclavia.server
