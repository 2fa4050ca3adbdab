import Enclavia.Egress.Socket
import Enclavia.Machine.Channel
import Enclavia.Machine.Guarded
import Mathlib.Data.List.MinMax

open machine

namespace enclavia.egress

def FLOW_CHANNEL_BYTES : Nat := 64 * 1024

def CHUNK_BYTES : Nat := 16 * 1024

structure Segment where
  src : SocketAddrV4
  dst : SocketAddrV4
  syn : Bool
  ack : Bool
  rst : Bool
  checksum : Bool

/-- A packet from the TUN: its IP version is 4, and it holds a TCP segment whose headers are whole. -/
structure Packet where
  is_ipv4 : Bool
  tcp : Option Segment

def parse_new_tcp_syn (packet : Packet) : Option (SocketAddrV4 × SocketAddrV4) :=
  match packet.tcp with
  | none => none
  | some segment => if !segment.syn || segment.ack then none else some (segment.dst, segment.src)

/-- A flow: its smoltcp socket, its `StackFlow`, which is `live` while the stack's table has it, and its `FlowStream`
in the forwarder's hands. -/
structure Flow where
  handle : Nat
  src : SocketAddrV4
  dst : SocketAddrV4
  socket : tcp.Socket
  to_forwarder : Channel (List UInt8) (FLOW_CHANNEL_BYTES / 1024)
  from_forwarder : Channel (List UInt8) (FLOW_CHANNEL_BYTES / 1024)
  pending_send : Option (List UInt8)
  saw_established : Bool
  live : Bool
  read_carry : Option (List UInt8 × Nat)
  delivered : List UInt8
  read : List UInt8
  accepted : List UInt8
  acknowledged : List UInt8
  ended : Bool

namespace Flow

def new (handle : Nat) (src dst : SocketAddrV4) : Flow where
  handle
  src
  dst
  socket := .listen dst
  to_forwarder := .new
  from_forwarder := .new
  pending_send := none
  saw_established := false
  live := true
  read_carry := none
  delivered := []
  read := []
  accepted := []
  acknowledged := []
  ended := false

variable (self : Flow)

def poll_read (size : Nat) : Option Flow :=
  match self.read_carry with
  | some (bytes, offset) =>
    let take := min size (bytes.length - offset)
    some { self with
      read := self.read ++ (bytes.drop offset).take take
      read_carry := if offset + take < bytes.length then some (bytes, offset + take) else none }
  | none =>
    match self.to_forwarder.queue with
    | bytes :: _ =>
      let take := min size bytes.length
      some { self with
        to_forwarder := self.to_forwarder.skip 1
        read := self.read ++ bytes.take take
        read_carry := if take < bytes.length then some (bytes, take) else none }
    | [] => if self.to_forwarder.sender then none else some { self with ended := true }

def poll_write (data : List UInt8) : Option Flow :=
  match self.from_forwarder.try_send data with
  | .ok from_forwarder => some { self with from_forwarder, accepted := self.accepted ++ data }
  | .error _ => none

/-- Ready at once, and nothing is dropped. -/
def poll_shutdown : Flow := self

def drop_stream : Flow :=
  { self with to_forwarder := self.to_forwarder.drop_receiver, from_forwarder := self.from_forwarder.drop_sender }

def note_established : Flow :=
  if self.socket.state = .Established then { self with saw_established := true } else self

def uplink : Flow :=
  if self.socket.can_recv then
    let received := self.socket.recv_slice CHUNK_BYTES
    match self.to_forwarder.try_send received.1 with
    | .ok to_forwarder => { self with socket := received.2, to_forwarder }
    | .error .Full => { self with socket := received.2 }
    | .error .Closed => { self with socket := received.2.close }
  else self

def send (data : List UInt8) : Flow :=
  match self.socket.send_slice data with
  | some (size, socket) =>
    { self with socket, pending_send := if size < data.length then some (data.drop size) else none }
  | none => { self with pending_send := some data }

def push_pending : Flow :=
  match self.pending_send with
  | some pending => if self.socket.can_send then { self with pending_send := none }.send pending else self
  | none => self

def pull : Option Flow :=
  if self.pending_send.isNone ∧ self.socket.can_send then
    match self.from_forwarder.queue with
    | data :: _ => some ({ self with from_forwarder := self.from_forwarder.skip 1 }.send data)
    | [] => none
  else none

def pull_all : (rounds : Nat) → Flow → Flow
  | 0, self => self
  | rounds + 1, self =>
    match self.pull with
    | some next => pull_all rounds next
    | none => self

def close_disconnected : Flow :=
  if self.pending_send.isNone ∧ self.socket.can_send ∧ self.from_forwarder.queue = [] ∧
      self.from_forwarder.sender = false then
    { self with socket := self.socket.close }
  else self

def torn_down : Bool :=
  self.saw_established &&
    (self.socket.state = .Closed || self.socket.state = .TimeWait || self.socket.state = .CloseWait)

def transfer : Flow :=
  let flow := self.note_established.uplink.push_pending
  (pull_all flow.from_forwarder.queue.length flow).close_disconnected

def service : Flow :=
  if self.transfer.torn_down then { self.transfer with socket := self.transfer.socket.close } else self.transfer

def remove : Flow :=
  { self with
    live := false
    to_forwarder := self.to_forwarder.drop_sender
    from_forwarder := self.from_forwarder.drop_receiver }

def accepts (segment : Segment) : Bool :=
  self.live && match self.socket.state with
    | .Closed => false
    | .Listen => !segment.ack && self.socket.listen_endpoint = segment.dst
    | _ => self.socket.tuple = some (segment.dst, segment.src)

def react (reaction : tcp.Reaction) : Option Flow :=
  (self.socket.react reaction).map fun socket =>
    { self with
      socket
      delivered := self.delivered ++ reaction.deliver
      acknowledged := self.acknowledged ++ self.socket.tx_buffer.take reaction.acknowledge }

def process (segment : Segment) (reaction : tcp.Reaction) : Option Flow :=
  if self.socket.state = .Listen then
    some (if segment.syn && !segment.ack && !segment.rst then
      { self with socket.state := .SynReceived, socket.tuple := some (segment.dst, segment.src) } else self)
  else if segment.rst ∧ self.socket.state = .SynReceived then
    some { self with socket.state := .Listen, socket.tuple := none }
  else self.react reaction

end Flow

/-- The stack with every flow that it has had. -/
structure Stack where
  flows : List Flow
  inbound : List Packet
  reader : Option Packet
  todo : List Nat
  closed : List Nat

inductive Event where
  | inbound (packet : Packet)
  | push_inbound
  | receive (reaction : tcp.Reaction)
  | timer (n : Nat) (reaction : tcp.Reaction)
  | begin
  | service
  | remove
  | read (n : Nat) (size : Nat)
  | write (n : Nat) (data : List UInt8)
  | shutdown (n : Nat)
  | drop (n : Nat)

namespace Stack

def new : Stack where
  flows := []
  inbound := []
  reader := none
  todo := []
  closed := []

variable (self : Stack)

def unlocked : Prop := self.todo = [] ∧ self.closed = []

instance : Decidable self.unlocked := inferInstanceAs (Decidable (_ ∧ _))

def on (n : Nat) (operation : Flow → Option Flow) : Option Stack :=
  self.flows[n]?.bind fun flow => (operation flow).map fun next => { self with flows := self.flows.set n next }

def flow_already_exists (dst src : SocketAddrV4) : Bool :=
  self.flows.any fun flow => flow.live && flow.dst = dst && flow.src = src

def free_slot : Nat :=
  ((List.range (self.flows.length + 1)).find? fun slot =>
    self.flows.all fun flow => !(flow.live && flow.handle = slot)).getD self.flows.length

def allocate_flow (dst src : SocketAddrV4) : Stack :=
  if dst.port = 0 then self else { self with flows := self.flows ++ [.new self.free_slot src dst] }

def target (segment : Segment) : Option Nat :=
  ((List.range self.flows.length).filter fun n =>
    (self.flows[n]?.map fun flow => flow.accepts segment).getD false).argmin fun n =>
      (self.flows[n]?.map Flow.handle).getD 0

def handle_inbound (packet : Packet) : Stack :=
  if packet.is_ipv4 then
    match parse_new_tcp_syn packet with
    | some (dst, src) =>
      if self.flow_already_exists dst src then { self with reader := some packet }
      else { self.allocate_flow dst src with reader := some packet }
    | none => { self with reader := some packet }
  else self

def receive (reaction : tcp.Reaction) : Option Stack :=
  match self.inbound with
  | [] => none
  | packet :: inbound =>
    match packet.tcp with
    | none => some { self with inbound }
    | some segment =>
      if segment.checksum then
        match self.target segment with
        | none => some { self with inbound }
        | some n => { self with inbound }.on n fun flow => flow.process segment reaction
      else some { self with inbound }

def step : Event → Option Stack
  | .inbound packet => if self.unlocked ∧ self.reader = none then some (self.handle_inbound packet) else none
  | .push_inbound =>
    match self.reader with
    | some packet =>
      if self.unlocked then some { self with inbound := self.inbound ++ [packet], reader := none } else none
    | none => none
  | .receive reaction => if self.unlocked then self.receive reaction else none
  | .timer n reaction =>
    if self.unlocked ∧ reaction.deliver = [] then
      self.on n fun flow => if flow.live then flow.react reaction else none
    else none
  | .begin =>
    if self.unlocked then
      some { self with todo := (List.range self.flows.length).filter fun n => self.flows[n]?.any Flow.live }
    else none
  | .service =>
    match self.todo with
    | n :: todo =>
      self.flows[n]?.map fun flow =>
        { self with
          flows := self.flows.set n flow.service
          todo
          closed := if flow.transfer.torn_down then self.closed ++ [n] else self.closed }
    | [] => none
  | .remove =>
    match self.todo, self.closed with
    | [], n :: closed => { self with closed }.on n fun flow => some flow.remove
    | _, _ => none
  | .read n size => self.on n fun flow => if flow.to_forwarder.receiver then flow.poll_read size else none
  | .write n data => self.on n fun flow => if flow.from_forwarder.sender then flow.poll_write data else none
  | .shutdown n => self.on n fun flow => if flow.from_forwarder.sender then some flow.poll_shutdown else none
  | .drop n => self.on n fun flow => some flow.drop_stream

end Stack

end enclavia.egress
