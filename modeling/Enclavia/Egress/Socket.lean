import Mathlib.Data.List.Basic

namespace enclavia.egress

structure SocketAddrV4 where
  ip : UInt32
  port : UInt16
deriving DecidableEq

def SMOLTCP_RX_BUFFER : Nat := 64 * 1024

def SMOLTCP_TX_BUFFER : Nat := 64 * 1024

namespace tcp

inductive State where
  | Closed
  | Listen
  | SynSent
  | SynReceived
  | Established
  | FinWait1
  | FinWait2
  | CloseWait
  | Closing
  | LastAck
  | TimeWait
deriving DecidableEq

def State.past_listen : State → Bool
  | .Closed | .Listen => false
  | _ => true

def State.follows : State → State → Bool
  | .SynReceived, .Established | .SynReceived, .CloseWait => true
  | .Established, .CloseWait => true
  | .FinWait1, .FinWait2 | .FinWait1, .Closing | .FinWait1, .TimeWait => true
  | .FinWait2, .TimeWait => true
  | .Closing, .TimeWait => true
  | state, next => state = next || next = .Closed

/-- A TCP socket of smoltcp. -/
structure Socket where
  state : State
  listen_endpoint : SocketAddrV4
  tuple : Option (SocketAddrV4 × SocketAddrV4)
  rx_buffer : List UInt8
  tx_buffer : List UInt8

/-- What segments and timers make of a connection: bytes that come in order, bytes that are acknowledged. -/
structure Reaction where
  state : State
  deliver : List UInt8
  acknowledge : Nat

namespace Socket

variable (self : Socket)

def listen (endpoint : SocketAddrV4) : Socket where
  state := .Listen
  listen_endpoint := endpoint
  tuple := none
  rx_buffer := []
  tx_buffer := []

def can_recv : Bool := !self.rx_buffer.isEmpty

def recv_slice (size : Nat) : List UInt8 × Socket :=
  (self.rx_buffer.take size, { self with rx_buffer := self.rx_buffer.drop size })

def may_send : Bool := self.state = .Established || self.state = .CloseWait

def can_send : Bool := self.may_send && self.tx_buffer.length < SMOLTCP_TX_BUFFER

def send_slice (data : List UInt8) : Option (Nat × Socket) :=
  if self.may_send then
    let size := min (SMOLTCP_TX_BUFFER - self.tx_buffer.length) data.length
    some (size, { self with tx_buffer := self.tx_buffer ++ data.take size })
  else none

def close : Socket :=
  match self.state with
  | .Listen | .SynSent => { self with state := .Closed }
  | .SynReceived | .Established => { self with state := .FinWait1 }
  | .CloseWait => { self with state := .LastAck }
  | _ => self

def react (reaction : Reaction) : Option Socket :=
  if self.state.past_listen ∧ self.state.follows reaction.state ∧
      (reaction.deliver = [] ∨ self.state ∈ [State.SynReceived, .Established, .FinWait1, .FinWait2]) ∧
      self.rx_buffer.length + reaction.deliver.length ≤ SMOLTCP_RX_BUFFER ∧
      reaction.acknowledge ≤ self.tx_buffer.length then
    some { self with
      state := reaction.state
      tuple := if reaction.state = .Closed then none else self.tuple
      rx_buffer := self.rx_buffer ++ reaction.deliver
      tx_buffer := self.tx_buffer.drop reaction.acknowledge }
  else none

variable {self} {reaction : Reaction} {next : Socket}

@[simp] theorem close_rx_buffer : self.close.rx_buffer = self.rx_buffer := by
  unfold close
  split <;> rfl

@[simp] theorem close_tx_buffer : self.close.tx_buffer = self.tx_buffer := by
  unfold close
  split <;> rfl

@[simp] theorem close_tuple : self.close.tuple = self.tuple := by
  unfold close
  split <;> rfl

@[simp] theorem close_listen_endpoint : self.close.listen_endpoint = self.listen_endpoint := by
  unfold close
  split <;> rfl

theorem close_state_congr (h : self.state = next.state) : self.close.state = next.close.state := by
  cases hstate : next.state <;> simp [close, h, hstate]

theorem close_may_send (h : next.state = self.close.state) : next.may_send = false := by
  rw [may_send, h]
  cases hstate : self.state <;> simp [close, hstate]

theorem close_past_listen (h : self.close.state.past_listen = true) : self.state.past_listen = true := by
  cases hstate : self.state with
  | Listen | SynSent | Closed => simp_all [close, State.past_listen]
  | _ => rfl

theorem react_eq_some (h : self.react reaction = some next) :
    self.state.past_listen = true ∧ reaction.acknowledge ≤ self.tx_buffer.length ∧ next.state = reaction.state ∧
      next.listen_endpoint = self.listen_endpoint ∧
      (next.tuple = self.tuple ∨ next.tuple = none ∧ next.state = .Closed) ∧
      next.rx_buffer = self.rx_buffer ++ reaction.deliver ∧
      next.tx_buffer = self.tx_buffer.drop reaction.acknowledge := by
  unfold react at h
  split at h
  · next hguard =>
    cases h
    refine ⟨hguard.1, hguard.2.2.2.2, rfl, rfl, ?_, rfl, rfl⟩
    by_cases hclosed : reaction.state = .Closed
    · exact .inr ⟨if_pos hclosed, hclosed⟩
    · exact .inl (if_neg hclosed)
  · cases h

theorem send_slice_eq_some {data : List UInt8} {size : Nat} (h : self.send_slice data = some (size, next)) :
    size ≤ data.length ∧ next = { self with tx_buffer := self.tx_buffer ++ data.take size } := by
  unfold send_slice at h
  split at h
  · cases h
    exact ⟨Nat.min_le_right _ _, rfl⟩
  · cases h

end Socket

end tcp

end enclavia.egress
