import Enclavia.Egress.Uplink

open machine

namespace enclavia.egress

variable {reaction : tcp.Reaction}

namespace Flow

def outgoing (self : Flow) : List UInt8 :=
  self.socket.tx_buffer ++ self.pending_send.getD [] ++ self.from_forwarder.queue.flatten

def downlink_state (self : Flow) := (self.accepted, self.acknowledged, self.outgoing)

def holders (self : Flow) := (self.live, self.ended, self.to_forwarder.sender, self.from_forwarder.receiver)

/-- No byte is lost in either direction, also where the flow is no longer in the stack. -/
structure Conserved (flow : Flow) : Prop where
  kept : flow.Kept
  sent : flow.accepted = flow.acknowledged ++ flow.outgoing
  sender : flow.to_forwarder.sender = flow.live
  receiver : flow.from_forwarder.receiver = flow.live
  settled : flow.live = false → flow.socket.rx_buffer = [] ∧ flow.outgoing = []
  ended : flow.ended = true → flow.live = false ∧ flow.read = flow.delivered

variable {self next : Flow} {data : List UInt8}

theorem conserved_new (handle : Nat) (src dst : SocketAddrV4) : (new handle src dst).Conserved where
  kept := kept_new _ _ _
  sent := rfl
  sender := rfl
  receiver := rfl
  settled := nofun
  ended := nofun

theorem send_outgoing :
    (self.send data).outgoing = self.socket.tx_buffer ++ data ++ self.from_forwarder.queue.flatten := by
  unfold send
  split
  · next size socket hsend =>
    obtain ⟨hsize, rfl⟩ := tcp.Socket.send_slice_eq_some hsend
    simp only [outgoing]
    split
    · simp only [Option.getD_some, List.append_assoc, List.append_cancel_left_eq]
      rw [← List.append_assoc, List.take_append_drop]
    · next hall =>
      rw [List.take_of_length_le (Nat.le_of_not_lt hall)]
      simp only [Option.getD_none, List.append_nil]
  · rfl

theorem send_downlink :
    (self.send data).downlink_state = (self.accepted, self.acknowledged,
      self.socket.tx_buffer ++ data ++ self.from_forwarder.queue.flatten) ∧
      (self.send data).holders = self.holders := by
  have hfields : (self.send data).accepted = self.accepted ∧ (self.send data).acknowledged = self.acknowledged ∧
      (self.send data).holders = self.holders := by
    unfold send
    split <;> exact ⟨rfl, rfl, rfl⟩
  exact ⟨by rw [downlink_state, hfields.1, hfields.2.1, send_outgoing], hfields.2.2⟩

theorem note_established_downlink : self.note_established.downlink_state = self.downlink_state ∧
    self.note_established.holders = self.holders := by
  unfold note_established
  split <;> exact ⟨rfl, rfl⟩

theorem uplink_downlink : self.uplink.downlink_state = self.downlink_state ∧ self.uplink.holders = self.holders := by
  unfold uplink
  split
  · simp only
    split
    · next channel hsend =>
      obtain ⟨-, -, -, hsender, -⟩ := Channel.try_send_ok.mp hsend
      refine ⟨rfl, ?_⟩
      simp only [holders, hsender]
    · exact ⟨rfl, rfl⟩
    · simp only [downlink_state, outgoing, tcp.Socket.close_tx_buffer, holders]
      exact ⟨rfl, trivial⟩
  · exact ⟨rfl, rfl⟩

theorem push_pending_downlink : self.push_pending.downlink_state = self.downlink_state ∧
    self.push_pending.holders = self.holders := by
  unfold push_pending
  split
  · next pending hpending =>
    split
    · obtain ⟨hdown, hholders⟩ := @send_downlink { self with pending_send := none } pending
      refine ⟨hdown.trans ?_, hholders⟩
      simp only [downlink_state, outgoing, hpending, Option.getD_some]
    · exact ⟨rfl, rfl⟩
  · exact ⟨rfl, rfl⟩

theorem pull_all_downlink (rounds : Nat) : (pull_all rounds self).downlink_state = self.downlink_state ∧
    (pull_all rounds self).holders = self.holders := by
  induction rounds generalizing self with
  | zero => exact ⟨rfl, rfl⟩
  | succ rounds ih =>
    unfold pull_all
    split
    · next next hpull =>
      obtain ⟨data, rest, hqueue, hpending, rfl⟩ := pull_eq_some hpull
      obtain ⟨hdown, hholders⟩ := @send_downlink { self with from_forwarder := self.from_forwarder.skip 1 }
        data
      refine ⟨ih.1.trans (hdown.trans ?_), ih.2.trans hholders⟩
      simp only [downlink_state, outgoing, Channel.skip, hpending, hqueue, Option.getD_none, List.append_nil,
        List.drop_one, List.tail_cons, List.flatten_cons, List.append_assoc]
    · exact ⟨rfl, rfl⟩

theorem close_disconnected_downlink : self.close_disconnected.downlink_state = self.downlink_state ∧
    self.close_disconnected.holders = self.holders := by
  unfold close_disconnected
  split
  · simp only [downlink_state, outgoing, tcp.Socket.close_tx_buffer, holders, and_self]
  · exact ⟨rfl, rfl⟩

theorem service_downlink : self.service.downlink_state = self.downlink_state ∧ self.service.holders = self.holders := by
  have htransfer : self.transfer.downlink_state = self.downlink_state ∧ self.transfer.holders = self.holders := by
    obtain ⟨hnoted, hnoted'⟩ := @note_established_downlink self
    obtain ⟨hup, hup'⟩ := @uplink_downlink self.note_established
    obtain ⟨hpushed, hpushed'⟩ := @push_pending_downlink self.note_established.uplink
    obtain ⟨hpulled, hpulled'⟩ := @pull_all_downlink self.note_established.uplink.push_pending
      self.note_established.uplink.push_pending.from_forwarder.queue.length
    obtain ⟨hclosed, hclosed'⟩ := @close_disconnected_downlink (pull_all
      self.note_established.uplink.push_pending.from_forwarder.queue.length self.note_established.uplink.push_pending)
    exact ⟨hclosed.trans (hpulled.trans (hpushed.trans (hup.trans hnoted))),
      hclosed'.trans (hpulled'.trans (hpushed'.trans (hup'.trans hnoted')))⟩
  unfold service
  split
  · rw [← htransfer.1, ← htransfer.2]
    simp only [downlink_state, outgoing, tcp.Socket.close_tx_buffer, holders, and_self]
  · exact htransfer

theorem service_history : self.service.delivered = self.delivered ∧ self.service.read = self.read := by
  have hstate := @service_uplink_state self
  have huplink : self.note_established.uplink.delivered = self.delivered ∧
      self.note_established.uplink.read = self.read := by
    unfold uplink note_established
    split
    all_goals split
    all_goals first | exact ⟨rfl, rfl⟩ | (simp only; split <;> exact ⟨rfl, rfl⟩)
  simp only [uplink_state, Prod.mk.injEq] at hstate
  exact ⟨hstate.1.trans huplink.1, hstate.2.1.trans huplink.2⟩

/-- What a pass takes is all there is, if it fits the chunk. -/
theorem service_rx_buffer_nil (h : self.socket.rx_buffer.length ≤ CHUNK_BYTES) :
    self.service.socket.rx_buffer = [] := by
  have hstate := @service_uplink_state self
  have hnoted : self.note_established.socket = self.socket := by
    unfold note_established
    split <;> rfl
  simp only [uplink_state, Prod.mk.injEq] at hstate
  have hdrop : self.note_established.socket.rx_buffer.drop CHUNK_BYTES = [] := by
    rw [hnoted]
    exact List.drop_eq_nil_of_le h
  rw [hstate.2.2.2.2, uplink]
  split
  · dsimp only
    split
    · exact hdrop
    · exact hdrop
    · rw [tcp.Socket.close_rx_buffer]
      exact hdrop
  · next hrecv => simpa [tcp.Socket.can_recv] using hrecv

/-- Where the connection stands, and which ends the forwarder holds. -/
def control_state (self : Flow) :=
  (self.socket.state, self.saw_established, self.to_forwarder.receiver, self.from_forwarder.sender)

theorem send_control : (self.send data).control_state = self.control_state := by
  unfold send
  split
  · next hsend =>
    obtain ⟨-, rfl⟩ := tcp.Socket.send_slice_eq_some hsend
    rfl
  · rfl

theorem push_pending_control : self.push_pending.control_state = self.control_state := by
  unfold push_pending
  split
  · split
    · exact send_control
    · rfl
  · rfl

theorem pull_all_control (rounds : Nat) : (pull_all rounds self).control_state = self.control_state := by
  induction rounds generalizing self with
  | zero => rfl
  | succ rounds ih =>
    unfold pull_all
    split
    · next hpull =>
      obtain ⟨data, rest, -, -, rfl⟩ := pull_eq_some hpull
      exact ih.trans send_control
    · rfl

theorem uplink_control : self.uplink.control_state = self.control_state ∨
    self.to_forwarder.receiver = false ∧ self.uplink.control_state =
      (self.socket.close.state, self.saw_established, self.to_forwarder.receiver, self.from_forwarder.sender) := by
  unfold uplink
  split
  · dsimp only
    split
    · next hsend =>
      obtain ⟨-, -, -, -, hreceiver⟩ := Channel.try_send_ok.mp hsend
      exact .inl (by simp only [control_state, hreceiver, tcp.Socket.recv_slice])
    · exact .inl rfl
    · next hsend =>
      have hgone : self.to_forwarder.receiver = false := by
        by_contra hheld
        rw [Channel.try_send, if_neg hheld] at hsend
        split at hsend <;> cases hsend
      refine .inr ⟨hgone, ?_⟩
      cases hstate : self.socket.state <;> simp [control_state, tcp.Socket.close, tcp.Socket.recv_slice, hstate]
  · exact .inl rfl

theorem close_disconnected_control : self.close_disconnected.control_state = self.control_state ∨
    self.socket.may_send = true ∧ self.from_forwarder.sender = false ∧ self.close_disconnected.control_state =
      (self.socket.close.state, self.saw_established, self.to_forwarder.receiver, self.from_forwarder.sender) := by
  unfold close_disconnected
  split
  · next hguard => exact .inr ⟨(Bool.and_eq_true_iff.mp hguard.2.1).1, hguard.2.2.2, rfl⟩
  · exact .inl rfl

/-- A pass leaves the connection as it is, or closes it where the forwarder has dropped its stream. -/
theorem transfer_control : (self.transfer.socket.state = self.socket.state ∨
      (self.to_forwarder.receiver = false ∨ self.from_forwarder.sender = false) ∧
        self.transfer.socket.state = self.socket.close.state) ∧
    (self.transfer.saw_established = true → self.saw_established = true ∨ self.socket.state = .Established) ∧
    self.transfer.to_forwarder.receiver = self.to_forwarder.receiver ∧
    self.transfer.from_forwarder.sender = self.from_forwarder.sender := by
  have hnoted : self.note_established.socket = self.socket ∧
      self.note_established.to_forwarder = self.to_forwarder ∧
      self.note_established.from_forwarder = self.from_forwarder ∧
      (self.note_established.saw_established = true → self.saw_established = true ∨
        self.socket.state = .Established) := by
    unfold note_established
    split
    · next hstate => exact ⟨rfl, rfl, rfl, fun _ => .inr hstate⟩
    · exact ⟨rfl, rfl, rfl, .inl⟩
  have huplink := @uplink_control self.note_established
  have hclosed := @close_disconnected_control (pull_all
    self.note_established.uplink.push_pending.from_forwarder.queue.length self.note_established.uplink.push_pending)
  have hpulled := (@pull_all_control self.note_established.uplink.push_pending
    self.note_established.uplink.push_pending.from_forwarder.queue.length).trans push_pending_control
  change self.transfer.control_state = _ ∨ _ ∧ _ ∧ self.transfer.control_state = _ at hclosed
  simp only [control_state, Prod.mk.injEq] at huplink hclosed hpulled
  rw [hnoted.1, hnoted.2.1, hnoted.2.2.1] at huplink
  obtain ⟨hpstate, hpsaw, hpreceiver, hpsender⟩ := hpulled
  rcases huplink with ⟨hstate, hsaw, hreceiver, hsender⟩ | ⟨hgone, hstate, hsaw, hreceiver, hsender⟩ <;>
    rcases hclosed with ⟨hcstate, hcsaw, hcreceiver, hcsender⟩ | ⟨hmay, hdropped, hcstate, hcsaw, hcreceiver, hcsender⟩
  · refine ⟨.inl ?_, fun h => hnoted.2.2.2 ?_, ?_, ?_⟩ <;> simp_all
  · refine ⟨.inr ⟨.inr ?_, hcstate.trans (tcp.Socket.close_state_congr (hpstate.trans hstate))⟩,
      fun h => hnoted.2.2.2 ?_, ?_, ?_⟩ <;> simp_all
  · refine ⟨.inr ⟨.inl hgone, ?_⟩, fun h => hnoted.2.2.2 ?_, ?_, ?_⟩ <;> simp_all
  · -- closed already, so that it cannot be closed a second time
    cases (tcp.Socket.close_may_send (hpstate.trans hstate)).symm.trans hmay

/-- The connection has been established and is over, or the workload has half-closed it. -/
def finished (self : Flow) : Bool :=
  self.saw_established && [tcp.State.Closed, .Listen, .SynSent, .TimeWait, .CloseWait].contains self.socket.state

theorem finished_of_torn_down (h : self.transfer.torn_down = true) : self.finished = true := by
  obtain ⟨hstate, hsaw, -⟩ := @transfer_control self
  simp only [torn_down, Bool.and_eq_true, Bool.or_eq_true, decide_eq_true_eq] at h
  rcases hstate with hsame | ⟨-, hclose⟩
  · rw [hsame] at h
    have hseen : self.saw_established = true := (hsaw h.1).resolve_right fun heq => by simp [heq] at h
    rcases h.2 with (heq | heq) | heq <;> simp [finished, hseen, heq]
  · rw [hclose] at h
    have hseen : self.saw_established = true :=
      (hsaw h.1).resolve_right fun heq => by simp [tcp.Socket.close, heq] at h
    cases heq : self.socket.state <;> simp [tcp.Socket.close, heq] at h <;> simp [finished, hseen, heq]

theorem Conserved.service (h : self.Conserved) (hroom : self.HasRoom) : self.service.Conserved := by
  obtain ⟨hdown, hholders⟩ := @service_downlink self
  obtain ⟨hdelivered, hread⟩ := @service_history self
  simp only [downlink_state, Prod.mk.injEq] at hdown
  simp only [holders, Prod.mk.injEq] at hholders
  obtain ⟨haccepted, hacknowledged, houtgoing⟩ := hdown
  obtain ⟨hlive, hended, hsender, hreceiver⟩ := hholders
  refine ⟨h.kept.service hroom, ?_, ?_, ?_, fun hgone => ?_, fun hend => ?_⟩
  · rw [haccepted, hacknowledged, houtgoing]
    exact h.sent
  · rw [hsender, hlive]
    exact h.sender
  · rw [hreceiver, hlive]
    exact h.receiver
  · obtain ⟨hbuffer, hnone⟩ := h.settled (hlive ▸ hgone)
    exact ⟨service_rx_buffer_nil (by simp [hbuffer]), houtgoing.trans hnone⟩
  · rw [hlive, hread, hdelivered]
    exact h.ended (hended ▸ hend)

theorem Conserved.react (h : self.Conserved) (hlive : self.live = true) (hreact : self.react reaction = some next) :
    next.Conserved := by
  have hkept := h.kept.react hreact
  obtain ⟨socket, hsocket, rfl⟩ := Option.map_eq_some_iff.mp hreact
  obtain ⟨-, -, -, -, -, -, hbuffer⟩ := tcp.Socket.react_eq_some hsocket
  refine ⟨hkept, ?_, h.sender, h.receiver, fun hgone => ?_, fun hend => ?_⟩
  · simp only [outgoing, hbuffer]
    rw [h.sent, outgoing]
    nth_rewrite 1 [← List.take_append_drop reaction.acknowledge self.socket.tx_buffer]
    simp only [List.append_assoc]
  · rw [hlive] at hgone
    cases hgone
  · rw [(h.ended hend).1] at hlive
    cases hlive

theorem Conserved.process {segment : Segment} (h : self.Conserved) (hlive : self.live = true)
    (hprocess : self.process segment reaction = some next) : next.Conserved := by
  have hkept := h.kept.process hprocess
  unfold Flow.process at hprocess
  split at hprocess
  · cases hprocess
    split
    · exact ⟨h.kept.congr rfl, h.sent, h.sender, h.receiver, h.settled, h.ended⟩
    · exact h
  · split at hprocess
    · cases hprocess
      exact ⟨hkept, h.sent, h.sender, h.receiver, h.settled, h.ended⟩
    · exact h.react hlive hprocess

theorem poll_read_holders {size : Nat} (h : self.poll_read size = some next) :
    next.downlink_state = self.downlink_state ∧ next.live = self.live ∧
      next.to_forwarder.sender = self.to_forwarder.sender ∧ next.from_forwarder = self.from_forwarder ∧
      self.read <+: next.read ∧
      (next.ended = self.ended ∨ next.to_forwarder.sender = false ∧ next.unread = []) := by
  unfold poll_read at h
  split at h
  · cases h
    exact ⟨rfl, rfl, rfl, rfl, List.prefix_append _ _, .inl rfl⟩
  · next hcarry =>
    split at h
    · cases h
      exact ⟨rfl, rfl, rfl, rfl, List.prefix_append _ _, .inl rfl⟩
    · next hqueue =>
      split at h
      · cases h
      · next hsender =>
        cases h
        refine ⟨rfl, rfl, rfl, rfl, List.prefix_rfl, .inr ⟨Bool.not_eq_true _ ▸ hsender, ?_⟩⟩
        simp only [unread, hcarry, hqueue]
        rfl

theorem Conserved.poll_read {size : Nat} (h : self.Conserved) (hreceiver : self.to_forwarder.receiver = true)
    (hread : self.poll_read size = some next) : next.Conserved := by
  have hkept := h.kept.poll_read hreceiver hread
  obtain ⟨hdelivered, hsocket, hopen, hmoved⟩ := poll_read_eq_some hread
  obtain ⟨hdown, hlive, hsender, hfrom, hgrows, hended⟩ := poll_read_holders hread
  simp only [downlink_state, Prod.mk.injEq] at hdown
  obtain ⟨haccepted, hacknowledged, houtgoing⟩ := hdown
  have hwhole := hkept.whole (hopen.trans hreceiver)
  refine ⟨hkept, ?_, by rw [hsender, hlive, h.sender], by rw [hfrom, hlive, h.receiver], fun hgone => ?_, fun hend =>
    ?_⟩
  · rw [haccepted, hacknowledged, houtgoing]
    exact h.sent
  · rw [hsocket, houtgoing]
    exact h.settled (hlive ▸ hgone)
  · have hgone : self.live = false := by
      obtain hsame | ⟨hnone, -⟩ := hended
      · exact (h.ended (hsame ▸ hend)).1
      · rw [← h.sender, ← hsender, hnone]
    have hempty : next.socket.rx_buffer = [] := hsocket ▸ (h.settled hgone).1
    have hunread : next.unread = [] := by
      obtain hsame | ⟨-, hnone⟩ := hended
      · -- All had been read, so that what is read now is nothing.
        have hall := (h.ended (hsame ▸ hend)).2
        rw [hdelivered, ← hall, hempty, List.append_nil] at hwhole
        obtain ⟨more, hmore⟩ := hgrows
        rw [← hmore, List.append_assoc] at hwhole
        exact (List.append_eq_nil_iff.mp (List.self_eq_append_right.mp hwhole)).2
      · exact hnone
    rw [hunread, hempty, List.append_nil, List.append_nil] at hwhole
    exact ⟨hlive.trans hgone, hwhole.symm⟩

theorem Conserved.poll_write (h : self.Conserved) (hwrite : self.poll_write data = some next) :
    next.Conserved := by
  obtain ⟨channel, hsend, rfl⟩ := poll_write_eq_some hwrite
  obtain ⟨hopen, -, hqueue, -, hsame⟩ := Channel.try_send_ok.mp hsend
  have hlive : self.live = true := h.receiver.symm.trans hopen
  refine ⟨h.kept.congr rfl, ?_, h.sender, hsame.trans h.receiver, fun hgone => ?_, h.ended⟩
  · simp only [outgoing, hqueue, List.flatten_append, List.flatten_singleton]
    rw [h.sent, outgoing]
    simp only [List.append_assoc]
  · rw [hlive] at hgone
    cases hgone

theorem Conserved.remove (h : self.Conserved) (hbuffer : self.socket.rx_buffer = []) (houtgoing : self.outgoing = []) :
    self.remove.Conserved where
  kept := ⟨h.kept.whole, h.kept.in_order⟩
  sent := h.sent
  sender := rfl
  receiver := rfl
  settled := fun _ => ⟨hbuffer, houtgoing⟩
  ended := fun hend => ⟨rfl, (h.ended hend).2⟩

theorem Conserved.drop_stream (h : self.Conserved) : self.drop_stream.Conserved where
  kept := h.kept.drop_stream
  sent := h.sent
  sender := h.sender
  receiver := h.receiver
  settled := h.settled
  ended := h.ended

end Flow

namespace Stack

variable {s s' : Stack}

/-- A pass finds a channel with room for what it takes out of a receive buffer, and where the connection is over or
half-closed, no more than it can take there and nothing left of what the forwarder has handed in. Between that pass and
the removal of the flow nothing more is handed in. -/
def Settled (s : Stack) : Event → Prop
  | .service => ∀ n ∈ s.todo.head?, ∀ flow ∈ s.flows[n]?, flow.HasRoom ∧
      (flow.finished = true → flow.socket.rx_buffer.length ≤ CHUNK_BYTES ∧ flow.outgoing = [])
  | .write n data => n ∈ s.closed → data = []
  | _ => True

instance (s : Stack) (event : Event) : Decidable (s.Settled event) :=
  match event with
  | .service => inferInstanceAs (Decidable (∀ n ∈ s.todo.head?, ∀ flow ∈ s.flows[n]?, flow.HasRoom ∧
      (flow.finished = true → flow.socket.rx_buffer.length ≤ CHUNK_BYTES ∧ flow.outgoing = [])))
  | .write n data => inferInstanceAs (Decidable (n ∈ s.closed → data = []))
  | .inbound _ | .push_inbound | .receive _ | .timer _ _ | .begin | .remove | .read _ _ | .shutdown _ | .drop _ =>
    .isTrue trivial

theorem live_of_accepts {flow : Flow} {segment : Segment} (h : flow.accepts segment = true) : flow.live = true :=
  (Bool.and_eq_true_iff.mp h).1

/-- The flows that are to be removed after an event. -/
def closes (s : Stack) : Event → List Nat
  | .service => s.closed ++ (s.todo.take 1).filter fun n => s.flows[n]?.any fun flow => flow.transfer.torn_down
  | .remove => s.closed.tail
  | _ => s.closed

theorem step_closed {event : Event} (h : s.step event = some s') : s'.closed = s.closes event := by
  have hon {s : Stack} {n : Nat} {operation : Flow → Option Flow} (h : s.on n operation = some s') :
      s'.closed = s.closed := by
    obtain ⟨flow, next, -, -, rfl⟩ := on_eq_some h
    rfl
  cases event with
  | inbound packet =>
    simp only [step] at h
    split at h
    · cases h
      unfold handle_inbound allocate_flow
      repeat' split
      all_goals rfl
    · cases h
  | push_inbound =>
    simp only [step] at h
    split at h
    · split at h <;> cases h
      rfl
    · cases h
  | receive reaction =>
    simp only [step, receive] at h
    repeat' split at h
    all_goals first | exact (hon h).trans rfl | (cases h; rfl) | cases h
  | timer n reaction =>
    simp only [step] at h
    split at h
    · exact hon h
    · cases h
  | begin =>
    simp only [step] at h
    split at h <;> cases h
    rfl
  | service =>
    simp only [step] at h
    split at h
    · next n todo htodo =>
      obtain ⟨flow, hflow, rfl⟩ := Option.map_eq_some_iff.mp h
      cases htorn : flow.transfer.torn_down <;> simp [closes, htodo, hflow, htorn]
    · cases h
  | remove =>
    simp only [step] at h
    split at h
    · next n closed _ hclosed =>
      rw [hon h, closes, hclosed, List.tail_cons]
    · cases h
  | read | write | shutdown | drop => exact hon h

theorem forall_getElem?_set {P : Nat → Flow → Prop} {flows : List Flow} {m : Nat} {next : Flow}
    (hall : ∀ n flow, m ≠ n → flows[n]? = some flow → P n flow) (hnext : P m next) (n : Nat) (flow : Flow)
    (h : (flows.set m next)[n]? = some flow) : P n flow := by
  by_cases hnm : m = n
  · subst hnm
    rw [List.getElem?_set_self'] at h
    obtain ⟨_, -, rfl⟩ := Option.map_eq_some_iff.mp h
    exact hnext
  · rw [List.getElem?_set_ne hnm] at h
    exact hall n flow hnm h

theorem locked_of_closed {event : Event} {n : Nat} (h : s.step event = some s') (hclosed : n ∈ s.closed) :
    (∀ reaction, event ≠ .receive reaction) ∧ ∀ n reaction, event ≠ .timer n reaction := by
  have hlocked : ¬s.unlocked := fun hunlocked => List.ne_nil_of_mem hclosed hunlocked.2
  constructor
  · rintro reaction rfl
    simp [step, hlocked] at h
  · rintro n reaction rfl
    simp [step, hlocked] at h

/-- Nothing is lost of any flow, and what is to be removed is empty. -/
structure Conserving (s : Stack) : Prop where
  conserved : ∀ flow ∈ s.flows, flow.Conserved
  emptied : ∀ n flow, s.flows[n]? = some flow → n ∈ s.closed → flow.socket.rx_buffer = [] ∧ flow.outgoing = []

theorem conserved_step {event : Event} (h : s.Conserving) (hsettled : s.Settled event)
    (hstep : s.step event = some s') : ∀ flow ∈ s'.flows, flow.Conserved := by
  have hof : ∀ {n : Nat} {flow : Flow}, s.flows[n]? = some flow → flow.Conserved :=
    fun hflow => h.conserved _ (List.mem_of_getElem? hflow)
  have hchanges := step_changes hstep
  generalize s'.flows = flows at hchanges ⊢
  cases hchanges with
  | same => exact h.conserved
  | allocate hsyn hnew =>
    intro flow hmem
    obtain hmem | hmem := List.mem_append.mp hmem
    · exact h.conserved flow hmem
    · cases List.mem_singleton.mp hmem
      exact Flow.conserved_new _ _ _
  | process _ _ _ hflow haccepts hprocess =>
    exact forall_of_set h.conserved ((hof hflow).process (live_of_accepts haccepts) hprocess)
  | timer hflow hlive hreact => exact forall_of_set h.conserved ((hof hflow).react hlive hreact)
  | service htodo hflow =>
    exact forall_of_set h.conserved ((hof hflow).service (hsettled _ (by rw [htodo]; rfl) _ hflow).1)
  | remove hclosed hflow =>
    obtain ⟨hbuffer, houtgoing⟩ := h.emptied _ _ hflow (by rw [hclosed]; exact List.mem_cons_self)
    exact forall_of_set h.conserved ((hof hflow).remove hbuffer houtgoing)
  | read hflow hreceiver hread => exact forall_of_set h.conserved ((hof hflow).poll_read hreceiver hread)
  | write hflow hwrite => exact forall_of_set h.conserved ((hof hflow).poll_write hwrite)
  | drop hflow => exact forall_of_set h.conserved (hof hflow).drop_stream

theorem service_emptied {flow : Flow} (hbuffer : flow.socket.rx_buffer.length ≤ CHUNK_BYTES)
    (houtgoing : flow.outgoing = []) : flow.service.socket.rx_buffer = [] ∧ flow.service.outgoing = [] := by
  have hdown := (@Flow.service_downlink flow).1
  simp only [Flow.downlink_state, Prod.mk.injEq] at hdown
  exact ⟨Flow.service_rx_buffer_nil hbuffer, hdown.2.2.trans houtgoing⟩

theorem emptied_step {event : Event} (h : s.Conserving) (hsettled : s.Settled event)
    (hstep : s.step event = some s') (n : Nat) (flow : Flow) (hflow : s'.flows[n]? = some flow) (hn : n ∈ s'.closed) :
    flow.socket.rx_buffer = [] ∧ flow.outgoing = [] := by
  have hold : n ∈ s.closed → flow.socket.rx_buffer = [] ∧ flow.outgoing = [] := by
    have hlocked := @locked_of_closed _ _ _ n hstep
    have hchanges := step_changes hstep
    clear hn
    revert n flow
    generalize s'.flows = flows at hchanges ⊢
    cases hchanges with
    | same => exact fun n flow hflow _ => h.emptied n flow hflow
    | allocate =>
      intro n flow hflow _ hn
      rw [List.getElem?_append] at hflow
      split at hflow
      · exact h.emptied n flow hflow hn
      · cases List.mem_singleton.mp (List.mem_of_getElem? hflow)
        exact ⟨rfl, rfl⟩
    | process => exact fun _ _ _ hlocked hn => absurd rfl ((hlocked hn).1 _)
    | timer => exact fun _ _ _ hlocked hn => absurd rfl ((hlocked hn).2 _ _)
    | service _ hflow =>
      refine forall_getElem?_set (fun n flow _ hflow _ => h.emptied n flow hflow) fun _ hn => ?_
      obtain ⟨hbuffer, houtgoing⟩ := h.emptied _ _ hflow hn
      exact service_emptied (by simp [hbuffer]) houtgoing
    | remove _ hflow =>
      refine forall_getElem?_set (fun n flow _ hflow _ => h.emptied n flow hflow) fun _ hn => ?_
      have hempty := h.emptied _ _ hflow hn
      exact hempty
    | read hflow _ hread =>
      refine forall_getElem?_set (fun n flow _ hflow _ => h.emptied n flow hflow) fun _ hn => ?_
      have hdown := (Flow.poll_read_holders hread).1
      simp only [Flow.downlink_state, Prod.mk.injEq] at hdown
      rw [(Flow.poll_read_eq_some hread).2.1, hdown.2.2]
      exact h.emptied _ _ hflow hn
    | write hflow hwrite =>
      refine forall_getElem?_set (fun n flow _ hflow _ => h.emptied n flow hflow) fun _ hn => ?_
      obtain ⟨channel, hsend, rfl⟩ := Flow.poll_write_eq_some hwrite
      obtain ⟨-, -, hqueue, -⟩ := Channel.try_send_ok.mp hsend
      obtain rfl := hsettled hn
      obtain ⟨hbuffer, houtgoing⟩ := h.emptied _ _ hflow hn
      refine ⟨hbuffer, ?_⟩
      simpa [Flow.outgoing, hqueue] using houtgoing
    | drop hflow =>
      refine forall_getElem?_set (fun n flow _ hflow _ => h.emptied n flow hflow) fun _ hn => ?_
      have hempty := h.emptied _ _ hflow hn
      exact hempty
  rw [step_closed hstep] at hn
  cases event with
  | service =>
    obtain hn | hn := List.mem_append.mp hn
    · exact hold hn
    -- torn down by this pass, which has emptied it
    obtain ⟨htodo, htorn⟩ := List.mem_filter.mp hn
    simp only [step] at hstep
    split at hstep
    · next m todo hm =>
      obtain ⟨before, hbefore, rfl⟩ := Option.map_eq_some_iff.mp hstep
      obtain rfl : n = m := by simpa [hm] using htodo
      rw [hbefore] at htorn
      obtain ⟨hbuffer, houtgoing⟩ := (hsettled n (by rw [hm]; rfl) before hbefore).2 (Flow.finished_of_torn_down htorn)
      cases (getElem?_set_of_some hbefore).symm.trans hflow
      exact service_emptied hbuffer houtgoing
    · cases hstep
  | remove => exact hold (List.mem_of_mem_tail hn)
  | inbound | push_inbound | receive | timer | begin | read | write | shutdown | drop => exact hold hn

/-- In every run in which a pass tears a flow down only when nothing is left of it in the stack but what it can take,
the end that the forwarder reads comes after all the workload's bytes, and all that it has handed in is on its way to
the workload in order, and acknowledged once the socket is gone. -/
theorem closing_loses_nothing {events : List Event} (hmeets : Meets Stack.step Settled new events)
    (hexec : exec Stack.step new events = some s) {n : Nat} {flow : Flow} (hflow : s.flows[n]? = some flow) :
    (flow.ended = true → flow.read = flow.delivered) ∧ flow.accepted = flow.acknowledged ++ flow.outgoing ∧
      (flow.live = false → flow.acknowledged = flow.accepted) := by
  have hall : s.Conserving := exec_preserves
    (fun _ _ _ h hsettled hstep => ⟨conserved_step h hsettled hstep, emptied_step h hsettled hstep⟩)
    ⟨fun _ hmem => absurd hmem List.not_mem_nil, fun _ _ _ hmem => absurd hmem List.not_mem_nil⟩ hmeets hexec
  have hconserved := hall.conserved flow (List.mem_of_getElem? hflow)
  refine ⟨fun hend => (hconserved.ended hend).2, hconserved.sent, fun hgone => ?_⟩
  rw [hconserved.sent, (hconserved.settled hgone).2, List.append_nil]

def sample_receive (reaction : tcp.Reaction) : List Event :=
  [.inbound ⟨true, some sample_segment⟩, .push_inbound, .receive reaction]

def sample_exchange : List Event :=
  sample_opening ++ sample_byte 7 ++ [.write 0 [9], .begin, .service] ++ sample_receive ⟨.Established, [], 1⟩ ++
    sample_receive ⟨.CloseWait, [], 0⟩ ++ [.begin, .service, .remove, .read 0 10, .read 0 10]

def left (events : List Event) (n : Nat) : Option (Bool × Bool × List UInt8 × List UInt8) :=
  (exec Stack.step new events).bind fun s =>
    s.flows[n]?.map fun flow => (flow.ended, flow.live, flow.accepted, flow.acknowledged)

theorem left_eq_some {events : List Event} {n : Nat} {ended live : Bool} {accepted acknowledged : List UInt8}
    (h : left events n = some (ended, live, accepted, acknowledged)) : ∃ s flow,
      exec Stack.step new events = some s ∧ s.flows[n]? = some flow ∧ flow.ended = ended ∧ flow.live = live ∧
      flow.accepted = accepted ∧ flow.acknowledged = acknowledged := by
  obtain ⟨s, hexec, hflow⟩ := Option.bind_eq_some_iff.mp h
  obtain ⟨flow, hget, hleft⟩ := Option.map_eq_some_iff.mp hflow
  cases hleft
  exact ⟨s, flow, hexec, hget, rfl, rfl, rfl, rfl⟩

/-- A byte each way, and the workload closes. -/
theorem closing_loses_nothing_exchange : ∃ s flow, exec Stack.step new sample_exchange = some s ∧
    s.flows[0]? = some flow ∧ flow.ended = true ∧ flow.live = false ∧ flow.accepted = [9] ∧
      flow.read = flow.delivered ∧ flow.acknowledged = flow.accepted := by
  have hmeets : Meets Stack.step Settled new sample_exchange := by decide +kernel
  have hleft : left sample_exchange 0 = some (true, false, [9], [9]) := by decide +kernel
  obtain ⟨s, flow, hexec, hflow, hend, hgone, haccepted, -⟩ := left_eq_some hleft
  obtain ⟨hread, -, hacknowledged⟩ := closing_loses_nothing hmeets hexec hflow
  exact ⟨s, flow, hexec, hflow, hend, hgone, haccepted, hread hend, hacknowledged hgone⟩

/-- The workload half-closes while the forwarder's answer is in the channel: the pass hands it to the socket, and
removes the socket with it. -/
theorem answer_lost_at_half_close : ∃ s flow,
    exec Stack.step new (sample_opening ++ [.begin, .service, .write 0 [9]] ++ sample_receive ⟨.CloseWait, [], 0⟩ ++
      [.begin, .service, .remove]) = some s ∧ s.flows[0]? = some flow ∧ flow.live = false ∧ flow.accepted = [9] ∧
      flow.acknowledged = [] := by
  have hleft : left (sample_opening ++ [.begin, .service, .write 0 [9]] ++ sample_receive ⟨.CloseWait, [], 0⟩ ++
      [.begin, .service, .remove]) 0 = some (false, false, [9], []) := by decide +kernel
  obtain ⟨s, flow, hexec, hflow, -, hgone, haccepted, hacknowledged⟩ := left_eq_some hleft
  exact ⟨s, flow, hexec, hflow, hgone, haccepted, hacknowledged⟩

end Stack

end enclavia.egress
