import Enclavia.Egress.Stack

open machine

namespace enclavia.egress

variable {size : Nat} {reaction : tcp.Reaction} {segment : Segment}

namespace Flow

def carried : Option (List UInt8 × Nat) → List UInt8
  | some (bytes, offset) => bytes.drop offset
  | none => []

def unread (self : Flow) : List UInt8 := carried self.read_carry ++ self.to_forwarder.queue.flatten

def uplink_state (self : Flow) :=
  (self.delivered, self.read, self.read_carry, self.to_forwarder, self.socket.rx_buffer)

/-- Nothing of what came from the workload is lost: while the forwarder holds its end, every byte has been read, can be
read or is in the receive buffer, in this order. -/
structure Kept (flow : Flow) : Prop where
  whole : flow.to_forwarder.receiver = true → flow.delivered = flow.read ++ flow.unread ++ flow.socket.rx_buffer
  in_order : flow.read <+: flow.delivered

def HasRoom (self : Flow) : Prop :=
  self.socket.can_recv = true → self.to_forwarder.receiver = true → self.to_forwarder.room = true

instance (self : Flow) : Decidable self.HasRoom := inferInstanceAs (Decidable (_ → _ → _))

variable {self next : Flow}

theorem Kept.congr (h : self.Kept) (hsame : next.uplink_state = self.uplink_state) : next.Kept := by
  simp only [uplink_state, Prod.mk.injEq] at hsame
  obtain ⟨hdelivered, hread, hcarry, hchannel, hbuffer⟩ := hsame
  refine ⟨fun hreceiver => ?_, ?_⟩
  · rw [hdelivered, hread, unread, hcarry, hchannel, hbuffer]
    exact h.whole (hchannel ▸ hreceiver)
  · rw [hdelivered, hread]
    exact h.in_order

theorem kept_new (handle : Nat) (src dst : SocketAddrV4) : (new handle src dst).Kept := ⟨fun _ => rfl, List.prefix_rfl⟩

theorem kept_of_whole (h : self.delivered = self.read ++ self.unread ++ self.socket.rx_buffer) : self.Kept := by
  refine ⟨fun _ => h, ?_⟩
  rw [h, List.append_assoc]
  exact List.prefix_append _ _

theorem carried_rest (bytes : List UInt8) (offset : Nat) :
    carried (if offset < bytes.length then some (bytes, offset) else none) = bytes.drop offset := by
  split
  · rfl
  · next h => exact (List.drop_eq_nil_of_le (Nat.le_of_not_lt h)).symm

theorem poll_read_eq_some (h : self.poll_read size = some next) :
    next.delivered = self.delivered ∧ next.socket = self.socket ∧
      next.to_forwarder.receiver = self.to_forwarder.receiver ∧
      next.read ++ next.unread = self.read ++ self.unread := by
  unfold poll_read at h
  split at h
  · next bytes offset hcarry =>
    cases h
    refine ⟨rfl, rfl, rfl, ?_⟩
    simp only [unread, hcarry, carried_rest]
    rw [← List.drop_drop, ← List.append_assoc, List.append_assoc self.read, List.take_append_drop, List.append_assoc]
    rfl
  · next hcarry =>
    split at h
    · next bytes rest hqueue =>
      cases h
      refine ⟨rfl, rfl, rfl, ?_⟩
      simp only [unread, hcarry, hqueue, carried_rest, Channel.skip, List.drop_one, List.tail_cons, List.flatten_cons]
      rw [← List.append_assoc, List.append_assoc self.read, List.take_append_drop, List.append_assoc]
      rfl
    · split at h
      · cases h
      · cases h
        exact ⟨rfl, rfl, rfl, rfl⟩

theorem Kept.poll_read (hkept : self.Kept) (hreceiver : self.to_forwarder.receiver = true)
    (h : self.poll_read size = some next) : next.Kept := by
  obtain ⟨hdelivered, hsocket, -, hread⟩ := poll_read_eq_some h
  refine kept_of_whole ?_
  rw [hdelivered, hread, hsocket]
  exact hkept.whole hreceiver

theorem poll_write_eq_some {data : List UInt8} (h : self.poll_write data = some next) :
    ∃ channel, self.from_forwarder.try_send data = .ok channel ∧
      next = { self with from_forwarder := channel, accepted := self.accepted ++ data } := by
  unfold poll_write at h
  cases hsend : self.from_forwarder.try_send data with
  | ok channel =>
    rw [hsend] at h
    exact ⟨channel, rfl, (Option.some.inj h).symm⟩
  | error error =>
    rw [hsend] at h
    cases h

theorem Kept.drop_stream (hkept : self.Kept) : self.drop_stream.Kept := ⟨nofun, hkept.in_order⟩

theorem Kept.react (hkept : self.Kept) (h : self.react reaction = some next) :
    next.Kept := by
  obtain ⟨socket, hsocket, rfl⟩ := Option.map_eq_some_iff.mp h
  obtain ⟨-, -, -, -, -, hbuffer, -⟩ := tcp.Socket.react_eq_some hsocket
  refine ⟨fun hreceiver => ?_, hkept.in_order.trans (List.prefix_append _ _)⟩
  change self.delivered ++ reaction.deliver = self.read ++ self.unread ++ socket.rx_buffer
  rw [hbuffer, hkept.whole hreceiver, List.append_assoc]

theorem Kept.process (hkept : self.Kept) (h : self.process segment reaction = some next) :
    next.Kept := by
  unfold Flow.process at h
  split at h
  · cases h
    split
    · exact hkept.congr rfl
    · exact hkept
  · split at h
    · cases h
      exact hkept.congr rfl
    · exact hkept.react h

theorem note_established_uplink_state : self.note_established.uplink_state = self.uplink_state := by
  unfold note_established
  split <;> rfl

theorem Kept.uplink (hkept : self.Kept) (hroom : self.HasRoom) : self.uplink.Kept := by
  unfold Flow.uplink
  split
  · next hrecv =>
    simp only
    cases hsend : self.to_forwarder.try_send (self.socket.recv_slice CHUNK_BYTES).1 with
    | ok channel =>
      obtain ⟨hreceiver, -, hqueue, -, -⟩ := Channel.try_send_ok.mp hsend
      refine kept_of_whole ?_
      change self.delivered = self.read ++ (carried self.read_carry ++ channel.queue.flatten) ++
        self.socket.rx_buffer.drop CHUNK_BYTES
      rw [hqueue, hkept.whole hreceiver, unread]
      change _ = _ ++ (_ ++ (self.to_forwarder.queue ++ [self.socket.rx_buffer.take CHUNK_BYTES]).flatten) ++ _
      rw [List.flatten_append, List.flatten_singleton]
      simp only [List.append_assoc, List.take_append_drop]
    | error error =>
      cases error with
      | Full =>
        obtain ⟨hreceiver, hfull⟩ := Channel.try_send_full.mp hsend
        rw [hroom hrecv hreceiver] at hfull
        cases hfull
      | Closed =>
        refine ⟨fun hreceiver => ?_, hkept.in_order⟩
        -- The forwarder has dropped its end, and what is taken out is for nobody.
        have hopen : self.to_forwarder.receiver = true := hreceiver
        unfold Channel.try_send at hsend
        rw [hopen] at hsend
        split at hsend
        · cases ‹true = false›
        · split at hsend <;> cases hsend
  · exact hkept

theorem send_uplink_state (data : List UInt8) : (self.send data).uplink_state = self.uplink_state := by
  unfold send
  split
  · next size socket hsend =>
    obtain ⟨-, rfl⟩ := tcp.Socket.send_slice_eq_some hsend
    rfl
  · rfl

theorem push_pending_uplink_state : self.push_pending.uplink_state = self.uplink_state := by
  unfold push_pending
  split
  · split
    · exact send_uplink_state _
    · rfl
  · rfl

theorem pull_eq_some (h : self.pull = some next) : ∃ data rest, self.from_forwarder.queue = data :: rest ∧
    self.pending_send = none ∧ next = { self with from_forwarder := self.from_forwarder.skip 1 }.send data := by
  unfold pull at h
  split at h
  · next hopen =>
    split at h
    · next data rest hqueue =>
        exact ⟨data, rest, hqueue, Option.isNone_iff_eq_none.mp hopen.1, (Option.some.inj h).symm⟩
    · cases h
  · cases h

theorem pull_all_uplink_state (rounds : Nat) : (pull_all rounds self).uplink_state = self.uplink_state := by
  induction rounds generalizing self with
  | zero => rfl
  | succ rounds ih =>
    unfold pull_all
    split
    · next hpull =>
      obtain ⟨data, -, -, -, rfl⟩ := pull_eq_some hpull
      exact ih.trans (send_uplink_state _)
    · rfl

theorem close_disconnected_uplink_state : self.close_disconnected.uplink_state = self.uplink_state := by
  unfold close_disconnected
  split
  · simp only [uplink_state, tcp.Socket.close_rx_buffer]
  · rfl

theorem service_uplink_state : self.service.uplink_state = self.note_established.uplink.uplink_state := by
  have htransfer : self.transfer.uplink_state = self.note_established.uplink.uplink_state :=
    close_disconnected_uplink_state.trans ((pull_all_uplink_state _).trans push_pending_uplink_state)
  unfold service
  split
  · rw [← htransfer]
    simp only [uplink_state, tcp.Socket.close_rx_buffer]
  · exact htransfer

theorem HasRoom.note_established (h : self.HasRoom) : self.note_established.HasRoom := by
  unfold Flow.note_established
  split <;> exact h

theorem Kept.service (hkept : self.Kept) (hroom : self.HasRoom) : self.service.Kept :=
  ((hkept.congr note_established_uplink_state).uplink hroom.note_established).congr service_uplink_state

end Flow

namespace Stack

variable {s s' : Stack} {n : Nat} {flow : Flow} {next : Flow} {events : List Event} {event : Event}

theorem on_eq_some {operation : Flow → Option Flow} (h : s.on n operation = some s') :
    ∃ flow next, s.flows[n]? = some flow ∧ operation flow = some next ∧
      s' = { s with flows := s.flows.set n next } := by
  obtain ⟨flow, hflow, hnext⟩ := Option.bind_eq_some_iff.mp h
  obtain ⟨next, hoperation, rfl⟩ := Option.map_eq_some_iff.mp hnext
  exact ⟨flow, next, hflow, hoperation, rfl⟩

inductive Changes (s : Stack) : Event → List Flow → Prop
  | same {event : Event} : Changes s event s.flows
  | allocate {packet : Packet} {handle : Nat} {src dst : SocketAddrV4}
      (hsyn : parse_new_tcp_syn packet = some (dst, src)) (hnew : s.flow_already_exists dst src = false) :
      Changes s (.inbound packet) (s.flows ++ [.new handle src dst])
  | process {reaction : tcp.Reaction} {packet : Packet} {inbound : List Packet} {segment : Segment} {n : Nat}
      {flow next : Flow} (hinbound : s.inbound = packet :: inbound) (hsegment : packet.tcp = some segment)
      (hchecksum : segment.checksum = true) (hflow : s.flows[n]? = some flow) (haccepts : flow.accepts segment = true)
      (hprocess : flow.process segment reaction = some next) : Changes s (.receive reaction) (s.flows.set n next)
  | timer {reaction : tcp.Reaction} {n : Nat} {flow next : Flow} (hflow : s.flows[n]? = some flow)
      (hlive : flow.live = true) (hreact : flow.react reaction = some next) :
      Changes s (.timer n reaction) (s.flows.set n next)
  | service {n : Nat} {todo : List Nat} {flow : Flow} (htodo : s.todo = n :: todo) (hflow : s.flows[n]? = some flow) :
      Changes s .service (s.flows.set n flow.service)
  | remove {n : Nat} {closed : List Nat} {flow : Flow} (hclosed : s.closed = n :: closed)
      (hflow : s.flows[n]? = some flow) : Changes s .remove (s.flows.set n flow.remove)
  | read {n size : Nat} {flow next : Flow} (hflow : s.flows[n]? = some flow)
      (hreceiver : flow.to_forwarder.receiver = true) (hread : flow.poll_read size = some next) :
      Changes s (.read n size) (s.flows.set n next)
  | write {n : Nat} {data : List UInt8} {flow next : Flow} (hflow : s.flows[n]? = some flow)
      (hwrite : flow.poll_write data = some next) : Changes s (.write n data) (s.flows.set n next)
  | drop {n : Nat} {flow : Flow} (hflow : s.flows[n]? = some flow) :
      Changes s (.drop n) (s.flows.set n flow.drop_stream)

theorem accepts_of_target (h : s.target segment = some n) (hflow : s.flows[n]? = some flow) :
    flow.accepts segment = true := by
  have hmem := (List.mem_filter.mp (List.argmin_mem h)).2
  rw [hflow] at hmem
  exact hmem

theorem step_changes (h : s.step event = some s') : Changes s event s'.flows := by
  cases event with
  | inbound packet =>
    simp only [step] at h
    split at h
    · cases h
      unfold handle_inbound
      split
      · split
        · next dst src hsyn =>
          split
          · exact .same
          · next hnew =>
            unfold allocate_flow
            split
            · exact .same
            · exact .allocate hsyn (Bool.not_eq_true _ ▸ hnew)
        · exact .same
      · exact .same
    · cases h
  | push_inbound =>
    simp only [step] at h
    split at h
    · split at h <;> cases h
      exact .same
    · cases h
  | receive reaction =>
    simp only [step] at h
    split at h
    · unfold receive at h
      split at h
      · cases h
      · next packet inbound hinbound =>
        split at h
        · cases h
          exact .same
        · next segment hsegment =>
          split at h
          · next hchecksum =>
            split at h
            · cases h
              exact .same
            · next n htarget =>
              obtain ⟨flow, next, hflow, hprocess, rfl⟩ := on_eq_some h
              exact .process hinbound hsegment hchecksum hflow (accepts_of_target htarget hflow) hprocess
          · cases h
            exact .same
    · cases h
  | timer n reaction =>
    simp only [step] at h
    split at h
    · obtain ⟨flow, next, hflow, hreact, rfl⟩ := on_eq_some h
      split at hreact
      · exact .timer hflow ‹_› hreact
      · cases hreact
    · cases h
  | begin =>
    simp only [step] at h
    split at h <;> cases h
    exact .same
  | service =>
    simp only [step] at h
    split at h
    · next n todo htodo =>
      obtain ⟨flow, hflow, rfl⟩ := Option.map_eq_some_iff.mp h
      exact .service htodo hflow
    · cases h
  | remove =>
    simp only [step] at h
    split at h
    · next n closed _ hclosed =>
      obtain ⟨flow, next, hflow, hremove, rfl⟩ := on_eq_some h
      cases hremove
      exact .remove hclosed hflow
    · cases h
  | read n size =>
    obtain ⟨flow, next, hflow, hread, rfl⟩ := on_eq_some h
    split at hread
    · exact .read hflow ‹_› hread
    · cases hread
  | write n data =>
    obtain ⟨flow, next, hflow, hwrite, rfl⟩ := on_eq_some h
    split at hwrite
    · exact .write hflow hwrite
    · cases hwrite
  | shutdown n =>
    simp only [step] at h
    obtain ⟨flow, next, hflow, hshutdown, rfl⟩ := on_eq_some h
    obtain ⟨-, hnext⟩ := Option.ite_none_right_eq_some.mp hshutdown
    cases hnext
    obtain ⟨hn, rfl⟩ := List.getElem?_eq_some_iff.mp hflow
    rw [Flow.poll_shutdown, List.set_getElem_self]
    exact .same
  | drop n =>
    obtain ⟨flow, next, hflow, hdrop, rfl⟩ := on_eq_some h
    cases hdrop
    exact .drop hflow

theorem forall_of_set {P : Flow → Prop} {flows : List Flow} (hall : ∀ flow ∈ flows, P flow) (hnext : P next) :
    ∀ flow ∈ flows.set n next, P flow := by
  intro flow hmem
  obtain hmem | rfl := List.mem_or_eq_of_mem_set hmem
  · exact hall flow hmem
  · exact hnext

/-- A pass that comes to a flow finds its channel with room, unless it has nothing for it. -/
def Drained (s : Stack) : Event → Prop
  | .service => ∀ n ∈ s.todo.head?, ∀ flow ∈ s.flows[n]?, flow.HasRoom
  | _ => True

theorem kept_step (hkept : ∀ flow ∈ s.flows, flow.Kept) (hdrained : s.Drained event) (hstep : s.step event = some s') :
    ∀ flow ∈ s'.flows, flow.Kept := by
  have hof : ∀ {n : Nat} {flow : Flow}, s.flows[n]? = some flow → flow.Kept :=
    fun hflow => hkept _ (List.mem_of_getElem? hflow)
  have hchanges := step_changes hstep
  generalize s'.flows = flows at hchanges ⊢
  cases hchanges with
  | same => exact hkept
  | allocate hsyn hnew =>
    intro flow hmem
    obtain hmem | hmem := List.mem_append.mp hmem
    · exact hkept flow hmem
    · cases List.mem_singleton.mp hmem
      exact Flow.kept_new _ _ _
  | process _ _ _ hflow _ hprocess => exact forall_of_set hkept ((hof hflow).process hprocess)
  | timer hflow _ hreact => exact forall_of_set hkept ((hof hflow).react hreact)
  | service htodo hflow =>
    have hroom := hdrained _ (by rw [htodo]; rfl) _ hflow
    exact forall_of_set hkept ((hof hflow).service hroom)
  | remove hclosed hflow =>
    exact forall_of_set hkept ⟨(hof hflow).whole, (hof hflow).in_order⟩
  | read hflow hreceiver hread => exact forall_of_set hkept ((hof hflow).poll_read hreceiver hread)
  | write hflow hwrite =>
    obtain ⟨channel, -, rfl⟩ := Flow.poll_write_eq_some hwrite
    exact forall_of_set hkept ((hof hflow).congr rfl)
  | drop hflow => exact forall_of_set hkept (hof hflow).drop_stream

theorem step_read (hflow : s.flows[n]? = some flow) (hreceiver : flow.to_forwarder.receiver = true)
    (hread : flow.poll_read size = some next) :
    s.step (.read n size) = some { s with flows := s.flows.set n next } := by
  simp only [step, on, hflow, Option.bind_some, hreceiver, if_true, hread, Option.map_some]

theorem getElem?_set_of_some (hflow : s.flows[n]? = some flow) :
    (s.flows.set n next)[n]? = some next :=
  List.getElem?_set_self (List.getElem?_eq_some_iff.mp hflow).1

theorem exists_reads (hflow : s.flows[n]? = some flow) (hreceiver : flow.to_forwarder.receiver = true) :
    ∃ (sizes : List Nat) (s' : Stack) (flow' : Flow),
      exec Stack.step s (sizes.map (Event.read n)) = some s' ∧ s'.flows[n]? = some flow' ∧
        flow'.read = flow.read ++ flow.unread ∧ flow'.delivered = flow.delivered ∧ flow'.socket = flow.socket := by
  -- What is carried over is read first, and then the channel is read chunk by chunk.
  have hqueue : ∀ (k : Nat) (s : Stack) (flow : Flow), s.flows[n]? = some flow →
      flow.to_forwarder.receiver = true → flow.read_carry = none → flow.to_forwarder.queue.length = k →
      ∃ (sizes : List Nat) (s' : Stack) (flow' : Flow), exec Stack.step s (sizes.map (Event.read n)) = some s' ∧
        s'.flows[n]? = some flow' ∧
        flow'.read = flow.read ++ flow.unread ∧ flow'.delivered = flow.delivered ∧ flow'.socket = flow.socket := by
    intro k
    induction k with
    | zero =>
      intro s flow hflow _ hcarry hlength
      refine ⟨[], s, flow, rfl, hflow, ?_, rfl, rfl⟩
      rw [Flow.unread, hcarry, List.length_eq_zero_iff.mp hlength]
      exact (List.append_nil _).symm
    | succ k ih =>
      intro s flow hflow hreceiver hcarry hlength
      obtain ⟨bytes, rest, hchunks⟩ := List.exists_cons_of_length_eq_add_one hlength
      let next : Flow := { flow with to_forwarder := flow.to_forwarder.skip 1, read := flow.read ++ bytes }
      have hread : flow.poll_read bytes.length = some next := by
        simp only [next, Flow.poll_read, hcarry, hchunks, Nat.min_self, List.take_length, Nat.lt_irrefl, if_false]
      obtain ⟨sizes, s', flow', hexec, hflow', hread', hdelivered, hsocket⟩ :=
        ih { s with flows := s.flows.set n next } next (getElem?_set_of_some hflow) hreceiver hcarry (by
          change (flow.to_forwarder.queue.drop 1).length = k
          rw [List.length_drop, hlength, Nat.add_sub_cancel])
      refine ⟨bytes.length :: sizes, s', flow', ?_, hflow', ?_, hdelivered, hsocket⟩
      · exact exec_cons.mpr ⟨_, step_read hflow hreceiver hread, hexec⟩
      · rw [hread']
        change flow.read ++ bytes ++ (Flow.carried flow.read_carry ++ (flow.to_forwarder.queue.drop 1).flatten) = _
        rw [Flow.unread, hcarry, hchunks, List.append_assoc]
        rfl
  cases hcarry : flow.read_carry with
  | none => exact hqueue _ s flow hflow hreceiver hcarry rfl
  | some carry =>
    obtain ⟨bytes, offset⟩ := carry
    let next : Flow := { flow with read := flow.read ++ bytes.drop offset, read_carry := none }
    have hread : flow.poll_read bytes.length = some next := by
      have hall : min bytes.length (bytes.length - offset) = bytes.length - offset := Nat.min_eq_right (Nat.sub_le _ _)
      have hdone : ¬offset + (bytes.length - offset) < bytes.length := by omega
      simp only [next, Flow.poll_read, hcarry, hall, hdone, if_false]
      rw [List.take_of_length_le (Nat.le_of_eq List.length_drop)]
    obtain ⟨sizes, s', flow', hexec, hflow', hread', hdelivered, hsocket⟩ :=
      hqueue _ { s with flows := s.flows.set n next } next (getElem?_set_of_some hflow) hreceiver rfl rfl
    refine ⟨bytes.length :: sizes, s', flow', ?_, hflow', ?_, hdelivered, hsocket⟩
    · exact exec_cons.mpr ⟨_, step_read hflow hreceiver hread, hexec⟩
    · rw [hread', Flow.unread, Flow.unread, hcarry]
      exact List.append_assoc _ _ _

theorem kept_of_exec (hmeets : Meets Stack.step Drained new events) (hexec : exec Stack.step new events = some s) :
    ∀ flow ∈ s.flows, flow.Kept :=
  exec_preserves (P := fun s => ∀ flow ∈ s.flows, flow.Kept) (fun _ _ _ hkept hdrained => kept_step hkept hdrained)
    (fun _ hmem => absurd hmem List.not_mem_nil) hmeets hexec

/-- In every run in which no pass comes to a flow with bytes in its receive buffer and a full channel, the forwarder
has read a prefix of what came from the workload, and while it holds its end, all that has left the receive buffer
is there to be read. -/
theorem forwarder_reads_gap_free {events : List Event} (hmeets : Meets Stack.step Drained new events)
    (hexec : exec Stack.step new events = some s) {n : Nat} {flow : Flow} (hflow : s.flows[n]? = some flow) :
    flow.read <+: flow.delivered ∧
      (flow.to_forwarder.receiver = true → ∃ (sizes : List Nat) (s' : Stack) (flow' : Flow),
        exec Stack.step s (sizes.map (Event.read n)) = some s' ∧ s'.flows[n]? = some flow' ∧
          flow'.delivered = flow.delivered ∧ flow'.socket.rx_buffer = flow.socket.rx_buffer ∧
          flow'.read ++ flow.socket.rx_buffer = flow.delivered) := by
  have hkept := kept_of_exec hmeets hexec flow (List.mem_of_getElem? hflow)
  refine ⟨hkept.in_order, fun hreceiver => ?_⟩
  obtain ⟨sizes, s', flow', hreads, hflow', hread, hdelivered, hsocket⟩ := exists_reads hflow hreceiver
  refine ⟨sizes, s', flow', hreads, hflow', hdelivered, by rw [hsocket], ?_⟩
  rw [hread, ← hkept.whole hreceiver]

def sample_syn : Segment where
  src := ⟨0x0a630002, 40000⟩
  dst := ⟨0x01010101, 443⟩
  syn := true
  ack := false
  rst := false
  checksum := true

def sample_segment : Segment := { sample_syn with syn := false, ack := true }

def sample_opening : List Event :=
  [.inbound ⟨true, some sample_syn⟩, .push_inbound, .receive ⟨.SynReceived, [], 0⟩,
    .inbound ⟨true, some sample_segment⟩, .push_inbound, .receive ⟨.Established, [], 0⟩]

def sample_byte (byte : UInt8) : List Event :=
  [.inbound ⟨true, some sample_segment⟩, .push_inbound, .receive ⟨.Established, [byte], 0⟩, .begin, .service]

instance (s : Stack) (event : Event) : Decidable (s.Drained event) :=
  match event with
  | .service => inferInstanceAs (Decidable (∀ n ∈ s.todo.head?, ∀ flow ∈ s.flows[n]?, flow.HasRoom))
  | .inbound _ | .push_inbound | .receive _ | .timer _ _ | .begin | .remove | .read _ _ | .write _ _ | .shutdown _
  | .drop _ => .isTrue trivial

def seen (events : List Event) (n : Nat) : Option (Bool × List UInt8 × List UInt8) :=
  (exec Stack.step new events).bind fun s =>
    s.flows[n]?.map fun flow => (flow.to_forwarder.receiver, flow.delivered, flow.read)

theorem seen_eq_some {receiver : Bool} {delivered read : List UInt8}
    (h : seen events n = some (receiver, delivered, read)) : ∃ s flow, exec Stack.step new events = some s ∧
      s.flows[n]? = some flow ∧ flow.to_forwarder.receiver = receiver ∧ flow.delivered = delivered ∧
      flow.read = read := by
  obtain ⟨s, hexec, hflow⟩ := Option.bind_eq_some_iff.mp h
  obtain ⟨flow, hget, hseen⟩ := Option.map_eq_some_iff.mp hflow
  cases hseen
  exact ⟨s, flow, hexec, hget, rfl, rfl, rfl⟩

/-- One byte goes up. -/
theorem forwarder_reads_gap_free_byte : ∃ s flow,
    exec Stack.step new (sample_opening ++ sample_byte 7 ++ [.read 0 10]) = some s ∧ s.flows[0]? = some flow ∧
      flow.read = [7] ∧ flow.read <+: flow.delivered := by
  have hmeets : Meets Stack.step Drained new (sample_opening ++ sample_byte 7 ++ [.read 0 10]) := by decide +kernel
  have hseen : seen (sample_opening ++ sample_byte 7 ++ [.read 0 10]) 0 = some (true, [7], [7]) := by decide +kernel
  obtain ⟨s, flow, hexec, hflow, -, -, hread⟩ := seen_eq_some hseen
  exact ⟨s, flow, hexec, hflow, hread, (forwarder_reads_gap_free hmeets hexec hflow).1⟩

/-- The forwarder stops reading while 65 bytes come, each for itself, and then reads on when one more comes: the 65th
is lost. -/
theorem byte_lost_to_full_channel : ∃ s flow,
    exec Stack.step new (sample_opening ++ (List.replicate 64 (sample_byte 1)).flatten ++ sample_byte 2 ++
      List.replicate 64 (.read 0 1) ++ sample_byte 3 ++ [.read 0 1]) = some s ∧ s.flows[0]? = some flow ∧
      flow.to_forwarder.receiver = true ∧ flow.delivered = List.replicate 64 1 ++ [2, 3] ∧
      flow.read = List.replicate 64 1 ++ [3] ∧ ¬flow.read <+: flow.delivered := by
  have hseen : seen (sample_opening ++ (List.replicate 64 (sample_byte 1)).flatten ++ sample_byte 2 ++
      List.replicate 64 (.read 0 1) ++ sample_byte 3 ++ [.read 0 1]) 0 =
        some (true, List.replicate 64 1 ++ [2, 3], List.replicate 64 1 ++ [3]) := by decide +kernel
  obtain ⟨s, flow, hexec, hflow, hreceiver, hdelivered, hread⟩ := seen_eq_some hseen
  refine ⟨s, flow, hexec, hflow, hreceiver, hdelivered, hread, ?_⟩
  rw [hdelivered, hread, List.prefix_append_right_inj]
  decide

end Stack

end enclavia.egress
