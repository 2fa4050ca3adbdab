import Enclavia.Egress.Uplink

open machine

namespace enclavia.egress

variable {reaction : tcp.Reaction}

namespace Flow

/-- The socket listens for the flow's destination, and a connection that it has is between the flow's endpoints. -/
structure Bound (flow : Flow) : Prop where
  listens : flow.socket.listen_endpoint = flow.dst
  tuple : ∀ endpoints, flow.socket.tuple = some endpoints → endpoints = (flow.dst, flow.src)
  connected : flow.socket.state.past_listen = true → flow.socket.tuple.isSome = true

variable {self next : Flow}

theorem bound_new (handle : Nat) (src dst : SocketAddrV4) : (new handle src dst).Bound := ⟨rfl, nofun, nofun⟩

theorem Bound.endpoints (h : self.Bound) (hpast : self.socket.state.past_listen = true) :
    self.socket.tuple = some (self.dst, self.src) := by
  obtain ⟨endpoints, htuple⟩ := Option.isSome_iff_exists.mp (h.connected hpast)
  rw [htuple, h.tuple endpoints htuple]

def endpoint_state (self : Flow) := (self.src, self.dst, self.socket.listen_endpoint, self.socket.tuple)

theorem Bound.congr (h : self.Bound) (hsame : next.endpoint_state = self.endpoint_state)
    (hstate : next.socket.state.past_listen = true → self.socket.state.past_listen = true) : next.Bound := by
  simp only [endpoint_state, Prod.mk.injEq] at hsame
  obtain ⟨hsrc, hdst, hlisten, htuple⟩ := hsame
  refine ⟨?_, ?_, fun hpast => ?_⟩
  · rw [hlisten, hdst]
    exact h.listens
  · rw [htuple, hdst, hsrc]
    exact h.tuple
  · rw [htuple]
    exact h.connected (hstate hpast)

theorem Bound.react (h : self.Bound) (hreact : self.react reaction = some next) :
    next.Bound := by
  obtain ⟨socket, hsocket, rfl⟩ := Option.map_eq_some_iff.mp hreact
  obtain ⟨hpast, -, -, hlisten, htuple, -⟩ := tcp.Socket.react_eq_some hsocket
  obtain hkept | ⟨hnone, hclosed⟩ := htuple
  · exact h.congr (by simp only [endpoint_state, hlisten, hkept]) fun _ => hpast
  · refine ⟨hlisten.trans h.listens, fun endpoints hsome => ?_, fun hopen => ?_⟩
    · rw [hnone] at hsome
      cases hsome
    · rw [hclosed] at hopen
      cases hopen

/-- A socket that still listens on the segment's destination was set up for its source. -/
def Agrees (self : Flow) (segment : Segment) : Prop :=
  self.live = true ∧ self.socket.state = .Listen ∧ self.socket.listen_endpoint = segment.dst → self.src = segment.src

instance (self : Flow) (segment : Segment) : Decidable (self.Agrees segment) := inferInstanceAs (Decidable (_ → _))

theorem listens_of_accepts {segment : Segment} (hlisten : self.socket.state = .Listen)
    (haccepts : self.accepts segment = true) : self.live = true ∧ self.socket.listen_endpoint = segment.dst := by
  unfold accepts at haccepts
  rw [hlisten] at haccepts
  simp only [Bool.and_eq_true, decide_eq_true_eq] at haccepts
  exact ⟨haccepts.1, haccepts.2.2⟩

theorem Bound.process {segment : Segment} (h : self.Bound) (haccepts : self.accepts segment = true)
    (hown : self.socket.state = .Listen → segment.syn = true → self.src = segment.src)
    (hprocess : self.process segment reaction = some next) : next.Bound := by
  unfold Flow.process at hprocess
  split at hprocess
  · next hlisten =>
    cases hprocess
    split
    · next hsyn =>
      simp only [Bool.and_eq_true] at hsyn
      obtain ⟨-, hendpoint⟩ := listens_of_accepts hlisten haccepts
      refine ⟨h.listens, fun endpoints htuple => ?_, fun _ => rfl⟩
      cases htuple
      rw [← hendpoint, h.listens, hown hlisten hsyn.1.1]
    · exact h
  · split at hprocess
    · cases hprocess
      exact ⟨h.listens, nofun, nofun⟩
    · exact h.react hprocess

theorem send_endpoint_state (data : List UInt8) : (self.send data).endpoint_state = self.endpoint_state ∧
    (self.send data).socket.state = self.socket.state := by
  unfold send
  split
  · next size socket hsend =>
    obtain ⟨-, rfl⟩ := tcp.Socket.send_slice_eq_some hsend
    exact ⟨rfl, rfl⟩
  · exact ⟨rfl, rfl⟩

theorem Bound.send (h : self.Bound) (data : List UInt8) : (self.send data).Bound := by
  obtain ⟨hsame, hstate⟩ := @send_endpoint_state self data
  exact h.congr hsame fun hpast => hstate ▸ hpast

theorem Bound.close (h : self.Bound) : { self with socket := self.socket.close }.Bound :=
  h.congr (by simp only [endpoint_state, tcp.Socket.close_listen_endpoint, tcp.Socket.close_tuple])
    tcp.Socket.close_past_listen

theorem Bound.note_established (h : self.Bound) : self.note_established.Bound := by
  unfold Flow.note_established
  split
  · exact h.congr rfl id
  · exact h

theorem Bound.uplink (h : self.Bound) : self.uplink.Bound := by
  unfold Flow.uplink
  split
  · simp only
    split
    · exact h.congr rfl id
    · exact h.congr rfl id
    · have htaken : { self with socket := (self.socket.recv_slice CHUNK_BYTES).2 }.Bound := h.congr rfl id
      exact htaken.close
  · exact h

theorem Bound.push_pending (h : self.Bound) : self.push_pending.Bound := by
  unfold Flow.push_pending
  split
  · split
    · have hclear : { self with pending_send := none }.Bound := h.congr rfl id
      exact hclear.send _
    · exact h
  · exact h

theorem Bound.pull_all (h : self.Bound) (rounds : Nat) : (pull_all rounds self).Bound := by
  induction rounds generalizing self with
  | zero => exact h
  | succ rounds ih =>
    unfold Flow.pull_all
    split
    · next hpull =>
      obtain ⟨data, -, -, -, rfl⟩ := pull_eq_some hpull
      have hskip : { self with from_forwarder := self.from_forwarder.skip 1 }.Bound := h.congr rfl id
      exact ih (hskip.send data)
    · exact h

theorem Bound.service (h : self.Bound) : self.service.Bound := by
  have htransfer : self.transfer.Bound := by
    have hpulled := h.note_established.uplink.push_pending.pull_all
      self.note_established.uplink.push_pending.from_forwarder.queue.length
    unfold transfer close_disconnected
    simp only
    split
    · exact hpulled.close
    · exact hpulled
  unfold Flow.service
  split
  · exact htransfer.close
  · exact htransfer

theorem poll_read_endpoint_state {size : Nat} (h : self.poll_read size = some next) :
    next.endpoint_state = self.endpoint_state ∧ next.socket.state = self.socket.state := by
  unfold poll_read at h
  split at h
  · cases h
    exact ⟨rfl, rfl⟩
  · split at h
    · cases h
      exact ⟨rfl, rfl⟩
    · split at h <;> cases h
      exact ⟨rfl, rfl⟩

end Flow

namespace Stack

variable {s s' : Stack}

/-- A connection that a SYN is to open finds no socket listening on its destination that was set up for another
source. -/
def Undisputed (s : Stack) : Event → Prop
  | .receive _ => ∀ packet ∈ s.inbound.head?, ∀ segment ∈ packet.tcp, segment.syn ∧ segment.checksum →
      ∀ flow ∈ s.flows, flow.Agrees segment
  | _ => True

instance (s : Stack) (event : Event) : Decidable (s.Undisputed event) :=
  match event with
  | .receive _ => inferInstanceAs (Decidable (∀ packet ∈ s.inbound.head?, ∀ segment ∈ packet.tcp,
      segment.syn ∧ segment.checksum → ∀ flow ∈ s.flows, flow.Agrees segment))
  | .inbound _ | .push_inbound | .timer _ _ | .begin | .service | .remove | .read _ _ | .write _ _ | .shutdown _
  | .drop _ => .isTrue trivial

theorem bound_step {event : Event} (hbound : ∀ flow ∈ s.flows, flow.Bound) (hundisputed : s.Undisputed event)
    (hstep : s.step event = some s') : ∀ flow ∈ s'.flows, flow.Bound := by
  have hof : ∀ {n : Nat} {flow : Flow}, s.flows[n]? = some flow → flow.Bound :=
    fun hflow => hbound _ (List.mem_of_getElem? hflow)
  have hchanges := step_changes hstep
  generalize s'.flows = flows at hchanges ⊢
  cases hchanges with
  | same => exact hbound
  | allocate hsyn hnew =>
    intro flow hmem
    obtain hmem | hmem := List.mem_append.mp hmem
    · exact hbound flow hmem
    · cases List.mem_singleton.mp hmem
      exact Flow.bound_new _ _ _
  | process hinbound hsegment hchecksum hflow haccepts hprocess =>
    refine forall_of_set hbound ((hof hflow).process haccepts (fun hlisten hsyn => ?_) hprocess)
    obtain ⟨hlive, hendpoint⟩ := Flow.listens_of_accepts hlisten haccepts
    exact hundisputed _ (by rw [hinbound]; rfl) _ hsegment ⟨hsyn, hchecksum⟩ _ (List.mem_of_getElem? hflow)
      ⟨hlive, hlisten, hendpoint⟩
  | timer hflow _ hreact => exact forall_of_set hbound ((hof hflow).react hreact)
  | service _ hflow => exact forall_of_set hbound (hof hflow).service
  | remove _ hflow | drop hflow => exact forall_of_set hbound ((hof hflow).congr rfl id)
  | read hflow _ hread =>
    obtain ⟨hsame, hstate⟩ := Flow.poll_read_endpoint_state hread
    exact forall_of_set hbound ((hof hflow).congr hsame fun hpast => hstate ▸ hpast)
  | write hflow hwrite =>
    obtain ⟨channel, -, rfl⟩ := Flow.poll_write_eq_some hwrite
    exact forall_of_set hbound ((hof hflow).congr rfl id)

/-- In every run in which no SYN meets a socket that still listens for another source, a connection is between the
endpoints that its flow was allowed for, and its socket takes up segments of that source only. -/
theorem connection_is_the_allowed_one {events : List Event} (hmeets : Meets Stack.step Undisputed new events)
    (hexec : exec Stack.step new events = some s) {flow : Flow} (hflow : flow ∈ s.flows)
    (hpast : flow.socket.state.past_listen = true) :
    flow.socket.tuple = some (flow.dst, flow.src) ∧
      ∀ segment, flow.accepts segment = true → segment.src = flow.src ∧ segment.dst = flow.dst := by
  have hall : ∀ flow ∈ s.flows, flow.Bound :=
    exec_preserves (P := fun s => ∀ flow ∈ s.flows, flow.Bound)
      (fun _ _ _ hbound hundisputed => bound_step hbound hundisputed)
      (fun _ hmem => absurd hmem List.not_mem_nil) hmeets hexec
  have htuple := (hall flow hflow).endpoints hpast
  refine ⟨htuple, fun segment haccepts => ?_⟩
  obtain ⟨-, hmatch⟩ := Bool.and_eq_true_iff.mp haccepts
  have hsame : flow.socket.tuple = some (segment.dst, segment.src) := by
    cases hstate : flow.socket.state with
    | Closed | Listen =>
      rw [hstate] at hpast
      cases hpast
    | _ =>
      rw [hstate] at hmatch
      exact of_decide_eq_true hmatch
  obtain ⟨hdst, hsrc⟩ := Prod.mk.inj (Option.some.inj (htuple.symm.trans hsame))
  exact ⟨hsrc.symm, hdst.symm⟩

def connection (events : List Event) (n : Nat) :
    Option (SocketAddrV4 × tcp.State × Option (SocketAddrV4 × SocketAddrV4)) :=
  (exec Stack.step new events).bind fun s =>
    s.flows[n]?.map fun flow => (flow.src, flow.socket.state, flow.socket.tuple)

theorem connection_eq_some {events : List Event} {n : Nat} {src : SocketAddrV4} {state : tcp.State}
    {tuple : Option (SocketAddrV4 × SocketAddrV4)} (h : connection events n = some (src, state, tuple)) : ∃ s flow,
      exec Stack.step new events = some s ∧ flow ∈ s.flows ∧ flow.src = src ∧ flow.socket.state = state ∧
      flow.socket.tuple = tuple := by
  obtain ⟨s, hexec, hflow⟩ := Option.bind_eq_some_iff.mp h
  obtain ⟨flow, hget, hconnection⟩ := Option.map_eq_some_iff.mp hflow
  cases hconnection
  exact ⟨s, flow, hexec, List.mem_of_getElem? hget, rfl, rfl, rfl⟩

/-- A connection that has been opened. -/
theorem connection_is_the_allowed_one_open : ∃ s flow, exec Stack.step new sample_opening = some s ∧ flow ∈ s.flows ∧
    flow.src = sample_syn.src ∧ flow.socket.state = .Established ∧
    flow.socket.tuple = some (flow.dst, flow.src) := by
  have hmeets : Meets Stack.step Undisputed new sample_opening := by decide +kernel
  have hconnection : connection sample_opening 0 =
      some (sample_syn.src, .Established, some (sample_syn.dst, sample_syn.src)) := by decide +kernel
  obtain ⟨s, flow, hexec, hflow, hsrc, hstate, -⟩ := connection_eq_some hconnection
  have hpast : flow.socket.state.past_listen = true := by rw [hstate]; rfl
  exact ⟨s, flow, hexec, hflow, hsrc, hstate, (connection_is_the_allowed_one hmeets hexec hflow hpast).1⟩

def sample_upstream : Segment := { sample_syn with src := ⟨0x0a630001, 50000⟩, dst := ⟨0x01010101, 53⟩ }

def sample_packet (segment : Segment) (reaction : tcp.Reaction) : List Event :=
  [.inbound ⟨true, some segment⟩, .push_inbound, .receive reaction]

/-- The upstream connection of the resolver is reset before it is there, so that its socket listens again. -/
theorem workload_takes_trusted_flow : ∃ s flow,
    exec Stack.step new (sample_packet sample_upstream ⟨.SynReceived, [], 0⟩ ++
      sample_packet { sample_upstream with syn := false, rst := true } ⟨.Listen, [], 0⟩ ++
      sample_packet { sample_upstream with src := sample_syn.src } ⟨.SynReceived, [], 0⟩ ++
      sample_packet { sample_upstream with src := sample_syn.src, syn := false, ack := true } ⟨.Established, [1], 0⟩) =
        some s ∧ flow ∈ s.flows ∧ flow.src = sample_upstream.src ∧ flow.socket.state = .Established ∧
      flow.socket.tuple = some (sample_upstream.dst, sample_syn.src) := by
  refine connection_eq_some (n := 0) ?_
  decide +kernel

end Stack

end enclavia.egress
