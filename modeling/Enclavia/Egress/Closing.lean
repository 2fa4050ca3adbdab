import Enclavia.Egress.Teardown

/-! Whether a flow's connection is closed from the forwarder's side while the forwarder still reads. -/

open machine

namespace enclavia.egress

/-- The states of a socket whose send side is closed, from which a FIN goes to the workload. -/
def tcp.State.send_closed : tcp.State → Bool
  | .FinWait1 | .FinWait2 | .Closing | .LastAck => true
  | _ => false

theorem tcp.State.send_closed_of_follows {state next : tcp.State} (h : state.follows next = true)
    (hnext : next.send_closed = true) : state.send_closed = true := by
  cases next <;> cases state <;> simp_all [follows, send_closed]

namespace Flow

variable {self next : Flow} {reaction : tcp.Reaction}

theorem react_send_closed (h : self.react reaction = some next) (hnext : next.socket.state.send_closed = true) :
    self.socket.state.send_closed = true := by
  obtain ⟨socket, hsocket, rfl⟩ := Option.map_eq_some_iff.mp h
  unfold tcp.Socket.react at hsocket
  obtain ⟨hguard, hsome⟩ := Option.ite_none_right_eq_some.mp hsocket
  cases hsome
  exact tcp.State.send_closed_of_follows hguard.2.1 hnext

theorem process_send_closed {segment : Segment} (h : self.process segment reaction = some next)
    (hnext : next.socket.state.send_closed = true) : self.socket.state.send_closed = true := by
  unfold process at h
  split at h
  · next hlisten =>
    cases h
    split at hnext
    · cases hnext
    · exact hnext
  split at h
  · cases h
    cases hnext
  · exact react_send_closed h hnext

theorem react_ends (h : self.react reaction = some next) :
    next.from_forwarder.sender = self.from_forwarder.sender ∧
      next.to_forwarder.receiver = self.to_forwarder.receiver ∧ next.live = self.live := by
  obtain ⟨socket, -, rfl⟩ := Option.map_eq_some_iff.mp h
  exact ⟨rfl, rfl, rfl⟩

theorem process_ends {segment : Segment} (h : self.process segment reaction = some next) :
    next.from_forwarder.sender = self.from_forwarder.sender ∧
      next.to_forwarder.receiver = self.to_forwarder.receiver ∧ next.live = self.live := by
  unfold process at h
  split at h
  · cases h
    split <;> exact ⟨rfl, rfl, rfl⟩
  split at h
  · cases h
    exact ⟨rfl, rfl, rfl⟩
  · exact react_ends h

theorem service_ends : self.service.to_forwarder.receiver = self.to_forwarder.receiver ∧
    self.service.from_forwarder.sender = self.from_forwarder.sender ∧
    (self.transfer.torn_down = false → self.to_forwarder.receiver = true → self.from_forwarder.sender = true →
      self.service.socket.state = self.socket.state) := by
  obtain ⟨hstate, -, hreceiver, hsender⟩ := @transfer_control self
  unfold service
  split
  · next htorn => exact ⟨hreceiver, hsender, fun hnot => absurd htorn (by simp [hnot])⟩
  · refine ⟨hreceiver, hsender, fun _ hheld hopen => ?_⟩
    rcases hstate with hsame | ⟨hdropped, -⟩
    · exact hsame
    · simp [hheld, hopen] at hdropped

end Flow

namespace Stack

variable {s s' : Stack}

/-- Both ends of a stream are dropped at once, and until then the send side is open, except of a socket that the same
pass removes. -/
def Unclosed (s : Stack) (n : Nat) (flow : Flow) : Prop :=
  flow.from_forwarder.sender = flow.to_forwarder.receiver ∧
    (flow.to_forwarder.receiver = true → flow.live = true → n ∉ s.closed → ¬flow.socket.state.send_closed = true)

theorem Unclosed.congr {n : Nat} {flow next : Flow} (h : s.Unclosed n flow)
    (hends : next.from_forwarder.sender = flow.from_forwarder.sender ∧
      next.to_forwarder.receiver = flow.to_forwarder.receiver ∧ next.live = flow.live)
    (hsend : next.socket.state.send_closed = true → flow.socket.state.send_closed = true)
      (hclosed : s.closed ⊆ s'.closed) :
    s'.Unclosed n next := by
  obtain ⟨hsender, hreceiver, hlive⟩ := hends
  unfold Unclosed
  rw [hsender, hreceiver, hlive]
  exact ⟨h.1, fun hreads hlive hkept hnext => h.2 hreads hlive (fun hmem => hkept (hclosed hmem)) (hsend hnext)⟩

theorem unclosed_remove (h : ∀ n flow, s.flows[n]? = some flow → s.Unclosed n flow) (hstep : s.step .remove = some s')
    (n : Nat) (flow : Flow) (hflow : s'.flows[n]? = some flow) : s'.Unclosed n flow := by
  simp only [step] at hstep
  split at hstep
  · next m closed _ hclosed =>
    obtain ⟨removed, _, hremoved, hnext, rfl⟩ := on_eq_some hstep
    cases hnext
    refine forall_getElem?_set (fun n flow hne hflow => ⟨(h n flow hflow).1, fun hreads hlive hkept => ?_⟩)
      ⟨(h m removed hremoved).1, fun _ hlive => by cases hlive⟩ n flow hflow
    refine (h n flow hflow).2 hreads hlive ?_
    rw [hclosed]
    exact List.not_mem_cons_of_ne_of_not_mem hne.symm hkept
  · cases hstep

theorem closed_subset {event : Event} (hstep : s.step event = some s') (hevent : event ≠ .remove) :
    s.closed ⊆ s'.closed := by
  rw [step_closed hstep]
  cases event with
  | remove => exact absurd rfl hevent
  | service => exact List.subset_append_left _ _
  | _ => exact List.Subset.refl _

theorem unclosed_step {event : Event} (h : ∀ n flow, s.flows[n]? = some flow → s.Unclosed n flow)
    (hstep : s.step event = some s') : ∀ n flow, s'.flows[n]? = some flow → s'.Unclosed n flow := by
  by_cases hevent : event = .remove
  · subst hevent
    exact unclosed_remove h hstep
  have hclosed := closed_subset hstep hevent
  have hcloses := step_closed hstep
  have hchanges := step_changes hstep
  have hall : ∀ n flow, s.flows[n]? = some flow → s'.Unclosed n flow :=
    fun n flow hflow => (h n flow hflow).congr ⟨rfl, rfl, rfl⟩ id hclosed
  have hset {n : Nat} {next : Flow} (hnext : s'.Unclosed n next) :
      ∀ m flow, (s.flows.set n next)[m]? = some flow → s'.Unclosed m flow :=
    forall_getElem?_set (fun m flow _ => hall m flow) hnext
  generalize s'.flows = flows at hchanges ⊢
  cases hchanges with
  | same => exact hall
  | allocate =>
    intro n flow hflow
    rw [List.getElem?_append] at hflow
    split at hflow
    · exact hall n flow hflow
    · cases List.mem_singleton.mp (List.mem_of_getElem? hflow)
      exact ⟨rfl, fun _ _ _ hsend => by cases hsend⟩
  | process _ _ _ hflow _ hprocess =>
    exact hset ((h _ _ hflow).congr (Flow.process_ends hprocess) (Flow.process_send_closed hprocess) hclosed)
  | timer hflow _ hreact =>
    exact hset ((h _ _ hflow).congr (Flow.react_ends hreact) (Flow.react_send_closed hreact) hclosed)
  | @service n todo flow htodo hflow =>
    obtain ⟨hreceiver, hsender, hsame⟩ := @Flow.service_ends flow
    have hends := (h _ _ hflow).1
    refine hset ⟨by rw [hreceiver, hsender, hends], fun hreads hlive hkept hsend => ?_⟩
    rw [hreceiver] at hreads
    have hnot : n ∉ s.closed ∧ flow.transfer.torn_down = false := by
      rw [hcloses] at hkept
      simpa [closes, htodo, hflow] using hkept
    rw [hsame hnot.2 hreads (hends.trans hreads)] at hsend
    refine (h _ _ hflow).2 hreads ?_ hnot.1 hsend
    exact (congrArg Prod.fst (@Flow.service_downlink flow).2).symm.trans hlive
  | remove => exact absurd rfl hevent
  | read hflow _ hread =>
    obtain ⟨-, hsocket, hreceiver, -⟩ := Flow.poll_read_eq_some hread
    obtain ⟨-, hlive, -, hfrom, -⟩ := Flow.poll_read_holders hread
    exact hset ((h _ _ hflow).congr ⟨by rw [hfrom], hreceiver, hlive⟩ (hsocket ▸ id) hclosed)
  | write hflow hwrite =>
    obtain ⟨channel, hsend, rfl⟩ := Flow.poll_write_eq_some hwrite
    obtain ⟨-, -, -, hsender, -⟩ := Channel.try_send_ok.mp hsend
    exact hset ((h _ _ hflow).congr ⟨hsender, rfl, rfl⟩ id hclosed)
  | drop hflow => exact hset ⟨rfl, fun hreads => by cases hreads⟩

/-- In every run, whatever `poll_shutdown` has answered: as long as the forwarder can read from a flow, no pass closes
the send side of its socket, except to remove it at once. -/
theorem half_close_never_reaches_workload {events : List Event} (hexec : exec Stack.step new events = some s) {n : Nat}
    {flow : Flow} (hflow : s.flows[n]? = some flow) (hreads : flow.to_forwarder.receiver = true)
    (hlive : flow.live = true) (hkept : n ∉ s.closed) : ¬flow.socket.state.send_closed = true := by
  have hall : ∀ n flow, s.flows[n]? = some flow → s.Unclosed n flow :=
    exec_invariant (P := fun s => ∀ n flow, s.flows[n]? = some flow → s.Unclosed n flow)
      (fun _ _ _ h hstep => unclosed_step h hstep) (by simp [new]) hexec
  exact (hall n flow hflow).2 hreads hlive hkept

def half_closed : List Event := sample_opening ++ [.begin, .service, .write 0 [9], .begin, .service, .shutdown 0]

/-- The forwarder has handed in its last byte and the byte is in the socket. -/
theorem half_close_never_reaches_workload_byte : ∃ s flow,
    exec Stack.step new (half_closed ++ [.begin, .service]) = some s ∧ s.flows[0]? = some flow ∧
      flow.socket.tx_buffer = [9] ∧ ¬flow.socket.state.send_closed = true :=
  ⟨_, _, rfl, rfl, rfl, @half_close_never_reaches_workload _ (half_closed ++ [.begin, .service]) rfl 0 _ rfl rfl rfl
    (List.not_mem_nil (a := 0))⟩

theorem exec_replicate {s : Stack} {events : List Event} (h : exec Stack.step s events = some s) (rounds : Nat) :
    exec Stack.step s (List.replicate rounds events).flatten = some s := by
  induction rounds with
  | zero => rfl
  | succ rounds ih => rw [List.replicate_succ, List.flatten_cons, exec_append, h, Option.bind_some, ih]

/-- The forwarder has handed in its last byte, the byte is in the socket, and `poll_shutdown` has returned: no pass
closes the socket, however many there are. -/
theorem shutdown_is_not_seen : ∃ s flow, exec Stack.step new half_closed = some s ∧ s.flows[0]? = some flow ∧
    flow.socket.tx_buffer = [9] ∧ flow.outgoing = [9] ∧ flow.socket.state = .Established ∧
      ∀ rounds, exec Stack.step s (List.replicate rounds [Event.begin, .service]).flatten = some s := by
  refine ⟨_, _, rfl, rfl, rfl, rfl, rfl, ?_⟩
  apply exec_replicate
  rfl

end Stack

end enclavia.egress
