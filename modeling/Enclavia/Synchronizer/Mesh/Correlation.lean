import Enclavia.Synchronizer.Mesh.System

namespace enclavia.synchronizer.mesh.System

variable {Instance App Payload : Type} {F : Fleet Instance} {s s' : System Instance App Payload}

inductive Called (F : Fleet Instance) (s : System Instance App Payload) (i : Instance) (peer : String)
    (payload : Payload) : Except CallError Nat × System Instance App Payload → Prop
  | failed (error : CallError) : Called F s i peer payload (.error error, s)
  | undriven {c : Nat} :
      Called F s i peer payload (.error (.Rpc peer .ConnectionClosed),
        { s with channel := Function.update s.channel c (s.channel c).lose_id })
  | issued {c : Nat} (hslot : (s.node i).slots peer = some c) (hdriven : s.dialing c = .Published) :
      Called F s i peer payload (.ok s.calls.length, { s with
        channel := Function.update s.channel c ((s.channel c).enqueue s.calls.length payload)
        calls := s.calls ++ [{ caller := i, channel := c, id := (s.channel c).next_id, body := payload }] })

theorem call_called (s : System Instance App Payload) (i : Instance) (peer : String) (payload : Payload) :
    Called F s i peer payload (s.call F i peer payload) := by
  unfold call
  split
  · exact .failed _
  · cases hslot : (s.node i).slots peer with
    | none => exact .failed _
    | some c =>
      by_cases hdriven : s.dialing c = .Published
      · simp only [ClientChannel.call, hdriven, decide_true, if_true]
        exact .issued hslot hdriven
      · simp only [ClientChannel.call, hdriven, decide_false, Bool.false_eq_true, if_false]
        exact .undriven

theorem getElem?_of_grown {α : Type} {old new : List α} (hgrown : old <+: new) {n : Nat} {x : α}
    (h : old[n]? = some x) : new[n]? = some x := by
  obtain ⟨added, rfl⟩ := hgrown
  obtain ⟨hlength, -⟩ := List.getElem?_eq_some_iff.mp h
  rw [List.getElem?_append_left hlength]
  exact h

theorem getElem?_concat_cases {α : Type} {old : List α} {x y : α} {n : Nat} (h : (old ++ [x])[n]? = some y) :
    old[n]? = some y ∨ n = old.length ∧ y = x := by
  rw [List.getElem?_append] at h
  split at h
  · exact .inl h
  · next hn =>
    obtain ⟨hlength, hy⟩ := List.getElem?_eq_some_iff.mp h
    rw [List.length_singleton] at hlength
    exact .inr ⟨by omega, by rw [← hy, List.getElem_singleton]⟩

theorem mem_of_lookup {pending : List (Nat × Nat)} {id token : Nat} (h : pending.lookup id = some token) :
    (id, token) ∈ pending := by
  obtain ⟨before, after, rfl, -⟩ := List.lookup_eq_some_iff.mp h
  exact List.mem_append_right _ List.mem_cons_self

/-- A link carries the key of the instance at its far end, and a slot holds a link that its owner
dialed for the slot's name. -/
structure Linked (F : Fleet Instance) (s : System Instance App Payload) : Prop where
  attested : ∀ link ∈ s.links, link.mesh_pubkey = F.pubkey link.far
  slot : ∀ i peer c, (s.node i).slots peer = some c →
    ∃ link, s.links[c]? = some link ∧ link.dialer = i ∧ link.peer = peer

/-- What is under way on channel `c`: requests and awaited ids belong to calls on it, responses to
requests that were handled, and the next id is a new one. -/
structure Carries (calls : List (Call Instance Payload)) (served : List (Served Instance Payload)) (c : Nat)
    (channel : ClientChannel Payload) : Prop where
  fresh : ∀ call ∈ calls, call.channel = c → call.id < channel.next_id
  request : ∀ id body, (id, body) ∈ channel.requests →
    ∃ call ∈ calls, call.channel = c ∧ call.id = id ∧ call.body = body
  pending : ∀ id token, (id, token) ∈ channel.pending →
    ∃ call, calls[token]? = some call ∧ call.channel = c ∧ call.id = id
  response : ∀ id reply, (id, reply) ∈ channel.responses →
    ∃ r ∈ served, r.channel = c ∧ r.id = id ∧ r.reply = reply

/-- Ids tell the calls of a channel apart. -/
structure Correlated (s : System Instance App Payload) : Prop where
  carries : ∀ c, Carries s.calls s.served c (s.channel c)
  unique : ∀ (k k' : Nat) (call call' : Call Instance Payload), s.calls[k]? = some call →
    s.calls[k']? = some call' → call.channel = call'.channel → call.id = call'.id → k = k'
  served : ∀ r ∈ s.served, (∃ call ∈ s.calls, call.channel = r.channel ∧ call.id = r.id ∧ call.body = r.request) ∧
    ∃ link, s.links[r.channel]? = some link ∧ r.producer = link.far
  result : ∀ token reply, s.result token = some reply → ∃ call, s.calls[token]? = some call ∧
    ∃ r ∈ s.served, r.channel = call.channel ∧ r.id = call.id ∧ r.reply = reply

namespace Carries

variable {calls : List (Call Instance Payload)} {served : List (Served Instance Payload)} {c : Nat}
  {channel : ClientChannel Payload}

theorem new : Carries ([] : List (Call Instance Payload)) served c .new where
  fresh _ h := by cases h
  request _ _ h := by cases h
  pending _ _ h := by cases h
  response _ _ h := by cases h

theorem lose_id (h : Carries calls served c channel) : Carries calls served c channel.lose_id where
  fresh call hcall hc := Nat.lt_succ_of_lt (h.fresh call hcall hc)
  request := h.request
  pending := h.pending
  response := h.response

theorem add_call (h : Carries calls served c channel) {call : Call Instance Payload} (hc : call.channel ≠ c) :
    Carries (calls ++ [call]) served c channel where
  fresh call' hcall' hc' := by
    rcases List.mem_append.mp hcall' with hold | hnew
    · exact h.fresh call' hold hc'
    · rw [List.mem_singleton.mp hnew] at hc'
      exact absurd hc' hc
  request id body hbody := by
    obtain ⟨call', hcall', hrest⟩ := h.request id body hbody
    exact ⟨call', List.mem_append_left _ hcall', hrest⟩
  pending id token htoken := by
    obtain ⟨call', hcall', hrest⟩ := h.pending id token htoken
    exact ⟨call', getElem?_of_grown (List.prefix_append _ _) hcall', hrest⟩
  response := h.response

theorem enqueue (h : Carries calls served c channel) (caller : Instance) (body : Payload) :
    Carries (calls ++ [{ caller, channel := c, id := channel.next_id, body }]) served c
      (channel.enqueue calls.length body) where
  fresh call hcall hc := by
    rcases List.mem_append.mp hcall with hold | hnew
    · exact Nat.lt_succ_of_lt (h.fresh call hold hc)
    · rw [List.mem_singleton.mp hnew]
      exact Nat.lt_succ_self _
  request id body' hbody := by
    rcases List.mem_append.mp hbody with hold | hnew
    · obtain ⟨call, hcall, hrest⟩ := h.request id body' hold
      exact ⟨call, List.mem_append_left _ hcall, hrest⟩
    · cases List.mem_singleton.mp hnew
      exact ⟨_, List.mem_append_right _ (List.mem_singleton_self _), rfl, rfl, rfl⟩
  pending id token htoken := by
    rcases List.mem_cons.mp htoken with hnew | hold
    · cases hnew
      exact ⟨_, List.getElem?_concat_length, rfl, rfl⟩
    · obtain ⟨call, hcall, hrest⟩ := h.pending id token hold
      exact ⟨call, getElem?_of_grown (List.prefix_append _ _) hcall, hrest⟩
  response := h.response

theorem add_served (h : Carries calls served c channel) (r : Served Instance Payload) :
    Carries calls (served ++ [r]) c channel where
  fresh := h.fresh
  request := h.request
  pending := h.pending
  response id reply hreply := by
    obtain ⟨r', hr', hrest⟩ := h.response id reply hreply
    exact ⟨r', List.mem_append_left _ hr', hrest⟩

theorem answer (h : Carries calls served c channel) {r : Served Instance Payload} (hc : r.channel = c) :
    Carries calls (served ++ [r]) c (channel.answer r.id r.reply) where
  fresh := h.fresh
  request id body hbody := h.request id body (List.mem_of_mem_tail hbody)
  pending := h.pending
  response id reply hreply := by
    rcases List.mem_append.mp hreply with hold | hnew
    · exact (h.add_served r).response id reply hold
    · cases List.mem_singleton.mp hnew
      exact ⟨r, List.mem_append_right _ (List.mem_singleton_self _), hc, rfl, rfl⟩

theorem demux (h : Carries calls served c channel) (id : Nat) : Carries calls served c (channel.demux id) where
  fresh := h.fresh
  request := h.request
  pending id' token htoken := h.pending id' token (List.mem_filter.mp htoken).1
  response id' reply hreply := h.response id' reply (List.mem_of_mem_tail hreply)

end Carries

theorem Linked.start (app : Instance → App) :
    (System.start app : System Instance App Payload).Linked F where
  attested _ hlink := by cases hlink
  slot _ _ _ hslot := by cases hslot

theorem Correlated.start (app : Instance → App) :
    (System.start app : System Instance App Payload).Correlated where
  carries _ := Carries.new
  unique _ _ _ _ h := by cases h
  served _ h := by cases h
  result _ _ h := by cases h

private theorem Linked.frame (hs : s.Linked F) (hlinks : s'.links = s.links)
    (hslots : ∀ i, (s'.node i).slots = (s.node i).slots) : s'.Linked F where
  attested := hlinks ▸ hs.attested
  slot i peer c h := by
    rw [hslots] at h
    rw [hlinks]
    exact hs.slot i peer c h

private theorem Correlated.frame (hs : s.Correlated) (hlinks : s.links <+: s'.links)
    (hchannel : s'.channel = s.channel) (hcalls : s'.calls = s.calls) (hresult : s'.result = s.result)
    (hserved : s'.served = s.served) : s'.Correlated where
  carries := by rw [hcalls, hserved, hchannel]; exact hs.carries
  unique := by rw [hcalls]; exact hs.unique
  served r hr := by
    rw [hserved] at hr
    obtain ⟨hcall, link, hlink, hfar⟩ := hs.served r hr
    exact ⟨hcalls ▸ hcall, link, getElem?_of_grown hlinks hlink, hfar⟩
  result := by rw [hcalls, hserved, hresult]; exact hs.result

theorem update_keeps [DecidableEq Instance] {α β : Type} (g : α → β) {f : Instance → α} {i j : Instance} {x : α}
    (hx : g x = g (f i)) : g (Function.update f i x j) = g (f j) := by
  by_cases hj : j = i
  · subst hj
    rw [Function.update_self, hx]
  · rw [Function.update_of_ne hj]

theorem app_update [DecidableEq Instance] {node : Instance → Node App} {i j : Instance} {n : Node App}
    (hn : n.app = (node i).app) : (Function.update node i n j).app = (node j).app :=
  update_keeps Node.app hn

theorem Correlated.result_produced (hs : s.Correlated) {token : Nat} {call : Call Instance Payload}
    {reply : Payload} (hcall : s.calls[token]? = some call) (hresult : s.result token = some reply) :
    ∃ r ∈ s.served, r.channel = call.channel ∧ r.id = call.id ∧ r.request = call.body ∧ r.reply = reply ∧
      ∃ link, s.links[call.channel]? = some link ∧ r.producer = link.far := by
  obtain ⟨call', hcall', r, hr, hchannel, hid, hreply⟩ := hs.result token reply hresult
  rw [hcall] at hcall'
  cases hcall'
  obtain ⟨⟨call', hmem, hchannel', hid', hbody⟩, link, hlink, hfar⟩ := hs.served r hr
  obtain ⟨token', hcall'⟩ := List.getElem?_of_mem hmem
  have htoken := hs.unique token' token call' call hcall' hcall (hchannel'.trans hchannel) (hid'.trans hid)
  rw [htoken, hcall] at hcall'
  cases hcall'
  exact ⟨r, hr, hchannel, hid, hbody.symm, hreply, link, hchannel ▸ hlink, hfar⟩

theorem Correlated.call (hs : s.Correlated) (i : Instance) (peer : String) (payload : Payload) :
    (s.call F i peer payload).2.Correlated := by
  generalize hcall : s.call F i peer payload = outcome
  cases hcall ▸ call_called (F := F) s i peer payload with
  | failed error => exact hs
  | @undriven c =>
    refine ⟨?_, hs.unique, hs.served, hs.result⟩
    exact (Function.forall_update_iff s.channel fun c' channel => Carries s.calls s.served c' channel).mpr
      ⟨(hs.carries c).lose_id, fun c' _ => hs.carries c'⟩
  | @issued c hslot hdriven =>
    have hnew : ∀ (k : Nat) (call : Call Instance Payload), s.calls[k]? = some call → call.channel = c →
        call.id ≠ (s.channel c).next_id := by
      intro k call hk hc
      exact Nat.ne_of_lt ((hs.carries c).fresh call (List.mem_of_getElem? hk) hc)
    refine ⟨?_, ?_, ?_, ?_⟩
    · exact (Function.forall_update_iff s.channel fun c' channel => Carries _ s.served c' channel).mpr
        ⟨(hs.carries c).enqueue i payload, fun c' hc' => (hs.carries c').add_call hc'.symm⟩
    · -- The new call is the only one at its position, and the only one with its id.
      intro k k' call call' hk hk' hchannel hid
      rcases getElem?_concat_cases hk with hk | ⟨hlast, rfl⟩ <;>
        rcases getElem?_concat_cases hk' with hk' | ⟨hlast', rfl⟩
      · exact hs.unique k k' call call' hk hk' hchannel hid
      · exact absurd hid (hnew k call hk hchannel)
      · exact absurd hid.symm (hnew k' call' hk' hchannel.symm)
      · rw [hlast, hlast']
    · intro r hr
      obtain ⟨⟨call, hmem, hrest⟩, hlink⟩ := hs.served r hr
      exact ⟨⟨call, List.mem_append_left _ hmem, hrest⟩, hlink⟩
    · intro token reply hresult
      obtain ⟨call, htoken, hrest⟩ := hs.result token reply hresult
      exact ⟨call, getElem?_of_grown (List.prefix_append _ _) htoken, hrest⟩

theorem Correlated.issued_unserved (hs : s.Correlated) {i : Instance} {peer : String} {payload : Payload}
    {token : Nat} (hcall : s.call F i peer payload = (.ok token, s')) :
    ∃ call, s'.calls[token]? = some call ∧ ∀ r ∈ s'.served, r.channel = call.channel → r.id ≠ call.id := by
  have hcalled := call_called (F := F) s i peer payload
  rw [hcall] at hcalled
  cases hcalled with
  | @issued c hslot hdriven =>
    refine ⟨_, List.getElem?_concat_length, ?_⟩
    intro r hr hchannel
    obtain ⟨⟨earlier, hearlier, hsame, hid, -⟩, -⟩ := hs.served r hr
    have hfresh := (hs.carries c).fresh earlier hearlier (hsame.trans hchannel)
    rw [← hid]
    exact Nat.ne_of_lt hfresh

section Steps

variable [DecidableEq Instance] {handle : Instance → App → PeerContext → Payload → Payload × App}
  {a : Action Instance App Payload}

private theorem Linked.set_slot (hs : s.Linked F) {link : Link Instance} (slot : Option Nat)
    (hslot : ∀ c, slot = some c → s.links[c]? = some link) :
    (s.set_slot link.dialer link.peer slot).Linked F where
  attested := hs.attested
  slot i peer c h := by
    by_cases hi : i = link.dialer
    · subst hi
      simp only [System.set_slot, Function.update_self] at h
      by_cases hpeer : peer = link.peer
      · subst hpeer
        rw [Function.update_self] at h
        exact ⟨link, hslot c h, rfl, rfl⟩
      · rw [Function.update_of_ne hpeer] at h
        exact hs.slot _ peer c h
    · simp only [System.set_slot, Function.update_of_ne hi] at h
      exact hs.slot i peer c h

theorem Linked.step (hs : s.Linked F) (h : s.step F handle a = some s') : s'.Linked F := by
  cases step_inv h with
  | @dial i j peer hpeer hfree =>
    refine ⟨?_, ?_⟩
    · intro link hlink
      rcases List.mem_append.mp hlink with hlink | hlink
      · exact hs.attested link hlink
      · rw [List.mem_singleton.mp hlink]
    · intro i' peer' c hslot
      obtain ⟨link, hlink, hdialer, hpeer⟩ := hs.slot i' peer' c hslot
      exact ⟨link, getElem?_of_grown (List.prefix_append _ _) hlink, hdialer, hpeer⟩
  | greet | refuse => exact hs.frame rfl fun _ => rfl
  | observe | confirm | serve | progress => exact hs.frame rfl fun _ => update_keeps Node.slots rfl
  | misrouted | hang_up => exact (hs.set_slot none nofun).frame rfl fun _ => rfl
  | publish hlink =>
    refine (hs.set_slot _ ?_).frame rfl fun _ => rfl
    intro c' hc'
    cases hc'
    exact hlink
  | @call i peer payload =>
    generalize hcall : s.call F i peer payload = outcome
    cases hcall ▸ call_called s i peer payload with
    | failed error => exact hs
    | undriven | issued => exact hs.frame rfl fun _ => rfl
  | deliver => exact hs.frame rfl fun _ => rfl

theorem Correlated.step (hs : s.Correlated) (h : s.step F handle a = some s') : s'.Correlated := by
  cases step_inv h with
  | dial => exact hs.frame (List.prefix_append _ _) rfl rfl rfl rfl
  | greet | refuse | observe | confirm | misrouted | publish | hang_up =>
    exact hs.frame (List.prefix_refl _) rfl rfl rfl rfl
  | call => exact hs.call _ _ _
  | @serve c id link body reply app hlink hphase hrequest hhandle =>
    refine ⟨?_, hs.unique, ?_, ?_⟩
    · exact (Function.forall_update_iff s.channel fun c' channel => Carries s.calls _ c' channel).mpr
        ⟨(hs.carries c).answer rfl, fun c' _ => (hs.carries c').add_served _⟩
    · intro r hr
      rcases List.mem_append.mp hr with hold | hnew
      · exact hs.served r hold
      · rw [List.mem_singleton.mp hnew]
        exact ⟨(hs.carries c).request id body (List.mem_of_mem_head? hrequest), link, hlink, rfl⟩
    · intro token reply' hresult
      obtain ⟨call, htoken, r, hr, hrest⟩ := hs.result token reply' hresult
      exact ⟨call, htoken, r, List.mem_append_left _ hr, hrest⟩
  | @deliver c id reply hphase hresponse =>
    refine ⟨?_, hs.unique, hs.served, ?_⟩
    · exact (Function.forall_update_iff s.channel fun c' channel => Carries s.calls s.served c' channel).mpr
        ⟨(hs.carries c).demux id, fun c' _ => hs.carries c'⟩
    · intro token reply' hresult
      cases hlookup : (s.channel c).pending.lookup id with
      | none =>
        simp only [resolve, hlookup] at hresult
        exact hs.result token reply' hresult
      | some awaited =>
        simp only [resolve, hlookup] at hresult
        by_cases htoken : token = awaited
        · subst htoken
          rw [Function.update_self] at hresult
          cases hresult
          obtain ⟨call, hcall, hchannel, hid⟩ :=
            (hs.carries c).pending id token (mem_of_lookup hlookup)
          obtain ⟨r, hr, hrchannel, hrid, hrreply⟩ :=
            (hs.carries c).response id reply (List.mem_of_mem_head? hresponse)
          exact ⟨call, hcall, r, hr, hrchannel.trans hchannel.symm, hrid.trans hid.symm, hrreply⟩
        · rw [Function.update_of_ne htoken] at hresult
          exact hs.result token reply' hresult
  | progress => exact hs.frame (List.prefix_refl _) rfl rfl rfl rfl

theorem step_grows (h : s.step F handle a = some s') : s.links <+: s'.links ∧ s.calls <+: s'.calls := by
  cases step_inv h with
  | dial => exact ⟨List.prefix_append _ _, List.prefix_refl _⟩
  | @call i peer payload =>
    generalize hcall : s.call F i peer payload = outcome
    cases hcall ▸ call_called (F := F) s i peer payload with
    | failed error | undriven => exact ⟨List.prefix_refl _, List.prefix_refl _⟩
    | issued => exact ⟨List.prefix_refl _, List.prefix_append _ _⟩
  | greet | refuse | observe | confirm | misrouted | publish | hang_up | serve | deliver | progress =>
    exact ⟨List.prefix_refl _, List.prefix_refl _⟩

variable {actions : List (Action Instance App Payload)}

theorem Linked.exec (hs : s.Linked F) (h : machine.exec (System.step F handle) s actions = some s') :
    s'.Linked F :=
  machine.exec_invariant (fun _ _ _ hs h => Linked.step hs h) hs h

theorem Correlated.exec (hs : s.Correlated) (h : machine.exec (System.step F handle) s actions = some s') :
    s'.Correlated :=
  machine.exec_invariant (fun _ _ _ hs h => Correlated.step hs h) hs h

theorem exec_grows (h : machine.exec (System.step F handle) s actions = some s') :
    s.links <+: s'.links ∧ s.calls <+: s'.calls := by
  refine machine.exec_invariant (P := fun t => s.links <+: t.links ∧ s.calls <+: t.calls) ?_
    ⟨List.prefix_refl _, List.prefix_refl _⟩ h
  intro t a t' ht hstep
  obtain ⟨hlinks, hcalls⟩ := step_grows hstep
  exact ⟨ht.1.trans hlinks, ht.2.trans hcalls⟩

end Steps

end enclavia.synchronizer.mesh.System
