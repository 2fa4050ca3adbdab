import Enclavia.Client.Transport

/-! What the server sends through its `CborTransport` (`noise.rs`), and what the client makes of it. -/

namespace enclavia.client

def VSOCK_WRITE_CHUNK : Nat := 32 * 1024

/-- The writes on the stream, in order. -/
def write_all_vsock (bytes : List UInt8) : List (List UInt8) :=
  match bytes with
  | [] => []
  | byte :: rest =>
    (byte :: rest).take VSOCK_WRITE_CHUNK :: write_all_vsock ((byte :: rest).drop VSOCK_WRITE_CHUNK)
termination_by bytes.length
decreasing_by
  rw [List.length_drop, VSOCK_WRITE_CHUNK, List.length_cons]
  omega

/-- Both ends of a session in one direction. Nothing is encrypted that does not fit the buffer. -/
structure CborTransport (Message : Type) extends TransportState Message where
  into_writer : Message → Option (List UInt8)
  write_message : Nat → List UInt8 → Option (List UInt8)
  from_reader_into_writer : ∀ message cbor_bytes, into_writer message = some cbor_bytes →
    from_reader cbor_bytes = some message
  read_write_message : ∀ nonce payload encrypted, write_message nonce payload = some encrypted →
    encrypted.length ≤ MAXMSGLEN ∧ read_message nonce encrypted = some payload

namespace CborTransport

variable {Message : Type} (self : CborTransport Message)

def send (nonce : Nat) (message : Message) : Option (List (List UInt8)) := do
  let cbor_bytes ← self.into_writer message
  let encrypted ← self.write_message nonce cbor_bytes
  return bytes.be 4 encrypted.length :: write_all_vsock encrypted

/-- A session that sends the messages. An error of `send` ends it. -/
def send_all (nonce : Nat) : List Message → Option (List (List UInt8))
  | [] => some []
  | message :: rest => do
    let writes ← self.send nonce message
    return writes ++ (← send_all (nonce + 1) rest)

variable {self} {nonce : Nat} {message : Message} {messages : List Message} {writes : List (List UInt8)}

theorem write_all_vsock_spec (bytes : List UInt8) :
    (write_all_vsock bytes).flatten = bytes ∧ ∀ write ∈ write_all_vsock bytes, write.length ≤ VSOCK_WRITE_CHUNK := by
  fun_induction write_all_vsock bytes with
  | case1 => exact ⟨rfl, nofun⟩
  | case2 byte rest ih =>
    refine ⟨?_, List.forall_mem_cons.mpr ⟨List.length_take_le _ _, ih.2⟩⟩
    rw [List.flatten_cons, ih.1, List.take_append_drop]

theorem send_eq_some (h : self.send nonce message = some writes) :
    ∃ encrypted, writes.flatten = bytes.frame encrypted ∧ (∀ write ∈ writes, write.length ≤ VSOCK_WRITE_CHUNK) ∧
      ∀ more, try_decrypt self.toTransportState nonce (bytes.frame encrypted ++ more) =
        .ok (some (message, 4 + encrypted.length)) := by
  obtain ⟨cbor_bytes, hcbor, h⟩ := Option.bind_eq_some_iff.mp h
  obtain ⟨encrypted, hencrypted, h⟩ := Option.bind_eq_some_iff.mp h
  obtain ⟨hlength, hread⟩ := self.read_write_message nonce cbor_bytes encrypted hencrypted
  cases h
  refine ⟨encrypted, ?_, ?_, fun more => ?_⟩
  · rw [List.flatten_cons, (write_all_vsock_spec encrypted).1, bytes.frame]
  · refine List.forall_mem_cons.mpr ⟨?_, (write_all_vsock_spec encrypted).2⟩
    rw [bytes.length_be]
    decide
  · exact try_decrypt_frame_ok hlength hread (self.from_reader_into_writer message cbor_bytes hcbor)

theorem send_all_eq_some (h : self.send_all nonce messages = some writes) :
    drain self.toTransportState nonce writes.flatten = (messages, .ok ⟨nonce + messages.length, []⟩) ∧
      ∀ write ∈ writes, write.length ≤ VSOCK_WRITE_CHUNK := by
  induction messages generalizing nonce writes with
  | nil =>
    cases h
    exact ⟨drain_none rfl, nofun⟩
  | cons message rest ih =>
    obtain ⟨first, hfirst, h⟩ := Option.bind_eq_some_iff.mp h
    obtain ⟨later, hlater, h⟩ := Option.bind_eq_some_iff.mp h
    obtain ⟨encrypted, hframe, hshort, hdecrypt⟩ := send_eq_some hfirst
    obtain ⟨hdrain, hrest⟩ := ih hlater
    cases h
    refine ⟨?_, List.forall_mem_append.mpr ⟨hshort, hrest⟩⟩
    rw [List.flatten_append, hframe, drain_some (hdecrypt _), List.drop_left' (length_frame encrypted), hdrain,
      List.length_cons, Nat.add_assoc, Nat.add_comm 1]

/-- However the proxy cuts what the server has written, and wherever it stops, the client has found no error and has
dispatched the first of the messages in their order, and at the end all of them. No write is too long for vsock. -/
theorem sent_messages_arrive (hsent : self.send_all 0 messages = some writes) :
    (∀ received, received.flatten <+: writes.flatten →
      ∃ dispatched receiver, run_transport self.toTransportState received = (dispatched, .ok receiver) ∧
        dispatched <+: messages ∧
          (received.flatten = writes.flatten → dispatched = messages ∧ receiver = ⟨messages.length, []⟩)) ∧
      ∀ write ∈ writes, write.length ≤ VSOCK_WRITE_CHUNK := by
  obtain ⟨hdrain, hshort⟩ := send_all_eq_some hsent
  rw [Nat.zero_add] at hdrain
  refine ⟨?_, hshort⟩
  rintro received ⟨later, hlater⟩
  -- the rest of the bytes, in one more message, would complete what has been received
  have hall : receive self.toTransportState (run_transport self.toTransportState received) later =
      (messages, .ok ⟨messages.length, []⟩) := by
    rw [← hdrain, ← hlater, ← List.flatten_concat, ← run_transport_eq]
    unfold run_transport
    rw [List.foldl_append]
    rfl
  rcases hrun : run_transport self.toTransportState received with ⟨dispatched, e | receiver⟩
  · rw [hrun] at hall
    cases hall
  · rw [hrun] at hall
    refine ⟨dispatched, receiver, rfl, ⟨_, congrArg Prod.fst hall⟩, fun heq => ?_⟩
    rw [run_transport_eq, heq, hdrain] at hrun
    cases hrun
    exact ⟨rfl, rfl⟩

/-- Messages of one byte, with a tag of zeros in the place of encryption. -/
def plain : CborTransport UInt8 where
  toTransportState := tagged 64 (by decide)
  into_writer message := some [message]
  write_message _ payload :=
    if payload.length + 16 ≤ MAXMSGLEN then some (payload ++ List.replicate 16 0) else none
  from_reader_into_writer _ _ h := by
    cases h
    rfl
  read_write_message _ payload _ h := by
    obtain ⟨hlength, h⟩ := Option.ite_none_right_eq_some.mp h
    cases h
    have hsplit : (payload ++ List.replicate 16 (0 : UInt8)).length - 16 = payload.length := by simp
    exact ⟨by simpa using hlength, by simp only [tagged, hsplit, List.drop_left, List.take_left, if_true]⟩

/-- Both messages were sent, and the first of them has arrived. -/
theorem sent_messages_arrive_cut_short : ∃ dispatched receiver,
    run_transport plain.toTransportState [[0, 0], [0, 17, 7] ++ List.replicate 16 0 ++ [0]] =
      (dispatched, .ok receiver) ∧ dispatched <+: [7, 8] := by
  have hsent : plain.send_all 0 [7, 8] = some [[0, 0, 0, 17], 7 :: List.replicate 16 0, [0, 0, 0, 17],
      8 :: List.replicate 16 0] := by
    simp [send_all, send, plain, write_all_vsock, VSOCK_WRITE_CHUNK, MAXMSGLEN]
    decide
  obtain ⟨dispatched, receiver, hrun, hfirst, -⟩ := (sent_messages_arrive hsent).1
    [[0, 0], [0, 17, 7] ++ List.replicate 16 0 ++ [0]] (by decide)
  exact ⟨dispatched, receiver, hrun, hfirst⟩

end CborTransport

end enclavia.client
