import Enclavia.Bytes.Frames

/-! The transport task of a connection (`transport.rs`): what it makes of the WebSocket messages it receives. -/

namespace enclavia.client

/-- How the task can end; a slice that begins behind its end panics. -/
inductive Error where
  | Noise
  | Cbor
  | Panic
deriving DecidableEq

/-- The reading half of the Noise transport, with its counter, the CBOR decoder, and the number of bits of a `usize`. -/
structure TransportState (Message : Type) where
  usize_bits : Nat
  usize_bits_ge : 32 ≤ usize_bits
  read_message : Nat → List UInt8 → Option (List UInt8)
  from_reader : List UInt8 → Option Message

section Receive

variable {Message : Type} (transport : TransportState Message)

def try_decrypt (nonce : Nat) (accum : List UInt8) : Except Error (Option (Message × Nat)) :=
  if accum.length < 4 then .ok none
  else
    let encrypted_end := (4 + bytes.of_be (accum.take 4)) % 2 ^ transport.usize_bits
    if accum.length < encrypted_end then .ok none
    else if encrypted_end < 4 then .error .Panic
    else
      match transport.read_message nonce ((accum.take encrypted_end).drop 4) with
      | none => .error .Noise
      | some payload =>
        match transport.from_reader payload with
        | none => .error .Cbor
        | some message => .ok (some (message, encrypted_end))

variable {transport}

theorem le_of_try_decrypt {nonce consumed : Nat} {accum : List UInt8} {message : Message}
    (h : try_decrypt transport nonce accum = .ok (some (message, consumed))) :
    4 ≤ consumed ∧ consumed ≤ accum.length := by
  unfold try_decrypt at h
  dsimp only at h
  split at h
  · cases h
  split at h
  · cases h
  split at h
  · cases h
  split at h
  · cases h
  split at h
  · cases h
  · cases h
    omega

variable (transport)

/-- The receiving side of the task: the counter of the transport, and the bytes that are not yet decoded. -/
structure Receiver where
  nonce : Nat
  accum : List UInt8

/-- The loop after a WebSocket message: the messages that it dispatches, and how it ends. -/
def drain (nonce : Nat) (accum : List UInt8) : List Message × Except Error Receiver :=
  match h : try_decrypt transport nonce accum with
  | .error e => ([], .error e)
  | .ok none => ([], .ok ⟨nonce, accum⟩)
  | .ok (some (message, consumed)) =>
    let rest := drain (nonce + 1) (accum.drop consumed)
    (message :: rest.1, rest.2)
termination_by accum.length
decreasing_by
  have := le_of_try_decrypt h
  rw [List.length_drop]
  omega

/-- The arm of `select!` for a WebSocket message, after those before it. -/
def receive (before : List Message × Except Error Receiver) (data : List UInt8) :
    List Message × Except Error Receiver :=
  match before.2 with
  | .error e => (before.1, .error e)
  | .ok receiver =>
    let now := drain transport receiver.nonce (receiver.accum ++ data)
    (before.1 ++ now.1, now.2)

def run_transport (messages : List (List UInt8)) : List Message × Except Error Receiver :=
  messages.foldl (receive transport) ([], .ok ⟨0, []⟩)

variable {transport} {nonce consumed : Nat} {accum more content : List UInt8} {message : Message}

theorem try_decrypt_append {result : Except Error (Option (Message × Nat))}
    (h : try_decrypt transport nonce accum = result) (hready : result ≠ .ok none) :
    try_decrypt transport nonce (accum ++ more) = result := by
  unfold try_decrypt at h ⊢
  dsimp only at h ⊢
  by_cases hlen : accum.length < 4
  · rw [if_pos hlen] at h
    exact absurd h.symm hready
  by_cases hframe : accum.length < (4 + bytes.of_be (accum.take 4)) % 2 ^ transport.usize_bits
  · rw [if_neg hlen, if_pos hframe] at h
    exact absurd h.symm hready
  have htake : (accum ++ more).take 4 = accum.take 4 := List.take_append_of_le_length (by omega)
  rw [if_neg hlen, if_neg hframe] at h
  rw [htake, List.length_append, if_neg (by omega), if_neg (by omega), List.take_append_of_le_length (by omega)]
  exact h

theorem receive_nil (messages : List Message) :
    receive transport (messages, .ok ⟨0, []⟩) [] = (messages, .ok ⟨0, []⟩) := by
  unfold receive drain try_decrypt
  simp

theorem drain_error {e : Error} (h : try_decrypt transport nonce accum = .error e) :
    drain transport nonce accum = ([], .error e) := by
  rw [drain]
  split <;> simp_all

theorem drain_none (h : try_decrypt transport nonce accum = .ok none) :
    drain transport nonce accum = ([], .ok ⟨nonce, accum⟩) := by
  rw [drain]
  split <;> simp_all

theorem drain_some (h : try_decrypt transport nonce accum = .ok (some (message, consumed))) :
    drain transport nonce accum =
      (message :: (drain transport (nonce + 1) (accum.drop consumed)).1,
        (drain transport (nonce + 1) (accum.drop consumed)).2) := by
  rw [drain]
  split <;> simp_all

theorem receive_drain (dispatched : List Message) :
    receive transport (dispatched ++ (drain transport nonce accum).1, (drain transport nonce accum).2) more =
      (dispatched ++ (drain transport nonce (accum ++ more)).1, (drain transport nonce (accum ++ more)).2) := by
  fun_induction drain transport nonce accum generalizing dispatched with
  | case1 nonce accum e h =>
    rw [drain_error (try_decrypt_append h (by simp))]
    rfl
  | case2 nonce accum h => rw [receive, List.append_nil]
  | case3 nonce accum message consumed h rest ih =>
    have hdrop : (accum ++ more).drop consumed = accum.drop consumed ++ more :=
      List.drop_append_of_le_length (le_of_try_decrypt h).2
    have hih := ih (dispatched ++ [message])
    rw [drain_some (try_decrypt_append h (by simp)), hdrop]
    simp only [List.append_assoc, List.singleton_append] at hih
    exact hih

theorem receive_receive (before : List Message × Except Error Receiver) (first second : List UInt8) :
    receive transport (receive transport before first) second = receive transport before (first ++ second) := by
  obtain ⟨dispatched, last⟩ := before
  cases last with
  | error e => rfl
  | ok receiver =>
    have h := @receive_drain _ transport receiver.nonce (receiver.accum ++ first) second dispatched
    rw [List.append_assoc] at h
    exact h

theorem run_transport_eq (messages : List (List UInt8)) :
    run_transport transport messages = drain transport 0 messages.flatten := by
  have hall (data : List UInt8) : messages.foldl (receive transport) (receive transport ([], .ok ⟨0, []⟩) data) =
      receive transport ([], .ok ⟨0, []⟩) (data ++ messages.flatten) := by
    induction messages generalizing data with
    | nil => simp
    | cons first rest ih => rw [List.foldl_cons, receive_receive, ih, List.flatten_cons, List.append_assoc]
  have h := hall []
  rw [receive_nil] at h
  exact h

theorem length_drain {receiver : Receiver} (h : (drain transport nonce accum).2 = .ok receiver) :
    receiver.accum.length ≤ accum.length := by
  fun_induction drain transport nonce accum with
  | case1 => cases h
  | case2 =>
    cases h
    exact Nat.le_refl _
  | case3 nonce accum message consumed hsome rest ih =>
    have := ih h
    rw [List.length_drop] at this
    omega

/-- The largest message of the Noise protocol. -/
def MAXMSGLEN : Nat := 65535

/-- Frames that a Noise message fits, and at most as much as one of them after. -/
def Fits (stream : List UInt8) : Prop :=
  ∃ contents rest, stream = bytes.frames contents ++ rest ∧ (∀ content ∈ contents, content.length ≤ MAXMSGLEN) ∧
    rest.length ≤ 4 + MAXMSGLEN

theorem length_frame (content : List UInt8) : (bytes.frame content).length = 4 + content.length := by
  rw [bytes.frame, List.length_append, bytes.length_be]

theorem of_be_frame (hcontent : content.length ≤ MAXMSGLEN) :
    bytes.of_be ((bytes.frame content ++ more).take 4) = content.length := by
  rw [bytes.frame, List.append_assoc, List.take_left' (bytes.length_be 4 _), bytes.of_be_be]
  exact Nat.lt_of_le_of_lt hcontent (by decide)

/-- No frame of the Noise protocol is too long for a `usize`. -/
theorem mod_usize {length : Nat} (hlength : length ≤ MAXMSGLEN) :
    (4 + length) % 2 ^ transport.usize_bits = 4 + length := by
  have hword : 2 ^ 32 ≤ 2 ^ transport.usize_bits := Nat.pow_le_pow_right (by decide) transport.usize_bits_ge
  unfold MAXMSGLEN at hlength
  exact Nat.mod_eq_of_lt (by omega)

theorem try_decrypt_frame (hcontent : content.length ≤ MAXMSGLEN) :
    try_decrypt transport nonce (bytes.frame content ++ more) =
      match transport.read_message nonce content with
      | none => .error .Noise
      | some payload =>
        match transport.from_reader payload with
        | none => .error .Cbor
        | some message => .ok (some (message, 4 + content.length)) := by
  have htake : ((bytes.frame content ++ more).take (4 + content.length)).drop 4 = content := by
    rw [List.take_left' (length_frame content), bytes.frame, List.drop_left' (bytes.length_be 4 _)]
  unfold try_decrypt
  dsimp only
  rw [of_be_frame hcontent, mod_usize hcontent, List.length_append, length_frame, if_neg (by omega), if_neg (by omega),
    if_neg (by omega), htake]

theorem try_decrypt_frame_ok {payload : List UInt8} (hcontent : content.length ≤ MAXMSGLEN)
    (hread : transport.read_message nonce content = some payload)
    (hdecode : transport.from_reader payload = some message) :
    try_decrypt transport nonce (bytes.frame content ++ more) = .ok (some (message, 4 + content.length)) := by
  rw [try_decrypt_frame hcontent, hread]
  dsimp only
  rw [hdecode]

theorem try_decrypt_frame_cases (hcontent : content.length ≤ MAXMSGLEN) :
    (∃ e, try_decrypt transport nonce (bytes.frame content ++ more) = .error e) ∨
      ∃ message, try_decrypt transport nonce (bytes.frame content ++ more) =
        .ok (some (message, 4 + content.length)) := by
  rw [try_decrypt_frame hcontent]
  split
  · exact .inl ⟨_, rfl⟩
  · split
    · exact .inl ⟨_, rfl⟩
    · exact .inr ⟨_, rfl⟩

theorem drain_of_fits {contents : List (List UInt8)} {rest : List UInt8} {receiver : Receiver}
    (hcontents : ∀ content ∈ contents, content.length ≤ MAXMSGLEN) (hrest : rest.length ≤ 4 + MAXMSGLEN)
    (haccum : accum <+: bytes.frames contents ++ rest) (h : (drain transport nonce accum).2 = .ok receiver) :
    receiver.accum.length ≤ 4 + MAXMSGLEN := by
  induction contents generalizing nonce accum with
  | nil => exact Nat.le_trans (length_drain h) (Nat.le_trans haccum.length_le hrest)
  | cons content contents ih =>
    have hcontent := hcontents content List.mem_cons_self
    by_cases hshort : accum.length < 4 + content.length
    · have := length_drain h
      omega
    · rw [bytes.frames, List.flatMap_cons, List.append_assoc] at haccum
      obtain ⟨later, rfl⟩ := List.prefix_of_prefix_length_le (List.prefix_append _ _) haccum
        (by rw [length_frame]; omega)
      have hlater := (List.prefix_append_right_inj _).mp haccum
      obtain ⟨e, herror⟩ | ⟨message, hsome⟩ := @try_decrypt_frame_cases _ transport nonce later content hcontent
      · rw [drain_error herror] at h
        cases h
      · rw [drain_some hsome, List.drop_left' (length_frame content)] at h
        exact ih (fun other hother => hcontents other (List.mem_cons_of_mem content hother)) hlater h

/-- Where the bytes come as frames of the Noise protocol, never more than one of them and the last WebSocket message are
held. The messages decoded, and the error the task ends with, do not depend on how the bytes are cut. -/
theorem receive_buffer_bounded (transport : TransportState Message) (messages : List (List UInt8))
    (hfits : Fits messages.flatten) :
    (∀ front data, front ++ [data] <+: messages → ∀ receiver, (run_transport transport front).2 = .ok receiver →
      (receiver.accum ++ data).length ≤ 4 + MAXMSGLEN + data.length) ∧
    ∀ others, others.flatten = messages.flatten →
      run_transport transport others = run_transport transport messages := by
  constructor
  · intro front data hfront receiver hreceiver
    obtain ⟨contents, rest, hstream, hcontents, hrest⟩ := hfits
    rw [run_transport_eq] at hreceiver
    have hprefix : front.flatten <+: bytes.frames contents ++ rest := by
      obtain ⟨after, rfl⟩ := hfront
      rw [← hstream, List.append_assoc, List.flatten_append]
      exact List.prefix_append _ _
    have := drain_of_fits hcontents hrest hprefix hreceiver
    rw [List.length_append]
    omega
  · intro others hothers
    rw [run_transport_eq, run_transport_eq, hothers]

end Receive

/-- Messages of one byte, with a tag of zeros in the place of encryption. -/
def tagged (usize_bits : Nat) (usize_bits_ge : 32 ≤ usize_bits) : TransportState UInt8 where
  usize_bits
  usize_bits_ge
  read_message _ encrypted :=
    if encrypted.drop (encrypted.length - 16) = List.replicate 16 0 then some (encrypted.take (encrypted.length - 16))
    else none
  from_reader cbor_bytes := cbor_bytes.head?

/-- A frame in two parts is decoded as it is in one. -/
theorem receive_buffer_bounded_two_parts :
    let tag := List.replicate 16 (0 : UInt8)
    run_transport (tagged 32 (by decide)) [[0, 0], [0, 17, 7] ++ tag] = ([7], .ok ⟨1, []⟩) := by
  intro tag
  have hfits : Fits [[0, 0, 0, 17, 7] ++ tag].flatten := ⟨[7 :: tag], [], by decide, by decide, by decide⟩
  have hrun := (receive_buffer_bounded (tagged 32 (by decide)) _ hfits).2 [[0, 0], [0, 17, 7] ++ tag] (by decide)
  have hframe : try_decrypt (tagged 32 (by decide)) 0 ([0, 0, 0, 17, 7] ++ tag) = .ok (some (7, 21)) := by decide
  rw [hrun, run_transport_eq, List.flatten_singleton, drain_some hframe]
  rw [drain_none (by decide)]
  rfl

theorem drain_announced {Message : Type} {transport : TransportState Message} {body : List UInt8}
    (hbody : body.length < 2 ^ 31 - 1) :
    drain transport 0 (bytes.be 4 (2 ^ 31 - 1) ++ body) = ([], .ok ⟨0, bytes.be 4 (2 ^ 31 - 1) ++ body⟩) := by
  have hword : 2 ^ 32 ≤ 2 ^ transport.usize_bits := Nat.pow_le_pow_right (by decide) transport.usize_bits_ge
  apply drain_none
  unfold try_decrypt
  dsimp only
  rw [List.take_left' (bytes.length_be 4 _), bytes.of_be_be (by decide), List.length_append, bytes.length_be,
    Nat.mod_eq_of_lt (by omega), if_neg (by omega), if_pos (by omega)]

/-- A length that no message has is waited for, and on 32 bits one that wraps makes the task panic. -/
theorem receive_buffer_unbounded :
    let first := bytes.be 4 (2 ^ 31 - 1) ++ List.replicate 65536 0
    (∀ usize_bits hge, (run_transport (tagged usize_bits hge) [first]).2 = .ok ⟨0, first⟩) ∧
      4 + MAXMSGLEN + [(0 : UInt8)].length < (first ++ [0]).length ∧
      try_decrypt (tagged 32 (by decide)) 0 [255, 255, 255, 255] = .error .Panic := by
  intro first
  refine ⟨fun usize_bits hge => ?_, ?_, by decide⟩
  · rw [run_transport_eq, List.flatten_singleton, drain_announced (by rw [List.length_replicate]; decide)]
  · rw [List.length_append, List.length_append, bytes.length_be, List.length_replicate]
    decide

end enclavia.client
