import Enclavia.NbdClient.Moves

open interaction machine enclavia.synchronizer

namespace enclavia.nbd_client

open nbd

namespace NbdRequest

variable (data_offset : UInt64) (self : NbdRequest)

def capture : Option Nat := self.fields.capture data_offset

def cover : Option Nat := self.fields.cover data_offset

def commitment : Bytes32 := commitment_of_region (window ((self.capture data_offset).getD 0) self.payload)

def job : PinJob := ⟨self.handle, self.commitment data_offset⟩

variable {data_offset} {self}

theorem cmd_type_of_capture {off : Nat} (h : self.capture data_offset = some off) : self.cmd_type = NBD_CMD_WRITE := by
  rw [capture, RequestHeader.capture] at h
  split at h
  · assumption
  · cases h

theorem cover_eq_none (h : self.cmd_type ≠ NBD_CMD_READ) : self.cover data_offset = none := if_neg h

theorem capture_eq_none (h : self.cmd_type = NBD_CMD_READ) : self.capture data_offset = none := by
  rw [capture, RequestHeader.capture, if_neg]
  rw [show self.fields.cmd_type = NBD_CMD_READ from h]
  decide

end NbdRequest

namespace RequestStage

def listing : RequestStage → Nat
  | .listed _ | .ready _ => 1
  | _ => 0

def registering : RequestStage → Nat
  | .ready _ => 1
  | _ => 0

def unsent (received : Nat) : RequestStage → List Nat
  | .forwarded _ _ _ true => [received - 1]
  | _ => []

def limit (received : Nat) : RequestStage → Nat
  | .forwarded _ _ _ false => received - 1
  | _ => received

end RequestStage

namespace PinStage

def holds : PinStage → Option PinJob
  | .pinning job | .pinned job | .committed job | .refused job _ | .failed job _ => some job
  | _ => none

def acked : PinStage → Bool
  | .pinned _ | .committed _ => true
  | _ => false

def landed : PinStage → Nat
  | .committed _ => 1
  | _ => 0

def Refuses : PinStage → Prop
  | .refused _ _ | .failed _ _ => True
  | _ => False

def verdict : PinStage → PinStatus
  | .failed _ reason => .Failed reason
  | _ => .Pending

end PinStage

namespace ReplyPoint

def unlists : ReplyPoint → Option UInt64
  | .found header _ | .plain header _ | .streaming header _ _ _ | .watched header _ _ | .dropped header
  | .loaded header _ _ | .rejected header | .verified header _ _ | .delivering header _ _ =>
    some (parse_reply header).handle
  | _ => none

def unwatches : ReplyPoint → Option UInt64
  | .dropped header | .rejected header | .verified header _ _ | .delivering header _ _ =>
    some (parse_reply header).handle
  | _ => none

def ungates : ReplyPoint → Option UInt64
  | .passing header | .releasing header => some (parse_reply header).handle
  | _ => none

def handling : ReplyPoint → Option UInt64
  | .taken header | .found header _ | .plain header _ | .watched header _ _ | .dropped header | .loaded header _ _
  | .verified header _ _ | .unlisted header | .passing header => some (parse_reply header).handle
  | _ => none

end ReplyPoint

section Entries

variable (data_offset : UInt64) (request : Nat → Option NbdRequest)

def Lists (listed : Nat) (taken : Option UInt64) (n : Nat) (len : UInt32) : Prop :=
  ∃ q, request n = some q ∧ q.cmd_type = NBD_CMD_READ ∧ n < listed ∧ taken ≠ some q.handle ∧ len = q.length

def Watches (registered : Nat) (taken : Option UInt64) (floors : Nat → Nat) (n : Nat) (read : ReadWatch) : Prop :=
  ∃ q, request n = some q ∧ q.cover data_offset = some read.payload_offset ∧ n < registered ∧
    taken ≠ some q.handle ∧ read.accept_from_seq = floors n

def Gates (registered : Nat) (taken : Option UInt64) (status : Nat → PinStatus) (n : Nat) (entry : PinStatus) : Prop :=
  ∃ q, request n = some q ∧ (q.capture data_offset).isSome ∧ n < registered ∧ taken ≠ some q.handle ∧
    entry = status n

def Pends (begun : List Nat) (committed n : Nat) (entry : Nat × Bytes32) : Prop :=
  ∃ q i, request n = some q ∧ begun[i]? = some n ∧ committed ≤ i ∧
    entry = ((i + 1) % UInt64.size, q.commitment data_offset)

def content (boot_commitment : Bytes32) (begun : List Nat) : Nat → Bytes32
  | 0 => boot_commitment
  | i + 1 =>
    match begun[i]?.bind request with
    | some q => q.commitment data_offset
    | none => boot_commitment

end Entries

def status (settled : List Nat) (job : Option Nat) (pin : PinStage) (n : Nat) : PinStatus :=
  if n ∈ settled then .Ok else if job = some n then pin.verdict else .Pending

def stream (requests : List Issued) : List UInt8 :=
  requests.flatMap fun issued => issued.request.header ++ issued.request.payload

def Serving (data_offset : UInt64) (kernel : Kernel) (unread : List UInt8) (received : Nat) : RequestStage → Prop
  | .waiting => received ≤ kernel.requests.length ∧ unread = stream (kernel.requests.drop received)
  | .parsed header => ∃ q, kernel.request received = some q ∧ header = q.header ∧
      unread = q.payload ++ stream (kernel.requests.drop (received + 1))
  | .listed header => ∃ q, kernel.request received = some q ∧ header = q.header ∧
      unread = q.payload ++ stream (kernel.requests.drop (received + 1)) ∧ q.cmd_type = NBD_CMD_READ
  | .ready header => ∃ q, kernel.request received = some q ∧ header = q.header ∧
      unread = q.payload ++ stream (kernel.requests.drop (received + 1)) ∧
      ((q.cover data_offset).isSome ∨ (q.capture data_offset).isSome)
  | .forwarded header read _ _ => ∃ n q rest, received = n + 1 ∧ kernel.request n = some q ∧ header = q.header ∧
      q.payload = read ++ rest ∧ unread = rest ++ stream (kernel.requests.drop received)
  | .queued _ _ | .served _ _ =>
    received ≤ kernel.requests.length ∧ unread = stream (kernel.requests.drop received)

/-- The gated writes on their way from the request proxy through the queue and the pin actor. -/
structure Queued (data_offset : UInt64) (request : Nat → Option NbdRequest) (limit : Nat)
    (begun settled : List Nat) (job : Option Nat) (jobs : List (Nat × PinJob)) (unsent : List Nat) (pin : PinStage)
    (pins : List (Nat × Bytes32)) (refusals : List Nat) : Prop where
  order : begun = settled ++ (job.toList ++ (jobs.map Prod.fst ++ unsent))
  sorted : begun.Pairwise (· < ·)
  bounded : ∀ n ∈ begun, n < limit
  gated : ∀ n ∈ begun, ∃ q, request n = some q ∧ (q.capture data_offset).isSome
  jobs : ∀ entry ∈ jobs, ∃ q, request entry.1 = some q ∧ entry.2 = q.job data_offset
  holds : ∀ n, job = some n → ∃ q, request n = some q ∧ pin.holds = some (q.job data_offset)
  busy : pin.holds.isSome → job.isSome
  pinned : ∀ n, n ∈ settled ∨ pin.acked = true ∧ job = some n →
    ∃ q, request n = some q ∧ (n, q.commitment data_offset) ∈ pins
  refused : ∀ n ∈ refusals, job = some n ∧ pin.Refuses

/-- As long as the sequence numbers have not wrapped, the history holds the newest contents, and all that a watched
read may still be answered with. -/
structure Remembers (content : Nat → Bytes32) (begun : List Nat) (committed : Nat) (watch : RegionWatch) : Prop where
  history : begun.length < UInt64.size → ∃ lo ≤ committed,
    watch.history = (List.range' lo (committed + 1 - lo)).map (fun i => (i, content i)) ∧
    ∀ (h : UInt64) (read : ReadWatch), watch.reads[h]? = some read → lo ≤ read.accept_from_seq
  next_seq : watch.next_seq = (begun.length + 1) % UInt64.size

def Floored (data_offset : UInt64) (kernel : Kernel) (registered : Nat) (floors : Nat → Nat) (begun : List Nat)
    (committed : Nat) : Prop :=
  begun.length < UInt64.size → ∀ n issued, kernel.requests[n]? = some issued → n < registered →
    (issued.request.cover data_offset).isSome →
    floors n ≤ committed ∧ ∀ answer ∈ kernel.answers.take issued.known, ∀ q, kernel.request answer.request = some q →
      (q.capture data_offset).isSome → answer.request ∈ begun.take (floors n)

def Fresh (content : Nat → Bytes32) (begun : List Nat) (floor payload_offset : Nat) (payload : List UInt8) : Prop :=
  begun.length < UInt64.size →
    ∃ i, floor ≤ i ∧ i ≤ begun.length ∧ content i = commitment_of_region (window payload_offset payload)

structure Replies (kernel : Kernel) (received : Nat) (header : List UInt8) (n : Nat) (q : NbdRequest) : Prop where
  user : kernel.User (parse_reply header).handle n
  request : kernel.request n = some q
  forwarded : n < received
  read : q.cmd_type = NBD_CMD_READ

def AtHeader (kernel : Kernel) : Prop := kernel.reading = none ∧ kernel.got = []

def Replying (data_offset : UInt64) (kernel : Kernel) (received : Nat) (floors : Nat → Nat) (content : Nat → Bytes32)
    (begun settled : List Nat) : ReplyPoint → Prop
  | .taken header => AtHeader kernel ∧ header.length = 16 ∧
      ∀ n, kernel.User (parse_reply header).handle n → n < received
  | .found header len => AtHeader kernel ∧ header.length = 16 ∧ ∃ n q, Replies kernel received header n q ∧
      len = q.length
  | .plain header len => AtHeader kernel ∧ header.length = 16 ∧ ∃ n q, Replies kernel received header n q ∧
      len = q.length ∧ q.cover data_offset = none
  | .streaming header len read written => ∃ n q, Replies kernel received header n q ∧ len = q.length ∧
      q.cover data_offset = none ∧ kernel.reading = some n ∧ kernel.got = written ∧ written.length < len.toNat ∧
      read.length ≤ len.toNat
  | .watched header len payload_offset => AtHeader kernel ∧ header.length = 16 ∧ ∃ n q,
      Replies kernel received header n q ∧ len = q.length ∧ q.cover data_offset = some payload_offset
  | .dropped header => AtHeader kernel ∧ header.length = 16 ∧ (parse_reply header).error ≠ 0 ∧ ∃ n q,
      Replies kernel received header n q
  | .loaded header payload_offset payload => AtHeader kernel ∧ header.length = 16 ∧ (parse_reply header).error = 0 ∧
      ∃ n q, Replies kernel received header n q ∧ q.cover data_offset = some payload_offset ∧
        payload.length = q.length.toNat
  | .verified header payload_offset payload => AtHeader kernel ∧ header.length = 16 ∧ (parse_reply header).error = 0 ∧
      ∃ n q, Replies kernel received header n q ∧ q.cover data_offset = some payload_offset ∧
        payload.length = q.length.toNat ∧ Fresh content begun (floors n) payload_offset payload
  | .delivering header payload_offset payload => ∃ n q, Replies kernel received header n q ∧
      q.cover data_offset = some payload_offset ∧ payload.length = q.length.toNat ∧
      Fresh content begun (floors n) payload_offset payload ∧ kernel.reading = some n ∧ kernel.got = []
  | .unlisted header => AtHeader kernel ∧ header.length = 16 ∧
      ∀ n q, kernel.User (parse_reply header).handle n → kernel.request n = some q →
        n < received ∧ q.cmd_type ≠ NBD_CMD_READ
  | .passing header => AtHeader kernel ∧ header.length = 16 ∧
      ∀ n q, kernel.User (parse_reply header).handle n → kernel.request n = some q →
        n < received ∧ q.cmd_type ≠ NBD_CMD_READ ∧ ((q.capture data_offset).isSome → n ∈ settled)
  | .releasing header => AtHeader kernel ∧ header.length = 16 ∧
      ∃ n q, kernel.User (parse_reply header).handle n ∧ kernel.request n = some q ∧ n < received ∧
        (q.capture data_offset).isSome ∧ n ∈ settled
  | .rejected header => AtHeader kernel ∧ ∃ n q, Replies kernel received header n q
  | .selecting | .flushing | .released | .written | .done => AtHeader kernel

structure Answered (data_offset : UInt64) (request : Nat → Option NbdRequest) (received : Nat) (floors : Nat → Nat)
    (content : Nat → Bytes32) (begun settled : List Nat) (answer : Answer) : Prop where
  forwarded : answer.request < received
  settled : ∀ q, request answer.request = some q → (q.capture data_offset).isSome → answer.request ∈ settled
  fresh : ∀ q payload_offset, request answer.request = some q → q.cover data_offset = some payload_offset →
    answer.error = 0 → Fresh content begun (floors answer.request) payload_offset answer.payload

def Parked (stashed : Stash) : Prop :=
  ∀ h header, stashed[h]? = some header → header.length = 16 ∧ (parse_reply header).handle = h ∧
    (parse_reply header).error = 0

namespace Shared

variable (data_offset : UInt64) (boot_commitment : Bytes32) (s : Shared)

def listed : Nat := s.received + s.request.listing

def registered : Nat := s.received + s.request.registering

def committed : Nat := s.settled.length + s.pin.landed

def content : Nat → Bytes32 := nbd_client.content data_offset s.kernel.request boot_commitment s.begun

/-- The invariant of a client with a host that replies to no request before it has it. -/
structure Inv : Prop where
  leases : Leases s.kernel.User
  known : ∀ issued ∈ s.kernel.requests, issued.known ≤ s.kernel.answers.length
  serving : Serving data_offset s.kernel s.unread s.received s.request
  queued : Queued data_offset s.kernel.request (s.request.limit s.received) s.begun s.settled s.job s.jobs
    (s.request.unsent s.received) s.pin s.pins s.refusals
  remembers : Remembers (s.content data_offset boot_commitment) s.begun s.committed s.watch
  floored : Floored data_offset s.kernel s.registered s.floors s.begun s.committed
  inflight : Holds s.inflight s.kernel.User (Lists s.kernel.request s.listed s.reply.point.unlists)
  reads : Holds s.watch.reads s.kernel.User
    (Watches data_offset s.kernel.request s.registered s.reply.point.unwatches s.floors)
  gate : Holds s.gate.inner s.kernel.User
    (Gates data_offset s.kernel.request s.registered s.reply.point.ungates (status s.settled s.job s.pin))
  pending : Holds s.watch.pending s.kernel.User (Pends data_offset s.kernel.request s.begun s.committed)
  replying : Replying data_offset s.kernel s.received s.floors (s.content data_offset boot_commitment) s.begun
    s.settled s.reply.point
  answered : ∀ answer ∈ s.kernel.answers, Answered data_offset s.kernel.request s.received s.floors
    (s.content data_offset boot_commitment) s.begun s.settled answer
  parked : Parked s.reply.stashed

end Shared

end enclavia.nbd_client
