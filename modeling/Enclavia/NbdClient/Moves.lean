import Enclavia.NbdClient.Proxy

open interaction enclavia.synchronizer

namespace enclavia.nbd_client

open nbd

def Label.Quiet : Label → Prop
  | .issue _ => False
  | .request ⟨.write_header _, .ok ()⟩ => False
  | .request ⟨.write_payload _, .ok ()⟩ => False
  | .reply ⟨.select _ _, .read (.ok (_ :: _))⟩ => False
  | .reply ⟨.read_exact _, .ok _⟩ => False
  | _ => True

inductive RequestStage.Forwards (data_offset : UInt64) (header : List UInt8) : RequestStage → Prop
  | parsed (hread : (parse_request header).cmd_type ≠ NBD_CMD_READ)
      (hspares : (parse_request header).Spares data_offset) :
      Forwards data_offset header (.parsed header)
  | listed (hcover : (parse_request header).cover data_offset = none) : Forwards data_offset header (.listed header)
  | ready : Forwards data_offset header (.ready header)

inductive Move (data_offset : UInt64) (s : Shared) : Label → Shared → Prop
  | stay {l : Label} (hquiet : l.Quiet) : Move data_offset s l s
  | issue {r : NbdRequest} (hfree : ∀ n, ¬s.kernel.User r.handle n) :
      Move data_offset s (.issue r)
        { s with kernel := s.kernel.issue r, unread := s.unread ++ (r.header ++ r.payload) }
  -- The request proxy.
  | read_header {l : Label} (hquiet : l.Quiet) (hstage : s.request = .waiting) (hready : 28 ≤ s.unread.length) :
      Move data_offset s l { s with unread := s.unread.drop 28, request := .parsed (s.unread.take 28) }
  | list_read {l : Label} {b : List UInt8} (hquiet : l.Quiet) (hstage : s.request = .parsed b)
      (hread : (parse_request b).cmd_type = NBD_CMD_READ) :
      Move data_offset s l { s with
        inflight := s.inflight.insert (parse_request b).handle (parse_request b).length
        request := .listed b }
  | watch_read {l : Label} {b : List UInt8} {o : Nat} (hquiet : l.Quiet) (hstage : s.request = .listed b)
      (hcover : (parse_request b).cover data_offset = some o) :
      Move data_offset s l { s with
        watch := s.watch.watch_read (parse_request b).handle o
        floors := Function.update s.floors s.received s.watch.newest
        request := .ready b }
  | gate_begin {l : Label} {b : List UInt8} (hquiet : l.Quiet) (hstage : s.request = .parsed b)
      (hcapture : ((parse_request b).capture data_offset).isSome) :
      Move data_offset s l { s with gate := s.gate.begin (parse_request b).handle, request := .ready b }
  | forward {b : List UInt8} (hstage : s.request.Forwards data_offset b) :
      Move data_offset s (.request ⟨.write_header b, .ok ()⟩)
        { s with received := s.received + 1, request := .forwarded b [] [] false }
  | read_payload {l : Label} {b r : List UInt8} {g : Bool} {n : Nat} (hquiet : l.Quiet)
      (hstage : s.request = .forwarded b r r g) (hready : n ≤ s.unread.length)
      (hfits : r.length + n ≤ (parse_request b).payload_length) :
      Move data_offset s l { s with
        unread := s.unread.drop n
        request := .forwarded b (r ++ s.unread.take n) r g }
  | begin_pending {l : Label} {b r w : List UInt8} {o : Nat} (hquiet : l.Quiet)
      (hstage : s.request = .forwarded b r w false) (hcapture : (parse_request b).capture data_offset = some o)
      (hcomplete : o + SB_REGION_LEN ≤ r.length) :
      Move data_offset s l { s with
        watch := s.watch.begin_pending (parse_request b).handle (commitment_of_region (window o r))
        begun := s.begun ++ [s.received - 1]
        request := .forwarded b r w true }
  | write_payload {b r w c : List UInt8} {g : Bool} (hstage : s.request = .forwarded b r w g) (hchunk : w ++ c = r)
      (hbegun : ∀ o, (parse_request b).capture data_offset = some o → o + SB_REGION_LEN ≤ r.length → g = true) :
      Move data_offset s (.request ⟨.write_payload c, .ok ()⟩) { s with request := .forwarded b r r g }
  | send {l : Label} {b r : List UInt8} {o : Nat} (hquiet : l.Quiet) (hstage : s.request = .forwarded b r r true)
      (hall : r.length = (parse_request b).payload_length)
      (hcapture : (parse_request b).capture data_offset = some o) :
      Move data_offset s l { s with
        jobs := s.jobs ++ [(s.received - 1, ⟨(parse_request b).handle, commitment_of_region (window o r)⟩)]
        request := .queued b r }
  | serve_plain {l : Label} {b r : List UInt8} {g : Bool} (hquiet : l.Quiet) (hstage : s.request = .forwarded b r r g)
      (hall : r.length = (parse_request b).payload_length) (hplain : (parse_request b).capture data_offset = none) :
      Move data_offset s l { s with request := .served b r }
  | serve_gated {l : Label} {b r : List UInt8} (hquiet : l.Quiet) (hstage : s.request = .queued b r) :
      Move data_offset s l { s with request := .served b r }
  | next_request {l : Label} {b r : List UInt8} (hquiet : l.Quiet) (hstage : s.request = .served b r) :
      Move data_offset s l { s with request := .waiting }
  -- The pin actor.
  | recv {l : Label} {n : Nat} {j : PinJob} {t : List (Nat × PinJob)} (hquiet : l.Quiet) (hstage : s.pin = .idle)
      (hjobs : s.jobs = (n, j) :: t) :
      Move data_offset s l { s with jobs := t, job := some n, pin := .pinning j }
  | pin_ok {l : Label} {n : Nat} {j : PinJob} (hquiet : l.Quiet) (hstage : s.pin = .pinning j)
      (hjob : s.job = some n) :
      Move data_offset s l { s with pins := s.pins ++ [(n, j.commitment)], pin := .pinned j }
  | pin_refused {l : Label} {n : Nat} {j : PinJob} {m : String} (hquiet : l.Quiet) (hstage : s.pin = .pinning j)
      (hjob : s.job = some n) :
      Move data_offset s l { s with refusals := s.refusals ++ [n], pin := .refused j m }
  | commit {l : Label} {j : PinJob} (hquiet : l.Quiet) (hstage : s.pin = .pinned j) :
      Move data_offset s l { s with watch := s.watch.commit j.handle, pin := .committed j }
  | finish_ok {l : Label} {j : PinJob} (hquiet : l.Quiet) (hstage : s.pin = .committed j) :
      Move data_offset s l { s with
        gate := s.gate.finish_ok j.handle, settled := s.settled ++ s.job.toList, job := none, pin := .finished }
  | finish_err {l : Label} {j : PinJob} {m : String} (hquiet : l.Quiet) (hstage : s.pin = .refused j m) :
      Move data_offset s l { s with gate := s.gate.finish_err j.handle m, pin := .failed j m }
  | nudge {l : Label} (hquiet : l.Quiet) (hstage : s.pin = .finished) :
      Move data_offset s l { s with nudges := s.nudges + 1, pin := .idle }
  | nudge_failed {l : Label} (hquiet : l.Quiet) : Move data_offset s l { s with nudges := s.nudges + 1 }
  -- The reply pump.
  | take_part {n : Nat} {o : Bool} {c b : List UInt8} (hpoint : s.reply.point = .selecting)
      (hpart : b = s.reply.header ++ c ∨ b = []) :
      Move data_offset s (.reply ⟨.select n o, .read (.ok c)⟩) { s with reply.header := b }
  | take_header {n : Nat} {o : Bool} {c b : List UInt8} (hpoint : s.reply.point = .selecting) (hsome : c ≠ [])
      (hheader : s.reply.header ++ c = b) (hlength : b.length = 16)
      (hmagic : (parse_reply b).magic = NBD_SIMPLE_REPLY_MAGIC) :
      Move data_offset s (.reply ⟨.select n o, .read (.ok c)⟩)
        { s with reply := ⟨.taken b, [], s.reply.stashed⟩ }
  | nudged {l : Label} (hquiet : l.Quiet) (hpoint : s.reply.point = .selecting) :
      Move data_offset s l { s with nudges := s.nudges - 1, reply.point := .flushing }
  | find {l : Label} {b : List UInt8} {n : UInt32} (hquiet : l.Quiet) (hpoint : s.reply.point = .taken b)
      (hlisted : s.inflight[(parse_reply b).handle]? = some n) :
      Move data_offset s l { s with
        inflight := s.inflight.erase (parse_reply b).handle
        reply.point := .found b n }
  | miss {l : Label} {b : List UInt8} (hquiet : l.Quiet) (hpoint : s.reply.point = .taken b)
      (hunlisted : s.inflight[(parse_reply b).handle]? = none) :
      Move data_offset s l { s with
        inflight := s.inflight.erase (parse_reply b).handle
        reply.point := .unlisted b }
  | see_watched {l : Label} {b : List UInt8} {n : UInt32} {w : ReadWatch} (hquiet : l.Quiet)
      (hpoint : s.reply.point = .found b n) (hwatched : s.watch.reads[(parse_reply b).handle]? = some w) :
      Move data_offset s l { s with reply.point := .watched b n w.payload_offset }
  | see_plain {l : Label} {b : List UInt8} {n : UInt32} (hquiet : l.Quiet) (hpoint : s.reply.point = .found b n)
      (hunwatched : s.watch.reads[(parse_reply b).handle]? = none) :
      Move data_offset s l { s with reply.point := .plain b n }
  | write_plain {l : Label} {b : List UInt8} {n : UInt32} {p : ReplyPoint} (hquiet : l.Quiet)
      (hpoint : s.reply.point = .plain b n)
      (hnext : (if (parse_reply b).error = 0 ∧ n ≠ 0 then .streaming b n [] [] else .written) = p) :
      Move data_offset s l { s with kernel := s.kernel.receive b, reply.point := p }
  | stream_read {b r c : List UInt8} {n : UInt32} {m : Nat} (hpoint : s.reply.point = .streaming b n r r)
      (hlength : c.length = m) (hfits : r.length + m ≤ n.toNat) :
      Move data_offset s (.reply ⟨.read_exact m, .ok c⟩) { s with reply.point := .streaming b n (r ++ c) r }
  | stream_write {l : Label} {b r w c : List UInt8} {n : UInt32} {p : ReplyPoint} (hquiet : l.Quiet)
      (hpoint : s.reply.point = .streaming b n r w) (hchunk : w ++ c = r) (hsome : c ≠ [])
      (hnext : (if r.length = n.toNat then .written else .streaming b n r r) = p) :
      Move data_offset s l { s with kernel := s.kernel.receive c, reply.point := p }
  | drop_read {l : Label} {b : List UInt8} {n : UInt32} {o : Nat} (hquiet : l.Quiet)
      (hpoint : s.reply.point = .watched b n o) (herror : (parse_reply b).error ≠ 0) :
      Move data_offset s l { s with watch := s.watch.drop_read (parse_reply b).handle, reply.point := .dropped b }
  | load {b p : List UInt8} {n : UInt32} {o m : Nat} (hpoint : s.reply.point = .watched b n o)
      (herror : (parse_reply b).error = 0) (hm : m = n.toNat) (hlength : p.length = m) :
      Move data_offset s (.reply ⟨.read_exact m, .ok p⟩) { s with reply.point := .loaded b o p }
  | write_dropped {l : Label} {b : List UInt8} (hquiet : l.Quiet) (hpoint : s.reply.point = .dropped b) :
      Move data_offset s l { s with kernel := s.kernel.receive b, reply.point := .written }
  | verify {l : Label} {b p : List UInt8} {o : Nat} (hquiet : l.Quiet) (hpoint : s.reply.point = .loaded b o p)
      (hok : (s.watch.verify_read (parse_reply b).handle (window o p)).1 = .ok ()) :
      Move data_offset s l { s with
        watch := (s.watch.verify_read (parse_reply b).handle (window o p)).2
        reply.point := .verified b o p }
  | reject {l : Label} {b p : List UInt8} {o : Nat} (hquiet : l.Quiet) (hpoint : s.reply.point = .loaded b o p)
      (herror : (s.watch.verify_read (parse_reply b).handle (window o p)).1 ≠ .ok ()) :
      Move data_offset s l { s with
        watch := (s.watch.verify_read (parse_reply b).handle (window o p)).2
        reply.point := .rejected b }
  | write_verified {l : Label} {b p : List UInt8} {o : Nat} (hquiet : l.Quiet)
      (hpoint : s.reply.point = .verified b o p) :
      Move data_offset s l { s with kernel := s.kernel.receive b, reply.point := .delivering b o p }
  | deliver {l : Label} {b p : List UInt8} {o : Nat} (hquiet : l.Quiet) (hpoint : s.reply.point = .delivering b o p) :
      Move data_offset s l { s with kernel := s.kernel.receive p, reply.point := .written }
  | pass_ungated {l : Label} {b : List UInt8} (hquiet : l.Quiet) (hpoint : s.reply.point = .unlisted b)
      (hungated : s.gate.inner[(parse_reply b).handle]? = none) :
      Move data_offset s l { s with reply.point := .passing b }
  | pass {l : Label} {b : List UInt8} (hquiet : l.Quiet) (hpoint : s.reply.point = .unlisted b)
      (hgate : s.gate.inner[(parse_reply b).handle]? = some .Ok) :
      Move data_offset s l { s with
        gate := ⟨s.gate.inner.erase (parse_reply b).handle⟩
        reply.point := .passing b }
  | hold {l : Label} {b : List UInt8} (hquiet : l.Quiet) (hpoint : s.reply.point = .unlisted b)
      (hgate : s.gate.inner[(parse_reply b).handle]? = some .Pending) (herror : (parse_reply b).error = 0) :
      Move data_offset s l { s with
        reply.point := .done
        reply.stashed := s.reply.stashed.insert (parse_reply b).handle b }
  | write_passing {l : Label} {b : List UInt8} (hquiet : l.Quiet) (hpoint : s.reply.point = .passing b) :
      Move data_offset s l { s with kernel := s.kernel.receive b, reply.point := .written }
  | release {l : Label} {h : UInt64} {b : List UInt8} (hquiet : l.Quiet) (hpoint : s.reply.point = .flushing)
      (hstashed : s.reply.stashed[h]? = some b) (hgate : s.gate.inner[h]? = some .Ok) :
      Move data_offset s l { s with
        gate := ⟨s.gate.inner.erase h⟩
        reply.point := .releasing b
        reply.stashed := s.reply.stashed.erase h }
  | write_released {l : Label} {b : List UInt8} (hquiet : l.Quiet) (hpoint : s.reply.point = .releasing b) :
      Move data_offset s l { s with kernel := s.kernel.receive b, reply.point := .released }
  | flushed_released {l : Label} (hquiet : l.Quiet) (hpoint : s.reply.point = .released) :
      Move data_offset s l { s with reply.point := .flushing }
  | flushed {l : Label} (hquiet : l.Quiet) (hpoint : s.reply.point = .written) :
      Move data_offset s l { s with reply.point := .done }
  | next_reply {l : Label} (hquiet : l.Quiet) (hrest : ReplyStage.AtRest s.reply.point) :
      Move data_offset s l { s with reply.point := .selecting }

variable {data_offset : UInt64} {s t : Shared} {gone : Prop} {e : RequestEffect} {a : RequestAnswer e}

theorem Move.stay_request (hstay : ∀ stage : RequestStage, stage.advance e a = stage)
    (hquiet : Label.Quiet (.request ⟨e, a⟩)) :
    Move data_offset s (.request ⟨e, a⟩) { s with request := s.request.advance e a } := by
  rw [hstay]
  exact .stay hquiet

theorem Move.stay_reply {e : ReplyEffect} {a : ReplyAnswer e} (hstay : s.reply.advance e a = s.reply)
    (hquiet : Label.Quiet (.reply ⟨e, a⟩)) :
    Move data_offset s (.reply ⟨e, a⟩) { s with reply := s.reply.advance e a } := by
  rw [hstay]
  exact .stay hquiet

theorem RequestPerforms.move (hperforms : RequestPerforms gone s e a t) (hallowed : s.request.allowed data_offset e) :
    Move data_offset s (.request ⟨e, a⟩) { t with request := t.request.advance e a } := by
  obtain ⟨kernel, unread, inflight, gate, watch, jobs, nudges, received, floors, begun, job, settled, pins, refusals,
    request, pin, reply⟩ := s
  cases hperforms with
  | read_exact hready =>
    cases request with
    | waiting =>
      cases hallowed
      exact .read_header trivial rfl hready
    | forwarded header read written begun =>
      obtain ⟨rfl, hfits⟩ := hallowed
      exact .read_payload trivial rfl hready hfits
    | _ => exact hallowed.elim
  | read_fails | header_fails | payload_fails | send_refused | flush_fails =>
    exact .stay_request (by rintro ⟨⟩ <;> rfl) trivial
  | inflight_insert =>
    cases request with
    | parsed header =>
      obtain ⟨hread, rfl, rfl⟩ := hallowed
      exact .list_read trivial rfl hread
    | _ => exact hallowed.elim
  | watch_read =>
    cases request with
    | listed header =>
      obtain ⟨rfl, hcover⟩ := hallowed
      exact .watch_read trivial rfl hcover
    | _ => exact hallowed.elim
  | gate_begin =>
    cases request with
    | parsed header =>
      obtain ⟨rfl, hcapture⟩ := hallowed
      exact .gate_begin trivial rfl hcapture
    | _ => exact hallowed.elim
  | write_header =>
    cases request with
    | parsed header =>
      obtain ⟨rfl, hread, hspares⟩ := hallowed
      exact .forward (.parsed hread hspares)
    | listed header =>
      obtain ⟨rfl, hcover⟩ := hallowed
      exact .forward (.listed hcover)
    | ready header =>
      cases hallowed
      exact .forward (.ready)
    | _ => exact hallowed.elim
  | write_payload =>
    cases request with
    | forwarded header read written begun =>
      obtain ⟨rfl, hbegun⟩ := hallowed
      exact .write_payload rfl rfl hbegun
    | _ => exact hallowed.elim
  | begin_pending =>
    cases request with
    | forwarded header read written begun =>
      obtain ⟨rfl, rfl, payload_offset, hcapture, hcomplete, rfl⟩ := hallowed
      exact .begin_pending trivial rfl hcapture hcomplete
    | _ => exact hallowed.elim
  | send hroom =>
    cases request with
    | forwarded header read written begun =>
      obtain ⟨rfl, rfl, hall, payload_offset, hcapture, rfl⟩ := hallowed
      exact .send trivial rfl hall hcapture
    | _ => exact hallowed.elim
  | flush =>
    cases request with
    | forwarded header read written begun =>
      obtain ⟨rfl, hall, hplain⟩ := hallowed
      exact .serve_plain trivial rfl hall hplain
    | queued header read => exact .serve_gated trivial rfl
    | _ => exact hallowed.elim

theorem PinPerforms.move {e : PinEffect} {a : PinAnswer e} (hperforms : PinPerforms gone s e a t)
    (hallowed : s.pin.allowed e) : Move data_offset s (.pin ⟨e, a⟩) { t with pin := t.pin.advance e a } := by
  obtain ⟨kernel, unread, inflight, gate, watch, jobs, nudges, received, floors, begun, job, settled, pins, refusals,
    request, pin, reply⟩ := s
  cases hperforms with
  | recv hjobs =>
    cases pin with
    | idle => exact .recv trivial rfl hjobs
    | _ => exact hallowed.elim
  | recv_closed =>
    cases pin <;> exact .stay trivial
  | pin_ok hjob =>
    cases pin with
    | pinning job =>
      cases hallowed
      exact .pin_ok trivial rfl hjob
    | _ => exact hallowed.elim
  | pin_refused hjob =>
    cases pin with
    | pinning job => exact .pin_refused trivial rfl hjob
    | _ => exact hallowed.elim
  | commit =>
    cases pin with
    | pinned job =>
      cases hallowed
      exact .commit trivial rfl
    | _ => exact hallowed.elim
  | finish_ok =>
    cases pin with
    | committed job =>
      cases hallowed
      exact .finish_ok trivial rfl
    | _ => exact hallowed.elim
  | finish_err =>
    cases pin with
    | refused job reason =>
      obtain ⟨rfl, rfl⟩ := hallowed
      exact .finish_err trivial rfl
    | _ => exact hallowed.elim
  | nudge =>
    cases pin with
    | finished => exact .nudge trivial rfl
    | failed job reason => exact .nudge_failed trivial
    | _ => exact hallowed.elim

theorem ReplyPerforms.move {e : ReplyEffect} {a : ReplyAnswer e} (hperforms : ReplyPerforms gone s e a t)
    (hallowed : s.reply.allowed e) :
    Move data_offset s (.reply ⟨e, a⟩) { t with reply := t.reply.advance e a } := by
  obtain ⟨kernel, unread, inflight, gate, watch, jobs, nudges, received, floors, begun, job, settled, pins, refusals,
    request, pin, point, rest, stashed⟩ := s
  cases hperforms with
  | @select_read n o bytes hlength =>
    cases point with
    | selecting =>
      obtain ⟨hrest, rfl⟩ := hallowed
      cases bytes with
      | nil => exact .stay trivial
      | cons byte bytes =>
        simp only [ReplyStage.advance, ReplyStage.take]
        split
        · exact .take_part rfl (.inl rfl)
        · next hwhole =>
          split
          · exact .take_part rfl (.inr rfl)
          · next hmagic =>
            refine .take_header rfl (List.cons_ne_nil _ _) rfl ?_ (not_not.mp hmagic)
            rw [List.length_append] at hwhole ⊢
            omega
    | _ => exact hallowed.elim
  | select_fails | select_closed | read_fails | header_fails | payload_fails | flush_fails =>
    exact .stay_reply (by cases point <;> rfl) trivial
  | select_nudge hnudges =>
    cases point with
    | selecting => exact .nudged trivial rfl
    | _ => exact hallowed.elim
  | keys hperm => exact .stay_reply (by cases point <;> rfl) trivial
  | inflight_remove =>
    cases point with
    | taken header =>
      cases hallowed
      cases hlisted : inflight[(parse_reply header).handle]? with
      | none => exact .miss trivial rfl hlisted
      | some len => exact .find trivial rfl hlisted
    | _ => exact hallowed.elim
  | read_payload_offset =>
    cases point with
    | found header len =>
      cases hallowed
      rw [RegionWatch.read_payload_offset]
      cases hwatched : watch.reads[(parse_reply header).handle]? with
      | none => exact .see_plain trivial rfl hwatched
      | some read => exact .see_watched trivial rfl hwatched
    | _ => exact hallowed.elim
  | drop_read =>
    cases point with
    | watched header len payload_offset =>
      obtain ⟨rfl, herror⟩ := hallowed
      exact .drop_read trivial rfl herror
    | _ => exact hallowed.elim
  | read_exact hlength =>
    cases point with
    | streaming header len read written =>
      obtain ⟨rfl, -, hfits⟩ := hallowed
      exact .stream_read rfl hlength hfits
    | watched header len payload_offset =>
      obtain ⟨rfl, herror⟩ := hallowed
      exact .load rfl herror rfl hlength
    | _ => exact hallowed.elim
  | verify_read =>
    cases point with
    | loaded header payload_offset payload =>
      obtain ⟨rfl, rfl⟩ := hallowed
      cases hverify : (watch.verify_read (parse_reply header).handle (window payload_offset payload)).1 with
      | ok => exact .verify trivial rfl hverify
      | error error =>
        refine .reject trivial rfl ?_
        rw [hverify]
        simp
    | _ => exact hallowed.elim
  | gate_check =>
    cases point with
    | unlisted header =>
      cases hallowed
      rw [PinGate.check]
      cases hgate : gate.inner[(parse_reply header).handle]? with
      | none => exact .pass_ungated trivial rfl hgate
      | some status =>
        cases status with
        | Pending =>
          simp only [ReplyStage.advance]
          split
          · next herror => exact .hold trivial rfl hgate herror
          · exact .stay trivial
        | Ok => exact .pass trivial rfl hgate
        | Failed reason => exact .stay trivial
    | flushing =>
      have hmem : _ ∈ stashed := hallowed
      rw [PinGate.check]
      split
      · exact .stay trivial
      · exact .stay trivial
      · next hgate =>
        obtain ⟨header, hstashed⟩ := Option.isSome_iff_exists.mp (Std.ExtTreeMap.isSome_getElem?_iff_mem.mpr hmem)
        simp only [ReplyStage.advance, hstashed]
        exact .release trivial rfl hstashed hgate
      · exact .stay trivial
    | _ => exact hallowed.elim
  | write_header =>
    cases point with
    | plain header len =>
      cases hallowed
      simp only [ReplyStage.advance]
      split
      · next hstream => exact .write_plain trivial rfl (if_pos hstream)
      · next hwhole => exact .write_plain trivial rfl (if_neg hwhole)
    | dropped header =>
      cases hallowed
      exact .write_dropped trivial rfl
    | verified header payload_offset payload =>
      cases hallowed
      exact .write_verified trivial rfl
    | passing header =>
      cases hallowed
      exact .write_passing trivial rfl
    | releasing header =>
      cases hallowed
      exact .write_released trivial rfl
    | _ => exact hallowed.elim
  | write_payload =>
    cases point with
    | streaming header len read written =>
      obtain ⟨rfl, hsome⟩ := hallowed
      simp only [ReplyStage.advance]
      split
      · next hall => exact .stream_write trivial rfl rfl hsome (if_pos hall)
      · next hmore => exact .stream_write trivial rfl rfl hsome (if_neg hmore)
    | delivering header payload_offset payload =>
      cases hallowed
      exact .deliver trivial rfl
    | _ => exact hallowed.elim
  | flush =>
    cases point with
    | released => exact .flushed_released trivial rfl
    | written => exact .flushed trivial rfl
    | _ => exact hallowed.elim

namespace Proxy

structure Keeps (data_offset : UInt64) (s : Proxy) : Prop where
  requester : s.requester.Follows (RequestStage.protocol data_offset) RequestStage.final s.shared.request
  actor : s.actor.Follows PinStage.protocol PinStage.final s.shared.pin
  pump : s.pump.Follows ReplyStage.protocol ReplyStage.final s.shared.reply

theorem keeps_new (boot_commitment : Bytes32) : Keeps data_offset (new data_offset boot_commitment) where
  requester := request_proxy_follows
  actor := pin_actor_follows
  pump := gated_reply_proxy_follows .new (Nat.zero_lt_succ 15)

theorem request_rely (hperforms : RequestPerforms gone s e a t) :
    RequestStage.rely e a := by
  cases hperforms with
  | read_exact hready => exact List.length_take_of_le hready
  | _ => trivial

theorem request_stage_eq (hperforms : RequestPerforms gone s e a t) :
    t.request = s.request ∧ t.pin = s.pin ∧ t.reply = s.reply := by
  cases hperforms <;> exact ⟨rfl, rfl, rfl⟩

theorem pin_stage_eq {e : PinEffect} {a : PinAnswer e} (hperforms : PinPerforms gone s e a t) :
    t.request = s.request ∧ t.pin = s.pin ∧ t.reply = s.reply := by
  cases hperforms <;> exact ⟨rfl, rfl, rfl⟩

theorem reply_stage_eq {e : ReplyEffect} {a : ReplyAnswer e} (hperforms : ReplyPerforms gone s e a t) :
    t.request = s.request ∧ t.pin = s.pin ∧ t.reply = s.reply := by
  cases hperforms <;> exact ⟨rfl, rfl, rfl⟩

theorem reply_rely {e : ReplyEffect} {a : ReplyAnswer e} (hperforms : ReplyPerforms gone s e a t) :
    ReplyStage.rely e a := by
  cases hperforms with
  | select_read hlength => exact hlength
  | keys hperm => exact hperm
  | read_exact hlength => exact hlength
  | verify_read | gate_check | inflight_remove | read_payload_offset => trivial
  | _ => trivial

theorem Step.move {s s' : Proxy} {label : Label} (hkeeps : Keeps data_offset s) (hstep : Step data_offset s label s') :
    Move data_offset s.shared label s'.shared ∧ Keeps data_offset s' := by
  obtain ⟨hrequester, hactor, hpump⟩ := hkeeps
  cases hstep with
  | issue hfree => exact ⟨.issue hfree, hrequester, hactor, hpump⟩
  | request hprogram hperforms =>
    obtain ⟨hrequest, hpin, hreply⟩ := request_stage_eq hperforms
    rw [hprogram] at hrequester
    refine ⟨hperforms.move hrequester.1, ?_, hpin ▸ hactor, hreply ▸ hpump⟩
    dsimp only
    rw [hrequest]
    exact hrequester.2 _ (request_rely hperforms)
  | pin hprogram hperforms =>
    obtain ⟨hrequest, hpin, hreply⟩ := pin_stage_eq hperforms
    rw [hprogram] at hactor
    refine ⟨hperforms.move hactor.1, hrequest ▸ hrequester, ?_, hreply ▸ hpump⟩
    dsimp only
    rw [hpin]
    exact hactor.2 _ trivial
  | reply hprogram hperforms =>
    obtain ⟨hrequest, hpin, hreply⟩ := reply_stage_eq hperforms
    rw [hprogram] at hpump
    refine ⟨hperforms.move hpump.1, hrequest ▸ hrequester, hpin ▸ hactor, ?_⟩
    dsimp only
    rw [hreply]
    exact hpump.2 _ (reply_rely hperforms)
  | request_again hprogram =>
    rw [hprogram] at hrequester
    obtain ⟨header, read, hserved⟩ := hrequester
    exact ⟨.next_request trivial hserved, request_proxy_follows, hactor, hpump⟩
  | pin_again hprogram =>
    rw [hprogram] at hactor
    have hidle : s.shared.pin = .idle := hactor
    exact ⟨.stay trivial, hrequester, hidle ▸ pin_actor_follows, hpump⟩
  | @reply_again pump hprogram =>
    rw [hprogram] at hpump
    obtain ⟨hrest, hlength, hheader, hstashed⟩ := hpump
    refine ⟨?_, hrequester, hactor, gated_reply_proxy_follows pump hlength⟩
    rw [hheader, hstashed]
    exact .next_reply trivial hrest

end Proxy

end enclavia.nbd_client
