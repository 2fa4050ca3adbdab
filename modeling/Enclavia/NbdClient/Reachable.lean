import Enclavia.NbdClient.PinMoves
import Enclavia.NbdClient.ReplyMoves
import Enclavia.NbdClient.RequestMoves

open interaction machine enclavia.synchronizer

namespace enclavia.nbd_client

open nbd

namespace Kernel

variable {kernel : Kernel} {r q : NbdRequest} {h k : UInt64} {n : Nat}

theorem request_issue_lt (hn : n < kernel.requests.length) : (kernel.issue r).request n = kernel.request n := by
  rw [request, request, issue, List.getElem?_append_left hn]

theorem request_issue_some (hrequest : kernel.request n = some q) : (kernel.issue r).request n = some q := by
  rw [request_issue_lt (request_lt hrequest), hrequest]

theorem request_issue_self : (kernel.issue r).request kernel.requests.length = some r := by
  rw [request, issue, List.getElem?_concat_length]
  rfl

theorem request_issue (hrequest : (kernel.issue r).request n = some q) :
    kernel.request n = some q ∨ n = kernel.requests.length ∧ q = r := by
  rcases Nat.lt_or_ge n kernel.requests.length with hn | hn
  · exact .inl ((request_issue_lt hn).symm.trans hrequest)
  · have hlt := request_lt hrequest
    rw [issue, List.length_append, List.length_singleton] at hlt
    cases Nat.le_antisymm (Nat.le_of_lt_succ hlt) hn
    rw [request_issue_self] at hrequest
    exact .inr ⟨rfl, (Option.some.inj hrequest).symm⟩

theorem User.handle_unique (hn : kernel.User h n) (hk : kernel.User k n) : h = k := by
  obtain ⟨q, hrequest, rfl⟩ := hn.request
  exact hk.handle_eq hrequest

theorem User.issue (huser : kernel.User h n) : (kernel.issue r).User h n := by
  obtain ⟨q, hrequest, hhandle, hanswers⟩ := user_iff.mp huser
  exact user_iff.mpr ⟨q, request_issue_some hrequest, hhandle, hanswers⟩

theorem user_issue (huser : (kernel.issue r).User h n) :
    kernel.User h n ∨ n = kernel.requests.length ∧ h = r.handle := by
  obtain ⟨q, hrequest, rfl, hanswers⟩ := user_iff.mp huser
  rcases request_issue hrequest with hrequest | ⟨rfl, rfl⟩
  · exact .inl (user_iff.mpr ⟨q, hrequest, rfl, hanswers⟩)
  · exact .inr ⟨rfl, rfl⟩

theorem leases_issue (hleases : Leases kernel.User) (hfree : ∀ n, ¬kernel.User r.handle n) :
    Leases (kernel.issue r).User := by
  refine ⟨fun {h n m} hn hm => ?_, User.handle_unique⟩
  rcases user_issue hn with hn | ⟨rfl, rfl⟩ <;> rcases user_issue hm with hm | ⟨rfl, hh⟩
  · exact hleases.user_unique hn hm
  · exact absurd (hh ▸ hn) (hfree n)
  · exact absurd hm (hfree m)
  · rfl

end Kernel

section Issue

variable {data_offset : UInt64} {kernel : Kernel} {r : NbdRequest} {n : Nat} {received : Nat}

theorem stream_append (requests : List Issued) (issued : Issued) :
    stream (requests ++ [issued]) = stream requests ++ (issued.request.header ++ issued.request.payload) := by
  rw [stream, List.flatMap_append, List.flatMap_singleton]
  rfl

theorem stream_issue (hn : n ≤ kernel.requests.length) :
    stream ((kernel.issue r).requests.drop n) = stream (kernel.requests.drop n) ++ (r.header ++ r.payload) := by
  rw [Kernel.issue, List.drop_append_of_le_length hn, stream_append]

theorem Serving.issue {unread : List UInt8} {stage : RequestStage}
    (h : Serving data_offset kernel unread received stage) :
    Serving data_offset (kernel.issue r) (unread ++ (r.header ++ r.payload)) received stage := by
  have hlength : kernel.requests.length ≤ (kernel.issue r).requests.length := by
    rw [Kernel.issue, List.length_append]
    exact Nat.le_add_right _ _
  cases stage with
  | waiting | queued header read | served header read =>
    obtain ⟨hle, rfl⟩ := h
    exact ⟨Nat.le_trans hle hlength, (stream_issue hle).symm⟩
  | parsed header =>
    obtain ⟨q, hrequest, hheader, rfl⟩ := h
    refine ⟨q, Kernel.request_issue_some hrequest, hheader, ?_⟩
    rw [stream_issue (Kernel.request_lt hrequest), List.append_assoc]
  | listed header | ready header =>
    obtain ⟨q, hrequest, hheader, rfl, hkind⟩ := h
    refine ⟨q, Kernel.request_issue_some hrequest, hheader, ?_, hkind⟩
    rw [stream_issue (Kernel.request_lt hrequest), List.append_assoc]
  | forwarded header read written begun =>
    obtain ⟨n, q, rest, rfl, hrequest, hheader, hpayload, rfl⟩ := h
    refine ⟨n, q, rest, rfl, Kernel.request_issue_some hrequest, hheader, hpayload, ?_⟩
    rw [stream_issue (Kernel.request_lt hrequest), List.append_assoc]

theorem Queued.issue {limit : Nat} {begun settled : List Nat} {job : Option Nat} {jobs : List (Nat × PinJob)}
    {unsent : List Nat} {pin : PinStage} {pins : List (Nat × Bytes32)} {refusals : List Nat}
    (h : Queued data_offset kernel.request limit begun settled job jobs unsent pin pins refusals) :
    Queued data_offset (kernel.issue r).request limit begun settled job jobs unsent pin pins refusals := by
  have hgrow {P : NbdRequest → Prop} {n : Nat} : (∃ q, kernel.request n = some q ∧ P q) →
      ∃ q, (kernel.issue r).request n = some q ∧ P q := by
    rintro ⟨q, hrequest, hq⟩
    exact ⟨q, Kernel.request_issue_some hrequest, hq⟩
  exact { h with
    gated n hn := hgrow (h.gated n hn)
    jobs entry hentry := hgrow (h.jobs entry hentry)
    holds n hn := hgrow (h.holds n hn)
    pinned n hn := hgrow (h.pinned n hn) }

theorem Replies.issue {header : List UInt8} {q : NbdRequest} (h : Replies kernel received header n q) :
    Replies (kernel.issue r) received header n q :=
  { h with user := h.user.issue, request := Kernel.request_issue_some h.request }

theorem Replying.issue {floors : Nat → Nat} {content : Nat → Bytes32} {begun settled : List Nat} {point : ReplyPoint}
    (h : Replying data_offset kernel received floors content begun settled point)
    (hother : point.handling ≠ some r.handle) :
    Replying data_offset (kernel.issue r) received floors content begun settled point := by
  have husers {header : List UInt8} (hpoint : point.handling = some (parse_reply header).handle) {n : Nat}
      (hn : (kernel.issue r).User (parse_reply header).handle n) : kernel.User (parse_reply header).handle n := by
    rcases Kernel.user_issue hn with hn | ⟨-, hh⟩
    · exact hn
    · exact absurd (hh ▸ hpoint) hother
  have hrequests {header : List UInt8} (hpoint : point.handling = some (parse_reply header).handle) {n : Nat}
      {q : NbdRequest} (hn : (kernel.issue r).User (parse_reply header).handle n)
      (hq : (kernel.issue r).request n = some q) : kernel.request n = some q := by
    obtain ⟨q', hq', -⟩ := (husers hpoint hn).request
    rw [← hq, Kernel.request_issue_some hq', hq']
  cases point with
  | taken header =>
    obtain ⟨hrest, hlength, hforwarded⟩ := h
    exact ⟨hrest, hlength, fun n hn => hforwarded n (husers rfl hn)⟩
  | unlisted header | passing header =>
    obtain ⟨hrest, hlength, hplain⟩ := h
    exact ⟨hrest, hlength, fun n q hn hq => hplain n q (husers rfl hn) (hrequests rfl hn hq)⟩
  | found header len | plain header len | watched header len payload_offset =>
    obtain ⟨hrest, hlength, n, q, hreplies, h⟩ := h
    exact ⟨hrest, hlength, n, q, hreplies.issue, h⟩
  | streaming header len read written | delivering header payload_offset payload =>
    obtain ⟨n, q, hreplies, h⟩ := h
    exact ⟨n, q, hreplies.issue, h⟩
  | dropped header =>
    obtain ⟨hrest, hlength, herror, n, q, hreplies⟩ := h
    exact ⟨hrest, hlength, herror, n, q, hreplies.issue⟩
  | loaded header payload_offset payload | verified header payload_offset payload =>
    obtain ⟨hrest, hlength, herror, n, q, hreplies, h⟩ := h
    exact ⟨hrest, hlength, herror, n, q, hreplies.issue, h⟩
  | releasing header =>
    obtain ⟨hrest, hlength, n, q, hn, hq, h⟩ := h
    exact ⟨hrest, hlength, n, q, hn.issue, Kernel.request_issue_some hq, h⟩
  | rejected header =>
    obtain ⟨hrest, n, q, hreplies⟩ := h
    exact ⟨hrest, n, q, hreplies.issue⟩
  | selecting | flushing | released | written | done => exact h

theorem holds_issue {V : Type} {table : Std.ExtTreeMap UInt64 V} {Entry Entry' : Nat → V → Prop}
    (h : Holds table kernel.User Entry) (hentry : ∀ n v, n < kernel.requests.length → (Entry n v ↔ Entry' n v))
    (hlt : ∀ n v, Entry' n v → n < kernel.requests.length) : Holds table (kernel.issue r).User Entry' := by
  have hissued : Holds table kernel.User Entry' := h.congr fun k m v hm => by
    obtain ⟨q, hrequest, -⟩ := hm.request
    exact hentry m v (Kernel.request_lt hrequest)
  refine hissued.users fun k m v hm => ⟨Kernel.User.issue, fun hk => ?_⟩
  rcases Kernel.user_issue hk with hk | ⟨rfl, -⟩
  · exact hk
  · exact absurd (hlt _ v hm) (Nat.lt_irrefl _)

end Issue

namespace Shared

variable {data_offset : UInt64} {boot : Bytes32} {s s' : Shared} {r : NbdRequest}

theorem Inv.new : Inv data_offset boot (Shared.new boot) := by
  have hfree {h : UInt64} {n : Nat} : ¬(Shared.new boot).kernel.User h n := by
    intro huser
    obtain ⟨q, hrequest, -⟩ := huser.request
    cases hrequest
  have hempty {V : Type} {Entry : Nat → V → Prop} :
      Holds (∅ : Std.ExtTreeMap UInt64 V) (Shared.new boot).kernel.User Entry := by
    intro h v
    rw [Std.ExtTreeMap.getElem?_empty]
    exact iff_of_false nofun fun ⟨n, huser, _⟩ => hfree huser
  refine ⟨⟨fun hn => absurd hn hfree, fun hn => absurd hn hfree⟩, nofun, ⟨Nat.le_refl _, rfl⟩, ?_, ?_, nofun, hempty,
    hempty, hempty, hempty, ⟨rfl, rfl⟩, nofun, ?_⟩
  · refine ⟨rfl, .nil, nofun, nofun, nofun, nofun, nofun, fun n hn => ?_, nofun⟩
    rcases hn with hn | ⟨hn, -⟩ <;> cases hn
  · refine ⟨fun _ => ⟨0, Nat.le_refl _, rfl, fun h read hget => ?_⟩, rfl⟩
    exact Nat.zero_le _
  · intro h header hget
    have hget : (∅ : Stash)[h]? = some header := hget
    rw [Std.ExtTreeMap.getElem?_empty] at hget
    cases hget

theorem Inv.issue (hinv : Inv data_offset boot s) (hfree : ∀ n, ¬s.kernel.User r.handle n)
    (hother : s.reply.point.handling ≠ some r.handle) :
    Inv data_offset boot { s with
      kernel := s.kernel.issue r, unread := s.unread ++ (r.header ++ r.payload) } := by
  have hlisted := hinv.listed_le
  have hregistered : s.registered ≤ s.kernel.requests.length := by
    refine Nat.le_trans (Nat.add_le_add_left ?_ _) hlisted
    cases s.request <;> simp only [RequestStage.registering, RequestStage.listing] <;> decide
  have hrequest {n : Nat} (hn : n < s.kernel.requests.length) : (s.kernel.issue r).request n = s.kernel.request n :=
    Kernel.request_issue_lt hn
  have hcontent : nbd_client.content data_offset (s.kernel.issue r).request boot s.begun =
      s.content data_offset boot := by
    funext i
    rw [Shared.content]
    cases i with
    | zero => rfl
    | succ i =>
      rw [nbd_client.content, nbd_client.content]
      cases hi : s.begun[i]? with
      | none => rfl
      | some n =>
        obtain ⟨q, hq, -⟩ := hinv.queued.gated n (List.mem_of_getElem? hi)
        rw [Option.bind_some, Option.bind_some, Kernel.request_issue_some hq, hq]
  have hanswered {answer : Answer} (hmem : answer ∈ s.kernel.answers) : answer.request < s.kernel.requests.length :=
    Nat.lt_of_lt_of_le (hinv.answered answer hmem).forwarded (Nat.le_trans (Nat.le_add_right _ _) hlisted)
  have hknown : ∀ issued ∈ (s.kernel.issue r).requests, issued.known ≤ s.kernel.answers.length := by
    intro issued hmem
    rcases List.mem_append.mp hmem with hmem | hmem
    · exact hinv.known issued hmem
    · obtain rfl := List.mem_singleton.mp hmem
      exact Nat.le_refl _
  have hfloored : Floored data_offset (s.kernel.issue r) s.registered s.floors s.begun s.committed := by
    intro hbound n issued hissued hn hcover
    rw [Kernel.issue, List.getElem?_append_left (Nat.lt_of_lt_of_le hn hregistered)] at hissued
    obtain ⟨hfloor, hacked⟩ := hinv.floored hbound n issued hissued hn hcover
    refine ⟨hfloor, fun answer hmem q hq => hacked answer hmem q ?_⟩
    rw [← hrequest (hanswered (List.mem_of_mem_take hmem))]
    exact hq
  have hinflight : Holds s.inflight (s.kernel.issue r).User
      (Lists (s.kernel.issue r).request s.listed s.reply.point.unlists) := by
    refine holds_issue hinv.inflight (fun n v hn => by rw [Lists, Lists, hrequest hn]) ?_
    rintro n v ⟨-, -, -, hn, -⟩
    exact Nat.lt_of_lt_of_le hn hlisted
  have hreads : Holds s.watch.reads (s.kernel.issue r).User
      (Watches data_offset (s.kernel.issue r).request s.registered s.reply.point.unwatches s.floors) := by
    refine holds_issue hinv.reads (fun n v hn => by rw [Watches, Watches, hrequest hn]) ?_
    rintro n v ⟨-, -, -, hn, -⟩
    exact Nat.lt_of_lt_of_le hn hregistered
  have hgate : Holds s.gate.inner (s.kernel.issue r).User (Gates data_offset (s.kernel.issue r).request s.registered
      s.reply.point.ungates (status s.settled s.job s.pin)) := by
    refine holds_issue hinv.gate (fun n v hn => by rw [Gates, Gates, hrequest hn]) ?_
    rintro n v ⟨-, -, -, hn, -⟩
    exact Nat.lt_of_lt_of_le hn hregistered
  have hpending : Holds s.watch.pending (s.kernel.issue r).User
      (Pends data_offset (s.kernel.issue r).request s.begun s.committed) := by
    refine holds_issue hinv.pending (fun n v hn => by rw [Pends, Pends, hrequest hn]) ?_
    rintro n v ⟨-, i, -, hi, -⟩
    obtain ⟨q, hq, -⟩ := hinv.queued.gated n (List.mem_of_getElem? hi)
    exact Kernel.request_lt hq
  have hreplying := hinv.replying.issue hother
  have hanswers : ∀ answer ∈ s.kernel.answers, Answered data_offset (s.kernel.issue r).request s.received s.floors
      (s.content data_offset boot) s.begun s.settled answer := by
    intro answer hmem
    obtain ⟨hforwarded, hsettled, hfresh⟩ := hinv.answered answer hmem
    rw [← hrequest (hanswered hmem)] at hsettled hfresh
    exact ⟨hforwarded, hsettled, hfresh⟩
  have hremembers := hinv.remembers
  rw [← hcontent] at hreplying hanswers hremembers
  exact {
    leases := Kernel.leases_issue hinv.leases hfree
    known := hknown
    serving := hinv.serving.issue
    queued := hinv.queued.issue
    remembers := hremembers
    floored := hfloored
    inflight := hinflight
    reads := hreads
    gate := hgate
    pending := hpending
    replying := hreplying
    answered := hanswers
    parked := hinv.parked }

/-- No reply is ahead of the request that it is matched with: a header from the host finds no request under its
handle but one that has gone out to the host, and the kernel does not put a handle to use while the pump has a reply
with that handle in its hands. -/
def Disciplined (s : Shared) : Label → Prop
  | .issue r => s.reply.point.handling ≠ some r.handle
  | .reply ⟨.select remaining open_, .read (.ok bytes)⟩ =>
    ∀ header, (s.reply.advance (.select remaining open_) (.read (.ok bytes))).point = .taken header →
      ∀ n, s.kernel.User (parse_reply header).handle n → n < s.received
  | _ => True

theorem Inv.move {label : Label} (hinv : Inv data_offset boot s) (hdisciplined : s.Disciplined label)
    (hmove : Move data_offset s label s') : Inv data_offset boot s' := by
  have at_request {stage : RequestStage} (hstage : s.request = stage) :
      Inv data_offset boot { s with request := stage } := hstage ▸ hinv
  have at_pin {stage : PinStage} (hstage : s.pin = stage) :
      Inv data_offset boot { s with pin := stage } := hstage ▸ hinv
  have at_point {point : ReplyPoint} (hpoint : s.reply.point = point) :
      Inv data_offset boot { s with reply.point := point } := hpoint ▸ hinv
  cases hmove with
  | stay => exact hinv
  | issue hfree => exact hinv.issue hfree hdisciplined
  | read_header _ hstage hready => exact (at_request hstage).read_header hready
  | list_read _ hstage hread => exact (at_request hstage).list_read hread
  | watch_read _ hstage hcover => exact (at_request hstage).watch_read hcover
  | gate_begin _ hstage hcapture => exact (at_request hstage).gate_begin hcapture
  | forward hstage => exact (at_request rfl).forward hstage
  | read_payload _ hstage hready hfits => exact (at_request hstage).read_payload hfits
  | begin_pending _ hstage hcapture hcomplete => exact (at_request hstage).begin_pending hcapture hcomplete
  | write_payload hstage => exact (at_request hstage).write_payload
  | send _ hstage hall hcapture => exact (at_request hstage).send hall hcapture
  | serve_plain _ hstage hall hplain => exact (at_request hstage).serve_plain hall hplain
  | serve_gated _ hstage => exact (at_request hstage).serve_gated
  | next_request _ hstage => exact (at_request hstage).next_request
  | recv _ hstage hjobs => exact (at_pin hstage).recv hjobs
  | pin_ok _ hstage hjob => exact (at_pin hstage).pin_ok hjob
  | pin_refused _ hstage hjob => exact (at_pin hstage).pin_refused hjob
  | commit _ hstage => exact (at_pin hstage).commit
  | finish_ok _ hstage => exact (at_pin hstage).finish_ok
  | finish_err _ hstage => exact (at_pin hstage).finish_err
  | nudge _ hstage => exact (at_pin hstage).nudge
  | nudge_failed | take_part => exact { hinv with }
  | take_header hpoint hsome hheader hlength hmagic =>
    refine (at_point hpoint).take_header hlength (hdisciplined _ ?_)
    rw [ReplyStage.advance_select hpoint hsome, hheader, ReplyStage.take_whole hlength hmagic]
  | nudged _ hpoint => exact { at_point hpoint with }
  | find _ hpoint hlisted => exact (at_point hpoint).find hlisted
  | miss _ hpoint hunlisted => exact (at_point hpoint).miss hunlisted
  | see_watched _ hpoint hwatched => exact (at_point hpoint).see_watched hwatched
  | see_plain _ hpoint hunwatched => exact (at_point hpoint).see_plain hunwatched
  | write_plain _ hpoint hnext => exact hinv.write_plain hpoint hnext
  | stream_read hpoint hlength hfits => exact (at_point hpoint).stream_read (hlength ▸ hfits)
  | stream_write _ hpoint hchunk hsome hnext => exact hinv.stream_write hpoint hchunk hsome hnext
  | drop_read _ hpoint herror => exact hinv.drop_read hpoint herror
  | load hpoint herror hm hlength => exact (at_point hpoint).load herror (hlength.trans hm)
  | write_dropped _ hpoint => exact hinv.write_dropped hpoint
  | verify _ hpoint hok => exact hinv.verify hpoint hok
  | reject _ hpoint => exact hinv.reject hpoint
  | write_verified _ hpoint => exact hinv.write_verified hpoint
  | deliver _ hpoint => exact hinv.deliver hpoint
  | pass_ungated _ hpoint hungated => exact (at_point hpoint).pass_ungated hungated
  | pass _ hpoint hgate => exact (at_point hpoint).pass hgate
  | hold _ hpoint _ herror => exact (at_point hpoint).hold herror
  | write_passing _ hpoint => exact hinv.write_passing hpoint
  | release _ hpoint hstashed hgate => exact (at_point hpoint).release hstashed hgate
  | write_released _ hpoint => exact hinv.write_released hpoint
  | flushed_released _ hpoint | flushed _ hpoint => exact { at_point hpoint with }
  | next_reply _ hrest => exact (at_point rfl).next_reply hrest

end Shared

theorem Proxy.Reaches.inv {data_offset : UInt64} {boot : Bytes32} {C : Proxy → Label → Prop} {s : Proxy}
    (hreaches : Proxy.Reaches data_offset C boot s)
    (hdisciplined : ∀ s label, C s label → s.shared.Disciplined label) :
    s.shared.Inv data_offset boot ∧ s.Keeps data_offset := by
  induction hreaches with
  | refl => exact ⟨.new, keeps_new _⟩
  | tail _ hstep ih =>
    obtain ⟨label, hcondition, hstep⟩ := hstep
    obtain ⟨hmove, hkeeps⟩ := hstep.move ih.2
    exact ⟨ih.1.move (hdisciplined _ _ hcondition) hmove, hkeeps⟩

end enclavia.nbd_client
