import Enclavia.NbdClient.Invariant

open interaction machine enclavia.synchronizer

namespace enclavia.nbd_client

open nbd

variable {h data_offset : UInt64} {n : Nat} {q : NbdRequest} {boot : Bytes32} {kernel : Kernel} {i : Nat}

theorem Kernel.User.handle_eq (huser : kernel.User h n) (hrequest : kernel.request n = some q) :
    q.handle = h := by
  obtain ⟨q', hq', hhandle, -⟩ := Kernel.user_iff.mp huser
  cases hrequest.symm.trans hq'
  exact hhandle

theorem Kernel.User.request (huser : kernel.User h n) :
    ∃ q, kernel.request n = some q ∧ q.handle = h := by
  obtain ⟨q, hrequest, hhandle, -⟩ := Kernel.user_iff.mp huser
  exact ⟨q, hrequest, hhandle⟩

section Growth

variable {data_offset : UInt64} {kernel : Kernel} {received received' : Nat} {floors floors' : Nat → Nat}
  {content content' : Nat → Bytes32} {begun begun' settled settled' : List Nat}

structure Grows (received received' : Nat) (floors floors' : Nat → Nat) (content content' : Nat → Bytes32)
    (begun begun' settled settled' : List Nat) : Prop where
  received_le : received ≤ received'
  floors_eq : ∀ n < received, floors' n = floors n
  content_eq : ∀ i ≤ begun.length, content' i = content i
  begun_le : begun.length ≤ begun'.length
  settled_subset : settled ⊆ settled'

variable (hgrows : Grows received received' floors floors' content content' begun begun' settled settled')

include hgrows

theorem Fresh.grow {payload_offset : Nat} {payload : List UInt8} (hn : n < received)
    (h : Fresh content begun (floors n) payload_offset payload) :
    Fresh content' begun' (floors' n) payload_offset payload := by
  intro hbound
  obtain ⟨i, hfloor, hbegun, hcontent⟩ := h (Nat.lt_of_le_of_lt hgrows.begun_le hbound)
  refine ⟨i, ?_, Nat.le_trans hbegun hgrows.begun_le, ?_⟩
  · rw [hgrows.floors_eq n hn]
    exact hfloor
  · rw [hgrows.content_eq i hbegun]
    exact hcontent

theorem Replies.grow {header : List UInt8} (h : Replies kernel received header n q) :
    Replies kernel received' header n q :=
  ⟨h.user, h.request, Nat.lt_of_lt_of_le h.forwarded hgrows.received_le, h.read⟩

theorem Replying.grow {point : ReplyPoint}
    (h : Replying data_offset kernel received floors content begun settled point) :
    Replying data_offset kernel received' floors' content' begun' settled' point := by
  cases point with
  | taken header =>
    obtain ⟨hrest, hlength, hforwarded⟩ := h
    exact ⟨hrest, hlength, fun n huser => Nat.lt_of_lt_of_le (hforwarded n huser) hgrows.received_le⟩
  | found header len =>
    obtain ⟨hrest, hlength, n, q, hreplies, hlen⟩ := h
    exact ⟨hrest, hlength, n, q, hreplies.grow hgrows, hlen⟩
  | plain header len =>
    obtain ⟨hrest, hlength, n, q, hreplies, hplain⟩ := h
    exact ⟨hrest, hlength, n, q, hreplies.grow hgrows, hplain⟩
  | streaming header len read written =>
    obtain ⟨n, q, hreplies, hstreaming⟩ := h
    exact ⟨n, q, hreplies.grow hgrows, hstreaming⟩
  | watched header len payload_offset =>
    obtain ⟨hrest, hlength, n, q, hreplies, hwatched⟩ := h
    exact ⟨hrest, hlength, n, q, hreplies.grow hgrows, hwatched⟩
  | dropped header =>
    obtain ⟨hrest, hlength, herror, n, q, hreplies⟩ := h
    exact ⟨hrest, hlength, herror, n, q, hreplies.grow hgrows⟩
  | loaded header payload_offset payload =>
    obtain ⟨hrest, hlength, herror, n, q, hreplies, hloaded⟩ := h
    exact ⟨hrest, hlength, herror, n, q, hreplies.grow hgrows, hloaded⟩
  | rejected header =>
    obtain ⟨hrest, n, q, hreplies⟩ := h
    exact ⟨hrest, n, q, hreplies.grow hgrows⟩
  | verified header payload_offset payload =>
    obtain ⟨hrest, hlength, herror, n, q, hreplies, hcover, hpayload, hfresh⟩ := h
    exact ⟨hrest, hlength, herror, n, q, hreplies.grow hgrows, hcover, hpayload, hfresh.grow hgrows hreplies.forwarded⟩
  | delivering header payload_offset payload =>
    obtain ⟨n, q, hreplies, hcover, hpayload, hfresh, hreading⟩ := h
    exact ⟨n, q, hreplies.grow hgrows, hcover, hpayload, hfresh.grow hgrows hreplies.forwarded, hreading⟩
  | unlisted header =>
    obtain ⟨hrest, hlength, hunlisted⟩ := h
    refine ⟨hrest, hlength, fun n q huser hrequest => ?_⟩
    obtain ⟨hn, hread⟩ := hunlisted n q huser hrequest
    exact ⟨Nat.lt_of_lt_of_le hn hgrows.received_le, hread⟩
  | passing header =>
    obtain ⟨hrest, hlength, hpassing⟩ := h
    refine ⟨hrest, hlength, fun n q huser hrequest => ?_⟩
    obtain ⟨hn, hread, hsettled⟩ := hpassing n q huser hrequest
    exact ⟨Nat.lt_of_lt_of_le hn hgrows.received_le, hread, fun hcapture => hgrows.settled_subset (hsettled hcapture)⟩
  | releasing header =>
    obtain ⟨hrest, hlength, n, q, huser, hrequest, hn, hcapture, hsettled⟩ := h
    exact ⟨hrest, hlength, n, q, huser, hrequest, Nat.lt_of_lt_of_le hn hgrows.received_le, hcapture,
      hgrows.settled_subset hsettled⟩
  | selecting | flushing | released | written | done => exact h

theorem Answered.grow {request : Nat → Option NbdRequest} {answer : Answer}
    (h : Answered data_offset request received floors content begun settled answer) :
    Answered data_offset request received' floors' content' begun' settled' answer where
  forwarded := Nat.lt_of_lt_of_le h.forwarded hgrows.received_le
  settled q hrequest hcapture := hgrows.settled_subset (h.settled q hrequest hcapture)
  fresh q payload_offset hrequest hcover herror :=
    (h.fresh q payload_offset hrequest hcover herror).grow hgrows h.forwarded

end Growth

theorem content_append {request : Nat → Option NbdRequest} {begun tail : List Nat} (hi : i ≤ begun.length) :
    content data_offset request boot (begun ++ tail) i =
      content data_offset request boot begun i := by
  cases i with
  | zero => rfl
  | succ i => rw [content, content, List.getElem?_append_left hi]

theorem content_succ {request : Nat → Option NbdRequest} {begun : List Nat} (hn : begun[i]? = some n)
    (hrequest : request n = some q) :
    content data_offset request boot begun (i + 1) = q.commitment data_offset := by
  rw [content, hn, Option.bind_some, hrequest]

namespace Shared

variable {data_offset : UInt64} {boot : Bytes32} {s : Shared}

namespace Inv

variable (hinv : s.Inv data_offset boot)

include hinv

theorem listed_le : s.listed ≤ s.kernel.requests.length := by
  have hserving := hinv.serving
  rw [Shared.listed]
  cases hstage : s.request with
  | waiting | queued header read | served header read =>
    rw [hstage] at hserving
    exact hserving.1
  | parsed header =>
    rw [hstage] at hserving
    obtain ⟨q, hrequest, -⟩ := hserving
    exact Nat.le_of_lt (Kernel.request_lt hrequest)
  | listed header | ready header =>
    rw [hstage] at hserving
    obtain ⟨q, hrequest, -⟩ := hserving
    exact Kernel.request_lt hrequest
  | forwarded header read written begun =>
    rw [hstage] at hserving
    obtain ⟨n, q, rest, hreceived, hrequest, -⟩ := hserving
    rw [hreceived]
    exact Kernel.request_lt hrequest

theorem not_answered (hn : s.received ≤ n) : ∀ answer ∈ s.kernel.answers, answer.request ≠ n := by
  intro answer hmem heq
  have hlt := (hinv.answered answer hmem).forwarded
  omega

theorem user_current (hrequest : s.kernel.request s.received = some q) :
    s.kernel.User q.handle s.received :=
  Kernel.user_iff.mpr ⟨q, hrequest, rfl, hinv.not_answered (Nat.le_refl _)⟩

theorem settled_subset : s.settled ⊆ s.begun := by
  rw [hinv.queued.order]
  exact List.subset_append_left _ _

theorem begun_take_settled : s.begun.take s.settled.length = s.settled := by
  rw [hinv.queued.order, List.take_left]

theorem begun_nodup : s.begun.Nodup := hinv.queued.sorted.imp Nat.ne_of_lt

theorem not_settled (hi : s.begun[i]? = some n) (hle : s.settled.length ≤ i) : n ∉ s.settled := by
  intro hmem
  obtain ⟨j, hj⟩ := List.mem_iff_getElem?.mp hmem
  obtain ⟨hlt, -⟩ := List.getElem?_eq_some_iff.mp hj
  have hbegun : s.begun[j]? = some n := by rw [hinv.queued.order, List.getElem?_append_left hlt, hj]
  have heq := (List.getElem?_inj (List.getElem?_eq_some_iff.mp hi).1 hinv.begun_nodup).mp (hi.trans hbegun.symm)
  omega

theorem user_unsettled (hrequest : s.kernel.request n = some q) (hcapture : (q.capture data_offset).isSome)
    (hunsettled : n ∉ s.settled) : s.kernel.User q.handle n := by
  refine Kernel.user_iff.mpr ⟨q, hrequest, rfl, fun answer hmem heq => hunsettled ?_⟩
  have hsettled := (hinv.answered answer hmem).settled q (by rw [heq]; exact hrequest) hcapture
  rw [heq] at hsettled
  exact hsettled

theorem current_job (hjob : s.job = some n) : s.begun[s.settled.length]? = some n ∧ n ∉ s.settled := by
  have hbegun : s.begun[s.settled.length]? = some n := by
    rw [hinv.queued.order, hjob, List.getElem?_append_right (Nat.le_refl _), Nat.sub_self]
    rfl
  exact ⟨hbegun, hinv.not_settled hbegun (Nat.le_refl _)⟩

theorem committed_le : s.committed ≤ s.begun.length := by
  rw [committed, hinv.queued.order, List.length_append]
  refine Nat.add_le_add_left ?_ _
  cases hpin : s.pin with
  | committed job =>
    have hjob := hinv.queued.busy (by rw [hpin]; rfl)
    obtain ⟨n, hjob⟩ := Option.isSome_iff_exists.mp hjob
    rw [hjob, List.length_append]
    exact Nat.le_add_right 1 _
  | _ => exact Nat.zero_le _

theorem handled_lt (huser : s.kernel.User h n)
    (hhandled : s.reply.point.unlists = some h ∨ s.reply.point.unwatches = some h ∨ s.reply.point.ungates = some h) :
    n < s.received := by
  have hreplying := hinv.replying
  have hreplies {header : List UInt8} {m : Nat} {q : NbdRequest} (hreplies : Replies s.kernel s.received header m q)
      (hh : (parse_reply header).handle = h) : n < s.received := by
    cases hinv.leases.user_unique huser (hh ▸ hreplies.user)
    exact hreplies.forwarded
  cases hpoint : s.reply.point with
  | selecting | taken header | unlisted header | flushing | released | written | done =>
    rw [hpoint] at hhandled
    rcases hhandled with hh | hh | hh <;> cases hh
  | found header len | plain header len | watched header len payload_offset =>
    rw [hpoint] at hhandled hreplying
    obtain ⟨-, -, m, q, hm, -⟩ := hreplying
    rcases hhandled with hh | hh | hh <;> cases hh
    exact hreplies hm rfl
  | streaming header len read written =>
    rw [hpoint] at hhandled hreplying
    obtain ⟨m, q, hm, -⟩ := hreplying
    rcases hhandled with hh | hh | hh <;> cases hh
    exact hreplies hm rfl
  | dropped header =>
    rw [hpoint] at hhandled hreplying
    obtain ⟨-, -, -, m, q, hm⟩ := hreplying
    rcases hhandled with hh | hh | hh <;> cases hh <;> exact hreplies hm rfl
  | loaded header payload_offset payload | verified header payload_offset payload =>
    rw [hpoint] at hhandled hreplying
    obtain ⟨-, -, -, m, q, hm, -⟩ := hreplying
    rcases hhandled with hh | hh | hh <;> cases hh <;> exact hreplies hm rfl
  | rejected header =>
    rw [hpoint] at hhandled hreplying
    obtain ⟨-, m, q, hm⟩ := hreplying
    rcases hhandled with hh | hh | hh <;> cases hh <;> exact hreplies hm rfl
  | delivering header payload_offset payload =>
    rw [hpoint] at hhandled hreplying
    obtain ⟨m, q, hm, -⟩ := hreplying
    rcases hhandled with hh | hh | hh <;> cases hh <;> exact hreplies hm rfl
  | passing header =>
    rw [hpoint] at hhandled hreplying
    obtain ⟨q, hrequest, -⟩ := huser.request
    rcases hhandled with hh | hh | hh <;> cases hh
    exact (hreplying.2.2 n q huser hrequest).1
  | releasing header =>
    rw [hpoint] at hhandled hreplying
    obtain ⟨-, -, m, q, hm, -, hlt, -⟩ := hreplying
    rcases hhandled with hh | hh | hh <;> cases hh
    cases hinv.leases.user_unique huser hm
    exact hlt

end Inv

end Shared

end enclavia.nbd_client
