import Enclavia.NbdClient.InvariantLemmas

open interaction machine enclavia.synchronizer

namespace enclavia.nbd_client

open nbd

theorem stream_cons (issued : Issued) (requests : List Issued) :
    stream (issued :: requests) = issued.request.header ++ (issued.request.payload ++ stream requests) := by
  rw [stream, List.flatMap_cons, List.append_assoc]
  rfl

variable {kernel : Kernel}

theorem stream_drop {n : Nat} {q : NbdRequest} (hrequest : kernel.request n = some q) :
    stream (kernel.requests.drop n) = q.header ++ (q.payload ++ stream (kernel.requests.drop (n + 1))) := by
  rw [Kernel.request, Option.map_eq_some_iff] at hrequest
  obtain ⟨issued, hissued, rfl⟩ := hrequest
  obtain ⟨hn, hget⟩ := List.getElem?_eq_some_iff.mp hissued
  rw [List.drop_eq_getElem_cons hn, hget, stream_cons]

variable {status : Nat → PinStatus}

section Entries

variable {data_offset : UInt64} {request : Nat → Option NbdRequest} {m n : Nat} {taken : Option UInt64}
  {floors : Nat → Nat} {read : ReadWatch} {entry : PinStatus}

theorem lists_succ {len : UInt32} (hm : m ≠ n) :
    Lists request (n + 1) taken m len ↔ Lists request n taken m len := by
  rw [Lists, Lists, show m < n + 1 ↔ m < n by omega]

theorem watches_succ {floors' : Nat → Nat} (hm : m ≠ n) (hfloors : floors' m = floors m) :
    Watches data_offset request (n + 1) taken floors' m read ↔ Watches data_offset request n taken floors m read := by
  rw [Watches, Watches, hfloors, show m < n + 1 ↔ m < n by omega]

theorem gates_succ (hm : m ≠ n) :
    Gates data_offset request (n + 1) taken status m entry ↔ Gates data_offset request n taken status m entry := by
  rw [Gates, Gates, show m < n + 1 ↔ m < n by omega]

theorem lists_bump {len : UInt32} (hn : ∀ q, request n = some q → q.cmd_type ≠ NBD_CMD_READ) :
    Lists request (n + 1) taken m len ↔ Lists request n taken m len := by
  by_cases hm : m = n
  · subst hm
    refine iff_of_false ?_ ?_ <;> rintro ⟨q, hq, hread, -⟩ <;> exact hn q hq hread
  · exact lists_succ hm

theorem watches_bump (hn : ∀ q, request n = some q → q.cover data_offset = none) :
    Watches data_offset request (n + 1) taken floors m read ↔ Watches data_offset request n taken floors m read := by
  by_cases hm : m = n
  · subst hm
    refine iff_of_false ?_ ?_ <;> rintro ⟨q, hq, hcover, -⟩ <;> cases (hn q hq).symm.trans hcover
  · exact watches_succ hm rfl

theorem gates_bump (hn : ∀ q, request n = some q → q.capture data_offset = none) :
    Gates data_offset request (n + 1) taken status m entry ↔ Gates data_offset request n taken status m entry := by
  by_cases hm : m = n
  · subst hm
    refine iff_of_false ?_ ?_ <;>
    · rintro ⟨q, hq, hcapture, -⟩
      rw [hn q hq] at hcapture
      cases hcapture
  · exact gates_succ hm

theorem floored_bump {begun : List Nat} {committed : Nat}
    (hn : ∀ q, kernel.request n = some q → q.cover data_offset = none)
    (h : Floored data_offset kernel n floors begun committed) :
    Floored data_offset kernel (n + 1) floors begun committed := by
  intro hbound m issued hissued hm hcover
  refine h hbound m issued hissued (Nat.lt_of_le_of_ne (Nat.le_of_lt_succ hm) ?_) hcover
  rintro rfl
  rw [hn issued.request (by rw [Kernel.request, hissued]; rfl)] at hcover
  cases hcover

end Entries

namespace Shared.Inv

variable {data_offset : UInt64} {boot : Bytes32} {s : Shared} {b r w : List UInt8} {g : Bool} {o : Nat}

theorem read_header (hinv : Inv data_offset boot { s with request := .waiting })
    (hready : 28 ≤ s.unread.length) :
    Inv data_offset boot { s with unread := s.unread.drop 28, request := .parsed (s.unread.take 28) } := by
  refine { hinv with serving := ?_ }
  obtain ⟨hle, hunread⟩ := hinv.serving
  have hunread : s.unread = stream (s.kernel.requests.drop s.received) := hunread
  cases hrequest : s.kernel.request s.received with
  | none =>
    rw [Kernel.request, Option.map_eq_none_iff, List.getElem?_eq_none_iff] at hrequest
    rw [hunread, List.drop_eq_nil_of_le hrequest] at hready
    exact absurd hready (by decide)
  | some q =>
    rw [stream_drop hrequest] at hunread
    refine ⟨q, hrequest, ?_, ?_⟩
    · rw [hunread, List.take_left' q.length_header]
    · rw [hunread, List.drop_left' q.length_header]

theorem list_read (hinv : Inv data_offset boot { s with request := .parsed b })
    (hread : (parse_request b).cmd_type = NBD_CMD_READ) :
    Inv data_offset boot { s with
      inflight := s.inflight.insert (parse_request b).handle (parse_request b).length
      request := .listed b } := by
  obtain ⟨q, hrequest, rfl, hunread⟩ := hinv.serving
  rw [q.parse_header] at hread ⊢
  have huser := hinv.user_current hrequest
  refine { hinv with serving := ⟨q, hrequest, rfl, hunread, hread⟩, inflight := ?_ }
  refine hinv.inflight.insert hinv.leases huser ?_ fun k m len hm hk => lists_succ ?_
  · intro len
    constructor
    · rintro ⟨q', hq', -, -, -, rfl⟩
      cases hrequest.symm.trans hq'
      rfl
    · rintro rfl
      refine ⟨q, hrequest, hread, Nat.lt_succ_self _, fun htaken => ?_, rfl⟩
      exact Nat.lt_irrefl _ (hinv.handled_lt huser (.inl htaken))
  · rintro rfl
    exact hk (hm.handle_eq hrequest).symm

theorem newest_eq (hinv : Inv data_offset boot s) (hbound : s.begun.length < UInt64.size) :
    s.watch.newest = s.committed := by
  obtain ⟨lo, hlo, hhistory, -⟩ := hinv.remembers.history hbound
  rw [RegionWatch.newest, hhistory, show s.committed + 1 - lo = (s.committed - lo) + 1 by omega, List.range'_concat,
    List.map_append, List.map_singleton, List.getLast?_concat]
  simp only [Option.map_some, Option.getD_some]
  omega

theorem watch_read (hinv : Inv data_offset boot { s with request := .listed b })
    (hcover : (parse_request b).cover data_offset = some o) :
    Inv data_offset boot { s with
      watch := s.watch.watch_read (parse_request b).handle o
      floors := Function.update s.floors s.received s.watch.newest
      request := .ready b } := by
  obtain ⟨q, hrequest, rfl, hunread, hread⟩ := hinv.serving
  rw [q.parse_header] at hcover ⊢
  have huser := hinv.user_current hrequest
  have hnewest : s.begun.length < UInt64.size → s.watch.newest = s.committed := hinv.newest_eq
  have hfloor : Function.update s.floors s.received s.watch.newest s.received = s.watch.newest :=
    Function.update_self _ _ _
  have hfloors (n : Nat) (hn : n ≠ s.received) : Function.update s.floors s.received s.watch.newest n = s.floors n :=
    Function.update_of_ne hn _ _
  have hgrows : Grows s.received s.received s.floors (Function.update s.floors s.received s.watch.newest)
      (s.content data_offset boot) (s.content data_offset boot) s.begun s.begun s.settled
      s.settled :=
    ⟨Nat.le_refl _, fun n hn => hfloors n (Nat.ne_of_lt hn), fun _ _ => rfl, Nat.le_refl _, List.Subset.refl _⟩
  have hremembers : Remembers (s.content data_offset boot) s.begun s.committed
      (s.watch.watch_read q.handle o) := by
    refine ⟨fun hbound => ?_, hinv.remembers.next_seq⟩
    obtain ⟨lo, hlo, hhistory, hreads⟩ := hinv.remembers.history hbound
    refine ⟨lo, hlo, hhistory, fun h read hget => ?_⟩
    simp only [RegionWatch.watch_read, Std.ExtTreeMap.getElem?_insert] at hget
    split at hget
    · cases hget
      exact Nat.le_trans hlo (Nat.le_of_eq (hnewest hbound).symm)
    · exact hreads h read hget
  have hfloored : Floored data_offset s.kernel (s.received + 1)
      (Function.update s.floors s.received s.watch.newest) s.begun s.committed := by
    intro hbound n issued hissued hn hwatched
    by_cases hcurrent : n = s.received
    · rw [hcurrent, hfloor, hnewest hbound]
      refine ⟨Nat.le_refl _, fun answer hmem q' hq' hcapture => ?_⟩
      have hsettled := (hinv.answered answer (List.mem_of_mem_take hmem)).settled q' hq' hcapture
      rw [← hinv.begun_take_settled] at hsettled
      exact List.take_subset_take_left _ (Nat.le_add_right _ _) hsettled
    · rw [hfloors n hcurrent]
      exact hinv.floored hbound n issued hissued (Nat.lt_of_le_of_ne (Nat.le_of_lt_succ hn) hcurrent) hwatched
  have hcapture (q' : NbdRequest) (hq' : s.kernel.request s.received = some q') : q'.capture data_offset = none := by
    cases hrequest.symm.trans hq'
    exact NbdRequest.capture_eq_none hread
  have hothers {k : UInt64} {m : Nat} (hm : s.kernel.User k m) (hk : k ≠ q.handle) : m ≠ s.received := by
    rintro rfl
    exact hk (hm.handle_eq hrequest).symm
  refine { hinv with
    serving := ⟨q, hrequest, rfl, hunread, .inl (Option.isSome_of_eq_some hcover)⟩
    remembers := hremembers
    floored := hfloored
    reads := hinv.reads.insert hinv.leases huser ?_ fun k m read hm hk =>
      watches_succ (hothers hm hk) (hfloors m (hothers hm hk))
    gate := hinv.gate.congr fun _ _ _ _ => (gates_bump hcapture).symm
    replying := hinv.replying.grow hgrows
    answered := fun answer hmem => (hinv.answered answer hmem).grow hgrows }
  rintro ⟨payload_offset, accept_from_seq⟩
  constructor
  · rintro ⟨q', hq', hpayload, -, -, haccept⟩
    cases hrequest.symm.trans hq'
    cases hcover.symm.trans hpayload
    rw [ReadWatch.mk.injEq]
    exact ⟨rfl, haccept.trans hfloor⟩
  · rintro ⟨⟩
    refine ⟨q, hrequest, hcover, Nat.lt_succ_self _, fun htaken => ?_, hfloor.symm⟩
    exact Nat.lt_irrefl _ (hinv.handled_lt huser (.inr (.inl htaken)))

theorem gate_begin (hinv : Inv data_offset boot { s with request := .parsed b })
    (hcapture : ((parse_request b).capture data_offset).isSome) :
    Inv data_offset boot { s with gate := s.gate.begin (parse_request b).handle, request := .ready b } := by
  obtain ⟨q, hrequest, rfl, hunread⟩ := hinv.serving
  rw [q.parse_header] at hcapture ⊢
  have huser := hinv.user_current hrequest
  have hbegun : s.received ∉ s.begun := fun hmem => Nat.lt_irrefl _ (hinv.queued.bounded _ hmem)
  have hread : q.cmd_type ≠ NBD_CMD_READ := by
    intro hread
    rw [show q.fields.capture data_offset = none from NbdRequest.capture_eq_none hread] at hcapture
    cases hcapture
  have hjob : s.job ≠ some s.received := fun hjob => hbegun (List.mem_of_getElem? (hinv.current_job hjob).1)
  have hnot (q' : NbdRequest) (hq' : s.kernel.request s.received = some q') : q'.cmd_type ≠ NBD_CMD_READ := by
    cases hrequest.symm.trans hq'
    exact hread
  have hcover (q' : NbdRequest) (hq' : s.kernel.request s.received = some q') : q'.cover data_offset = none :=
    NbdRequest.cover_eq_none (hnot q' hq')
  refine { hinv with
    serving := ⟨q, hrequest, rfl, hunread, .inr hcapture⟩
    floored := floored_bump hcover hinv.floored
    inflight := hinv.inflight.congr fun _ _ _ _ => (lists_bump hnot).symm
    reads := hinv.reads.congr fun _ _ _ _ => (watches_bump hcover).symm
    gate := hinv.gate.insert hinv.leases huser ?_ fun k m entry hm hk => gates_succ ?_ }
  · intro entry
    have hstatus : status s.settled s.job s.pin s.received = .Pending := by
      rw [status, if_neg fun hmem => hbegun (hinv.settled_subset hmem), if_neg hjob]
    constructor
    · rintro ⟨-, -, -, -, -, rfl⟩
      exact hstatus
    · rintro rfl
      refine ⟨q, hrequest, hcapture, Nat.lt_succ_self _, fun htaken => ?_, hstatus.symm⟩
      exact Nat.lt_irrefl _ (hinv.handled_lt huser (.inr (.inr htaken)))
  · rintro rfl
    exact hk (hm.handle_eq hrequest).symm

theorem forward {stage : RequestStage} (hinv : Inv data_offset boot { s with request := stage })
    (hstage : stage.Forwards data_offset b) :
    Inv data_offset boot { s with received := s.received + 1, request := .forwarded b [] [] false } := by
  have hgrows : Grows s.received (s.received + 1) s.floors s.floors (s.content data_offset boot)
      (s.content data_offset boot) s.begun s.begun s.settled s.settled :=
    ⟨Nat.le_succ _, fun _ _ => rfl, fun _ _ => rfl, Nat.le_refl _, List.Subset.refl _⟩
  have hreplying := hinv.replying.grow hgrows
  have hanswered := fun answer hmem => (hinv.answered answer hmem).grow hgrows
  obtain ⟨q, hrequest, rfl, hserving⟩ : ∃ q, s.kernel.request s.received = some q ∧ b = q.header ∧
      s.unread = q.payload ++ stream (s.kernel.requests.drop (s.received + 1)) := by
    have hserving := hinv.serving
    cases hstage with
    | parsed => exact hserving
    | listed | ready =>
      obtain ⟨q, hrequest, hheader, hunread, -⟩ := hserving
      exact ⟨q, hrequest, hheader, hunread⟩
  have hforwarded : Serving data_offset s.kernel s.unread (s.received + 1) (.forwarded q.header [] [] false) :=
    ⟨s.received, q, q.payload, rfl, hrequest, rfl, rfl, hserving⟩
  have hself {P : NbdRequest → Prop} (hq : P q) (q' : NbdRequest) (hq' : s.kernel.request s.received = some q') :
      P q' := by
    cases hrequest.symm.trans hq'
    exact hq
  cases hstage with
  | parsed hread hspares =>
    rw [q.parse_header] at hread hspares
    have hcapture : q.capture data_offset = none := by
      rw [NbdRequest.capture, RequestHeader.capture]
      split
      · next hwrite =>
        rw [hspares (.inl hwrite)]
        rfl
      · rfl
    have hcover : q.cover data_offset = none := NbdRequest.cover_eq_none hread
    exact { hinv with
      serving := hforwarded
      floored := floored_bump (hself hcover) hinv.floored
      inflight := hinv.inflight.congr fun _ _ _ _ => (lists_bump (hself hread)).symm
      reads := hinv.reads.congr fun _ _ _ _ => (watches_bump (hself hcover)).symm
      gate := hinv.gate.congr fun _ _ _ _ => (gates_bump (hself hcapture)).symm
      replying := hreplying
      answered := hanswered }
  | listed hcover =>
    rw [q.parse_header] at hcover
    obtain ⟨q', hq', -, -, hread⟩ := hinv.serving
    cases hrequest.symm.trans hq'
    have hcapture : q.capture data_offset = none := NbdRequest.capture_eq_none hread
    have hcover : q.cover data_offset = none := hcover
    exact { hinv with
      serving := hforwarded
      floored := floored_bump (hself hcover) hinv.floored
      reads := hinv.reads.congr fun _ _ _ _ => (watches_bump (hself hcover)).symm
      gate := hinv.gate.congr fun _ _ _ _ => (gates_bump (hself hcapture)).symm
      replying := hreplying
      answered := hanswered }
  | ready => exact { hinv with serving := hforwarded, replying := hreplying, answered := hanswered }

theorem read_payload {n : Nat} (hinv : Inv data_offset boot { s with request := .forwarded b r r g })
    (hfits : r.length + n ≤ (parse_request b).payload_length) :
    Inv data_offset boot { s with
      unread := s.unread.drop n, request := .forwarded b (r ++ s.unread.take n) r g } := by
  obtain ⟨m, q, rest, hreceived, hrequest, rfl, hpayload, hunread⟩ := hinv.serving
  rw [q.parse_header] at hfits
  have hrest : n ≤ rest.length := by
    have hlength := q.payload_length
    rw [hpayload, List.length_append] at hlength
    have hfits : r.length + n ≤ if q.cmd_type = NBD_CMD_WRITE then q.length.toNat else 0 := hfits
    omega
  have hunread : s.unread = rest ++ stream (s.kernel.requests.drop s.received) := hunread
  have hserving : Serving data_offset s.kernel (s.unread.drop n) s.received
      (.forwarded q.header (r ++ s.unread.take n) r g) := by
    refine ⟨m, q, rest.drop n, hreceived, hrequest, rfl, ?_, ?_⟩
    · rw [hpayload, hunread, List.take_append_of_le_length hrest, List.append_assoc, List.take_append_drop]
    · rw [hunread, List.drop_append_of_le_length hrest]
  cases g with
  | true | false => exact { hinv with serving := hserving }

theorem write_payload (hinv : Inv data_offset boot { s with request := .forwarded b r w g }) :
    Inv data_offset boot { s with request := .forwarded b r r g } := by
  cases g with
  | true | false => exact { hinv with }

theorem whole_payload (hinv : Inv data_offset boot { s with request := .forwarded b r w g })
    (hall : r.length = (parse_request b).payload_length) :
    ∃ n q, s.received = n + 1 ∧ s.kernel.request n = some q ∧ b = q.header ∧ q.payload = r ∧
      s.unread = stream (s.kernel.requests.drop s.received) := by
  obtain ⟨n, q, rest, hreceived, hrequest, rfl, hpayload, hunread⟩ := hinv.serving
  rw [q.parse_header] at hall
  have hlength := q.payload_length
  rw [hpayload, List.length_append, show (if q.cmd_type = NBD_CMD_WRITE then q.length.toNat else 0) = r.length from
    hall.symm, Nat.add_eq_left, List.length_eq_zero_iff] at hlength
  subst hlength
  exact ⟨n, q, hreceived, hrequest, rfl, by rw [hpayload, List.append_nil], hunread⟩

theorem begin_pending (hinv : Inv data_offset boot { s with request := .forwarded b r w false })
    (hcapture : (parse_request b).capture data_offset = some o) (hcomplete : o + SB_REGION_LEN ≤ r.length) :
    Inv data_offset boot { s with
      watch := s.watch.begin_pending (parse_request b).handle (commitment_of_region (window o r))
      begun := s.begun ++ [s.received - 1]
      request := .forwarded b r w true } := by
  obtain ⟨n, q, rest, hreceived, hrequest, rfl, hpayload, hunread⟩ := hinv.serving
  have hreceived : s.received = n + 1 := hreceived
  have hn : s.received - 1 = n := by rw [hreceived]; rfl
  have hbounded (m : Nat) (hm : m ∈ s.begun) : m < n := hn ▸ hinv.queued.bounded m hm
  have hbegun : n ∉ s.begun := fun hmem => Nat.lt_irrefl n (hbounded n hmem)
  rw [q.parse_header] at hcapture ⊢
  have hcapture : q.capture data_offset = some o := hcapture
  have hgated : (q.capture data_offset).isSome := Option.isSome_of_eq_some hcapture
  have huser : s.kernel.User q.handle n :=
    hinv.user_unsettled hrequest hgated fun hmem => hbegun (hinv.settled_subset hmem)
  have hcommitment : commitment_of_region (window o r) = q.commitment data_offset := by
    rw [NbdRequest.commitment, hcapture, Option.getD_some, hpayload, window, window,
      List.drop_append_of_le_length (by omega), List.take_append_of_le_length (by rw [List.length_drop]; omega)]
  have hcontent {i : Nat} (hi : i ≤ s.begun.length) :
      nbd_client.content data_offset s.kernel.request boot (s.begun ++ [n]) i =
        s.content data_offset boot i := content_append hi
  have hgrows : Grows s.received s.received s.floors s.floors (s.content data_offset boot)
      (nbd_client.content data_offset s.kernel.request boot (s.begun ++ [n])) s.begun (s.begun ++ [n])
      s.settled s.settled :=
    ⟨Nat.le_refl _, fun _ _ => rfl, fun _ hi => hcontent hi, List.length_append ▸ Nat.le_add_right _ _,
      List.Subset.refl _⟩
  have hcommitted : s.committed ≤ s.begun.length := hinv.committed_le
  have hqueued : Queued data_offset s.kernel.request s.received (s.begun ++ [n]) s.settled s.job s.jobs [n] s.pin
      s.pins s.refusals := by
    refine { hinv.queued with order := ?_, sorted := ?_, bounded := ?_, gated := ?_ }
    · have horder : s.begun = s.settled ++ (s.job.toList ++ (s.jobs.map Prod.fst ++ [])) := hinv.queued.order
      rw [List.append_nil] at horder
      rw [horder, List.append_assoc, List.append_assoc]
    · refine List.pairwise_append.mpr ⟨hinv.queued.sorted, List.pairwise_singleton _ _, fun m hm m' hm' => ?_⟩
      rw [List.mem_singleton.mp hm']
      exact hbounded m hm
    · intro m hm
      rcases List.mem_append.mp hm with hm | hm
      · exact Nat.lt_trans (hbounded m hm) (hreceived ▸ Nat.lt_succ_self n)
      · rw [List.mem_singleton.mp hm, hreceived]
        exact Nat.lt_succ_self n
    · intro m hm
      rcases List.mem_append.mp hm with hm | hm
      · exact hinv.queued.gated m hm
      · rw [List.mem_singleton.mp hm]
        exact ⟨q, hrequest, hgated⟩
  have hfewer (hbound : (s.begun ++ [n]).length < UInt64.size) : s.begun.length < UInt64.size := by
    rw [List.length_append] at hbound
    exact Nat.lt_of_le_of_lt (Nat.le_add_right _ _) hbound
  have hremembers : Remembers (nbd_client.content data_offset s.kernel.request boot (s.begun ++ [n]))
      (s.begun ++ [n]) s.committed (s.watch.begin_pending q.handle (q.commitment data_offset)) := by
    refine ⟨fun hbound => ?_, ?_⟩
    · obtain ⟨lo, hlo, hhistory, hreads⟩ := hinv.remembers.history (hfewer hbound)
      refine ⟨lo, hlo, hhistory.trans (List.map_congr_left fun i hi => ?_), hreads⟩
      rw [List.mem_range'_1] at hi
      have hi' : i ≤ s.begun.length := by
        have hi₂ : i < lo + (s.committed + 1 - lo) := hi.2
        have hlo' : lo ≤ s.committed := hlo
        omega
      rw [hcontent hi']
      rfl
    · have hnext : s.watch.next_seq = (s.begun.length + 1) % UInt64.size := hinv.remembers.next_seq
      rw [List.length_append, List.length_singleton, RegionWatch.begin_pending, hnext, Nat.mod_add_mod]
  have hfloored : Floored data_offset s.kernel s.received s.floors (s.begun ++ [n]) s.committed := by
    intro hbound m issued hissued hm hcover
    obtain ⟨hfloor, hacked⟩ := hinv.floored (hfewer hbound) m issued hissued hm hcover
    refine ⟨hfloor, fun answer hmem q' hq' hcapture' => ?_⟩
    rw [List.take_append_of_le_length (Nat.le_trans hfloor hcommitted)]
    exact hacked answer hmem q' hq' hcapture'
  have hpending : Holds (s.watch.pending.insert q.handle (s.watch.next_seq, q.commitment data_offset)) s.kernel.User
      (Pends data_offset s.kernel.request (s.begun ++ [n]) s.committed) := by
    have hnext : s.watch.next_seq = (s.begun.length + 1) % UInt64.size := hinv.remembers.next_seq
    refine hinv.pending.insert hinv.leases huser ?_ ?_
    · intro entry
      rw [hnext]
      constructor
      · rintro ⟨q', i, hq', hi, -, rfl⟩
        cases hrequest.symm.trans hq'
        rcases Nat.lt_or_ge i s.begun.length with hlt | hge
        · rw [List.getElem?_append_left hlt] at hi
          exact absurd (List.mem_of_getElem? hi) hbegun
        · rw [List.getElem?_append_right hge, List.getElem?_singleton] at hi
          split at hi
          · next hzero => rw [show i = s.begun.length by omega]
          · cases hi
      · rintro rfl
        refine ⟨q, s.begun.length, hrequest, ?_, hcommitted, rfl⟩
        rw [List.getElem?_append_right (Nat.le_refl _), Nat.sub_self]
        rfl
    · intro k m entry hm hk
      have hne : m ≠ n := by
        rintro rfl
        exact hk (hm.handle_eq hrequest).symm
      have hsame (i : Nat) : (s.begun ++ [n])[i]? = some m ↔ s.begun[i]? = some m := by
        rcases Nat.lt_or_ge i s.begun.length with hlt | hge
        · rw [List.getElem?_append_left hlt]
        · rw [List.getElem?_append_right hge, List.getElem?_eq_none hge, List.getElem?_singleton]
          refine iff_of_false ?_ (by simp)
          split
          · exact fun h => hne (Option.some.inj h).symm
          · simp
      simp only [Pends, hsame]
      rfl
  rw [hcommitment, hn]
  exact { hinv with
    serving := ⟨n, q, rest, hreceived, hrequest, rfl, hpayload, hunread⟩
    queued := (by show Queued data_offset _ _ _ _ _ _ [s.received - 1] _ _ _; rw [hn]; exact hqueued)
    remembers := hremembers
    floored := hfloored
    pending := hpending
    replying := hinv.replying.grow hgrows
    answered := fun answer hmem => (hinv.answered answer hmem).grow hgrows }

theorem send (hinv : Inv data_offset boot { s with request := .forwarded b r r true })
    (hall : r.length = (parse_request b).payload_length) (hcapture : (parse_request b).capture data_offset = some o) :
    Inv data_offset boot { s with
      jobs := s.jobs ++ [(s.received - 1, ⟨(parse_request b).handle, commitment_of_region (window o r)⟩)]
      request := .queued b r } := by
  have hlisted : s.received ≤ s.kernel.requests.length := hinv.listed_le
  obtain ⟨n, q, hreceived, hrequest, rfl, rfl, hunread⟩ := hinv.whole_payload hall
  rw [q.parse_header] at hcapture ⊢
  have hjob : (⟨q.fields.handle, commitment_of_region (window o q.payload)⟩ : PinJob) = q.job data_offset := by
    rw [NbdRequest.job, NbdRequest.commitment, show q.capture data_offset = some o from hcapture]
    rfl
  refine { hinv with
    serving := ⟨hlisted, hunread⟩
    queued := { hinv.queued with order := ?_, jobs := fun entry hentry => ?_ } }
  · have horder := hinv.queued.order
    simp only [List.map_append, List.map_singleton, RequestStage.unsent, List.append_nil] at horder ⊢
    exact horder
  · rcases List.mem_append.mp hentry with hentry | hentry
    · exact hinv.queued.jobs entry hentry
    · rw [List.mem_singleton.mp hentry]
      refine ⟨q, ?_, hjob⟩
      show s.kernel.request (s.received - 1) = some q
      rw [hreceived]
      exact hrequest

theorem serve_plain (hinv : Inv data_offset boot { s with request := .forwarded b r r g })
    (hall : r.length = (parse_request b).payload_length) (hplain : (parse_request b).capture data_offset = none) :
    Inv data_offset boot { s with request := .served b r } := by
  have hlisted : s.received ≤ s.kernel.requests.length := by
    cases g <;> exact hinv.listed_le
  obtain ⟨n, q, hreceived, hrequest, rfl, rfl, hunread⟩ := hinv.whole_payload hall
  rw [q.parse_header] at hplain
  cases g with
  | true =>
    obtain ⟨q', hq', hcapture⟩ := hinv.queued.gated (s.received - 1) (by
      rw [hinv.queued.order]
      simp [RequestStage.unsent])
    have hq' : s.kernel.request (s.received - 1) = some q' := hq'
    rw [hreceived] at hq'
    cases hrequest.symm.trans hq'
    rw [show q.capture data_offset = none from hplain] at hcapture
    cases hcapture
  | false =>
    refine { hinv with
      serving := ⟨hlisted, hunread⟩
      queued := { hinv.queued with bounded := fun m hm => ?_ } }
    exact Nat.lt_of_lt_of_le (hinv.queued.bounded m hm) (Nat.sub_le _ _)

theorem serve_gated (hinv : Inv data_offset boot { s with request := .queued b r }) :
    Inv data_offset boot { s with request := .served b r } :=
  { hinv with }

theorem next_request (hinv : Inv data_offset boot { s with request := .served b r }) :
    Inv data_offset boot { s with request := .waiting } :=
  { hinv with }

end Shared.Inv

end enclavia.nbd_client
