import Enclavia.NbdClient.InvariantLemmas

open interaction machine enclavia.synchronizer

namespace enclavia.nbd_client

open nbd

namespace RegionWatch

theorem prune_range (content : Nat → Bytes32) (floor lo k : Nat) :
    ∃ lo', lo' ≤ max lo floor ∧ lo' ≤ lo + k ∧
      prune floor ((List.range' lo (k + 1)).map fun i => (i, content i)) =
        (List.range' lo' (lo + k + 1 - lo')).map fun i => (i, content i) := by
  induction k generalizing lo with
  | zero =>
    refine ⟨lo, Nat.le_max_left _ _, Nat.le_refl _, ?_⟩
    rw [show lo + 0 + 1 - lo = 1 by omega]
    rfl
  | succ k ih =>
    rw [List.range'_succ, List.range'_succ, List.map_cons, List.map_cons, prune]
    split
    · refine ⟨lo, Nat.le_max_left _ _, Nat.le_add_right _ _, ?_⟩
      rw [show lo + (k + 1) + 1 - lo = k + 1 + 1 by omega, List.range'_succ, List.range'_succ, List.map_cons,
        List.map_cons]
    · next hfloor =>
      obtain ⟨lo', hmax, hle, hprune⟩ := ih (lo + 1)
      have hfloor : lo < floor := Nat.lt_of_not_le hfloor
      refine ⟨lo', by omega, by omega, ?_⟩
      rw [List.range'_succ, List.map_cons] at hprune
      rw [hprune, show lo + 1 + k + 1 = lo + (k + 1) + 1 by omega]

theorem floor_le {watch : RegionWatch} {seq : Nat} {h : UInt64} {read : ReadWatch}
    (hread : watch.reads[h]? = some read) : watch.floor seq ≤ read.accept_from_seq := by
  have hmem : read.accept_from_seq ∈ watch.reads.toList.map fun read => read.2.accept_from_seq :=
    List.mem_map.mpr ⟨(h, read), Std.ExtTreeMap.mem_toList_iff_getElem?_eq_some.mpr hread, rfl⟩
  rw [floor]
  cases hmin : (watch.reads.toList.map fun read => read.2.accept_from_seq).min? with
  | none =>
    rw [List.min?_eq_none_iff] at hmin
    rw [hmin] at hmem
    cases hmem
  | some m => exact (List.min?_eq_some_iff.mp hmin).2 _ hmem

end RegionWatch

theorem status_eq {settled : List Nat} {job job' : Option Nat} {pin pin' : PinStage} (hpin : pin.verdict = .Pending)
    (hpin' : pin'.verdict = .Pending) : status settled job pin = status settled job' pin' := by
  funext n
  rw [status, status, hpin, hpin', ite_self, ite_self]

theorem gates_congr {data_offset : UInt64} {request : Nat → Option NbdRequest} {registered n : Nat}
    {taken : Option UInt64} {status status' : Nat → PinStatus} {entry : PinStatus} (hstatus : status n = status' n) :
    Gates data_offset request registered taken status n entry ↔
      Gates data_offset request registered taken status' n entry := by
  rw [Gates, Gates, hstatus]

namespace Shared.Inv

variable {data_offset : UInt64} {boot : Bytes32} {s : Shared} {n : Nat} {j : PinJob} {m : String}

theorem recv {t : List (Nat × PinJob)} (hinv : Inv data_offset boot { s with pin := .idle })
    (hjobs : s.jobs = (n, j) :: t) :
    Inv data_offset boot { s with jobs := t, job := some n, pin := .pinning j } := by
  have hidle : s.job = none := by
    refine Option.eq_none_iff_forall_ne_some.mpr fun n hjob => ?_
    obtain ⟨q, -, hholds⟩ := hinv.queued.holds n hjob
    cases hholds
  have hstatus : status s.settled s.job .idle = status s.settled (some n) (.pinning j) := status_eq rfl rfl
  obtain ⟨q, hrequest, hj⟩ := hinv.queued.jobs (n, j) (by rw [hjobs]; exact List.mem_cons_self)
  refine { hinv with
    queued := { hinv.queued with
      order := ?_
      jobs := fun entry hentry => hinv.queued.jobs entry (by rw [hjobs]; exact List.mem_cons_of_mem _ hentry)
      holds := ?_
      busy := fun _ => rfl
      pinned := fun m hm => hinv.queued.pinned m (.inl (hm.resolve_right nofun))
      refused := fun m hm => (hinv.queued.refused m hm).2.elim }
    gate := hinv.gate.congr fun _ n _ _ => gates_congr (congrFun hstatus n) }
  · have horder := hinv.queued.order
    rw [hidle, hjobs] at horder
    exact horder
  · rintro _ ⟨⟩
    exact ⟨q, hrequest, congrArg some hj⟩

theorem busy_with (hinv : Inv data_offset boot s) (hholds : s.pin.holds = some j) :
    ∃ n q, s.job = some n ∧ s.kernel.request n = some q ∧ j = q.job data_offset ∧ s.kernel.User q.handle n ∧
      (q.capture data_offset).isSome ∧ s.begun[s.settled.length]? = some n ∧ n ∉ s.settled ∧ n < s.received := by
  obtain ⟨n, hjob⟩ := Option.isSome_iff_exists.mp (hinv.queued.busy (by rw [hholds]; rfl))
  obtain ⟨q, hrequest, hq⟩ := hinv.queued.holds n hjob
  obtain ⟨hbegun, hunsettled⟩ := hinv.current_job hjob
  obtain ⟨q', hq', hcapture⟩ := hinv.queued.gated n (List.mem_of_getElem? hbegun)
  cases hrequest.symm.trans hq'
  have hlimit : s.request.limit s.received ≤ s.received := by
    rw [RequestStage.limit.eq_def]
    split <;> omega
  exact ⟨n, q, hjob, hrequest, Option.some.inj (hholds.symm.trans hq), hinv.user_unsettled hrequest hcapture hunsettled,
    hcapture, hbegun, hunsettled, Nat.lt_of_lt_of_le (hinv.queued.bounded n (List.mem_of_getElem? hbegun)) hlimit⟩

theorem pin_ok (hinv : Inv data_offset boot { s with pin := .pinning j }) (hjob : s.job = some n) :
    Inv data_offset boot { s with pins := s.pins ++ [(n, j.commitment)], pin := .pinned j } := by
  obtain ⟨n', q, hjob', hrequest, rfl, -⟩ := hinv.busy_with rfl
  cases hjob.symm.trans hjob'
  refine { hinv with
    queued := { hinv.queued with
      pinned := fun m hm => ?_
      refused := fun m hm => (hinv.queued.refused m hm).2.elim } }
  rcases hm with hm | ⟨-, hm⟩
  · obtain ⟨q', hq', hpin⟩ := hinv.queued.pinned m (.inl hm)
    exact ⟨q', hq', List.mem_append_left _ hpin⟩
  · cases hjob.symm.trans hm
    exact ⟨q, hrequest, List.mem_append_right _ List.mem_cons_self⟩

theorem pin_refused (hinv : Inv data_offset boot { s with pin := .pinning j }) (hjob : s.job = some n) :
    Inv data_offset boot { s with refusals := s.refusals ++ [n], pin := .refused j m } := by
  refine { hinv with
    queued := { hinv.queued with
      pinned := fun m hm => hinv.queued.pinned m (.inl (hm.resolve_right (by rintro ⟨⟨⟩, -⟩)))
      refused := fun m hm => ?_ } }
  rcases List.mem_append.mp hm with hm | hm
  · exact (hinv.queued.refused m hm).2.elim
  · rw [List.mem_singleton.mp hm]
    exact ⟨hjob, trivial⟩

theorem commit (hinv : Inv data_offset boot { s with pin := .pinned j }) :
    Inv data_offset boot { s with watch := s.watch.commit j.handle, pin := .committed j } := by
  obtain ⟨n, q, hjob, hrequest, rfl, huser, hcapture, hbegun, hunsettled, -⟩ := hinv.busy_with rfl
  have hpending : s.watch.pending[q.handle]? = some ((s.settled.length + 1) % UInt64.size, q.commitment data_offset) :=
    hinv.pending.get huser ⟨q, s.settled.length, hrequest, hbegun, Nat.le_refl _, rfl⟩
  have hcommit : s.watch.commit q.handle = { s.watch with
      pending := s.watch.pending.erase q.handle
      history := RegionWatch.prune (s.watch.floor ((s.settled.length + 1) % UInt64.size))
        (s.watch.history ++ [((s.settled.length + 1) % UInt64.size, q.commitment data_offset)]) } := by
    rw [RegionWatch.commit, hpending]
  have hremembers : Remembers (s.content data_offset boot) s.begun (s.settled.length + 1)
      (s.watch.commit q.handle) := by
    rw [hcommit]
    refine ⟨fun hbound => ?_, hinv.remembers.next_seq⟩
    obtain ⟨lo, hlo, hhistory, hreads⟩ := hinv.remembers.history hbound
    have hlo : lo ≤ s.settled.length := hlo
    have hseq : (s.settled.length + 1) % UInt64.size = s.settled.length + 1 :=
      Nat.mod_eq_of_lt (Nat.lt_of_le_of_lt (List.getElem?_eq_some_iff.mp hbegun).1 hbound)
    have hnewest : s.content data_offset boot (s.settled.length + 1) = q.commitment data_offset :=
      content_succ hbegun hrequest
    have hlonger : s.watch.history ++ [(s.settled.length + 1, q.commitment data_offset)] =
        (List.range' lo (s.settled.length + 1 - lo + 1)).map fun i => (i, s.content data_offset boot i) := by
      rw [List.range'_concat, List.map_append, List.map_singleton, Nat.one_mul,
        show lo + (s.settled.length + 1 - lo) = s.settled.length + 1 by omega, hnewest]
      exact congrArg (· ++ _) hhistory
    obtain ⟨lo', hmax, hle, hprune⟩ := RegionWatch.prune_range (s.content data_offset boot)
      (s.watch.floor (s.settled.length + 1)) lo (s.settled.length + 1 - lo)
    rw [hseq]
    refine ⟨lo', by omega, ?_, fun h read hread => ?_⟩
    · rw [hlonger, hprune, show lo + (s.settled.length + 1 - lo) + 1 = s.settled.length + 1 + 1 by omega]
    · exact Nat.le_trans hmax (Nat.max_le.mpr ⟨hreads h read hread, RegionWatch.floor_le hread⟩)
  have hunique {i : Nat} (hi : s.begun[i]? = some n) : i = s.settled.length := by
    have hlt := (List.getElem?_eq_some_iff.mp hi).1
    exact (List.getElem?_inj hlt hinv.begun_nodup).mp (hi.trans hbegun.symm)
  have hpends : Holds (s.watch.pending.erase q.handle) s.kernel.User
      (Pends data_offset s.kernel.request s.begun (s.settled.length + 1)) := by
    refine hinv.pending.erase ?_ ?_
    · rintro m entry hm ⟨q', i, -, hi, hle, -⟩
      cases hinv.leases.user_unique huser hm
      have heq := hunique hi
      omega
    · intro k m entry hm hk
      refine exists_congr fun q' => exists_congr fun i => and_congr_right fun hq' => and_congr_right fun hi =>
        and_congr_left fun _ => ?_
      have hne : i ≠ s.settled.length := by
        rintro rfl
        cases hbegun.symm.trans hi
        exact hk (hm.handle_eq hrequest).symm
      show s.settled.length + 1 ≤ i ↔ s.settled.length ≤ i
      omega
  have hfloored : Floored data_offset s.kernel s.registered s.floors s.begun (s.settled.length + 1) := by
    intro hbound m issued hissued hm hcover
    obtain ⟨hfloor, hacked⟩ := hinv.floored hbound m issued hissued hm hcover
    exact ⟨Nat.le_succ_of_le hfloor, hacked⟩
  have hkeeps : (s.watch.commit q.handle).reads = s.watch.reads := by rw [hcommit]
  have hdrops : (s.watch.commit q.handle).pending = s.watch.pending.erase q.handle := by rw [hcommit]
  exact { hinv with
    queued := { hinv.queued with refused := fun m hm => (hinv.queued.refused m hm).2.elim }
    remembers := hremembers
    floored := hfloored
    reads := (congrArg (Holds · s.kernel.User _) hkeeps).mpr hinv.reads
    pending := (congrArg (Holds · s.kernel.User _) hdrops).mpr hpends }

theorem gate_unsettled (hinv : Inv data_offset boot s) {q : NbdRequest} (huser : s.kernel.User q.handle n)
    (hrequest : s.kernel.request n = some q) (hcapture : (q.capture data_offset).isSome) (hunsettled : n ∉ s.settled) :
    s.reply.point.ungates ≠ some q.handle := by
  intro htaken
  have hreplying := hinv.replying
  cases hpoint : s.reply.point with
  | passing header =>
    rw [hpoint] at htaken hreplying
    rw [← Option.some.inj htaken] at huser
    exact hunsettled ((hreplying.2.2 n q huser hrequest).2.2 hcapture)
  | releasing header =>
    rw [hpoint] at htaken hreplying
    obtain ⟨-, -, n', q', huser', -, -, -, hsettled⟩ := hreplying
    rw [← Option.some.inj htaken] at huser
    cases hinv.leases.user_unique huser huser'
    exact hunsettled hsettled
  | _ =>
    rw [hpoint] at htaken
    cases htaken

theorem finish_ok (hinv : Inv data_offset boot { s with pin := .committed j }) :
    Inv data_offset boot { s with
      gate := s.gate.finish_ok j.handle, settled := s.settled ++ s.job.toList, job := none, pin := .finished } := by
  obtain ⟨n, q, hjob, hrequest, rfl, huser, hcapture, hbegun, hunsettled, hforwarded⟩ := hinv.busy_with rfl
  have hjob : s.job = some n := hjob
  rw [hjob]
  have hlength : (s.settled ++ [n]).length + 0 = s.settled.length + 1 := by
    rw [List.length_append]
    rfl
  have hgrows : Grows s.received s.received s.floors s.floors (s.content data_offset boot)
      (s.content data_offset boot) s.begun s.begun s.settled (s.settled ++ [n]) :=
    ⟨Nat.le_refl _, fun _ _ => rfl, fun _ _ => rfl, Nat.le_refl _, List.subset_append_left _ _⟩
  have hqueued : Queued data_offset s.kernel.request (s.request.limit s.received) s.begun (s.settled ++ [n]) none s.jobs
      (s.request.unsent s.received) .finished s.pins s.refusals := by
    refine { hinv.queued with
      order := ?_
      holds := nofun
      busy := nofun
      pinned := fun m hm => hinv.queued.pinned m ?_
      refused := fun m hm => (hinv.queued.refused m hm).2.elim }
    · have horder := hinv.queued.order
      rw [hjob] at horder
      rw [List.append_assoc]
      exact horder
    · rcases List.mem_append.mp (hm.resolve_right nofun) with hm | hm
      · exact .inl hm
      · rw [List.mem_singleton.mp hm]
        exact .inr ⟨rfl, hjob⟩
  have hstatus {k : UInt64} {m : Nat} (hm : s.kernel.User k m) (hk : k ≠ q.handle) :
      status (s.settled ++ [n]) none .finished m = status s.settled s.job (.committed (q.job data_offset)) m := by
    have hne : m ≠ n := by
      rintro rfl
      exact hk (hm.handle_eq hrequest).symm
    simp only [status, PinStage.verdict, List.mem_append, List.mem_singleton, hne, or_false, ite_self]
  have hgate : Holds (s.gate.inner.insert q.handle .Ok) s.kernel.User (Gates data_offset s.kernel.request s.registered
      s.reply.point.ungates (status (s.settled ++ [n]) none .finished)) := by
    refine hinv.gate.insert hinv.leases huser ?_ fun k m entry hm hk => gates_congr (hstatus hm hk)
    intro entry
    have hok : status (s.settled ++ [n]) none .finished n = .Ok :=
      if_pos (List.mem_append_right _ List.mem_cons_self)
    constructor
    · rintro ⟨-, -, -, -, -, rfl⟩
      exact hok
    · rintro rfl
      exact ⟨q, hrequest, hcapture, Nat.lt_of_lt_of_le hforwarded (Nat.le_add_right _ _),
        hinv.gate_unsettled huser hrequest hcapture hunsettled, hok.symm⟩
  exact { hinv with
    queued := hqueued
    remembers := (congrArg (Remembers _ _ · _) hlength).mpr hinv.remembers
    floored := (congrArg (Floored data_offset s.kernel s.registered s.floors s.begun ·) hlength).mpr hinv.floored
    gate := hgate
    pending := (congrArg (fun committed => Holds s.watch.pending s.kernel.User
      (Pends data_offset s.kernel.request s.begun committed)) hlength).mpr hinv.pending
    replying := hinv.replying.grow hgrows
    answered := fun answer hmem => (hinv.answered answer hmem).grow hgrows }

theorem finish_err (hinv : Inv data_offset boot { s with pin := .refused j m }) :
    Inv data_offset boot { s with gate := s.gate.finish_err j.handle m, pin := .failed j m } := by
  obtain ⟨n, q, hjob, hrequest, rfl, huser, hcapture, hbegun, hunsettled, hforwarded⟩ := hinv.busy_with rfl
  have hjob : s.job = some n := hjob
  refine { hinv with
    queued := { hinv.queued with
      pinned := fun m hm => hinv.queued.pinned m (.inl (hm.resolve_right (by rintro ⟨⟨⟩, -⟩))) }
    gate := hinv.gate.insert hinv.leases huser ?_ fun k i entry hi hk => gates_congr ?_ }
  · intro entry
    have hfailed : status s.settled s.job (.failed (q.job data_offset) m) n = .Failed m := by
      rw [status, if_neg hunsettled, if_pos hjob, PinStage.verdict]
    constructor
    · rintro ⟨-, -, -, -, -, rfl⟩
      exact hfailed
    · rintro rfl
      exact ⟨q, hrequest, hcapture, Nat.lt_of_lt_of_le hforwarded (Nat.le_add_right _ _),
        hinv.gate_unsettled huser hrequest hcapture hunsettled, hfailed.symm⟩
  · have hne : s.job ≠ some i := by
      intro hi'
      cases hjob.symm.trans hi'
      exact hk (hi.handle_eq hrequest).symm
    show status s.settled s.job _ i = status s.settled s.job _ i
    rw [status, status, if_neg hne, if_neg hne]

theorem nudge (hinv : Inv data_offset boot { s with pin := .finished }) :
    Inv data_offset boot { s with nudges := s.nudges + 1, pin := .idle } :=
  { hinv with
    queued := { hinv.queued with
      pinned := fun m hm => hinv.queued.pinned m (.inl (hm.resolve_right (by rintro ⟨⟨⟩, -⟩))) } }

end Shared.Inv

end enclavia.nbd_client
