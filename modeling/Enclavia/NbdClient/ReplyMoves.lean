import Enclavia.NbdClient.InvariantLemmas

open interaction machine enclavia.synchronizer

namespace enclavia.nbd_client

open nbd

namespace Kernel

variable {kernel : Kernel} {b : List UInt8} {h : UInt64} {n : Nat} {q : NbdRequest} {a : Answer}

theorem user_answer : (kernel.answer a).User h n ↔ kernel.User h n ∧ a.request ≠ n := by
  rw [user_iff, user_iff]
  simp only [answer, List.mem_append, List.mem_singleton, or_imp, forall_and, forall_eq, request]
  constructor
  · rintro ⟨q, hrequest, hhandle, hnot, ha⟩
    exact ⟨⟨q, hrequest, hhandle, hnot⟩, ha⟩
  · rintro ⟨⟨q, hrequest, hhandle, hnot⟩, ha⟩
    exact ⟨q, hrequest, hhandle, hnot, ha⟩

theorem expects_of_read (hrequest : kernel.request n = some q) (hread : q.cmd_type = NBD_CMD_READ) :
    kernel.expects n = q.length.toNat := by
  simp only [expects, hrequest, hread, if_true]

theorem expects_of_not_read (hrequest : kernel.request n = some q) (hread : q.cmd_type ≠ NBD_CMD_READ) :
    kernel.expects n = 0 := by
  simp only [expects, hrequest, hread, if_false]

theorem receive_header (hrest : AtHeader kernel) (hlength : b.length = 16) :
    kernel.receive b = kernel.take_header b := by
  obtain ⟨hreading, hgot⟩ := hrest
  have hawaits : kernel.awaits = 16 := by rw [awaits, hreading]
  have hsome : b ≠ [] := by
    rintro rfl
    cases hlength
  rw [receive_all (by rw [hgot, List.nil_append, hlength, hawaits]) hsome, complete, hreading, hgot, List.nil_append]

theorem take_header_of_user (hleases : Leases kernel.User) (huser : kernel.User (parse_reply b).handle n) :
    kernel.take_header b = if (parse_reply b).error = 0 ∧ kernel.expects n ≠ 0 then
      { kernel with reading := some n, got := [] } else kernel.answer ⟨n, (parse_reply b).error, []⟩ := by
  rw [take_header, lookup_eq_some hleases huser]

theorem take_header_of_free (hrest : AtHeader kernel) (hfree : ∀ n, ¬kernel.User (parse_reply b).handle n) :
    kernel.take_header b = kernel := by
  rw [take_header, lookup_eq_none hfree, ← hrest.2]

end Kernel

variable {read : ReadWatch} {h : UInt64} {m : Nat} {entry : PinStatus}

section Entries

variable {data_offset : UInt64} {request : Nat → Option NbdRequest} {n : Nat} {taken taken' : Option UInt64}
  {registered : Nat}

theorem lists_taken {listed : Nat} {len : UInt32}
    (htaken : ∀ q, request n = some q → (taken = some q.handle ↔ taken' = some q.handle)) :
    Lists request listed taken n len ↔ Lists request listed taken' n len := by
  refine exists_congr fun q => and_congr_right fun hq => and_congr_right fun _ => and_congr_right fun _ => ?_
  rw [Ne, Ne, htaken q hq]

theorem watches_taken {floors : Nat → Nat}
    (htaken : ∀ q, request n = some q → (taken = some q.handle ↔ taken' = some q.handle)) :
    Watches data_offset request registered taken floors n read ↔
      Watches data_offset request registered taken' floors n read := by
  refine exists_congr fun q => and_congr_right fun hq => and_congr_right fun _ => and_congr_right fun _ => ?_
  rw [Ne, Ne, htaken q hq]

theorem gates_taken {status : Nat → PinStatus}
    (htaken : ∀ q, request n = some q → (taken = some q.handle ↔ taken' = some q.handle)) :
    Gates data_offset request registered taken status n entry ↔
      Gates data_offset request registered taken' status n entry := by
  refine exists_congr fun q => and_congr_right fun hq => and_congr_right fun _ => and_congr_right fun _ => ?_
  rw [Ne, Ne, htaken q hq]

theorem taken_other {kernel : Kernel} {k : UInt64} (hm : kernel.User k m) (hk : k ≠ h)
    (htaken : taken = none ∨ taken = some h) (htaken' : taken' = none ∨ taken' = some h) (q : NbdRequest)
    (hq : kernel.request m = some q) : taken = some q.handle ↔ taken' = some q.handle := by
  rw [hm.handle_eq hq]
  refine iff_of_false ?_ ?_
  · rcases htaken with rfl | rfl
    · exact nofun
    · exact fun heq => hk (Option.some.inj heq).symm
  · rcases htaken' with rfl | rfl
    · exact nofun
    · exact fun heq => hk (Option.some.inj heq).symm

end Entries

theorem RegionWatch.verify_read_watched {watch : RegionWatch} {region : List UInt8}
    (hget : watch.reads[h]? = some read) :
    (watch.verify_read h region).2 = watch.drop_read h ∧ ((watch.verify_read h region).1 = .ok () ↔
      watch.is_fresh read.accept_from_seq (commitment_of_region region) = true) := by
  rw [verify_read, hget]
  dsimp only
  split
  · next hfresh => exact ⟨rfl, iff_of_true rfl hfresh⟩
  · next hstale => exact ⟨rfl, iff_of_false nofun hstale⟩

namespace Shared.Inv

variable {data_offset : UInt64} {boot : Bytes32} {s : Shared} {b : List UInt8} {n : UInt32}
  {q : NbdRequest} {p : ReplyPoint} {o : Nat} {payload : List UInt8}

theorem registered_of_received (hm : m < s.received) : m < s.listed ∧ m < s.registered :=
  ⟨Nat.lt_of_lt_of_le hm (Nat.le_add_right _ _), Nat.lt_of_lt_of_le hm (Nat.le_add_right _ _)⟩

theorem find (hinv : Inv data_offset boot { s with reply.point := .taken b })
    (hlisted : s.inflight[(parse_reply b).handle]? = some n) :
    Inv data_offset boot { s with
      inflight := s.inflight.erase (parse_reply b).handle
      reply.point := .found b n } := by
  obtain ⟨hrest, hlength, hforwarded⟩ := hinv.replying
  obtain ⟨m, huser, q, hrequest, hread, -, -, rfl⟩ := (hinv.inflight _ n).mp hlisted
  refine { hinv with
    inflight := hinv.inflight.erase ?_ fun k m len hm hk => lists_taken (taken_other hm hk (.inr rfl) (.inl rfl))
    replying := ⟨hrest, hlength, m, q, ⟨huser, hrequest, hforwarded m huser, hread⟩, rfl⟩ }
  rintro m' len hm ⟨q', hq', -, -, htaken, -⟩
  exact htaken (congrArg some (hm.handle_eq hq').symm)

theorem miss (hinv : Inv data_offset boot { s with reply.point := .taken b })
    (hunlisted : s.inflight[(parse_reply b).handle]? = none) :
    Inv data_offset boot { s with
      inflight := s.inflight.erase (parse_reply b).handle
      reply.point := .unlisted b } := by
  obtain ⟨hrest, hlength, hforwarded⟩ := hinv.replying
  refine { hinv with
    inflight := hinv.inflight.erase (fun m len hm => hinv.inflight.not_entry hm hunlisted) fun _ _ _ _ _ => Iff.rfl
    replying := ⟨hrest, hlength, fun m q hm hq => ⟨hforwarded m hm, fun hread => ?_⟩⟩ }
  refine hinv.inflight.not_entry hm hunlisted (v := q.length) ⟨q, hq, hread, ?_, nofun, rfl⟩
  exact (registered_of_received (hforwarded m hm)).1

theorem see_watched (hinv : Inv data_offset boot { s with reply.point := .found b n })
    (hwatched : s.watch.reads[(parse_reply b).handle]? = some read) :
    Inv data_offset boot { s with reply.point := .watched b n read.payload_offset } := by
  obtain ⟨hrest, hlength, m, q, hreplies, hlen⟩ := hinv.replying
  obtain ⟨q', hq', hcover, -⟩ := hinv.reads.entry hinv.leases hreplies.user hwatched
  cases hreplies.request.symm.trans hq'
  exact { hinv with replying := ⟨hrest, hlength, m, q, hreplies, hlen, hcover⟩ }

theorem see_plain (hinv : Inv data_offset boot { s with reply.point := .found b n })
    (hunwatched : s.watch.reads[(parse_reply b).handle]? = none) :
    Inv data_offset boot { s with reply.point := .plain b n } := by
  obtain ⟨hrest, hlength, m, q, hreplies, hlen⟩ := hinv.replying
  refine { hinv with replying := ⟨hrest, hlength, m, q, hreplies, hlen, ?_⟩ }
  refine Option.eq_none_iff_forall_ne_some.mpr fun off hcover => ?_
  refine hinv.reads.not_entry hreplies.user hunwatched (v := ⟨off, s.floors m⟩)
    ⟨q, hreplies.request, hcover, ?_, nofun, rfl⟩
  exact (registered_of_received hreplies.forwarded).2

theorem answer {a : Answer} (hinv : Inv data_offset boot s) (huser : s.kernel.User h a.request)
    (hrequest : s.kernel.request a.request = some q)
    (hanswered : Answered data_offset s.kernel.request s.received s.floors (s.content data_offset boot)
      s.begun s.settled a)
    (hunlists : s.reply.point.unlists = some h ∨ s.reply.point.unlists = none ∧ q.cmd_type ≠ NBD_CMD_READ)
    (hunwatches : s.reply.point.unwatches = some h ∨ s.reply.point.unwatches = none ∧ q.cover data_offset = none)
    (hungates : s.reply.point.ungates = some h ∨ s.reply.point.ungates = none ∧ q.capture data_offset = none)
    (hp : p = .written ∨ p = .released) :
    Inv data_offset boot { s with kernel := s.kernel.answer a, reply.point := p } := by
  have hhandle := huser.handle_eq hrequest
  have hself {P : NbdRequest → Prop} (hq : P q) {q' : NbdRequest} (hq' : s.kernel.request a.request = some q') :
      P q' := by
    cases hrequest.symm.trans hq'
    exact hq
  have husers {m : Nat} (hm : a.request ≠ m) (k : UInt64) : s.kernel.User k m ↔ (s.kernel.answer a).User k m := by
    rw [Kernel.user_answer]
    exact ⟨fun hk => ⟨hk, hm⟩, And.left⟩
  have hother {k : UInt64} {m : Nat} (hm : (s.kernel.answer a).User k m) : s.kernel.User k m ∧ k ≠ h := by
    obtain ⟨hm, hne⟩ := Kernel.user_answer.mp hm
    refine ⟨hm, ?_⟩
    rintro rfl
    exact hne (hinv.leases.user_unique huser hm)
  have hleases : Leases (s.kernel.answer a).User :=
    ⟨fun hn hm => hinv.leases.user_unique (hother hn).1 (hother hm).1,
      fun hn hm => hinv.leases.handle_unique (hother hn).1 (hother hm).1⟩
  have hinflight : Holds s.inflight (s.kernel.answer a).User (Lists s.kernel.request s.listed none) := by
    refine (hinv.inflight.users fun k m len hm => husers ?_ k).congr fun k m len hm => lists_taken ?_
    · rintro rfl
      obtain ⟨q', hq', hread, -, htaken, -⟩ := hm
      cases hrequest.symm.trans hq'
      rcases hunlists with hunlists | ⟨-, hunread⟩
      · exact htaken (by rw [hunlists, hhandle])
      · exact hunread hread
    · exact taken_other (hother hm).1 (hother hm).2 (hunlists.elim .inr fun h => .inl h.1) (.inl rfl)
  have hreads : Holds s.watch.reads (s.kernel.answer a).User
      (Watches data_offset s.kernel.request s.registered none s.floors) := by
    refine (hinv.reads.users fun k m read hm => husers ?_ k).congr fun k m read hm => watches_taken ?_
    · rintro rfl
      obtain ⟨q', hq', hcover, -, htaken, -⟩ := hm
      cases hrequest.symm.trans hq'
      rcases hunwatches with hunwatches | ⟨-, huncovered⟩
      · exact htaken (by rw [hunwatches, hhandle])
      · cases huncovered.symm.trans hcover
    · exact taken_other (hother hm).1 (hother hm).2 (hunwatches.elim .inr fun h => .inl h.1) (.inl rfl)
  have hgate : Holds s.gate.inner (s.kernel.answer a).User
      (Gates data_offset s.kernel.request s.registered none (status s.settled s.job s.pin)) := by
    refine (hinv.gate.users fun k m entry hm => husers ?_ k).congr fun k m entry hm => gates_taken ?_
    · rintro rfl
      obtain ⟨q', hq', hcapture, -, htaken, -⟩ := hm
      cases hrequest.symm.trans hq'
      rcases hungates with hungates | ⟨-, hungated⟩
      · exact htaken (by rw [hungates, hhandle])
      · rw [hungated] at hcapture
        cases hcapture
    · exact taken_other (hother hm).1 (hother hm).2 (hungates.elim .inr fun h => .inl h.1) (.inl rfl)
  have hpending : Holds s.watch.pending (s.kernel.answer a).User
      (Pends data_offset s.kernel.request s.begun s.committed) := by
    refine hinv.pending.users fun k m entry hm => husers ?_ k
    rintro rfl
    obtain ⟨q', i, hq', hi, hcommitted, -⟩ := hm
    obtain ⟨q'', hq'', hcapture⟩ := hinv.queued.gated _ (List.mem_of_getElem? hi)
    exact hinv.not_settled hi (Nat.le_trans (Nat.le_add_right _ _) hcommitted) (hanswered.settled q'' hq'' hcapture)
  have hfloored : Floored data_offset (s.kernel.answer a) s.registered s.floors s.begun s.committed := by
    intro hbound m issued hissued hm hcover
    obtain ⟨hfloor, hacked⟩ := hinv.floored hbound m issued hissued hm hcover
    refine ⟨hfloor, fun answer hmem q' hq' hcapture => hacked answer ?_ q' hq' hcapture⟩
    have hknown := hinv.known issued (List.mem_of_getElem? hissued)
    rw [Kernel.answer, List.take_append_of_le_length hknown] at hmem
    exact hmem
  have hknown : ∀ issued ∈ s.kernel.requests, issued.known ≤ (s.kernel.answer a).answers.length := by
    intro issued hissued
    rw [Kernel.answer, List.length_append]
    exact Nat.le_add_right_of_le (hinv.known issued hissued)
  have hanswers : ∀ answer ∈ (s.kernel.answer a).answers, Answered data_offset s.kernel.request s.received s.floors
      (s.content data_offset boot) s.begun s.settled answer := by
    intro answer hmem
    rcases List.mem_append.mp hmem with hmem | hmem
    · exact hinv.answered answer hmem
    · rw [List.mem_singleton.mp hmem]
      exact hanswered
  rcases hp with rfl | rfl
  all_goals exact { hinv with
    leases := hleases
    known := hknown
    floored := hfloored
    inflight := hinflight
    reads := hreads
    gate := hgate
    pending := hpending
    replying := ⟨rfl, rfl⟩
    answered := hanswers }

theorem await {m : Option Nat} {g : List UInt8} (hinv : Inv data_offset boot s)
    (hunlists : p.unlists = s.reply.point.unlists) (hunwatches : p.unwatches = s.reply.point.unwatches)
    (hungates : p.ungates = s.reply.point.ungates)
    (hreplying : Replying data_offset { s.kernel with reading := m, got := g } s.received s.floors
      (s.content data_offset boot) s.begun s.settled p) :
    Inv data_offset boot { s with
      kernel := { s.kernel with reading := m, got := g }
      reply.point := p } := by
  have hinflight : Holds s.inflight s.kernel.User (Lists s.kernel.request s.listed p.unlists) :=
    hunlists ▸ hinv.inflight
  have hreads : Holds s.watch.reads s.kernel.User
      (Watches data_offset s.kernel.request s.registered p.unwatches s.floors) := hunwatches ▸ hinv.reads
  have hgate : Holds s.gate.inner s.kernel.User
      (Gates data_offset s.kernel.request s.registered p.ungates (status s.settled s.job s.pin)) :=
    hungates ▸ hinv.gate
  exact { hinv with inflight := hinflight, reads := hreads, gate := hgate, replying := hreplying }

theorem answer_read {a : Answer} (hinv : Inv data_offset boot s)
    (hreplies : Replies s.kernel s.received b a.request q)
    (hunlists : s.reply.point.unlists = some (parse_reply b).handle)
    (hunwatches : s.reply.point.unwatches = some (parse_reply b).handle ∨ s.reply.point.unwatches = none ∧
      q.cover data_offset = none)
    (hungates : s.reply.point.ungates = none)
    (hfresh : ∀ off, q.cover data_offset = some off → a.error = 0 →
      Fresh (s.content data_offset boot) s.begun (s.floors a.request) off a.payload) :
    Inv data_offset boot { s with kernel := s.kernel.answer a, reply.point := .written } := by
  have hcapture : q.capture data_offset = none := NbdRequest.capture_eq_none hreplies.read
  refine hinv.answer hreplies.user hreplies.request ?_ (.inl hunlists) hunwatches (.inr ⟨hungates, hcapture⟩) (.inl rfl)
  refine ⟨hreplies.forwarded, fun q' hq' hcapture' => ?_, fun q' off hq' hcover herror => ?_⟩
  · cases hreplies.request.symm.trans hq'
    rw [hcapture] at hcapture'
    cases hcapture'
  · cases hreplies.request.symm.trans hq'
    exact hfresh off hcover herror

theorem write_plain (hinv : Inv data_offset boot s) (hpoint : s.reply.point = .plain b n)
    (hnext : (if (parse_reply b).error = 0 ∧ n ≠ 0 then .streaming b n [] [] else .written) = p) :
    Inv data_offset boot { s with kernel := s.kernel.receive b, reply.point := p } := by
  obtain ⟨hrest, hlength, m, q, hreplies, rfl, hcover⟩ := hpoint ▸ hinv.replying
  have hexpects : s.kernel.expects m = q.length.toNat := Kernel.expects_of_read hreplies.request hreplies.read
  have hzero : s.kernel.expects m ≠ 0 ↔ q.length ≠ 0 := by
    rw [hexpects, Ne, Ne, ← UInt32.toNat_inj]
    rfl
  rw [Kernel.receive_header hrest hlength, Kernel.take_header_of_user hinv.leases hreplies.user]
  split at hnext
  · next hstream =>
    cases hnext
    rw [if_pos ⟨hstream.1, hzero.mpr hstream.2⟩]
    refine hinv.await (hpoint ▸ rfl) (hpoint ▸ rfl) (hpoint ▸ rfl)
      ⟨m, q, { hreplies with }, rfl, hcover, rfl, rfl, ?_, ?_⟩
    · rw [← hexpects]
      exact Nat.pos_of_ne_zero (hzero.mpr hstream.2)
    · exact Nat.zero_le _
  · next hwhole =>
    cases hnext
    rw [if_neg fun h => hwhole ⟨h.1, hzero.mp h.2⟩]
    refine hinv.answer_read hreplies (hpoint ▸ rfl) (.inr ⟨hpoint ▸ rfl, hcover⟩) (hpoint ▸ rfl) fun off hoff => ?_
    cases hcover.symm.trans hoff

theorem stream_read {r w c : List UInt8}
    (hinv : Inv data_offset boot { s with reply.point := .streaming b n r w })
    (hfits : r.length + c.length ≤ n.toNat) :
    Inv data_offset boot { s with reply.point := .streaming b n (r ++ c) w } := by
  obtain ⟨m, q, hreplies, hlen, hcover, hreading, hgot, hwritten, -⟩ := hinv.replying
  refine { hinv with replying := ⟨m, q, hreplies, hlen, hcover, hreading, hgot, hwritten, ?_⟩ }
  rw [List.length_append]
  exact hfits

theorem stream_write {r w c : List UInt8} (hinv : Inv data_offset boot s)
    (hpoint : s.reply.point = .streaming b n r w) (hchunk : w ++ c = r) (hsome : c ≠ [])
    (hnext : (if r.length = n.toNat then .written else .streaming b n r r) = p) :
    Inv data_offset boot { s with kernel := s.kernel.receive c, reply.point := p } := by
  obtain ⟨m, q, hreplies, rfl, hcover, hreading, rfl, hwritten, hread⟩ := hpoint ▸ hinv.replying
  have hawaits : s.kernel.awaits = q.length.toNat := by
    rw [Kernel.awaits, hreading]
    exact Kernel.expects_of_read hreplies.request hreplies.read
  split at hnext
  · next hall =>
    cases hnext
    rw [Kernel.receive_all (by rw [hchunk, hawaits, hall]) hsome, Kernel.complete, hreading, hchunk]
    refine hinv.answer_read hreplies (hpoint ▸ rfl) (.inr ⟨hpoint ▸ rfl, hcover⟩) (hpoint ▸ rfl) fun off hoff => ?_
    cases hcover.symm.trans hoff
  · next hmore =>
    cases hnext
    have hlt : r.length < q.length.toNat := Nat.lt_of_le_of_ne hread hmore
    rw [Kernel.receive_part (by rw [hchunk, hawaits]; exact hlt), hchunk]
    exact hinv.await (hpoint ▸ rfl) (hpoint ▸ rfl) (hpoint ▸ rfl)
      ⟨m, q, { hreplies with }, rfl, hcover, hreading, rfl, hlt, hread⟩

theorem unwatch (hinv : Inv data_offset boot s) (hunlists : p.unlists = s.reply.point.unlists)
    (hwatching : s.reply.point.unwatches = none) (hunwatches : p.unwatches = some (parse_reply b).handle)
    (hungates : p.ungates = s.reply.point.ungates)
    (hreplying : Replying data_offset s.kernel s.received s.floors (s.content data_offset boot) s.begun
      s.settled p) :
    Inv data_offset boot { s with
      watch := s.watch.drop_read (parse_reply b).handle, reply.point := p } := by
  have hinflight : Holds s.inflight s.kernel.User (Lists s.kernel.request s.listed p.unlists) :=
    hunlists ▸ hinv.inflight
  have hgate : Holds s.gate.inner s.kernel.User
      (Gates data_offset s.kernel.request s.registered p.ungates (status s.settled s.job s.pin)) :=
    hungates ▸ hinv.gate
  have hreads : Holds (s.watch.drop_read (parse_reply b).handle).reads s.kernel.User
      (Watches data_offset s.kernel.request s.registered p.unwatches s.floors) := by
    refine hinv.reads.erase ?_ fun k m read hm hk =>
      watches_taken (taken_other hm hk (.inr hunwatches) (.inl hwatching))
    rintro m read hm ⟨q, hq, -, -, htaken, -⟩
    rw [hunwatches, hm.handle_eq hq] at htaken
    exact htaken rfl
  have hremembers : Remembers (s.content data_offset boot) s.begun s.committed
      (s.watch.drop_read (parse_reply b).handle) := by
    refine ⟨fun hbound => ?_, hinv.remembers.next_seq⟩
    obtain ⟨lo, hle, hhistory, hfloor⟩ := hinv.remembers.history hbound
    refine ⟨lo, hle, hhistory, fun h read hget => hfloor h read ?_⟩
    rw [RegionWatch.drop_read, Std.ExtTreeMap.getElem?_erase] at hget
    split at hget
    · cases hget
    · exact hget
  exact { hinv with
    remembers := hremembers, inflight := hinflight, reads := hreads, gate := hgate, replying := hreplying }

theorem drop_read (hinv : Inv data_offset boot s) (hpoint : s.reply.point = .watched b n o)
    (herror : (parse_reply b).error ≠ 0) :
    Inv data_offset boot { s with
      watch := s.watch.drop_read (parse_reply b).handle, reply.point := .dropped b } := by
  obtain ⟨hrest, hlength, m, q, hreplies, -⟩ := hpoint ▸ hinv.replying
  refine hinv.unwatch (hpoint ▸ rfl) (hpoint ▸ rfl) rfl (hpoint ▸ rfl) ?_
  exact ⟨hrest, hlength, herror, m, q, hreplies⟩

theorem load (hinv : Inv data_offset boot { s with reply.point := .watched b n o })
    (herror : (parse_reply b).error = 0) (hpayload : payload.length = n.toNat) :
    Inv data_offset boot { s with reply.point := .loaded b o payload } := by
  obtain ⟨hrest, hlength, m, q, hreplies, rfl, hcover⟩ := hinv.replying
  exact { hinv with replying := ⟨hrest, hlength, herror, m, q, hreplies, hcover, hpayload⟩ }

theorem write_dropped (hinv : Inv data_offset boot s) (hpoint : s.reply.point = .dropped b) :
    Inv data_offset boot { s with kernel := s.kernel.receive b, reply.point := .written } := by
  obtain ⟨hrest, hlength, herror, m, q, hreplies⟩ := hpoint ▸ hinv.replying
  rw [Kernel.receive_header hrest hlength, Kernel.take_header_of_user hinv.leases hreplies.user,
    if_neg fun h => herror h.1]
  exact hinv.answer_read hreplies (hpoint ▸ rfl) (.inl (hpoint ▸ rfl)) (hpoint ▸ rfl)
    fun off _ hzero => absurd hzero herror

theorem fresh {floor : Nat} {hash : Bytes32} (hinv : Inv data_offset boot s)
    (hfresh : s.watch.is_fresh floor hash = true) (hbound : s.begun.length < UInt64.size) :
    ∃ i, floor ≤ i ∧ i ≤ s.begun.length ∧ s.content data_offset boot i = hash := by
  rw [RegionWatch.is_fresh, Bool.or_eq_true, List.any_eq_true, List.any_eq_true] at hfresh
  rcases hfresh with ⟨entry, hmem, hentry⟩ | ⟨⟨h, entry⟩, hmem, hentry⟩
  · obtain ⟨lo, hle, hhistory, -⟩ := hinv.remembers.history hbound
    rw [hhistory] at hmem
    obtain ⟨i, hi, rfl⟩ := List.mem_map.mp hmem
    rw [Bool.and_eq_true, decide_eq_true_iff, decide_eq_true_iff] at hentry
    rw [List.mem_range'_1] at hi
    exact ⟨i, hentry.1, Nat.le_trans (by omega) hinv.committed_le, hentry.2⟩
  · have hget := Std.ExtTreeMap.mem_toList_iff_getElem?_eq_some.mp hmem
    obtain ⟨n, -, q, i, hrequest, hi, -, rfl⟩ := (hinv.pending h entry).mp hget
    have hlt := (List.getElem?_eq_some_iff.mp hi).1
    rw [Bool.and_eq_true, decide_eq_true_iff, decide_eq_true_iff,
      Nat.mod_eq_of_lt (Nat.lt_of_le_of_lt hlt hbound)] at hentry
    refine ⟨i + 1, hentry.1, hlt, ?_⟩
    rw [Shared.content, content_succ hi hrequest]
    exact hentry.2

theorem watching (hinv : Inv data_offset boot s) (hreplies : Replies s.kernel s.received b m q)
    (hcover : q.cover data_offset = some o) (hwatching : s.reply.point.unwatches = none) :
    s.watch.reads[(parse_reply b).handle]? = some ⟨o, s.floors m⟩ := by
  refine hinv.reads.get hreplies.user ⟨q, hreplies.request, hcover, ?_, ?_, rfl⟩
  · exact (registered_of_received hreplies.forwarded).2
  · rw [hwatching]
    exact nofun

theorem verify (hinv : Inv data_offset boot s) (hpoint : s.reply.point = .loaded b o payload)
    (hok : (s.watch.verify_read (parse_reply b).handle (window o payload)).1 = .ok ()) :
    Inv data_offset boot { s with
      watch := (s.watch.verify_read (parse_reply b).handle (window o payload)).2
      reply.point := .verified b o payload } := by
  obtain ⟨hrest, hlength, herror, m, q, hreplies, hcover, hpayload⟩ := hpoint ▸ hinv.replying
  obtain ⟨hdrop, hfresh⟩ := RegionWatch.verify_read_watched (hinv.watching hreplies hcover (hpoint ▸ rfl))
  rw [hdrop]
  refine hinv.unwatch (hpoint ▸ rfl) (hpoint ▸ rfl) rfl (hpoint ▸ rfl) ?_
  exact ⟨hrest, hlength, herror, m, q, hreplies, hcover, hpayload, hinv.fresh (hfresh.mp hok)⟩

theorem reject (hinv : Inv data_offset boot s) (hpoint : s.reply.point = .loaded b o payload) :
    Inv data_offset boot { s with
      watch := (s.watch.verify_read (parse_reply b).handle (window o payload)).2
      reply.point := .rejected b } := by
  obtain ⟨hrest, -, -, m, q, hreplies, hcover, -⟩ := hpoint ▸ hinv.replying
  rw [(RegionWatch.verify_read_watched (hinv.watching hreplies hcover (hpoint ▸ rfl))).1]
  exact hinv.unwatch (hpoint ▸ rfl) (hpoint ▸ rfl) rfl (hpoint ▸ rfl) ⟨hrest, m, q, hreplies⟩

theorem write_verified (hinv : Inv data_offset boot s) (hpoint : s.reply.point = .verified b o payload) :
    Inv data_offset boot
      { s with kernel := s.kernel.receive b, reply.point := .delivering b o payload } := by
  obtain ⟨hrest, hlength, herror, m, q, hreplies, hcover, hpayload, hfresh⟩ := hpoint ▸ hinv.replying
  have hexpects : s.kernel.expects m ≠ 0 := by
    rw [Kernel.expects_of_read hreplies.request hreplies.read]
    have hfits : o + SB_REGION_LEN ≤ q.length.toNat := RequestHeader.cover_fits hcover
    exact Nat.ne_of_gt (Nat.lt_of_lt_of_le (by decide) (Nat.le_trans (Nat.le_add_left _ _) hfits))
  rw [Kernel.receive_header hrest hlength, Kernel.take_header_of_user hinv.leases hreplies.user,
    if_pos ⟨herror, hexpects⟩]
  exact hinv.await (hpoint ▸ rfl) (hpoint ▸ rfl) (hpoint ▸ rfl)
    ⟨m, q, { hreplies with }, hcover, hpayload, hfresh, rfl, rfl⟩

theorem deliver (hinv : Inv data_offset boot s) (hpoint : s.reply.point = .delivering b o payload) :
    Inv data_offset boot { s with kernel := s.kernel.receive payload, reply.point := .written } := by
  obtain ⟨m, q, hreplies, hcover, hpayload, hfresh, hreading, hgot⟩ := hpoint ▸ hinv.replying
  have hawaits : (s.kernel.got ++ payload).length = s.kernel.awaits := by
    rw [hgot, List.nil_append, Kernel.awaits, hreading, hpayload]
    exact (Kernel.expects_of_read hreplies.request hreplies.read).symm
  have hsome : payload ≠ [] := by
    rintro rfl
    have hfits : o + SB_REGION_LEN ≤ q.length.toNat := RequestHeader.cover_fits hcover
    rw [← hpayload, List.length_nil] at hfits
    exact absurd (Nat.le_trans (Nat.le_add_left _ _) hfits) (by decide)
  rw [Kernel.receive_all hawaits hsome, Kernel.complete, hreading, hgot, List.nil_append]
  refine hinv.answer_read hreplies (hpoint ▸ rfl) (.inl (hpoint ▸ rfl)) (hpoint ▸ rfl) fun off hoff _ => ?_
  cases hcover.symm.trans hoff
  exact hfresh

theorem settled_of_status {settled : List Nat} {job : Option Nat} {pin : PinStage}
    (hstatus : .Ok = status settled job pin m) : m ∈ settled := by
  rw [status] at hstatus
  split at hstatus
  · assumption
  · split at hstatus
    · cases pin <;> cases hstatus
    · cases hstatus

theorem ungated {taken : Option UInt64} (hm : s.kernel.User h m) (htaken : taken = some h) :
    ¬Gates data_offset s.kernel.request s.registered taken (status s.settled s.job s.pin) m entry := by
  rintro ⟨q', hq', -, -, hfree, -⟩
  rw [htaken, hm.handle_eq hq'] at hfree
  exact hfree rfl

theorem pass_ungated (hinv : Inv data_offset boot { s with reply.point := .unlisted b })
    (hungated : s.gate.inner[(parse_reply b).handle]? = none) :
    Inv data_offset boot { s with reply.point := .passing b } := by
  obtain ⟨hrest, hlength, hplain⟩ := hinv.replying
  refine { hinv with
    gate := hinv.gate.congr fun k m entry hm => ?_
    replying := ⟨hrest, hlength, fun m q hm hq => ⟨(hplain m q hm hq).1, (hplain m q hm hq).2, fun hcapture => ?_⟩⟩ }
  · by_cases hk : k = (parse_reply b).handle
    · subst hk
      exact iff_of_false (hinv.gate.not_entry hm hungated) (ungated hm rfl)
    · exact gates_taken (taken_other hm hk (.inl rfl) (.inr rfl))
  · refine absurd ⟨q, hq, hcapture, ?_, nofun, rfl⟩ (hinv.gate.not_entry hm hungated)
    exact (registered_of_received (hplain m q hm hq).1).2

theorem consume (hinv : Inv data_offset boot s) (hgating : s.reply.point.ungates = none) :
    Holds (s.gate.inner.erase h) s.kernel.User
      (Gates data_offset s.kernel.request s.registered (some h) (status s.settled s.job s.pin)) := by
  exact hinv.gate.erase (fun m entry hm => ungated hm rfl) fun k m entry hm hk =>
    gates_taken (taken_other hm hk (.inr rfl) (.inl hgating))

theorem pass (hinv : Inv data_offset boot { s with reply.point := .unlisted b })
    (hgate : s.gate.inner[(parse_reply b).handle]? = some .Ok) :
    Inv data_offset boot { s with
      gate := ⟨s.gate.inner.erase (parse_reply b).handle⟩
      reply.point := .passing b } := by
  obtain ⟨hrest, hlength, hplain⟩ := hinv.replying
  refine { hinv with
    gate := hinv.consume rfl
    replying := ⟨hrest, hlength, fun m q hm hq => ⟨(hplain m q hm hq).1, (hplain m q hm hq).2, fun _ => ?_⟩⟩ }
  obtain ⟨-, -, -, -, -, hstatus⟩ := hinv.gate.entry hinv.leases hm hgate
  exact settled_of_status hstatus

theorem hold (hinv : Inv data_offset boot { s with reply.point := .unlisted b })
    (herror : (parse_reply b).error = 0) :
    Inv data_offset boot { s with
      reply.point := .done
      reply.stashed := s.reply.stashed.insert (parse_reply b).handle b } := by
  obtain ⟨hrest, hlength, -⟩ := hinv.replying
  refine { hinv with replying := hrest, parked := ?_ }
  intro h header hget
  have hget : (s.reply.stashed.insert (parse_reply b).handle b)[h]? = some header := hget
  rw [Std.ExtTreeMap.getElem?_insert] at hget
  split at hget
  · next hkey =>
    cases hget
    exact ⟨hlength, Std.LawfulEqOrd.eq_of_compare hkey, herror⟩
  · exact hinv.parked h header hget

theorem write_passing (hinv : Inv data_offset boot s) (hpoint : s.reply.point = .passing b) :
    Inv data_offset boot { s with kernel := s.kernel.receive b, reply.point := .written } := by
  obtain ⟨hrest, hlength, hplain⟩ := hpoint ▸ hinv.replying
  rw [Kernel.receive_header hrest hlength]
  by_cases huser : ∃ m, s.kernel.User (parse_reply b).handle m
  · obtain ⟨m, hm⟩ := huser
    obtain ⟨q, hq, -⟩ := hm.request
    obtain ⟨hforwarded, hread, hsettled⟩ := hplain m q hm hq
    rw [Kernel.take_header_of_user hinv.leases hm, Kernel.expects_of_not_read hq hread, if_neg fun h => h.2 rfl]
    have hcover : q.cover data_offset = none := NbdRequest.cover_eq_none hread
    refine hinv.answer hm hq ?_ (.inr ⟨hpoint ▸ rfl, hread⟩) (.inr ⟨hpoint ▸ rfl, hcover⟩) (.inl (hpoint ▸ rfl))
      (.inl rfl)
    refine ⟨hforwarded, fun q' hq' hcapture => ?_, fun q' off hq' hoff => ?_⟩
    · cases hq.symm.trans hq'
      exact hsettled hcapture
    · cases hq.symm.trans hq'
      cases hcover.symm.trans hoff
  · have hfree : ∀ m, ¬s.kernel.User (parse_reply b).handle m := not_exists.mp huser
    rw [Kernel.take_header_of_free hrest hfree]
    have hgate : Holds s.gate.inner s.kernel.User
        (Gates data_offset s.kernel.request s.registered none (status s.settled s.job s.pin)) := by
      have hungates : s.reply.point.ungates = some (parse_reply b).handle := by rw [hpoint]; rfl
      refine hinv.gate.congr fun k m entry hm => gates_taken (taken_other hm ?_ (.inr hungates) (.inl rfl))
      rintro rfl
      exact hfree m hm
    have hinflight : Holds s.inflight s.kernel.User (Lists s.kernel.request s.listed none) := by
      have h := hinv.inflight
      rw [hpoint] at h
      exact h
    have hreads : Holds s.watch.reads s.kernel.User
        (Watches data_offset s.kernel.request s.registered none s.floors) := by
      have h := hinv.reads
      rw [hpoint] at h
      exact h
    exact { hinv with inflight := hinflight, reads := hreads, gate := hgate, replying := hrest }

theorem settled_lt (hinv : Inv data_offset boot s) (hm : m ∈ s.settled) : m < s.received := by
  refine Nat.lt_of_lt_of_le (hinv.queued.bounded m (hinv.settled_subset hm)) ?_
  cases s.request with
  | forwarded header read written begun => cases begun <;> simp only [RequestStage.limit] <;> omega
  | _ => exact Nat.le_refl _

theorem release (hinv : Inv data_offset boot { s with reply.point := .flushing })
    (hstashed : s.reply.stashed[h]? = some b) (hgate : s.gate.inner[h]? = some .Ok) :
    Inv data_offset boot { s with
      gate := ⟨s.gate.inner.erase h⟩
      reply.point := .releasing b
      reply.stashed := s.reply.stashed.erase h } := by
  obtain ⟨hlength, rfl, -⟩ := hinv.parked h b hstashed
  obtain ⟨m, hm, q, hq, hcapture, -, -, hstatus⟩ := (hinv.gate _ _).mp hgate
  have hsettled := settled_of_status hstatus
  refine { hinv with
    gate := hinv.consume rfl
    replying := ⟨hinv.replying, hlength, m, q, hm, hq, hinv.settled_lt hsettled, hcapture, hsettled⟩
    parked := ?_ }
  intro k header hget
  have hget : (s.reply.stashed.erase (parse_reply b).handle)[k]? = some header := hget
  rw [Std.ExtTreeMap.getElem?_erase] at hget
  split at hget
  · cases hget
  · exact hinv.parked k header hget

theorem write_released (hinv : Inv data_offset boot s) (hpoint : s.reply.point = .releasing b) :
    Inv data_offset boot { s with kernel := s.kernel.receive b, reply.point := .released } := by
  obtain ⟨hrest, hlength, m, q, hm, hq, hforwarded, hcapture, hsettled⟩ := hpoint ▸ hinv.replying
  obtain ⟨off, hoff⟩ := Option.isSome_iff_exists.mp hcapture
  have hread : q.cmd_type ≠ NBD_CMD_READ := by
    rw [NbdRequest.cmd_type_of_capture hoff]
    decide
  have hcover : q.cover data_offset = none := NbdRequest.cover_eq_none hread
  rw [Kernel.receive_header hrest hlength, Kernel.take_header_of_user hinv.leases hm,
    Kernel.expects_of_not_read hq hread,
    if_neg fun h => h.2 rfl]
  refine hinv.answer hm hq ?_ (.inr ⟨hpoint ▸ rfl, hread⟩) (.inr ⟨hpoint ▸ rfl, hcover⟩) (.inl (hpoint ▸ rfl))
    (.inr rfl)
  refine ⟨hforwarded, fun _ _ _ => hsettled, fun q' off hq' hoff => ?_⟩
  cases hq.symm.trans hq'
  cases hcover.symm.trans hoff

theorem next_reply (hinv : Inv data_offset boot { s with reply.point := p }) (hrest : ReplyStage.AtRest p) :
    Inv data_offset boot { s with reply.point := .selecting } := by
  rcases hrest with rfl | rfl | rfl <;> exact { hinv with }

theorem take_header (hinv : Inv data_offset boot { s with reply.point := .selecting })
    (hlength : b.length = 16) (hforwarded : ∀ m, s.kernel.User (parse_reply b).handle m → m < s.received) :
    Inv data_offset boot { s with reply := ⟨.taken b, [], s.reply.stashed⟩ } :=
  { hinv with replying := ⟨hinv.replying, hlength, hforwarded⟩ }

end Shared.Inv

end enclavia.nbd_client
