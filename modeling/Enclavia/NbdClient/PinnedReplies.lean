import Enclavia.NbdClient.Reachable

open interaction machine enclavia.synchronizer

namespace enclavia.nbd_client

open nbd

namespace Shared.Inv

variable {data_offset : UInt64} {boot_commitment : Bytes32} {s : Shared} {header : List UInt8} {n : Nat}
    {q : NbdRequest}

theorem not_gated {m : Nat} {r : NbdRequest} (hinv : Inv data_offset boot_commitment s)
    (hreplies : Replies s.kernel s.received header m r) (huser : s.kernel.User (parse_reply header).handle n)
    (hrequest : s.kernel.request n = some q) : ¬(q.capture data_offset).isSome := by
  cases hinv.leases.user_unique huser hreplies.user
  cases hrequest.symm.trans hreplies.request
  rw [NbdRequest.capture_eq_none hreplies.read]
  exact Bool.false_ne_true

theorem settled_of_write (hinv : Inv data_offset boot_commitment s) (hallowed : s.reply.allowed (.write_header header))
    (huser : s.kernel.User (parse_reply header).handle n) (hrequest : s.kernel.request n = some q)
    (hcapture : (q.capture data_offset).isSome) : n ∈ s.settled := by
  have hreplying := hinv.replying
  generalize s.reply = stage at hallowed hreplying
  obtain ⟨point, rest, stashed⟩ := stage
  cases point with
  | plain b len =>
    cases hallowed
    obtain ⟨-, -, m, r, hreplies, -⟩ := hreplying
    exact absurd hcapture (hinv.not_gated hreplies huser hrequest)
  | dropped b =>
    cases hallowed
    obtain ⟨-, -, -, m, r, hreplies⟩ := hreplying
    exact absurd hcapture (hinv.not_gated hreplies huser hrequest)
  | verified b payload_offset payload =>
    cases hallowed
    obtain ⟨-, -, -, m, r, hreplies, -⟩ := hreplying
    exact absurd hcapture (hinv.not_gated hreplies huser hrequest)
  | passing b =>
    cases hallowed
    exact (hreplying.2.2 n q huser hrequest).2.2 hcapture
  | releasing b =>
    cases hallowed
    obtain ⟨-, -, m, r, hm, -, -, -, hsettled⟩ := hreplying
    cases hinv.leases.user_unique huser hm
    exact hsettled
  | _ => exact hallowed.elim

end Shared.Inv

section Streams

variable {E : Type} {R : E → Type} (read : Nat → Program E R (Except IoError (List UInt8)))
  (write : List UInt8 → Program E R (Except IoError Unit)) (on_window_complete : List UInt8 → Program E R Unit)

theorem extract_loop_whole {n : Nat} {out : List UInt8} (hn : 0 < n) (hchunk : n ≤ CHUNK_LEN) :
    extract_loop read write 0 n on_window_complete 0 n out true =
      (read n).bind fun
        | .error error => .ret (.error error.message)
        | .ok buf =>
          (on_window_complete (copy_window 0 n 0 n buf out)).bind fun () =>
            (write buf).bind fun
              | .error error => .ret (.error error.message)
              | .ok () => .ret (.ok (copy_window 0 n 0 n buf out)) := by
  rw [extract_loop, dif_pos hn]
  simp only [Nat.min_eq_left hchunk, Nat.zero_add, ge_iff_le, Nat.le_refl, decide_true, Bool.and_true, if_true,
    Nat.sub_self]
  congr 1
  funext result
  rcases result with error | buf
  · rfl
  dsimp only
  congr 1
  funext ⟨⟩
  congr 1
  funext result
  rcases result with error | ⟨⟩
  · rfl
  dsimp only
  rw [extract_loop, dif_neg (Nat.lt_irrefl 0)]

end Streams

def RequestHeader.forward_region (self : RequestHeader) : RequestProc (Except String Unit) :=
  .act (.read_exact SB_REGION_LEN) fun
    | .error error => .ret (.error error.message)
    | .ok buf =>
      let region := copy_window 0 SB_REGION_LEN 0 SB_REGION_LEN buf (List.replicate SB_REGION_LEN 0)
      .act (.begin_pending self.handle (commitment_of_region region)) fun () =>
        .act (.write_payload buf) fun
          | .error error => .ret (.error error.message)
          | .ok () =>
            .act (.send ⟨self.handle, commitment_of_region region⟩) fun
              | true => .ret (.ok ())
              | false => .ret (.error "pin actor is gone; cannot guarantee rollback protection (fail-stop)")

theorem forward_payload_whole {self : RequestHeader} (hlength : self.length.toNat = SB_REGION_LEN) :
    self.forward_payload (some 0) = self.forward_region := by
  rw [RequestHeader.forward_payload, forward_bytes_extract, hlength, if_neg (by decide),
    extract_loop_whole _ _ _ (by decide) (by decide)]
  refine congrArg (Program.act (RequestEffect.read_exact SB_REGION_LEN)) (funext fun result => ?_)
  rcases result with error | buf
  · rfl
  refine congrArg (Program.act (RequestEffect.begin_pending _ _)) (funext fun _ => ?_)
  refine congrArg (Program.act (RequestEffect.write_payload buf)) (funext fun result => ?_)
  rcases result with error | ⟨⟨⟩⟩
  · rfl
  · refine congrArg (Program.act (RequestEffect.send _)) (funext fun sent => ?_)
    cases sent <;> rfl

def superblock_write : NbdRequest where
  flags := 0
  cmd_type := NBD_CMD_WRITE
  handle := 7
  offset := SB_PRIMARY_FS_OFFSET
  length := 4096
  payload := List.replicate 4096 0
  payload_length := List.length_replicate

def reply_seven : List UInt8 := bytes.be 4 NBD_SIMPLE_REPLY_MAGIC.toNat ++ (bytes.be 4 0 ++ bytes.be 8 7)

section Rounds

variable {gone : Prop} {s : Shared} {kernel : Kernel}

theorem RequestPerforms.read_front {n : Nat} {b r : List UInt8} (hunread : s.unread = b ++ r)
    (hlength : b.length = n) : RequestPerforms gone s (.read_exact n) (.ok b) { s with unread := r } := by
  have hread : RequestPerforms gone s (.read_exact n) (.ok (s.unread.take n)) { s with unread := s.unread.drop n } :=
    .read_exact (by rw [hunread, List.length_append, hlength]; exact Nat.le_add_right _ _)
  rw [hunread, List.take_left' hlength, List.drop_left' hlength] at hread
  exact hread

theorem ReplyPerforms.answer {t : Shared} {e : ReplyEffect} {a b : ReplyAnswer e} (h : ReplyPerforms gone s e a t)
    (hab : a = b) : ReplyPerforms gone s e b t := hab ▸ h

theorem ReplyPerforms.header_received {header : List UInt8} (h : s.kernel.receive header = kernel) :
    ReplyPerforms gone s (.write_header header) (.ok ()) { s with kernel := kernel } := h ▸ .write_header

variable {region : List UInt8} (hregion : region.length = 4096)

def region_write : NbdRequest :=
  { superblock_write with payload := region, payload_length := hregion }

/-- No reply has been ahead of its request. -/
abbrev Runs (boot_commitment : Bytes32) (s : Proxy) : Prop :=
  Proxy.Reaches 0 (fun s label => s.shared.Disciplined label) boot_commitment s

/-- All that the kernel has issued are writes of the superblock, and it has been answered all of them. -/
structure Resting (s : Proxy) (kernel : Kernel) (history : List (Nat × Bytes32)) (next_seq : Nat) : Prop where
  requester : s.requester = request_proxy 0
  actor : s.actor = pin_actor
  pump : s.pump = gated_reply_proxy .new
  unread : s.shared.unread = []
  inflight : s.shared.inflight[(7 : UInt64)]? = none
  jobs : s.shared.jobs = []
  reads : s.shared.watch.reads = ∅
  history : s.shared.watch.history = history
  next_seq : s.shared.watch.next_seq = next_seq
  kernel_eq : s.shared.kernel = kernel
  at_header : AtHeader kernel
  answered : ∀ handle n, ¬kernel.User handle n
  received : s.shared.received = kernel.requests.length
  begun : s.shared.begun.length = kernel.requests.length
  selecting : s.shared.reply.point = .selecting

theorem Kernel.user_issue_only {r : NbdRequest} (hanswered : ∀ handle n, ¬kernel.User handle n) {handle : UInt64}
    {n : Nat} (huser : (kernel.issue r).User handle n) : n = kernel.requests.length :=
  ((user_issue huser).resolve_left (hanswered _ _)).1

theorem Kernel.receive_issue {r : NbdRequest} (hheader : AtHeader kernel)
    (hanswered : ∀ handle n, ¬kernel.User handle n)
    (hfree : ∀ answer ∈ kernel.answers, answer.request < kernel.requests.length) (hhandle : r.handle = 7) :
    (kernel.issue r).receive reply_seven = if (kernel.issue r).expects kernel.requests.length ≠ 0 then
      { kernel.issue r with reading := some kernel.requests.length, got := [] }
    else (kernel.issue r).answer ⟨kernel.requests.length, 0, []⟩ := by
  have hseven : (parse_reply reply_seven).handle = 7 ∧ (parse_reply reply_seven).error = 0 := by decide
  have hheader : AtHeader (kernel.issue r) := hheader
  have huser : (kernel.issue r).User (parse_reply reply_seven).handle kernel.requests.length :=
    user_iff.mpr ⟨r, request_issue_self, hhandle.trans hseven.1.symm, fun answer hanswer =>
      Nat.ne_of_lt (hfree answer hanswer)⟩
  have hleases : Leases (kernel.issue r).User :=
    ⟨fun hn hm => (user_issue_only hanswered hn).trans (user_issue_only hanswered hm).symm, User.handle_unique⟩
  rw [receive_header hheader (by decide), take_header_of_user hleases huser, hseven.2]
  simp only [true_and]

theorem copy_window_whole {region : List UInt8} (hregion : region.length = SB_REGION_LEN) :
    copy_window 0 SB_REGION_LEN 0 SB_REGION_LEN region (List.replicate SB_REGION_LEN 0) = window 0 region := by
  have hcopy := copy_window_fill 0 SB_REGION_LEN [] region
  have hle : 0 + SB_REGION_LEN ≤ region.length := by rw [hregion, Nat.zero_add]
  rw [hregion, List.nil_append, fill_nil, fill_of_le hle] at hcopy
  exact hcopy

theorem RegionWatch.commit_begin_pending {self : RegionWatch} {handle : UInt64} {commitment : Bytes32}
    (hreads : self.reads = ∅) : ((self.begin_pending handle commitment).commit handle).history =
      prune self.next_seq (self.history ++ [(self.next_seq, commitment)]) ∧
    ((self.begin_pending handle commitment).commit handle).reads = ∅ ∧
    ((self.begin_pending handle commitment).commit handle).next_seq = (self.next_seq + 1) % UInt64.size := by
  have hnone : (∅ : Std.ExtTreeMap UInt64 ReadWatch).toList = [] := rfl
  simp [commit, begin_pending, floor, hreads, hnone]

theorem Resting.write {boot_commitment : Bytes32} {s : Proxy} {history history' : List (Nat × Bytes32)}
    {next_seq : Nat} (hresting : Resting s kernel history next_seq) (hreaches : Runs boot_commitment s)
    (hhistory' : RegionWatch.prune next_seq (history ++ [(next_seq, commitment_of_region (window 0 region))]) =
      history') : ∃ s next s',
      Runs boot_commitment s ∧ s.pump = .act (.write_header reply_seven) next ∧
      s.shared.kernel = kernel.issue (region_write hregion) ∧ Runs boot_commitment s' ∧
      Resting s' ((kernel.issue (region_write hregion)).answer ⟨kernel.requests.length, 0, []⟩) history'
        ((next_seq + 1) % UInt64.size) := by
  have hanswers := (hreaches.inv fun _ _ h => h).1.answered
  obtain ⟨⟨kernel, _, inflight, gate, watch, _, _, _, _, begun, _, _, _, _, _, _, reply⟩, _, _, _⟩ := s
  obtain ⟨rfl, rfl, rfl, rfl, hinflight, rfl, hreads, hhistory, hnext, hkernel, hheader, hanswered, rfl, hbegun,
    hselecting⟩ := hresting
  dsimp only at hinflight hreads hhistory hnext hkernel hbegun hselecting hanswers
  subst hhistory hnext hkernel
  have hreceive : (kernel.issue (region_write hregion)).receive reply_seven =
      (kernel.issue (region_write hregion)).answer ⟨kernel.requests.length, 0, []⟩ := by
    rw [Kernel.receive_issue hheader hanswered (fun answer hanswer => (hanswers answer hanswer).forwarded) rfl,
      if_neg (not_not_intro (Kernel.expects_of_not_read Kernel.request_issue_self (show NBD_CMD_WRITE ≠ _ by decide)))]
  have hrequests : kernel.requests.length + 1 = (kernel.issue (region_write hregion)).requests.length := by
    rw [Kernel.issue, List.length_append, List.length_singleton]
  have hwrites : (begun ++ [kernel.requests.length]).length = kernel.requests.length + 1 := by
    rw [List.length_append, hbegun, List.length_singleton]
  have hpass : (((gate.begin 7).finish_ok 7).check 7).1 = .Pass := by
    have hok : ((gate.begin 7).finish_ok 7).inner[(7 : UInt64)]? = some .Ok :=
      Std.ExtTreeMap.getElem?_insert_self
    rw [PinGate.check, hok]
  have hissued := hreaches.step (.issue (hanswered (region_write hregion).handle)) (by
    change reply.point.handling ≠ _
    rw [hselecting]
    rintro ⟨⟩)
  have hread := hissued.step
    (.request rfl (.read_front (b := superblock_write.header) rfl superblock_write.length_header)) trivial
  have hgated := hread.step (.request rfl .gate_begin) trivial
  have hforwarded := hgated.step (.request rfl .write_header) trivial
  have hloaded := hforwarded.step (.request (congrArg (Program.bind · _) (forward_payload_whole (by decide)))
    (.read_front (List.append_nil _).symm hregion)) trivial
  have hpending := hloaded.step (.request rfl .begin_pending) trivial
  have hwritten := hpending.step (.request rfl .write_payload) trivial
  have hsent := hwritten.step (.request rfl (.send (show 0 < PIN_QUEUE by decide))) trivial
  have hflushed := hsent.step (.request rfl .flush) trivial
  have hserved := hflushed.step (.request_again rfl) trivial
  have htaken := hserved.step (.pin rfl (.recv rfl)) trivial
  have hpinned := htaken.step (.pin rfl (.pin_ok rfl)) trivial
  have hcommitted := hpinned.step (.pin rfl .commit) trivial
  have hsettled := hcommitted.step (.pin rfl .finish_ok) trivial
  have hnudged := hsettled.step (.pin rfl .nudge) trivial
  have hidle := hnudged.step (.pin_again rfl) trivial
  have hselected := hidle.step (.reply rfl (.select_read (b := reply_seven) (by decide)))
    (fun _ _ n huser => Nat.lt_succ_of_le (Nat.le_of_eq (Kernel.user_issue_only hanswered huser)))
  have hmissed := hselected.step (.reply rfl (.answer .inflight_remove hinflight)) trivial
  have hpassed := hmissed.step (.reply rfl (.answer .gate_check hpass)) trivial
  have hreplied := hpassed.step (.reply rfl (.header_received hreceive)) trivial
  have hdone := (hreplied.step (.reply rfl .flush) trivial).step (.reply_again rfl) trivial
  obtain ⟨hhistory, hreads, hnext⟩ := @RegionWatch.commit_begin_pending watch 7 (commitment_of_region
    (copy_window 0 SB_REGION_LEN 0 SB_REGION_LEN region (List.replicate SB_REGION_LEN 0))) hreads
  have hcommitment := congrArg (fun region => RegionWatch.prune watch.next_seq
    (watch.history ++ [(watch.next_seq, commitment_of_region region)])) (copy_window_whole hregion)
  refine ⟨_, _, _, hpassed, rfl, rfl, hdone, rfl, rfl, rfl, rfl, Std.ExtTreeMap.getElem?_erase_self, rfl, hreads,
    (hhistory.trans hcommitment).trans hhistory', hnext, rfl,
    ⟨rfl, rfl⟩, ?_, hrequests, hwrites.trans hrequests, rfl⟩
  intro handle n huser
  obtain ⟨hissue, hother⟩ := Kernel.user_answer.mp huser
  exact hother (Kernel.user_issue_only hanswered hissue).symm

theorem Resting.new (boot_commitment : Bytes32) :
    Resting (Proxy.new 0 boot_commitment) Kernel.new [(0, boot_commitment)] 1 := by
  refine ⟨rfl, rfl, rfl, rfl, rfl, rfl, rfl, rfl, rfl, rfl, ⟨rfl, rfl⟩, ?_, rfl, rfl, rfl⟩
  intro handle n huser
  obtain ⟨q, hrequest, -⟩ := huser.request
  cases hrequest

end Rounds

theorem pinned_superblock : ∃ s next,
    Proxy.Reaches 0 (fun s label => s.shared.Disciplined label) (Vector.replicate 32 0) s ∧
      s.pump = .act (.write_header reply_seven) next ∧ s.shared.kernel.User (parse_reply reply_seven).handle 0 ∧
      s.shared.kernel.request 0 = some superblock_write := by
  obtain ⟨s, next, -, hreaches, hpump, hkernel, -⟩ :=
    (Resting.new (Vector.replicate 32 0)).write superblock_write.payload_length .refl rfl
  refine ⟨s, next, hreaches, hpump, ?_, ?_⟩
  · rw [hkernel]
    exact Kernel.user_iff.mpr ⟨superblock_write, rfl, by decide, nofun⟩
  · rw [hkernel]
    rfl

/-- In every run in which no reply is ahead of the request that it is matched with, the pump has the reply to a
gated write at hand to write it out only after the pin of the write's commitment has been acknowledged, and never
after it has been refused. -/
theorem gated_reply_is_pinned {data_offset : UInt64} {boot_commitment : Bytes32} {s : Proxy}
    (hreaches : Proxy.Reaches data_offset (fun s label => s.shared.Disciplined label) boot_commitment s)
    {header : List UInt8} {next : Except IoError Unit → ReplyProc (Round Pump)}
    (hpump : s.pump = .act (.write_header header) next) {n : Nat} {q : NbdRequest}
    (huser : s.shared.kernel.User (parse_reply header).handle n) (hrequest : s.shared.kernel.request n = some q)
    (hcapture : (q.capture data_offset).isSome) :
    (n, q.commitment data_offset) ∈ s.shared.pins ∧ n ∉ s.shared.refusals := by
  obtain ⟨hinv, hkeeps⟩ := hreaches.inv fun _ _ h => h
  have hfollows := hkeeps.pump
  rw [hpump] at hfollows
  have hsettled := hinv.settled_of_write hfollows.1 huser hrequest hcapture
  constructor
  · obtain ⟨q', hq', hpinned⟩ := hinv.queued.pinned n (.inl hsettled)
    cases hrequest.symm.trans hq'
    exact hpinned
  · intro hrefused
    exact (hinv.current_job (hinv.queued.refused n hrefused).1).2 hsettled

/-- A superblock is written and pinned, and its reply goes to the kernel. -/
theorem gated_reply_is_pinned_superblock : ∃ s next,
    Proxy.Reaches 0 (fun s label => s.shared.Disciplined label) (Vector.replicate 32 0) s ∧
      s.pump = .act (.write_header reply_seven) next ∧ (0, superblock_write.commitment 0) ∈ s.shared.pins ∧
      0 ∉ s.shared.refusals := by
  obtain ⟨s, next, hreaches, hpump, huser, hrequest⟩ := pinned_superblock
  exact ⟨s, next, hreaches, hpump, gated_reply_is_pinned hreaches hpump huser hrequest (by decide)⟩

/-- A host that predicts the handle of a superblock write gets its acknowledgement through before the request proxy
has read the write, and so before the gate has an entry for it. -/
theorem unpinned_reply_before_request : ∃ s next,
    Proxy.Reaches 0 (fun _ _ => True) (Vector.replicate 32 0) s ∧ s.pump = .act (.write_header reply_seven) next ∧
      (parse_reply reply_seven).error = 0 ∧ s.shared.kernel.User (parse_reply reply_seven).handle 0 ∧
      s.shared.kernel.request 0 = some superblock_write ∧ (superblock_write.capture 0).isSome ∧ s.shared.pins = [] := by
  refine ⟨_, _, .tail (.tail (.tail (.tail .refl ⟨_, trivial, .issue (r := superblock_write) ?_⟩)
    ⟨_, trivial, .reply rfl (.select_read (b := reply_seven) ?_)⟩)
    ⟨_, trivial, .reply rfl .inflight_remove⟩) ⟨_, trivial, .reply rfl .gate_check⟩, rfl, ?_, ?_, rfl, ?_, rfl⟩
  · intro n huser
    obtain ⟨q, hrequest, -⟩ := huser.request
    cases hrequest
  · decide
  · decide
  · exact Kernel.user_iff.mpr ⟨superblock_write, rfl, by decide, nofun⟩
  · decide

end enclavia.nbd_client
