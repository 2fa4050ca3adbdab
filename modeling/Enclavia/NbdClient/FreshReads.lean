import Enclavia.NbdClient.PinnedReplies

open interaction machine enclavia.synchronizer

namespace enclavia.nbd_client

open nbd

/-- The region is in a state that some gated write from the given one on has put it in. -/
def WrittenFrom (data_offset : UInt64) (kernel : Kernel) (n : Nat) (commitment : Bytes32) : Prop :=
  ∃ m q, n ≤ m ∧ kernel.request m = some q ∧ (q.capture data_offset).isSome ∧ q.commitment data_offset = commitment

namespace Shared.Inv

variable {data_offset : UInt64} {boot_commitment : Bytes32} {s : Shared}

theorem written_from {i j n : Nat} (hinv : Inv data_offset boot_commitment s) (hn : s.begun[j]? = some n) (hj : j ≤ i)
    (hi : i < s.begun.length) :
    WrittenFrom data_offset s.kernel n (s.content data_offset boot_commitment (i + 1)) := by
  obtain ⟨m, hm⟩ : ∃ m, s.begun[i]? = some m := ⟨_, List.getElem?_eq_getElem hi⟩
  obtain ⟨q, hrequest, hcapture⟩ := hinv.queued.gated m (List.mem_of_getElem? hm)
  refine ⟨m, q, ?_, hrequest, hcapture, (content_succ hm hrequest).symm⟩
  rcases Nat.lt_or_eq_of_le hj with hlt | rfl
  · obtain ⟨hjlt, rfl⟩ := List.getElem?_eq_some_iff.mp hn
    obtain ⟨_, rfl⟩ := List.getElem?_eq_some_iff.mp hm
    exact Nat.le_of_lt (List.pairwise_iff_getElem.mp hinv.queued.sorted j i hjlt hi hlt)
  · cases hn.symm.trans hm
    exact Nat.le_refl _

end Shared.Inv

def superblock_read : NbdRequest where
  flags := 0
  cmd_type := NBD_CMD_READ
  handle := 7
  offset := SB_PRIMARY_FS_OFFSET
  length := 4096
  payload := []
  payload_length := rfl

section Rounds

variable {gone : Prop} {kernel : Kernel} {region : List UInt8} (hregion : region.length = 4096)

theorem ReplyPerforms.payload_received {s : Shared} {payload : List UInt8} (h : s.kernel.receive payload = kernel) :
    ReplyPerforms gone s (.write_payload payload) (.ok ()) { s with kernel := kernel } := h ▸ .write_payload

include hregion

theorem Resting.read {boot_commitment : Bytes32} {s : Proxy} {history : List (Nat × Bytes32)} {next_seq seq : Nat}
    (hresting : Resting s kernel history next_seq)
    (hreaches : Runs boot_commitment s)
    (hmem : (seq, commitment_of_region (window 0 region)) ∈ history)
    (hseq : (history.getLast?.map Prod.fst).getD 0 ≤ seq) : ∃ s,
      Runs boot_commitment s ∧
      s.shared.kernel = (kernel.issue superblock_read).answer ⟨kernel.requests.length, 0, region⟩ ∧
      s.shared.begun.length = kernel.requests.length := by
  have hanswers := (hreaches.inv fun _ _ h => h).1.answered
  obtain ⟨⟨kernel, _, inflight, gate, watch, _, _, _, _, begun, _, _, _, _, _, _, reply⟩, _, _, _⟩ := s
  obtain ⟨rfl, rfl, rfl, rfl, -, rfl, -, hhistory, -, hkernel, hheader, hanswered, rfl, hbegun, hselecting⟩ := hresting
  dsimp only at hhistory hkernel hbegun hselecting hanswers
  subst hhistory hkernel
  have hexpects : (kernel.issue superblock_read).expects kernel.requests.length = 4096 :=
    Kernel.expects_of_read Kernel.request_issue_self rfl
  have hreceive : (kernel.issue superblock_read).receive reply_seven =
      { kernel.issue superblock_read with reading := some kernel.requests.length, got := [] } := by
    rw [Kernel.receive_issue hheader hanswered (fun answer hanswer => (hanswers answer hanswer).forwarded) rfl,
      if_pos (by rw [hexpects]; decide)]
  have hpayload : Kernel.receive { kernel.issue superblock_read with
      reading := some kernel.requests.length, got := [] } region =
      (kernel.issue superblock_read).answer ⟨kernel.requests.length, 0, region⟩ := by
    rw [Kernel.receive_all]
    · rfl
    · exact hregion.trans hexpects.symm
    · rintro rfl
      exact absurd hregion (by decide)
  have hlength : (inflight.insert 7 4096)[(7 : UInt64)]? = some 4096 := Std.ExtTreeMap.getElem?_insert_self
  have hwatch : (watch.watch_read 7 0).reads[(7 : UInt64)]? = some ⟨0, watch.newest⟩ :=
    Std.ExtTreeMap.getElem?_insert_self
  have hoffset : (watch.watch_read 7 0).read_payload_offset 7 = some 0 := by
    rw [RegionWatch.read_payload_offset, hwatch]
    rfl
  have hfresh : ((watch.watch_read 7 0).verify_read 7 (window 0 region)).1 = .ok () := by
    have hany : (watch.watch_read 7 0).is_fresh watch.newest (commitment_of_region (window 0 region)) = true :=
      Bool.or_eq_true_iff.mpr (.inl (List.any_eq_true.mpr ⟨_, hmem, by simpa [RegionWatch.newest] using hseq⟩))
    exact (RegionWatch.verify_read_watched hwatch).2.mpr hany
  have hfits : ¬(0 + SB_REGION_LEN > region.length) := by
    rw [hregion]
    decide
  have hissued := hreaches.step (.issue (hanswered superblock_read.handle)) (by
    change reply.point.handling ≠ _
    rw [hselecting]
    rintro ⟨⟩)
  have hread := hissued.step
    (.request rfl (.read_front (b := superblock_read.header) rfl superblock_read.length_header)) trivial
  have hlisted := hread.step (.request rfl .inflight_insert) trivial
  have hwatched := hlisted.step (.request rfl .watch_read) trivial
  have hforwarded := hwatched.step (.request rfl .write_header) trivial
  have hselected := hforwarded.step (.reply rfl (.select_read (b := reply_seven) (by decide)))
    (fun _ _ n huser => Nat.lt_succ_of_le (Nat.le_of_eq (Kernel.user_issue_only hanswered huser)))
  have hfound := hselected.step (.reply rfl (.answer .inflight_remove hlength)) trivial
  have hseen := hfound.step (.reply rfl (.answer .read_payload_offset hoffset)) trivial
  have hloaded := hseen.step (.reply rfl (.read_exact hregion)) trivial
  have hverified := hloaded.step
    (.reply (congrArg (Program.bind · _) (if_neg hfits)) (.answer .verify_read hfresh)) trivial
  have hwritten := hverified.step (.reply rfl (.header_received hreceive)) trivial
  have hdelivered := hwritten.step (.reply rfl (.payload_received hpayload)) trivial
  exact ⟨_, hdelivered, rfl, hbegun⟩

/-- The same superblock is written over and over again. -/
theorem Resting.writes {n : Nat} (hn : n < UInt64.size) : ∃ s kernel,
    Runs (commitment_of_region (window 0 region)) s ∧
      Resting s kernel [(n, commitment_of_region (window 0 region))] ((n + 1) % UInt64.size) ∧
      kernel.requests.length = n := by
  induction n with
  | zero => exact ⟨_, _, .refl, .new _, rfl⟩
  | succ n ih =>
    obtain ⟨s, kernel, hreaches, hresting, rfl⟩ := ih (Nat.lt_of_succ_lt hn)
    rw [Nat.mod_eq_of_lt hn] at hresting
    obtain ⟨-, -, s, -, -, -, hreaches, hresting⟩ := hresting.write hregion hreaches (if_neg (Nat.not_succ_le_self _))
    refine ⟨s, _, hreaches, hresting, ?_⟩
    rw [Kernel.answer, Kernel.issue, List.length_append, List.length_singleton]

end Rounds

/-- In every run in which no reply is ahead of its request: what the kernel reads of the superblock is what was
verified at boot or what a gated write has written since, and it is not behind any gated write that had been
acknowledged to the kernel when it issued the read. -/
theorem reads_are_not_behind {data_offset : UInt64} {boot_commitment : Bytes32} {s : Proxy}
    (hreaches : Proxy.Reaches data_offset (fun s label => s.shared.Disciplined label) boot_commitment s)
    {answer : Answer} (hanswer : answer ∈ s.shared.kernel.answers) (herror : answer.error = 0) {issued : Issued}
    (hissued : s.shared.kernel.requests[answer.request]? = some issued) {payload_offset : Nat}
    (hcover : issued.request.cover data_offset = some payload_offset) (hbound : s.shared.begun.length < UInt64.size) :
    (commitment_of_region (window payload_offset answer.payload) = boot_commitment ∨
      WrittenFrom data_offset s.shared.kernel 0 (commitment_of_region (window payload_offset answer.payload))) ∧
    ∀ ack ∈ s.shared.kernel.answers.take issued.known, ∀ w, s.shared.kernel.request ack.request = some w →
      (w.capture data_offset).isSome → WrittenFrom data_offset s.shared.kernel ack.request
        (commitment_of_region (window payload_offset answer.payload)) := by
  obtain ⟨hinv, -⟩ := hreaches.inv fun _ _ h => h
  have hanswered := hinv.answered answer hanswer
  have hrequest : s.shared.kernel.request answer.request = some issued.request := by
    rw [Kernel.request, hissued]
    rfl
  obtain ⟨i, hfloor, hbegun, hcontent⟩ := hanswered.fresh _ _ hrequest hcover herror hbound
  have hregistered := (Shared.Inv.registered_of_received hanswered.forwarded).2
  obtain ⟨-, hacked⟩ := hinv.floored hbound _ _ hissued hregistered (hcover ▸ rfl)
  rw [← hcontent]
  constructor
  · cases i with
    | zero => exact .inl rfl
    | succ i =>
      have hlt : i < s.shared.begun.length := hbegun
      obtain ⟨m, q, -, hwritten⟩ := hinv.written_from (List.getElem?_eq_getElem hlt) (Nat.le_refl i) hlt
      exact .inr ⟨m, q, Nat.zero_le _, hwritten⟩
  · intro ack hack w hw hcapture
    obtain ⟨j, hj⟩ := List.mem_iff_getElem?.mp (hacked ack hack w hw hcapture)
    rw [List.getElem?_take] at hj
    split at hj
    · next hlt =>
      cases i with
      | zero => exact absurd (Nat.lt_of_lt_of_le hlt hfloor) (Nat.not_lt_zero _)
      | succ i => exact hinv.written_from hj (Nat.le_of_lt_succ (Nat.lt_of_lt_of_le hlt hfloor)) hbegun
    · cases hj

/-- A superblock is written and acknowledged, and then read. -/
theorem reads_are_not_behind_written : ∃ s,
    Proxy.Reaches 0 (fun s label => s.shared.Disciplined label) (Vector.replicate 32 0) s ∧
    s.shared.kernel.requests = [⟨superblock_write, 0⟩, ⟨superblock_read, 1⟩] ∧
    s.shared.kernel.answers = [⟨0, 0, []⟩, ⟨1, 0, List.replicate 4096 0⟩] ∧
    WrittenFrom 0 s.shared.kernel 0 (commitment_of_region (window 0 (List.replicate 4096 0))) := by
  have hregion : (List.replicate 4096 (0 : UInt8)).length = 4096 := List.length_replicate
  obtain ⟨-, -, s, -, -, -, hreaches, hresting⟩ := (Resting.new (Vector.replicate 32 0)).write hregion .refl rfl
  obtain ⟨s, hreaches, hkernel, hbegun⟩ := hresting.read hregion hreaches List.mem_cons_self (Nat.le_refl 1)
  have hrequests : s.shared.kernel.requests = [⟨superblock_write, 0⟩, ⟨superblock_read, 1⟩] := hkernel ▸ rfl
  have hanswers : s.shared.kernel.answers = [⟨0, 0, []⟩, ⟨1, 0, List.replicate 4096 0⟩] := hkernel ▸ rfl
  have hanswer : ⟨1, 0, List.replicate 4096 0⟩ ∈ s.shared.kernel.answers := by
    rw [hanswers]
    exact List.mem_cons_of_mem _ List.mem_cons_self
  have hissued : s.shared.kernel.requests[1]? = some ⟨superblock_read, 1⟩ := hrequests ▸ rfl
  have hbound : s.shared.begun.length < UInt64.size :=
    Nat.lt_of_le_of_lt (Nat.le_of_eq hbegun) (show 1 < UInt64.size by decide)
  have hcover : superblock_read.cover 0 = some 0 := by decide
  obtain ⟨-, hwritten⟩ := reads_are_not_behind hreaches hanswer rfl hissued hcover hbound
  refine ⟨s, hreaches, hrequests, hanswers, hwritten ⟨0, 0, []⟩ ?_ superblock_write ?_ (by decide)⟩
  · rw [hanswers]
    exact List.mem_cons_self
  · rw [Kernel.request, hrequests]
    rfl

/-- The superblock has been written 2 ^ 64 times, and all the writes have been acknowledged. The last has the number 0
again, and the read that is issued then is served from the write before it. -/
theorem stale_read_after_wraparound : ∃ boot_commitment s, ∃ kernel : Kernel, ∃ w : NbdRequest,
    Proxy.Reaches 0 (fun s label => s.shared.Disciplined label) boot_commitment s ∧ (w.capture 0).isSome ∧
    s.shared.kernel = (((kernel.issue w).answer ⟨kernel.requests.length, 0, []⟩).issue superblock_read).answer
      ⟨kernel.requests.length + 1, 0, List.replicate 4096 0⟩ ∧
    ∀ m q off, kernel.requests.length ≤ m → s.shared.kernel.request m = some q → q.capture 0 = some off →
      window off q.payload ≠ window 0 (List.replicate 4096 0) := by
  have hzeros : (List.replicate 4096 (0 : UInt8)).length = 4096 := List.length_replicate
  have hones : (List.replicate 4096 (1 : UInt8)).length = 4096 := List.length_replicate
  obtain ⟨n, hn⟩ : ∃ n, n + 1 = UInt64.size := ⟨18446744073709551615, rfl⟩
  have hwraps : (n + 1) % UInt64.size = 0 := by rw [hn, Nat.mod_self]
  obtain ⟨s, kernel, hreaches, hresting, rfl⟩ := Resting.writes hzeros (Nat.lt_of_lt_of_eq (Nat.lt_succ_self n) hn)
  rw [hwraps] at hresting
  obtain ⟨-, -, s, -, -, -, hreaches, hresting⟩ := hresting.write hones hreaches (if_pos (Nat.zero_le _))
  obtain ⟨s, hreaches, hkernel, -⟩ := hresting.read hzeros hreaches List.mem_cons_self (Nat.zero_le _)
  have hnumber : (kernel.issue (region_write hones)).requests.length = kernel.requests.length + 1 := by
    rw [Kernel.issue, List.length_append, List.length_singleton]
  have hkernel := hnumber ▸ hkernel
  have hcapture : superblock_write.capture 0 = some 0 ∧ superblock_read.capture 0 = none := by decide
  refine ⟨_, s, kernel, region_write hones, hreaches, Option.isSome_of_mem hcapture.1, hkernel, ?_⟩
  intro m q off hm hrequest hoff hsame
  rw [hkernel] at hrequest
  rcases Kernel.request_issue hrequest with hrequest | ⟨-, rfl⟩
  · rcases Kernel.request_issue hrequest with hrequest | ⟨-, rfl⟩
    · exact absurd (Kernel.request_lt hrequest) (Nat.not_lt.mpr hm)
    · cases hcapture.1.symm.trans hoff
      have hheads : (window 0 (List.replicate 4096 (1 : UInt8))).head? ≠ (window 0 (List.replicate 4096 0)).head? := by
        decide
      exact hheads (congrArg List.head? hsame)
  · cases hcapture.2.symm.trans hoff

end enclavia.nbd_client
