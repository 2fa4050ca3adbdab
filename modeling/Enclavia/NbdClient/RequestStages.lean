import Enclavia.NbdClient.Requests

open interaction enclavia.synchronizer

namespace enclavia.nbd_client

open nbd

def SbOverlap.full? : SbOverlap → Option Nat
  | .Full payload_offset => some payload_offset
  | _ => none

namespace RequestHeader

variable (data_offset : UInt64) (self : RequestHeader)

def capture : Option Nat := if self.cmd_type = NBD_CMD_WRITE then (self.overlap data_offset).full? else none

def cover : Option Nat := if self.cmd_type = NBD_CMD_READ then (self.overlap data_offset).full? else none

def Spares : Prop :=
  self.cmd_type = NBD_CMD_WRITE ∨ self.cmd_type = NBD_CMD_TRIM ∨ self.cmd_type = NBD_CMD_WRITE_ZEROES →
    self.overlap data_offset = .None

def payload_length : Nat := if self.cmd_type = NBD_CMD_WRITE then self.length.toNat else 0

end RequestHeader

inductive RequestStage where
  | waiting
  | parsed (header : List UInt8)
  | listed (header : List UInt8)
  | ready (header : List UInt8)
  | forwarded (header read written : List UInt8) (begun : Bool)
  | queued (header read : List UInt8)
  | served (header read : List UInt8)

namespace RequestStage

def allowed (data_offset : UInt64) : RequestStage → RequestEffect → Prop
  | .waiting, .read_exact n => n = 28
  | .parsed header, .inflight_insert handle length =>
    (parse_request header).cmd_type = NBD_CMD_READ ∧ handle = (parse_request header).handle ∧
      length = (parse_request header).length
  | .parsed header, .gate_begin handle =>
    handle = (parse_request header).handle ∧ ((parse_request header).capture data_offset).isSome
  | .parsed header, .write_header bytes =>
    bytes = header ∧ (parse_request header).cmd_type ≠ NBD_CMD_READ ∧ (parse_request header).Spares data_offset
  | .listed header, .watch_read handle payload_offset =>
    handle = (parse_request header).handle ∧ (parse_request header).cover data_offset = some payload_offset
  | .listed header, .write_header bytes => bytes = header ∧ (parse_request header).cover data_offset = none
  | .ready header, .write_header bytes => bytes = header
  | .forwarded header read written _, .read_exact n =>
    written = read ∧ read.length + n ≤ (parse_request header).payload_length
  | .forwarded header read _ begun, .begin_pending handle commitment =>
    begun = false ∧ handle = (parse_request header).handle ∧
      ∃ payload_offset, (parse_request header).capture data_offset = some payload_offset ∧
        payload_offset + SB_REGION_LEN ≤ read.length ∧
        commitment = commitment_of_region (window payload_offset read)
  | .forwarded header read written begun, .write_payload bytes =>
    written ++ bytes = read ∧ ∀ payload_offset, (parse_request header).capture data_offset = some payload_offset →
      payload_offset + SB_REGION_LEN ≤ read.length → begun = true
  | .forwarded header read written begun, .send job =>
    begun = true ∧ written = read ∧ read.length = (parse_request header).payload_length ∧
      ∃ payload_offset, (parse_request header).capture data_offset = some payload_offset ∧
        job = ⟨(parse_request header).handle, commitment_of_region (window payload_offset read)⟩
  | .forwarded header read written _, .flush =>
    written = read ∧ read.length = (parse_request header).payload_length ∧
      (parse_request header).capture data_offset = none
  | .queued _ _, .flush => True
  | _, _ => False

def advance : RequestStage → (effect : RequestEffect) → RequestAnswer effect → RequestStage
  | .waiting, .read_exact _, .ok header => .parsed header
  | .parsed header, .inflight_insert _ _, () => .listed header
  | .parsed header, .gate_begin _, () => .ready header
  | .listed header, .watch_read _ _, () => .ready header
  | .parsed header, .write_header _, .ok () => .forwarded header [] [] false
  | .listed header, .write_header _, .ok () => .forwarded header [] [] false
  | .ready header, .write_header _, .ok () => .forwarded header [] [] false
  | .forwarded header read written begun, .read_exact _, .ok bytes => .forwarded header (read ++ bytes) written begun
  | .forwarded header read written _, .begin_pending _ _, () => .forwarded header read written true
  | .forwarded header read written begun, .write_payload bytes, .ok () =>
    .forwarded header read (written ++ bytes) begun
  | .forwarded header read _ _, .send _, true => .queued header read
  | .forwarded header read _ _, .flush, .ok () => .served header read
  | .queued header read, .flush, .ok () => .served header read
  | stage, _, _ => stage

def rely : (effect : RequestEffect) → RequestAnswer effect → Prop
  | .read_exact n, .ok bytes => bytes.length = n
  | _, _ => True

def final : RequestStage → Round Unit → Prop
  | stage, .again () => ∃ header read, stage = .served header read
  | _, .over _ => True

def protocol (data_offset : UInt64) : Protocol RequestEffect RequestAnswer RequestStage where
  allowed := allowed data_offset
  rely := rely
  advance := advance

end RequestStage

variable {off : Nat}

section Streams

variable {data_offset : UInt64} {header : List UInt8}

theorem forward_bytes_follows (n : Nat) {read : List UInt8} {begun : Bool}
    (hlength : read.length + n = (parse_request header).payload_length)
    (hplain : (parse_request header).capture data_offset = none) :
    (forward_bytes from_kernel to_host n).Follows (RequestStage.protocol data_offset)
      (fun stage result => result = .ok () →
        ∃ read, read.length = (parse_request header).payload_length ∧ stage = .forwarded header read read begun)
      (.forwarded header read read begun) := by
  rw [forward_bytes]
  split
  · next hn =>
    refine ⟨⟨rfl, by omega⟩, ?_⟩
    rintro (error | buf) hbuf
    · exact nofun
    have hbuf : buf.length = min n CHUNK_LEN := hbuf
    refine ⟨⟨rfl, fun payload_offset hcapture => ?_⟩, ?_⟩
    · rw [hplain] at hcapture
      cases hcapture
    rintro (error | _) -
    · exact nofun
    exact forward_bytes_follows _ (by rw [List.length_append]; omega) hplain
  · exact fun _ => ⟨read, by omega, rfl⟩
termination_by n
decreasing_by
  simp only [CHUNK_LEN]
  omega

def fill (off len : Nat) (read : List UInt8) : List UInt8 :=
  (read.drop off).take len ++ List.replicate (len - ((read.drop off).take len).length) 0

theorem fill_nil (off len : Nat) : fill off len [] = List.replicate len 0 := by
  rw [fill, List.drop_nil, List.take_nil, List.nil_append]
  rfl

theorem length_fill (off len : Nat) (read : List UInt8) : (fill off len read).length = len := by
  rw [fill, List.length_append, List.length_replicate, List.length_take]
  omega

theorem getElem?_fill (off len : Nat) (read : List UInt8) (i : Nat) :
    (fill off len read)[i]? = if i < len then some (read.getD (off + i) 0) else none := by
  simp only [fill, List.getElem?_append, List.length_take, List.length_drop, List.getElem?_take, List.getElem?_drop,
    List.getElem?_replicate, List.getD_eq_getElem?_getD]
  grind

theorem copy_window_fill (off len : Nat) (read buf : List UInt8) :
    copy_window off len read.length buf.length buf (fill off len read) = fill off len (read ++ buf) := by
  refine List.ext_getElem? fun i => ?_
  rw [getElem?_fill, copy_window]
  split
  · simp only [List.getElem?_append, List.length_take, List.length_drop, List.getElem?_take, List.getElem?_drop,
      getElem?_fill, List.getD_eq_getElem?_getD, length_fill, List.length_append]
    grind
  · rw [getElem?_fill]
    grind

theorem fill_of_le {len : Nat} {read : List UInt8} (hle : off + len ≤ read.length) :
    fill off len read = (read.drop off).take len := by
  have hlength : ((read.drop off).take len).length = len := by
    rw [List.length_take, List.length_drop]
    omega
  rw [fill, hlength, Nat.sub_self, List.replicate_zero, List.append_nil]

variable {off : Nat} (hcapture : (parse_request header).capture data_offset = some off)
  (hfits : off + SB_REGION_LEN ≤ (parse_request header).payload_length)

include hcapture hfits

theorem extract_loop_follows (remaining : Nat) {read : List UInt8}
    (hlength : read.length + remaining = (parse_request header).payload_length) {begun : Bool}
    (hbegun : begun = decide (off + SB_REGION_LEN ≤ read.length)) :
    (extract_loop from_kernel to_host off SB_REGION_LEN (on_window_complete (parse_request header).handle) read.length
      remaining (fill off SB_REGION_LEN read) (!begun)).Follows (RequestStage.protocol data_offset)
      (fun stage result => ∀ region, result = .ok region →
        ∃ read, read.length = (parse_request header).payload_length ∧ region = window off read ∧
          stage = .forwarded header read read true)
      (.forwarded header read read begun) := by
  rw [extract_loop]
  split
  · next hn =>
    refine ⟨⟨rfl, by omega⟩, ?_⟩
    rintro (error | buf) hbuf
    · exact nofun
    have hbuf : buf.length = min remaining CHUNK_LEN := hbuf
    simp only [Program.bind, ← hbuf, copy_window_fill]
    have hloop (begun' : Bool) (hbegun' : begun' = decide (off + SB_REGION_LEN ≤ (read ++ buf).length)) :
        (extract_loop from_kernel to_host off SB_REGION_LEN (on_window_complete (parse_request header).handle)
          (read ++ buf).length (remaining - buf.length) (fill off SB_REGION_LEN (read ++ buf)) (!begun')).Follows
          (RequestStage.protocol data_offset) _ (.forwarded header (read ++ buf) (read ++ buf) begun') :=
      extract_loop_follows _ (by rw [List.length_append]; omega) hbegun'
    rw [List.length_append] at hloop
    cases hfires : (!begun && decide (read.length + buf.length ≥ off + SB_REGION_LEN)) with
    | true =>
      rw [Bool.and_eq_true, Bool.not_eq_true', decide_eq_true_eq] at hfires
      obtain ⟨rfl, hcomplete⟩ := hfires
      refine ⟨⟨rfl, rfl, off, hcapture, by rw [List.length_append]; exact hcomplete, ?_⟩, ?_⟩
      · rw [fill_of_le (by rw [List.length_append]; exact hcomplete), window]
      rintro ⟨⟩ -
      refine ⟨⟨rfl, fun _ _ _ => rfl⟩, ?_⟩
      rintro (error | _) -
      · exact nofun
      exact hloop true (decide_eq_true hcomplete).symm
    | false =>
      have hstill : begun = decide (off + SB_REGION_LEN ≤ read.length + buf.length) := by
        cases begun with
        | true => exact (decide_eq_true (Nat.le_add_right_of_le (of_decide_eq_true hbegun.symm))).symm
        | false =>
          rw [Bool.not_false, Bool.true_and] at hfires
          exact hfires.symm
      refine ⟨⟨rfl, fun payload_offset hpayload hle => ?_⟩, ?_⟩
      · cases hcapture.symm.trans hpayload
        rw [List.length_append] at hle
        rw [hstill]
        exact decide_eq_true hle
      rintro (error | _) -
      · exact nofun
      rw [Bool.not_false, Bool.and_true]
      exact hloop begun hstill
  · have hle : off + SB_REGION_LEN ≤ read.length := by omega
    rw [decide_eq_true hle] at hbegun
    intro region hregion
    cases hregion
    exact ⟨read, by omega, by rw [fill_of_le hle, window], by rw [hbegun]⟩
termination_by remaining
decreasing_by
  rw [hbuf]
  simp only [CHUNK_LEN]
  omega

end Streams

variable {data_offset : UInt64} {header : List UInt8} {request : RequestHeader}

theorem RequestHeader.full_fits (hfull : (request.overlap data_offset).full? = some off) :
    off + SB_REGION_LEN ≤ request.length.toNat := by
  cases hoverlap : request.overlap data_offset with
  | Full payload_offset =>
    rw [hoverlap] at hfull
    cases hfull
    exact (primary_sb_overlap_full hoverlap).2.2
  | None | Partial =>
    rw [hoverlap] at hfull
    cases hfull

theorem RequestHeader.capture_fits (hcapture : request.capture data_offset = some off) :
    off + SB_REGION_LEN ≤ request.payload_length := by
  rw [capture] at hcapture
  split at hcapture
  · next hwrite =>
    rw [payload_length, if_pos hwrite]
    exact full_fits hcapture
  · cases hcapture

theorem RequestHeader.cover_fits (hcover : request.cover data_offset = some off) :
    off + SB_REGION_LEN ≤ request.length.toNat := by
  rw [cover] at hcover
  split at hcover
  · exact full_fits hcover
  · cases hcover

theorem register_follows :
    ((parse_request header).register data_offset).Follows (RequestStage.protocol data_offset)
      (fun stage result => ∀ sb_capture, result = .ok sb_capture →
        sb_capture = (parse_request header).capture data_offset ∧
          stage.allowed data_offset (.write_header header) ∧
          stage.advance (.write_header header) (.ok ()) = .forwarded header [] [] false)
      (.parsed header) := by
  rw [RequestHeader.register]
  split
  · next hread =>
    refine ⟨⟨hread, rfl, rfl⟩, fun () _ => ?_⟩
    have hcapture : (parse_request header).capture data_offset = none := by
      rw [RequestHeader.capture, hread]
      rfl
    split
    · next payload_offset hoverlap =>
      refine ⟨⟨rfl, ?_⟩, fun () _ => ?_⟩
      · rw [RequestHeader.cover, if_pos hread, hoverlap]
        rfl
      rintro sb_capture ⟨⟩
      exact ⟨hcapture.symm, rfl, rfl⟩
    · next hnot =>
      rintro sb_capture ⟨⟩
      refine ⟨hcapture.symm, ⟨rfl, ?_⟩, rfl⟩
      rw [RequestHeader.cover, if_pos hread]
      cases hoverlap : (parse_request header).overlap data_offset with
      | Full payload_offset => exact absurd hoverlap (hnot payload_offset)
      | None | Partial => rfl
  · next hread =>
    split
    · next hwrite =>
      split
      · next hoverlap =>
        rintro sb_capture ⟨⟩
        refine ⟨?_, ⟨rfl, hread, fun _ => hoverlap⟩, rfl⟩
        rw [RequestHeader.capture, if_pos hwrite, hoverlap]
        rfl
      · next payload_offset hoverlap =>
        have hcapture : (parse_request header).capture data_offset = some payload_offset := by
          rw [RequestHeader.capture, if_pos hwrite, hoverlap]
          rfl
        refine ⟨⟨rfl, by rw [hcapture]; rfl⟩, fun () _ => ?_⟩
        rintro sb_capture ⟨⟩
        exact ⟨hcapture.symm, rfl, rfl⟩
      · exact nofun
    · next hwrite =>
      have hcapture : (parse_request header).capture data_offset = none := by
        rw [RequestHeader.capture, if_neg hwrite]
      split
      · split
        · exact nofun
        · next hoverlap =>
          rintro sb_capture ⟨⟩
          exact ⟨hcapture.symm, ⟨rfl, hread, fun _ => not_not.mp hoverlap⟩, rfl⟩
      · next hother =>
        rintro sb_capture ⟨⟩
        refine ⟨hcapture.symm, ⟨rfl, hread, fun hmutates => ?_⟩, rfl⟩
        exact absurd hmutates (not_or.mpr ⟨hwrite, hother⟩)

theorem finish_request_follows {stage : RequestStage} {read : List UInt8}
    (hallowed : stage.allowed data_offset .flush) (hserved : stage.advance .flush (.ok ()) = .served header read) :
    (finish_request request).Follows (RequestStage.protocol data_offset) RequestStage.final stage := by
  refine ⟨hallowed, ?_⟩
  rintro (error | _) -
  · trivial
  show Program.Follows (RequestStage.protocol data_offset) RequestStage.final (stage.advance .flush (.ok ())) _
  rw [hserved]
  dsimp only
  split
  · trivial
  · exact ⟨header, read, rfl⟩

theorem forward_payload_follows (hwrite : (parse_request header).cmd_type = NBD_CMD_WRITE) :
    ((parse_request header).forward_payload ((parse_request header).capture data_offset)).Follows
      (RequestStage.protocol data_offset)
      (fun stage result => result = .ok () →
        ∃ read, stage.allowed data_offset .flush ∧ stage.advance .flush (.ok ()) = .served header read)
      (.forwarded header [] [] false) := by
  have hlength : (parse_request header).payload_length = (parse_request header).length.toNat := if_pos hwrite
  cases hcapture : (parse_request header).capture data_offset with
  | none =>
    rw [RequestHeader.forward_payload, ← hlength]
    refine (forward_bytes_follows _ (Nat.zero_add _) hcapture).mono fun stage result hmid hresult => ?_
    obtain ⟨read, hread, rfl⟩ := hmid hresult
    exact ⟨read, ⟨rfl, hread, hcapture⟩, rfl⟩
  | some off =>
    have hfits := RequestHeader.capture_fits hcapture
    have hbegun : false = decide (off + SB_REGION_LEN ≤ ([] : List UInt8).length) :=
      (decide_eq_false (Nat.not_le.mpr (Nat.add_pos_right off (by decide)))).symm
    have hloop := extract_loop_follows hcapture hfits _ (Nat.zero_add _) hbegun
    rw [fill_nil] at hloop
    rw [RequestHeader.forward_payload, forward_bytes_extract, ← hlength, if_neg (Nat.not_lt.mpr hfits)]
    refine hloop.bind ?_
    rintro stage (error | region) hmid
    · exact nofun
    obtain ⟨read, hread, rfl, rfl⟩ := hmid region rfl
    refine ⟨⟨rfl, rfl, hread, off, hcapture, rfl⟩, ?_⟩
    rintro (_ | _) -
    · exact nofun
    · exact fun _ => ⟨read, trivial, rfl⟩

theorem request_proxy_follows :
    (request_proxy data_offset).Follows (RequestStage.protocol data_offset) RequestStage.final .waiting := by
  refine ⟨rfl, ?_⟩
  rintro (error | header) -
  · cases error <;> trivial
  show Program.Follows (RequestStage.protocol data_offset) RequestStage.final (.parsed header) _
  dsimp only
  split
  · trivial
  refine register_follows.bind ?_
  rintro stage (error | sb_capture) hmid
  · trivial
  obtain ⟨rfl, hallowed, hadvance⟩ := hmid _ rfl
  refine ⟨hallowed, ?_⟩
  rintro (error | _) -
  · trivial
  show Program.Follows (RequestStage.protocol data_offset) RequestStage.final
    (stage.advance (.write_header header) (.ok ())) _
  rw [hadvance]
  dsimp only
  split
  · next hwrite =>
    refine (forward_payload_follows hwrite.1).bind ?_
    rintro stage (error | _) hmid
    · trivial
    obtain ⟨read, hallowed, hserved⟩ := hmid rfl
    exact finish_request_follows hallowed hserved
  · next hnot =>
    have hnone : (parse_request header).payload_length = 0 := by
      rw [RequestHeader.payload_length]
      split
      · next hwrite =>
        have hzero : ¬(parse_request header).length > 0 := fun hpos => hnot ⟨hwrite, hpos⟩
        rw [gt_iff_lt, UInt32.lt_iff_toNat_lt] at hzero
        exact Nat.eq_zero_of_not_pos hzero
      · rfl
    refine finish_request_follows ⟨rfl, hnone.symm, ?_⟩ rfl
    refine Option.eq_none_iff_forall_ne_some.mpr fun off hcapture => ?_
    have hfits := RequestHeader.capture_fits hcapture
    rw [hnone, SB_REGION_LEN] at hfits
    omega

end enclavia.nbd_client
