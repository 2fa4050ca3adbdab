import Enclavia.NbdClient.Replies

open interaction enclavia.synchronizer

namespace enclavia.nbd_client

open nbd

inductive PinStage where
  | idle
  | pinning (job : PinJob)
  | pinned (job : PinJob)
  | committed (job : PinJob)
  | finished
  | refused (job : PinJob) (reason : String)
  | failed (job : PinJob) (reason : String)

namespace PinStage

def allowed : PinStage → PinEffect → Prop
  | .idle, .recv => True
  | .pinning job, .pin commitment => commitment = job.commitment
  | .pinned job, .commit handle => handle = job.handle
  | .committed job, .finish_ok handle => handle = job.handle
  | .finished, .nudge => True
  | .refused job reason, .finish_err handle told => handle = job.handle ∧ told = reason
  | .failed _ _, .nudge => True
  | _, _ => False

def advance : PinStage → (effect : PinEffect) → PinAnswer effect → PinStage
  | .idle, .recv, some job => .pinning job
  | .pinning job, .pin _, .ok () => .pinned job
  | .pinning job, .pin _, .error reason => .refused job reason
  | .pinned job, .commit _, () => .committed job
  | .committed _, .finish_ok _, () => .finished
  | .finished, .nudge, () => .idle
  | .refused job reason, .finish_err _ _, () => .failed job reason
  | stage, _, _ => stage

def final : PinStage → Round Unit → Prop
  | stage, .again () => stage = .idle
  | _, .over _ => True

def protocol : Protocol PinEffect PinAnswer PinStage where
  allowed := allowed
  rely _ _ := True
  advance := advance

end PinStage

theorem pin_actor_follows : pin_actor.Follows PinStage.protocol PinStage.final .idle := by
  refine ⟨trivial, ?_⟩
  rintro (_ | job) -
  · trivial
  refine ⟨rfl, ?_⟩
  rintro (reason | _) -
  · exact ⟨⟨rfl, rfl⟩, fun () _ => ⟨trivial, fun () _ => trivial⟩⟩
  · exact ⟨rfl, fun () _ => ⟨rfl, fun () _ => ⟨trivial, fun () _ => rfl⟩⟩⟩

inductive ReplyPoint where
  | selecting
  | taken (header : List UInt8)
  | found (header : List UInt8) (len : UInt32)
  | plain (header : List UInt8) (len : UInt32)
  | streaming (header : List UInt8) (len : UInt32) (read written : List UInt8)
  | watched (header : List UInt8) (len : UInt32) (payload_offset : Nat)
  | dropped (header : List UInt8)
  | loaded (header : List UInt8) (payload_offset : Nat) (payload : List UInt8)
  | rejected (header : List UInt8)
  | verified (header : List UInt8) (payload_offset : Nat) (payload : List UInt8)
  | delivering (header : List UInt8) (payload_offset : Nat) (payload : List UInt8)
  | unlisted (header : List UInt8)
  | passing (header : List UInt8)
  | flushing
  | releasing (header : List UInt8)
  | released
  | written
  | done

/-- What the reply pump is doing, the bytes that it has of the next header, and the replies that it has parked. -/
structure ReplyStage where
  point : ReplyPoint
  header : List UInt8
  stashed : Stash

namespace ReplyStage

def allowed : ReplyStage → ReplyEffect → Prop
  | ⟨.selecting, header, _⟩, .select remaining _ => header.length < 16 ∧ remaining = 16 - header.length
  | ⟨.taken header, _, _⟩, .inflight_remove handle => handle = (parse_reply header).handle
  | ⟨.found header _, _, _⟩, .read_payload_offset handle => handle = (parse_reply header).handle
  | ⟨.plain header _, _, _⟩, .write_header bytes => bytes = header
  | ⟨.streaming _ len read written, _, _⟩, .read_exact n => written = read ∧ 0 < n ∧ read.length + n ≤ len.toNat
  | ⟨.streaming _ _ read written, _, _⟩, .write_payload bytes => written ++ bytes = read ∧ bytes ≠ []
  | ⟨.watched header _ _, _, _⟩, .drop_read handle =>
    handle = (parse_reply header).handle ∧ (parse_reply header).error ≠ 0
  | ⟨.watched header len _, _, _⟩, .read_exact n => n = len.toNat ∧ (parse_reply header).error = 0
  | ⟨.dropped header, _, _⟩, .write_header bytes => bytes = header
  | ⟨.loaded header payload_offset payload, _, _⟩, .verify_read handle region =>
    handle = (parse_reply header).handle ∧ region = window payload_offset payload
  | ⟨.verified header _ _, _, _⟩, .write_header bytes => bytes = header
  | ⟨.delivering _ _ payload, _, _⟩, .write_payload bytes => bytes = payload
  | ⟨.unlisted header, _, _⟩, .gate_check handle => handle = (parse_reply header).handle
  | ⟨.passing header, _, _⟩, .write_header bytes => bytes = header
  | ⟨.flushing, _, stashed⟩, .keys handles => handles = stashed.keys
  | ⟨.flushing, _, stashed⟩, .gate_check handle => handle ∈ stashed
  | ⟨.releasing header, _, _⟩, .write_header bytes => bytes = header
  | ⟨.released, _, _⟩, .flush => True
  | ⟨.written, _, _⟩, .flush => True
  | _, _ => False

def take (header : List UInt8) (stashed : Stash) : ReplyStage :=
  if header.length < 16 then ⟨.selecting, header, stashed⟩
  else if (parse_reply header).magic ≠ NBD_SIMPLE_REPLY_MAGIC then ⟨.selecting, [], stashed⟩
  else ⟨.taken header, [], stashed⟩

def advance : ReplyStage → (effect : ReplyEffect) → ReplyAnswer effect → ReplyStage
  | ⟨.selecting, header, stashed⟩, .select _ _, .read (.ok (byte :: bytes)) => take (header ++ byte :: bytes) stashed
  | ⟨.selecting, header, stashed⟩, .select _ _, .nudge (some ()) => ⟨.flushing, header, stashed⟩
  | ⟨.taken header, rest, stashed⟩, .inflight_remove _, some len => ⟨.found header len, rest, stashed⟩
  | ⟨.taken header, rest, stashed⟩, .inflight_remove _, none => ⟨.unlisted header, rest, stashed⟩
  | ⟨.found header len, rest, stashed⟩, .read_payload_offset _, some payload_offset =>
    ⟨.watched header len payload_offset, rest, stashed⟩
  | ⟨.found header len, rest, stashed⟩, .read_payload_offset _, none => ⟨.plain header len, rest, stashed⟩
  | ⟨.plain header len, rest, stashed⟩, .write_header _, .ok () =>
    if (parse_reply header).error = 0 ∧ len ≠ 0 then ⟨.streaming header len [] [], rest, stashed⟩
    else ⟨.written, rest, stashed⟩
  | ⟨.streaming header len read written, rest, stashed⟩, .read_exact _, .ok bytes =>
    ⟨.streaming header len (read ++ bytes) written, rest, stashed⟩
  | ⟨.streaming header len read written, rest, stashed⟩, .write_payload bytes, .ok () =>
    if (written ++ bytes).length = len.toNat then ⟨.written, rest, stashed⟩
    else ⟨.streaming header len read (written ++ bytes), rest, stashed⟩
  | ⟨.watched header _ _, rest, stashed⟩, .drop_read _, () => ⟨.dropped header, rest, stashed⟩
  | ⟨.watched header _ payload_offset, rest, stashed⟩, .read_exact _, .ok payload =>
    ⟨.loaded header payload_offset payload, rest, stashed⟩
  | ⟨.dropped _, rest, stashed⟩, .write_header _, .ok () => ⟨.written, rest, stashed⟩
  | ⟨.loaded header payload_offset payload, rest, stashed⟩, .verify_read _ _, .ok () =>
    ⟨.verified header payload_offset payload, rest, stashed⟩
  | ⟨.loaded header _ _, rest, stashed⟩, .verify_read _ _, .error _ => ⟨.rejected header, rest, stashed⟩
  | ⟨.verified header payload_offset payload, rest, stashed⟩, .write_header _, .ok () =>
    ⟨.delivering header payload_offset payload, rest, stashed⟩
  | ⟨.delivering _ _ _, rest, stashed⟩, .write_payload _, .ok () => ⟨.written, rest, stashed⟩
  | ⟨.unlisted header, rest, stashed⟩, .gate_check _, .NotGated => ⟨.passing header, rest, stashed⟩
  | ⟨.unlisted header, rest, stashed⟩, .gate_check _, .Pass => ⟨.passing header, rest, stashed⟩
  | ⟨.unlisted header, rest, stashed⟩, .gate_check handle, .Hold =>
    if (parse_reply header).error = 0 then ⟨.done, rest, stashed.insert handle header⟩
    else ⟨.unlisted header, rest, stashed⟩
  | ⟨.passing _, rest, stashed⟩, .write_header _, .ok () => ⟨.written, rest, stashed⟩
  | ⟨.flushing, rest, stashed⟩, .gate_check handle, .Pass =>
    match stashed[handle]? with
    | some header => ⟨.releasing header, rest, stashed.erase handle⟩
    | none => ⟨.flushing, rest, stashed⟩
  | ⟨.releasing _, rest, stashed⟩, .write_header _, .ok () => ⟨.released, rest, stashed⟩
  | ⟨.released, rest, stashed⟩, .flush, .ok () => ⟨.flushing, rest, stashed⟩
  | ⟨.written, rest, stashed⟩, .flush, .ok () => ⟨.done, rest, stashed⟩
  | stage, _, _ => stage

def rely : (effect : ReplyEffect) → ReplyAnswer effect → Prop
  | .select remaining _, .read (.ok bytes) => bytes.length ≤ remaining
  | .keys handles, order => order.Perm handles
  | .read_exact n, .ok bytes => bytes.length = n
  | _, _ => True

def AtRest (point : ReplyPoint) : Prop := point = .selecting ∨ point = .flushing ∨ point = .done

def final : ReplyStage → Round Pump → Prop
  | stage, .again pump =>
    AtRest stage.point ∧ pump.header.length < 16 ∧ pump.header = stage.header ∧ pump.stashed = stage.stashed
  | _, .over _ => True

def protocol : Protocol ReplyEffect ReplyAnswer ReplyStage where
  allowed := allowed
  rely := rely
  advance := advance

def Handled (header : List UInt8) (stage : ReplyStage) (result : Except String Stash) : Prop :=
  ∀ stashed, result = .ok stashed → stage = ⟨.done, header, stashed⟩

theorem advance_select {stage : ReplyStage} {remaining : Nat} {open_ : Bool} {bytes : List UInt8}
    (hpoint : stage.point = .selecting) (hsome : bytes ≠ []) :
    stage.advance (.select remaining open_) (.read (.ok bytes)) = take (stage.header ++ bytes) stage.stashed := by
  obtain ⟨point, header, stashed⟩ := stage
  cases hpoint
  cases bytes with
  | nil => exact absurd rfl hsome
  | cons byte bytes => rfl

theorem take_whole {header : List UInt8} {stashed : Stash} (hlength : header.length = 16)
    (hmagic : (parse_reply header).magic = NBD_SIMPLE_REPLY_MAGIC) :
      take header stashed = ⟨.taken header, [], stashed⟩ := by
  rw [take, if_neg (by omega), if_neg (not_not.mpr hmagic)]

end ReplyStage

section Pump

variable {header rest : List UInt8} {stashed : Stash} {len : UInt32}

theorem flush_follows :
    (flush stashed).Follows ReplyStage.protocol (ReplyStage.Handled rest) ⟨.written, rest, stashed⟩ := by
  refine ⟨trivial, ?_⟩
  rintro (error | _) -
  · exact nofun
  · rintro stashed ⟨⟩
    rfl

theorem write_reply_follows {stage : ReplyStage} (hallowed : stage.allowed (.write_header header))
    (hadvance : stage.advance (.write_header header) (.ok ()) = ⟨.written, rest, stashed⟩) :
    (write_reply header stashed).Follows ReplyStage.protocol (ReplyStage.Handled rest) stage := by
  refine ⟨hallowed, ?_⟩
  rintro (error | _) -
  · exact nofun
  show Program.Follows ReplyStage.protocol _ (stage.advance (.write_header header) (.ok ())) _
  rw [hadvance]
  exact flush_follows

theorem flush_handles_follows {handles : List UInt64} {stashed : Stash} (hnodup : handles.Nodup)
    (hmem : ∀ handle ∈ handles, handle ∈ stashed) :
    (flush_handles stashed handles).Follows ReplyStage.protocol
      (fun stage result => ∀ stashed, result = .ok stashed → stage = ⟨.flushing, rest, stashed⟩)
      ⟨.flushing, rest, stashed⟩ := by
  induction handles generalizing stashed with
  | nil =>
    rintro stashed ⟨⟩
    rfl
  | cons handle handles ih =>
    rw [List.nodup_cons] at hnodup
    have hhandle := hmem handle List.mem_cons_self
    have hmem : ∀ other ∈ handles, other ∈ stashed := fun other hother => hmem other (List.mem_cons_of_mem _ hother)
    refine ⟨hhandle, ?_⟩
    rintro (_ | _ | _ | reason) -
    · rintro _ ⟨⟩
    · exact ih hnodup.2 hmem
    · obtain ⟨hdr, hget⟩ := Option.isSome_iff_exists.mp (Std.ExtTreeMap.isSome_getElem?_iff_mem.mpr hhandle)
      dsimp only [ReplyStage.protocol, ReplyStage.advance]
      rw [hget]
      refine ⟨rfl, ?_⟩
      rintro (error | _) -
      · rintro _ ⟨⟩
      refine ⟨trivial, ?_⟩
      rintro (error | _) -
      · rintro _ ⟨⟩
      refine ih hnodup.2 fun other hother => ?_
      rw [Std.ExtTreeMap.mem_erase]
      refine ⟨fun hkey => hnodup.1 ?_, hmem other hother⟩
      rw [Std.LawfulEqOrd.eq_of_compare hkey]
      exact hother
    · rintro _ ⟨⟩

theorem flush_stashed_follows :
    (flush_stashed stashed).Follows ReplyStage.protocol
      (fun stage result => ∀ stashed, result = .ok stashed → stage = ⟨.flushing, rest, stashed⟩)
      ⟨.flushing, rest, stashed⟩ := by
  refine ⟨rfl, fun handles hperm => ?_⟩
  have hperm : handles.Perm stashed.keys := hperm
  refine flush_handles_follows (hperm.nodup_iff.mpr Std.ExtTreeMap.nodup_keys) fun handle hmem => ?_
  exact Std.ExtTreeMap.mem_keys.mp (hperm.mem_iff.mp hmem)

theorem stream_follows (n : Nat) {read : List UInt8} (hlength : read.length + n = len.toNat) (hn : 0 < n) :
    (forward_bytes from_host to_kernel n).Follows ReplyStage.protocol
      (fun stage result => result = .ok () → stage = ⟨.written, rest, stashed⟩)
      ⟨.streaming header len read read, rest, stashed⟩ := by
  rw [forward_bytes, dif_pos hn]
  refine ⟨⟨rfl, by simp only [CHUNK_LEN]; omega, by omega⟩, ?_⟩
  rintro (error | buf) hbuf
  · exact nofun
  have hbuf : buf.length = min n CHUNK_LEN := hbuf
  refine ⟨⟨rfl, ?_⟩, ?_⟩
  · rintro rfl
    simp only [CHUNK_LEN, List.length_nil] at hbuf
    omega
  rintro (error | _) -
  · exact nofun
  show Program.Follows ReplyStage.protocol _ (if (read ++ buf).length = len.toNat then ⟨.written, rest, stashed⟩
    else ⟨.streaming header len (read ++ buf) (read ++ buf), rest, stashed⟩) (forward_bytes from_host to_kernel _)
  split
  · next hall =>
    rw [List.length_append] at hall
    rw [forward_bytes, dif_neg (by omega)]
    exact fun _ => rfl
  · next hmore =>
    rw [List.length_append] at hmore
    exact stream_follows _ (by rw [List.length_append]; omega) (by omega)
termination_by n
decreasing_by
  simp only [CHUNK_LEN]
  omega

theorem reply_watched_follows {payload_offset : Nat} :
    (reply_watched stashed header (parse_reply header) len payload_offset).Follows ReplyStage.protocol
      (ReplyStage.Handled rest) ⟨.watched header len payload_offset, rest, stashed⟩ := by
  rw [reply_watched]
  split
  · next herror => exact ⟨⟨rfl, herror⟩, fun () _ => write_reply_follows rfl rfl⟩
  · next herror =>
    refine ⟨⟨rfl, not_not.mp herror⟩, ?_⟩
    rintro (error | payload) -
    · exact nofun
    dsimp only
    split
    · exact nofun
    refine ⟨⟨rfl, rfl⟩, ?_⟩
    rintro (error | _) -
    · exact nofun
    refine ⟨rfl, ?_⟩
    rintro (error | _) -
    · exact nofun
    refine ⟨rfl, ?_⟩
    rintro (error | _) -
    · exact nofun
    exact flush_follows

theorem reply_plain_follows :
    (reply_plain stashed header (parse_reply header) len).Follows ReplyStage.protocol (ReplyStage.Handled rest)
      ⟨.plain header len, rest, stashed⟩ := by
  refine ⟨rfl, ?_⟩
  rintro (error | _) -
  · exact nofun
  show Program.Follows ReplyStage.protocol _ (if (parse_reply header).error = 0 ∧ len ≠ 0 then
    ⟨.streaming header len [] [], rest, stashed⟩ else ⟨.written, rest, stashed⟩) (if (parse_reply header).error = 0
    then _ else _)
  by_cases herror : (parse_reply header).error = 0
  · have hstream : (forward_bytes from_host to_kernel len.toNat).Follows ReplyStage.protocol
        (fun stage result => result = .ok () → stage = ⟨.written, rest, stashed⟩)
        (if (parse_reply header).error = 0 ∧ len ≠ 0 then ⟨.streaming header len [] [], rest, stashed⟩
          else ⟨.written, rest, stashed⟩) := by
      by_cases hlen : len = 0
      · rw [if_neg (fun h => h.2 hlen), hlen, forward_bytes, dif_neg (by decide)]
        exact fun _ => rfl
      · rw [if_pos ⟨herror, hlen⟩]
        refine stream_follows _ (Nat.zero_add _) (Nat.pos_of_ne_zero fun hzero => hlen ?_)
        exact UInt32.toNat_inj.mp hzero
    rw [if_pos herror]
    refine hstream.bind ?_
    rintro stage (error | _) hmid
    · exact nofun
    rw [hmid rfl]
    exact flush_follows
  · rw [if_neg (fun h => herror h.1), if_neg herror]
    exact flush_follows

theorem reply_gated_follows :
    (reply_gated stashed header (parse_reply header)).Follows ReplyStage.protocol (ReplyStage.Handled rest)
      ⟨.unlisted header, rest, stashed⟩ := by
  refine ⟨rfl, ?_⟩
  rintro (_ | _ | _ | reason) -
  · exact write_reply_follows rfl rfl
  · dsimp only
    split
    · exact nofun
    · next herror =>
      rintro stashed' ⟨⟩
      exact if_pos (not_not.mp herror)
  · dsimp only
    split
    · exact nofun
    · exact write_reply_follows rfl rfl
  · exact nofun

theorem gated_reply_proxy_follows (pump : Pump) (hheader : pump.header.length < 16) :
    (gated_reply_proxy pump).Follows ReplyStage.protocol ReplyStage.final
      ⟨.selecting, pump.header, pump.stashed⟩ := by
  refine ⟨⟨hheader, rfl⟩, ?_⟩
  rintro ((error | (_ | ⟨byte, bytes⟩)) | (_ | _)) -
  · trivial
  · dsimp only
    split <;> trivial
  · show Program.Follows ReplyStage.protocol ReplyStage.final
      (ReplyStage.take (pump.header ++ byte :: bytes) pump.stashed) _
    dsimp only
    rw [ReplyStage.take]
    split
    · next hpart => exact ⟨.inl rfl, hpart, rfl, rfl⟩
    have hhandled : (handle_reply pump.stashed (pump.header ++ byte :: bytes)).Follows ReplyStage.protocol
        (ReplyStage.Handled []) (if (parse_reply (pump.header ++ byte :: bytes)).magic ≠ NBD_SIMPLE_REPLY_MAGIC
          then ⟨.selecting, [], pump.stashed⟩ else ⟨.taken (pump.header ++ byte :: bytes), [], pump.stashed⟩) := by
      rw [handle_reply]
      split
      · exact nofun
      refine ⟨rfl, ?_⟩
      rintro (_ | len) -
      · exact reply_gated_follows
      refine ⟨rfl, ?_⟩
      rintro (_ | payload_offset) -
      · exact reply_plain_follows
      · exact reply_watched_follows
    refine hhandled.bind ?_
    rintro stage (error | stashed) hmid
    · trivial
    rw [hmid stashed rfl]
    exact ⟨.inr (.inr rfl), Nat.zero_lt_succ 15, rfl, rfl⟩
  · exact ⟨.inl rfl, hheader, rfl, rfl⟩
  · refine flush_stashed_follows.bind ?_
    rintro stage (error | stashed) hmid
    · trivial
    rw [hmid stashed rfl]
    exact ⟨.inr (.inl rfl), hheader, rfl, rfl⟩

end Pump

end enclavia.nbd_client
