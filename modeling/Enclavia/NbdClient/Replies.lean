import Enclavia.NbdClient.Requests

open interaction enclavia.synchronizer

namespace enclavia.nbd_client

open nbd

inductive PinEffect where
  | recv
  | pin (commitment : Bytes32)
  | commit (handle : UInt64)
  | finish_ok (handle : UInt64)
  | finish_err (handle : UInt64) (reason : String)
  | nudge

abbrev PinAnswer : PinEffect → Type
  | .recv => Option PinJob
  | .pin _ => Except String Unit
  | _ => Unit

abbrev PinProc := Program PinEffect PinAnswer

def pin_actor : PinProc (Round Unit) :=
  .act .recv fun
    | none => .ret (.over (.ok ()))
    | some job =>
      .act (.pin job.commitment) fun
        | .ok () =>
          .act (.commit job.handle) fun () =>
            .act (.finish_ok job.handle) fun () =>
              .act .nudge fun () => .ret (.again ())
        | .error reason =>
          .act (.finish_err job.handle reason) fun () =>
            .act .nudge fun () =>
              .ret (.over (.error s!"synchronizer pin failed, refusing to keep serving: {reason}"))

inductive Selected where
  | read (result : Except IoError (List UInt8))
  | nudge (maybe : Option Unit)

inductive ReplyEffect where
  | select (remaining : Nat) (nudge_open : Bool)
  | keys (stashed : List UInt64)
  | inflight_remove (handle : UInt64)
  | read_payload_offset (handle : UInt64)
  | drop_read (handle : UInt64)
  | read_exact (n : Nat)
  | verify_read (handle : UInt64) (region : List UInt8)
  | gate_check (handle : UInt64)
  | write_header (header : List UInt8)
  | write_payload (buf : List UInt8)
  | flush

abbrev ReplyAnswer : ReplyEffect → Type
  | .select _ _ => Selected
  | .keys _ => List UInt64
  | .inflight_remove _ => Option UInt32
  | .read_payload_offset _ => Option Nat
  | .drop_read _ => Unit
  | .read_exact _ => Except IoError (List UInt8)
  | .verify_read _ _ => Except String Unit
  | .gate_check _ => GateCheck
  | .write_header _ | .write_payload _ | .flush => Except IoError Unit

abbrev ReplyProc := Program ReplyEffect ReplyAnswer

def from_host (n : Nat) : ReplyProc (Except IoError (List UInt8)) := .act (.read_exact n) .ret

def to_kernel (buf : List UInt8) : ReplyProc (Except IoError Unit) := .act (.write_payload buf) .ret

structure ReplyHeader where
  magic : UInt32
  error : UInt32
  handle : UInt64

def parse_reply (header : List UInt8) : ReplyHeader where
  magic := .ofNat (bytes.field header 0 4)
  error := .ofNat (bytes.field header 4 4)
  handle := .ofNat (bytes.field header 8 8)

abbrev Stash := Std.ExtTreeMap UInt64 (List UInt8)

section Pump

variable (stashed : Stash) (header : List UInt8)

def flush {α : Type} (value : α) : ReplyProc (Except String α) :=
  .act .flush fun
    | .error error => .ret (.error error.message)
    | .ok () => .ret (.ok value)

def write_reply {α : Type} (value : α) : ReplyProc (Except String α) :=
  .act (.write_header header) fun
    | .error error => .ret (.error error.message)
    | .ok () => flush value

def flush_handles (stashed : Stash) : List UInt64 → ReplyProc (Except String Stash)
  | [] => .ret (.ok stashed)
  | handle :: handles =>
    .act (.gate_check handle) fun
      | .Hold => flush_handles stashed handles
      | .Pass =>
        match stashed[handle]? with
        | none => .ret (.error "stashed handle present")
        | some hdr =>
          (write_reply hdr (stashed.erase handle)).bind fun
            | .error error => .ret (.error error)
            | .ok stashed => flush_handles stashed handles
      | .Fail reason => .ret (.error s!"superblock pin failed: {reason}")
      | .NotGated =>
        .ret (.error (s!"gate entry for stashed reply (handle {handle}) disappeared; refusing to serve with " ++
          s!"inconsistent gate state"))

def flush_stashed : ReplyProc (Except String Stash) :=
  .act (.keys stashed.keys) fun handles => flush_handles stashed handles

def reply_watched (reply : ReplyHeader) (len : UInt32) (payload_offset : Nat) : ReplyProc (Except String Stash) :=
  if reply.error ≠ 0 then .act (.drop_read reply.handle) fun () => write_reply header stashed
  else
    .act (.read_exact len.toNat) fun
      | .error error => .ret (.error error.message)
      | .ok payload =>
        if payload_offset + SB_REGION_LEN > payload.length then
          .ret (.error (s!"range end index {payload_offset + SB_REGION_LEN} out of range for slice of length " ++
            s!"{payload.length}"))
        else
          .act (.verify_read reply.handle (window payload_offset payload)) fun
            | .error error => .ret (.error s!"fatal: {error}")
            | .ok () =>
              .act (.write_header header) fun
                | .error error => .ret (.error error.message)
                | .ok () =>
                  .act (.write_payload payload) fun
                    | .error error => .ret (.error error.message)
                    | .ok () => flush stashed

def reply_plain (reply : ReplyHeader) (len : UInt32) : ReplyProc (Except String Stash) :=
  .act (.write_header header) fun
    | .error error => .ret (.error error.message)
    | .ok () =>
      if reply.error = 0 then
        (forward_bytes from_host to_kernel len.toNat).bind fun
          | .error error => .ret (.error error)
          | .ok () => flush stashed
      else flush stashed

def reply_gated (reply : ReplyHeader) : ReplyProc (Except String Stash) :=
  .act (.gate_check reply.handle) fun
    | .NotGated => write_reply header stashed
    | .Pass =>
      if reply.error ≠ 0 then
        .ret (.error (s!"host failed a gated superblock write (NBD error {reply.error}); device no longer matches " ++
          s!"pinned state"))
      else write_reply header stashed
    | .Hold =>
      if reply.error ≠ 0 then
        .ret (.error s!"host failed a gated superblock write (NBD error {reply.error}) while its pin was in flight")
      else .ret (.ok (stashed.insert reply.handle header))
    | .Fail reason => .ret (.error s!"superblock pin failed: {reason}")

def handle_reply : ReplyProc (Except String Stash) :=
  let reply := parse_reply header
  if reply.magic ≠ NBD_SIMPLE_REPLY_MAGIC then .ret (.error s!"bad NBD reply magic: {hex reply.magic.toNat}")
  else
    .act (.inflight_remove reply.handle) fun
      | some len =>
        .act (.read_payload_offset reply.handle) fun
          | some payload_offset => reply_watched stashed header reply len payload_offset
          | none => reply_plain stashed header reply len
      | none => reply_gated stashed header reply

end Pump

/-- The locals of the reply pump: the bytes that it has of a header, the replies it has parked, and whether
nudges may still come. -/
structure Pump where
  header : List UInt8
  stashed : Stash
  nudge_open : Bool

def Pump.new : Pump where
  header := []
  stashed := ∅
  nudge_open := true

def gated_reply_proxy (pump : Pump) : ReplyProc (Round Pump) :=
  .act (.select (16 - pump.header.length) pump.nudge_open) fun
    | .read (.error error) => .ret (.over (.error error.message))
    | .read (.ok []) =>
      if pump.header.isEmpty && pump.stashed.isEmpty then .ret (.over (.ok ()))
      else
        .ret (.over (.error "host stream closed mid-reply or with gated superblock replies still pending"))
    | .read (.ok (byte :: bytes)) =>
      let header := pump.header ++ byte :: bytes
      if header.length < 16 then .ret (.again { pump with header := header })
      else
        (handle_reply pump.stashed header).bind fun
          | .error error => .ret (.over (.error error))
          | .ok stashed => .ret (.again { pump with header := [], stashed := stashed })
    | .nudge (some ()) =>
      (flush_stashed pump.stashed).bind fun
        | .error error => .ret (.over (.error error))
        | .ok stashed => .ret (.again { pump with stashed := stashed })
    | .nudge none => .ret (.again { pump with nudge_open := false })

end enclavia.nbd_client
