import Enclavia.Bytes.BigEndian
import Enclavia.Interaction.Protocol
import Enclavia.NbdClient.Gate

open interaction enclavia.synchronizer

namespace enclavia.nbd_client

namespace nbd

def NBD_REQUEST_MAGIC : UInt32 := 0x25609513
def NBD_SIMPLE_REPLY_MAGIC : UInt32 := 0x67446698

def NBD_CMD_READ : UInt16 := 0
def NBD_CMD_WRITE : UInt16 := 1
def NBD_CMD_DISC : UInt16 := 2
def NBD_CMD_TRIM : UInt16 := 4
def NBD_CMD_WRITE_ZEROES : UInt16 := 6

end nbd

open nbd

inductive IoError where
  | UnexpectedEof (message : String)
  | Other (message : String)

def IoError.message : IoError → String
  | .UnexpectedEof message | .Other message => message

/-- How one round of a task's loop ends: it goes round again, or the task returns. -/
inductive Round (σ : Type) where
  | again (state : σ)
  | over (result : Except String Unit)

def hex (n : Nat) : String := "0x" ++ String.ofList (Nat.toDigits 16 n)

section Streams

def CHUNK_LEN : Nat := 32 * 1024

variable {E : Type} {R : E → Type} (read : Nat → Program E R (Except IoError (List UInt8)))
  (write : List UInt8 → Program E R (Except IoError Unit))

def forward_bytes (n : Nat) : Program E R (Except String Unit) :=
  if _hn : 0 < n then
    (read (min n CHUNK_LEN)).bind fun
      | .error error => .ret (.error error.message)
      | .ok buf =>
        (write buf).bind fun
          | .error error => .ret (.error error.message)
          | .ok () => forward_bytes (n - min n CHUNK_LEN)
  else .ret (.ok ())
termination_by n
decreasing_by
  simp only [CHUNK_LEN]
  omega

variable (extract_off extract_len : Nat) (on_window_complete : List UInt8 → Program E R Unit)

def copy_window (pos take : Nat) (buf out : List UInt8) : List UInt8 :=
  let lo := max pos extract_off
  let hi := min (pos + take) (extract_off + extract_len)
  if lo < hi then
    out.take (lo - extract_off) ++ (buf.drop (lo - pos)).take (hi - lo) ++ out.drop (lo - extract_off + (hi - lo))
  else out

def extract_loop (pos remaining : Nat) (out : List UInt8) (callback : Bool) :
    Program E R (Except String (List UInt8)) :=
  if _hremaining : 0 < remaining then
    let take := min remaining CHUNK_LEN
    (read take).bind fun
      | .error error => .ret (.error error.message)
      | .ok buf =>
        let out := copy_window extract_off extract_len pos take buf out
        let fires := callback && decide (pos + take ≥ extract_off + extract_len)
        (if fires then on_window_complete out else .ret ()).bind fun () =>
          (write buf).bind fun
            | .error error => .ret (.error error.message)
            | .ok () => extract_loop (pos + take) (remaining - take) out (callback && !fires)
  else .ret (.ok out)
termination_by remaining
decreasing_by
  simp only [CHUNK_LEN]
  omega

def forward_bytes_extract (n : Nat) : Program E R (Except String (List UInt8)) :=
  if extract_off + extract_len > n then .ret (.error "extraction window exceeds payload length")
  else extract_loop read write extract_off extract_len on_window_complete 0 n (List.replicate extract_len 0) true

end Streams

inductive RequestEffect where
  | read_exact (n : Nat)
  | inflight_insert (handle : UInt64) (length : UInt32)
  | watch_read (handle : UInt64) (payload_offset : Nat)
  | gate_begin (handle : UInt64)
  | write_header (header : List UInt8)
  | write_payload (buf : List UInt8)
  | begin_pending (handle : UInt64) (commitment : Bytes32)
  | send (job : PinJob)
  | flush

abbrev RequestAnswer : RequestEffect → Type
  | .read_exact _ => Except IoError (List UInt8)
  | .write_header _ | .write_payload _ | .flush => Except IoError Unit
  | .send _ => Bool
  | _ => Unit

abbrev RequestProc := Program RequestEffect RequestAnswer

def from_kernel (n : Nat) : RequestProc (Except IoError (List UInt8)) := .act (.read_exact n) .ret

def to_host (buf : List UInt8) : RequestProc (Except IoError Unit) := .act (.write_payload buf) .ret

def on_window_complete (handle : UInt64) (region : List UInt8) : RequestProc Unit :=
  .act (.begin_pending handle (commitment_of_region region)) .ret

structure RequestHeader where
  magic : UInt32
  cmd_type : UInt16
  handle : UInt64
  offset : UInt64
  length : UInt32

def parse_request (header : List UInt8) : RequestHeader where
  magic := .ofNat (bytes.field header 0 4)
  cmd_type := .ofNat (bytes.field header 6 2)
  handle := .ofNat (bytes.field header 8 8)
  offset := .ofNat (bytes.field header 16 8)
  length := .ofNat (bytes.field header 24 4)

structure NbdRequest where
  flags : UInt16
  cmd_type : UInt16
  handle : UInt64
  offset : UInt64
  length : UInt32
  payload : List UInt8
  payload_length : payload.length = if cmd_type = NBD_CMD_WRITE then length.toNat else 0

namespace NbdRequest

variable (request : NbdRequest)

def header : List UInt8 :=
  bytes.be 4 NBD_REQUEST_MAGIC.toNat ++ (bytes.be 2 request.flags.toNat ++ (bytes.be 2 request.cmd_type.toNat ++
    (bytes.be 8 request.handle.toNat ++ (bytes.be 8 request.offset.toNat ++ bytes.be 4 request.length.toNat))))

def fields : RequestHeader where
  magic := NBD_REQUEST_MAGIC
  cmd_type := request.cmd_type
  handle := request.handle
  offset := request.offset
  length := request.length

theorem length_header : request.header.length = 28 := by simp [header]

theorem parse_header : parse_request request.header = request.fields := by
  have hflags := bytes.length_be 2 request.flags.toNat
  have hmagic : bytes.field request.header 0 4 = NBD_REQUEST_MAGIC.toNat := bytes.field_be_append (by decide) _
  have hcmd_type : bytes.field request.header 6 2 = request.cmd_type.toNat := by
    rw [header, bytes.field_append_add (bytes.length_be 4 _) _ 2, bytes.field_append_add hflags _ 0]
    exact bytes.field_be_append request.cmd_type.toNat_lt _
  have hhandle : bytes.field request.header 8 8 = request.handle.toNat := by
    rw [header, bytes.field_append_add (bytes.length_be 4 _) _ 4, bytes.field_append_add hflags _ 2,
      bytes.field_append_add (bytes.length_be 2 _) _ 0]
    exact bytes.field_be_append request.handle.toNat_lt _
  have hoffset : bytes.field request.header 16 8 = request.offset.toNat := by
    rw [header, bytes.field_append_add (bytes.length_be 4 _) _ 12, bytes.field_append_add hflags _ 10,
      bytes.field_append_add (bytes.length_be 2 _) _ 8, bytes.field_append_add (bytes.length_be 8 _) _ 0]
    exact bytes.field_be_append request.offset.toNat_lt _
  have hlength : bytes.field request.header 24 4 = request.length.toNat := by
    rw [header, bytes.field_append_add (bytes.length_be 4 _) _ 20, bytes.field_append_add hflags _ 18,
      bytes.field_append_add (bytes.length_be 2 _) _ 16, bytes.field_append_add (bytes.length_be 8 _) _ 8,
      bytes.field_append_add (bytes.length_be 8 _) _ 0, ← List.append_nil (bytes.be 4 request.length.toNat)]
    exact bytes.field_be_append request.length.toNat_lt _
  simp only [parse_request, hmagic, hcmd_type, hhandle, hoffset, hlength, UInt16.ofNat_toNat, UInt32.ofNat_toNat,
    UInt64.ofNat_toNat, fields]

end NbdRequest

namespace RequestHeader

variable (data_offset : UInt64) (self : RequestHeader)

def overlap : SbOverlap := primary_sb_overlap self.offset self.length data_offset

/-- Register a request in the shared tables before it is forwarded. -/
def register : RequestProc (Except String (Option Nat)) :=
  if self.cmd_type = NBD_CMD_READ then
    .act (.inflight_insert self.handle self.length) fun () =>
      match self.overlap data_offset with
      | .Full payload_offset => .act (.watch_read self.handle payload_offset) fun () => .ret (.ok none)
      | _ => .ret (.ok none)
  else if self.cmd_type = NBD_CMD_WRITE then
    match self.overlap data_offset with
    | .None => .ret (.ok none)
    | .Full payload_offset => .act (.gate_begin self.handle) fun () => .ret (.ok (some payload_offset))
    | .Partial =>
      .ret (.error (s!"write at offset {self.offset} (len {self.length}) partially covers the primary btrfs " ++
        s!"superblock; cannot compute its commitment (fail-stop)"))
  else if self.cmd_type = NBD_CMD_TRIM ∨ self.cmd_type = NBD_CMD_WRITE_ZEROES then
    if self.overlap data_offset ≠ .None then
      .ret (.error (s!"command {self.cmd_type} at offset {self.offset} (len {self.length}) touches the primary " ++
        "btrfs superblock without a payload to pin (fail-stop)"))
    else .ret (.ok none)
  else .ret (.ok none)

def forward_payload : Option Nat → RequestProc (Except String Unit)
  | some payload_offset =>
    (forward_bytes_extract from_kernel to_host payload_offset SB_REGION_LEN (on_window_complete self.handle)
      self.length.toNat).bind fun
      | .error error => .ret (.error error)
      | .ok region =>
        .act (.send ⟨self.handle, commitment_of_region region⟩) fun
          | true => .ret (.ok ())
          | false =>
            .ret (.error "pin actor is gone; cannot guarantee rollback protection (fail-stop)")
  | none => forward_bytes from_kernel to_host self.length.toNat

end RequestHeader

def finish_request (request : RequestHeader) : RequestProc (Round Unit) :=
  .act .flush fun
    | .error error => .ret (.over (.error error.message))
    | .ok () => if request.cmd_type = NBD_CMD_DISC then .ret (.over (.ok ())) else .ret (.again ())

def request_proxy (data_offset : UInt64) : RequestProc (Round Unit) :=
  .act (.read_exact 28) fun
    | .error (.UnexpectedEof _) => .ret (.over (.ok ()))
    | .error (.Other message) => .ret (.over (.error message))
    | .ok header =>
      let request := parse_request header
      if request.magic ≠ NBD_REQUEST_MAGIC then
        .ret (.over (.error s!"bad NBD request magic: {hex request.magic.toNat}"))
      else
        (request.register data_offset).bind fun
          | .error error => .ret (.over (.error error))
          | .ok sb_capture =>
            .act (.write_header header) fun
              | .error error => .ret (.over (.error error.message))
              | .ok () =>
                if request.cmd_type = NBD_CMD_WRITE ∧ request.length > 0 then
                  (request.forward_payload sb_capture).bind fun
                    | .error error => .ret (.over (.error error))
                    | .ok () => finish_request request
                else finish_request request

end enclavia.nbd_client
