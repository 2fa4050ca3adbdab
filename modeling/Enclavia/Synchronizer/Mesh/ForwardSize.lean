import Enclavia.Bytes.Cbor
import Enclavia.Protocol.Upgrades.Links
import Enclavia.Synchronizer.Raft.Network

open bytes.cbor enclavia.protocol

namespace enclavia.synchronizer.mesh

def MAX_FRAME_SIZE : Nat := 65535

def TAG_SIZE : Nat := 16

inductive CustomerRequest where
  | Get (key : PcrKey)
  | Register (key : PcrKey) (commitment : Commitment)
  | Pin (key : PcrKey) (expected_version : Version) (commitment : Commitment)
  | Transition (link : chain.ChainLink) (commitment : Commitment)
  | Revoke (link : chain.ChainLink)

def byte_array (content : Vector UInt8 32) : List UInt8 := array (content.toList.map fun byte => uint byte.toNat)

def kind_text : chain.ChainLinkKind → String
  | .Boot => "boot"
  | .Upgrade => "upgrade"
  | .Revocation => "revocation"

def encode_link (link : chain.ChainLink) : List UInt8 :=
  map ((link.id.map fun id => ("id", byte_string (bytes.be 16 id.toNat))).toList ++
    (link.sequence.map fun sequence => ("sequence", uint sequence)).toList ++
    [("kind", text (kind_text link.kind)), ("payload", byte_string link.payload),
      ("attestation", byte_string link.attestation)] ++
    (link.signature.map fun signature => ("signature", byte_string signature)).toList)

def encode_request : CustomerRequest → List UInt8
  | .Get key => map [("type", text "Get"), ("key", byte_array key.bytes)]
  | .Register key commitment =>
    map [("type", text "Register"), ("key", byte_array key.bytes), ("commitment", byte_array commitment.bytes)]
  | .Pin key expected_version commitment =>
    map [("type", text "Pin"), ("key", byte_array key.bytes), ("expected_version", uint expected_version.val.toNat),
      ("commitment", byte_array commitment.bytes)]
  | .Transition link commitment =>
    map [("type", text "Transition"), ("link", encode_link link), ("commitment", byte_array commitment.bytes)]
  | .Revoke link => map [("type", text "Revoke"), ("link", encode_link link)]

def customer_frame (request : CustomerRequest) : List UInt8 :=
  map [("frame", text "Rpc"), ("request", encode_request request)]

def forward_message (session_key : PcrKey) (control_pubkey : ControlPubkey) (request : CustomerRequest) : List UInt8 :=
  map [("ForwardClient", map [("session_key", byte_array session_key.bytes),
    ("control_pubkey", byte_string control_pubkey.toList), ("request", encode_request request)])]

def mesh_frame (kind : String) (id : UInt64) (body : List UInt8) : List UInt8 :=
  map [("frame", text "Rpc"),
    ("envelope", byte_string (map [("kind", text kind), ("id", uint id.toNat), ("body", byte_string body)]))]

def code_text : wire.RpcError → String
  | .Unauthorized => "Unauthorized"
  | .NotFound => "NotFound"
  | .AlreadyRegistered => "AlreadyRegistered"
  | .TransitionRejected => "TransitionRejected"
  | .OperationRejected => "OperationRejected"
  | .VersionConflict => "VersionConflict"
  | .Unavailable => "Unavailable"
  | .TransitionRevoked => "TransitionRevoked"
  | .RevocationRejected => "RevocationRejected"
  | .TransitionCommitmentMismatch => "TransitionCommitmentMismatch"

def encode_response : wire.Response → List UInt8
  | .GetOk commitment version =>
    map [("type", text "GetOk"), ("commitment", byte_array commitment.bytes), ("version", uint version.val.toNat)]
  | .RegisterOk => map [("type", text "RegisterOk")]
  | .PinOk version => map [("type", text "PinOk"), ("version", uint version.val.toNat)]
  | .TransitionOk version => map [("type", text "TransitionOk"), ("version", uint version.val.toNat)]
  | .RevokeOk => map [("type", text "RevokeOk")]
  | .Err error => map [("type", text "Err"), ("error", map [("code", text (code_text error))])]

def forward_response (response : wire.Response) (timed_out : Bool) : List UInt8 :=
  map [("response", encode_response response), ("timed_out", bool timed_out)]

def FitsMessage (plaintext : List UInt8) : Prop := plaintext.length + TAG_SIZE ≤ MAX_FRAME_SIZE

theorem length_mesh_frame (kind : String) (id : UInt64) (body : List UInt8) :
    (mesh_frame kind id body).length =
      20 + (byte_string (map [("kind", text kind), ("id", uint id.toNat), ("body", byte_string body)])).length := by
  have hframe : (text "frame").length = 6 := by decide +kernel
  have hrpc : (text "Rpc").length = 4 := by decide +kernel
  have henvelope : (text "envelope").length = 9 := by decide +kernel
  simp only [mesh_frame, length_map, List.map_cons, List.map_nil, List.sum_cons, List.sum_nil, List.length_cons,
    List.length_nil, hframe, hrpc, henvelope, Nat.zero_add, Nat.reduceAdd, head_size_of_lt (by decide : 2 < 24)]
  omega

theorem length_envelope (kind : String) (id : UInt64) (body : List UInt8) :
    (map [("kind", text kind), ("id", uint id.toNat), ("body", byte_string body)]).length =
      14 + (text kind).length + (uint id.toNat).length + (byte_string body).length := by
  have hkind : (text "kind").length = 5 := by decide +kernel
  have hid : (text "id").length = 3 := by decide +kernel
  have hbody : (text "body").length = 5 := by decide +kernel
  simp only [length_map, List.map_cons, List.map_nil, List.sum_cons, List.sum_nil, List.length_cons,
    List.length_nil, hkind, hid, hbody, Nat.zero_add, Nat.reduceAdd, head_size_of_lt (by decide : 3 < 24)]
  omega

theorem length_forward_message (session_key : PcrKey) (control_pubkey : ControlPubkey) (request : CustomerRequest) :
    (forward_message session_key control_pubkey request).length =
      118 + (byte_array session_key.bytes).length + (encode_request request).length := by
  have hforward : (text "ForwardClient").length = 14 := by decide +kernel
  have hkey : (text "session_key").length = 12 := by decide +kernel
  have hpubkey : (text "control_pubkey").length = 15 := by decide +kernel
  have hrequest : (text "request").length = 8 := by decide +kernel
  have hbytes : (byte_string control_pubkey.toList).length = 67 := by
    rw [length_byte_string, Vector.length_toList]
    rfl
  simp only [forward_message, length_map, List.map_cons, List.map_nil, List.sum_cons, List.sum_nil, List.length_cons,
    List.length_nil, hforward, hkey, hpubkey, hrequest, hbytes, Nat.zero_add, Nat.reduceAdd,
    head_size_of_lt (by decide : 1 < 24), head_size_of_lt (by decide : 3 < 24)]
  omega

theorem forward_fits_iff (session_key : PcrKey) (control_pubkey : ControlPubkey) (id : UInt64)
    (request : CustomerRequest) :
    FitsMessage (mesh_frame "Request" id (forward_message session_key control_pubkey request)) ↔
      (encode_request request).length + (byte_array session_key.bytes).length + (uint id.toNat).length + 166 +
        TAG_SIZE ≤
        MAX_FRAME_SIZE := by
  have hkind : (text "Request").length = 8 := by decide +kernel
  have hbody := length_forward_message session_key control_pubkey request
  have hid := head_size_le id.toNat
  rw [FitsMessage, length_mesh_frame, length_byte_string, length_envelope, length_byte_string, hkind, hbody,
    length_uint,
    TAG_SIZE, MAX_FRAME_SIZE]
  generalize (encode_request request).length = r, (byte_array session_key.bytes).length = a, head_size id.toNat = u at *
  -- a head of two or five bytes makes no difference: then both sides hold, or neither
  simp only [head_size]
  split_ifs <;> omega

theorem length_byte_array_le (content : Vector UInt8 32) : (byte_array content).length ≤ 297 := by
  have hle := @length_array_le (content.toList.map fun byte => uint byte.toNat) 9 (by
    intro item hitem
    obtain ⟨byte, -, rfl⟩ := List.mem_map.mp hitem
    rw [length_uint]
    exact head_size_le _)
  rw [List.length_map, Vector.length_toList] at hle
  exact hle

theorem length_encode_response_le (response : wire.Response) : (encode_response response).length ≤ 400 := by
  have hhead := head_size_le
  cases response with
  | GetOk commitment version =>
    have htexts :
        (text "type").length + (text "GetOk").length + (text "commitment").length + (text "version").length = 30 := by
      decide +kernel
    have hcommitment := length_byte_array_le commitment.bytes
    have hversion := hhead version.val.toNat
    simp only [encode_response, length_map, List.map_cons, List.map_nil, List.sum_cons, List.sum_nil, List.length_cons,
      List.length_nil, length_uint]
    have hmap := hhead (0 + 1 + 1 + 1)
    omega
  | PinOk version =>
    have htexts : (text "type").length + (text "PinOk").length + (text "version").length = 19 := by decide +kernel
    have hversion := hhead version.val.toNat
    simp only [encode_response, length_map, List.map_cons, List.map_nil, List.sum_cons, List.sum_nil, List.length_cons,
      List.length_nil, length_uint]
    have hmap := hhead (0 + 1 + 1)
    omega
  | TransitionOk version =>
    have htexts : (text "type").length + (text "TransitionOk").length + (text "version").length = 26 := by
      decide +kernel
    have hversion := hhead version.val.toNat
    simp only [encode_response, length_map, List.map_cons, List.map_nil, List.sum_cons, List.sum_nil, List.length_cons,
      List.length_nil, length_uint]
    have hmap := hhead (0 + 1 + 1)
    omega
  | RegisterOk | RevokeOk => decide +kernel
  | Err error => cases error <;> decide +kernel

theorem answer_fits (id : UInt64) (response : wire.Response) (timed_out : Bool) :
    FitsMessage (mesh_frame "Response" id (forward_response response timed_out)) := by
  have hkind : (text "Response").length = 9 := by decide +kernel
  have htexts : (text "response").length + (text "timed_out").length = 19 := by decide +kernel
  have hresponse := length_encode_response_le response
  have hid := head_size_le id.toNat
  have hbody : (forward_response response timed_out).length ≤ 429 := by
    have hmap := head_size_le (0 + 1 + 1)
    simp only [forward_response, length_map, List.map_cons, List.map_nil, List.sum_cons, List.sum_nil, List.length_cons,
      List.length_nil, length_bool]
    omega
  rw [FitsMessage, length_mesh_frame, length_byte_string, length_envelope, length_byte_string, hkind, length_uint,
    TAG_SIZE, MAX_FRAME_SIZE]
  have hfirst := head_size_le (forward_response response timed_out).length
  have hsecond := head_size_le (14 + 9 + head_size id.toNat +
    (head_size (forward_response response timed_out).length + (forward_response response timed_out).length))
  omega

/-- A request of a customer forwarded to the leader, and whatever the leader answers, are messages of the mesh exactly
when the encoded request leaves room for what is around it. -/
theorem forwarded_fits_iff (session_key : PcrKey) (control_pubkey : ControlPubkey) (id : UInt64)
    (request : CustomerRequest) :
    (FitsMessage (mesh_frame "Request" id (forward_message session_key control_pubkey request)) ∧
      ∀ response timed_out, FitsMessage (mesh_frame "Response" id (forward_response response timed_out))) ↔
    (encode_request request).length + (byte_array session_key.bytes).length + (uint id.toNat).length + 166 + TAG_SIZE ≤
      MAX_FRAME_SIZE := by
  rw [forward_fits_iff]
  exact and_iff_left (answer_fits id)

namespace sample

def long_link : chain.ChainLink := ⟨none, none, .Revocation, List.replicate 65400 0, [], none⟩

theorem length_encode_long : (encode_request (.Revoke long_link)).length = 65459 := by
  have htexts : (text "type").length = 5 ∧ (text "Revoke").length = 7 ∧ (text "link").length = 5 ∧
      (text "kind").length = 5 ∧ (text "revocation").length = 11 ∧ (text "payload").length = 8 ∧
      (text "attestation").length = 12 := by decide +kernel
  obtain ⟨h1, h2, h3, h4, h5, h6, h7⟩ := htexts
  simp only [encode_request, encode_link, long_link, kind_text, length_map, Option.map_none, Option.toList_none,
    List.nil_append, List.append_nil, List.map_cons, List.map_nil, List.sum_cons, List.sum_nil, List.length_cons,
    List.length_nil, length_byte_string, List.length_replicate, h1, h2, h3, h4, h5, h6, h7, head_size]
  decide

theorem length_customer_frame (request : CustomerRequest) :
    (customer_frame request).length = 19 + (encode_request request).length := by
  have htexts : (text "frame").length = 6 ∧ (text "Rpc").length = 4 ∧ (text "request").length = 8 := by decide +kernel
  obtain ⟨h1, h2, h3⟩ := htexts
  simp only [customer_frame, length_map, List.map_cons, List.map_nil, List.sum_cons, List.sum_nil,
    List.length_cons, List.length_nil, h1, h2, h3, Nat.zero_add, Nat.reduceAdd, head_size_of_lt (by decide : 2 < 24)]
  omega

theorem long_fits : FitsMessage (customer_frame (.Revoke long_link)) := by
  rw [FitsMessage, length_customer_frame, length_encode_long, TAG_SIZE, MAX_FRAME_SIZE]
  omega

theorem long_not_forwarded (session_key : PcrKey) (control_pubkey : ControlPubkey) (id : UInt64) :
    ¬FitsMessage (mesh_frame "Request" id (forward_message session_key control_pubkey (.Revoke long_link))) := by
  intro hfits
  have hroom := (forward_fits_iff session_key control_pubkey id _).mp hfits
  rw [length_encode_long, TAG_SIZE, MAX_FRAME_SIZE] at hroom
  omega

end sample

/-- A customer can send a request in one frame that is too long to be forwarded, under any key and id. -/
theorem request_too_long_to_forward : FitsMessage (customer_frame (.Revoke sample.long_link)) ∧
    ¬FitsMessage (mesh_frame "Request" 0 (forward_message ⟨Vector.replicate 32 0⟩ (Vector.replicate 65 4)
      (.Revoke sample.long_link))) :=
  ⟨sample.long_fits, sample.long_not_forwarded _ _ 0⟩

end enclavia.synchronizer.mesh
