import Enclavia.Protocol.PinIdentity

namespace enclavia.protocol

abbrev Uuid := BitVec 128

/-- The dates of chrono, as far as they are read: whole milliseconds since the Unix epoch, and the
distance between two of them in nanoseconds. -/
structure Chrono (DateTime : Type) where
  timestamp_millis : DateTime → Int64
  signed_duration_since : DateTime → DateTime → Int

structure UpgradePayload (DateTime : Type) where
  enclave_id : Uuid
  «from» : PinIdentity
  «to» : PinIdentity
  image_digest : String
  valid_from : DateTime
  valid_until : DateTime
  issued_at : DateTime
  nonce : List UInt8

structure RevocationPayload (DateTime : Type) where
  enclave_id : Uuid
  revokes : Uuid
  issued_at : DateTime
  nonce : List UInt8
  revokes_link : Vector UInt8 32

def UPGRADE_WINDOW_MIN : Int := 60 * 60 * 1000 * 1000 * 1000

variable {DateTime : Type}

def upgrade_window_is_valid (chrono : Chrono DateTime) (valid_from valid_until : DateTime) : Bool :=
  chrono.signed_duration_since valid_until valid_from ≥ UPGRADE_WINDOW_MIN

def upgrade_link_hash (payload : List UInt8) : Vector UInt8 32 := crypto.sha256 payload

end enclavia.protocol
