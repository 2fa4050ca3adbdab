import Enclavia.Bytes.Hex
import Enclavia.Protocol.PinIdentity
import Mathlib.Data.List.Forall2

namespace enclavia.protocol

section

variable {ε α β : Type} {f : α → Except ε β}

end

variable {identity : PinIdentity}

namespace PinIdentity

/-- The value of a PCR, zero if it is absent. -/
def reading (pcrs : DocPcrs) (index : Nat) : List UInt8 := pcrs[index]?.getD (List.replicate PCR_LEN 0)

variable {index : Nat} {pcr : Pcr} {pcrs : DocPcrs}

/-- A document with PCR0-2 of ones. -/
def doc (more : List (Nat × List UInt8)) : DocPcrs :=
  .ofList (((List.range 3).map fun k => (k, List.replicate PCR_LEN 1)) ++ more)

end PinIdentity

end enclavia.protocol
