import Enclavia.Bytes.BigEndian
import Mathlib.Tactic.SplitIfs

namespace bytes.cbor

def head (major n : Nat) : List UInt8 :=
  if n < 24 then [UInt8.ofNat (major * 32 + n)]
  else if n < 256 then UInt8.ofNat (major * 32 + 24) :: be 1 n
  else if n < 65536 then UInt8.ofNat (major * 32 + 25) :: be 2 n
  else if n < 4294967296 then UInt8.ofNat (major * 32 + 26) :: be 4 n
  else UInt8.ofNat (major * 32 + 27) :: be 8 n

def uint (n : Nat) : List UInt8 := head 0 n

def byte_string (content : List UInt8) : List UInt8 := head 2 content.length ++ content

def text (content : String) : List UInt8 := head 3 content.toUTF8.toList.length ++ content.toUTF8.toList

def bool (value : Bool) : List UInt8 := [if value then 0xf5 else 0xf4]

def array (items : List (List UInt8)) : List UInt8 := head 4 items.length ++ items.flatten

def map (entries : List (String × List UInt8)) : List UInt8 :=
  head 5 entries.length ++ entries.flatMap fun (key, value) => text key ++ value

def head_size (n : Nat) : Nat :=
  if n < 24 then 1 else if n < 256 then 2 else if n < 65536 then 3 else if n < 4294967296 then 5 else 9

@[simp] theorem length_head (major n : Nat) : (head major n).length = head_size n := by
  unfold head head_size
  split_ifs <;> simp

theorem head_size_of_lt {n : Nat} (hn : n < 24) : head_size n = 1 := if_pos hn

theorem head_size_le (n : Nat) : head_size n ≤ 9 := by
  unfold head_size
  split_ifs <;> omega

@[simp] theorem length_uint (n : Nat) : (uint n).length = head_size n := length_head 0 n

@[simp] theorem length_bool (value : Bool) : (bool value).length = 1 := rfl

theorem length_byte_string (content : List UInt8) :
    (byte_string content).length = head_size content.length + content.length := by
  rw [byte_string, List.length_append, length_head]

theorem length_map (entries : List (String × List UInt8)) :
    (map entries).length = head_size entries.length +
      (entries.map fun (key, value) => (text key).length + value.length).sum := by
  rw [map, List.length_append, length_head, List.length_flatMap]
  simp

theorem length_array (items : List (List UInt8)) :
    (array items).length = head_size items.length + (items.map List.length).sum := by
  rw [array, List.length_append, length_head, List.length_flatten]

theorem length_array_le {items : List (List UInt8)} {bound : Nat} (h : ∀ item ∈ items, item.length ≤ bound) :
    (array items).length ≤ 9 + items.length * bound := by
  have hsum : (items.map List.length).sum ≤ items.length * bound := by
    induction items with
    | nil => simp
    | cons item rest ih =>
      have hitem := h item List.mem_cons_self
      have hrest := ih fun item hmem => h item (List.mem_cons_of_mem _ hmem)
      simp only [List.map_cons, List.sum_cons, List.length_cons, Nat.succ_mul]
      omega
  have hhead := head_size_le items.length
  rw [length_array]
  omega

end bytes.cbor
