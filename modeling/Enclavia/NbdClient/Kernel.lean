import Enclavia.Machine.Handles
import Enclavia.NbdClient.Replies

open interaction machine enclavia.synchronizer

namespace enclavia.nbd_client

open nbd

/-- A request that the kernel has issued, and how many answers it had received then. -/
structure Issued where
  request : NbdRequest
  known : Nat

/-- An answer that the kernel has received to its request of the given number. -/
structure Answer where
  request : Nat
  error : UInt32
  payload : List UInt8

/-- The kernel's end of the device: its requests and the answers to them in order, and of the reply that is coming in
the bytes so far. -/
structure Kernel where
  requests : List Issued
  answers : List Answer
  reading : Option Nat
  got : List UInt8

namespace Kernel

def new : Kernel where
  requests := []
  answers := []
  reading := none
  got := []

variable (self : Kernel)

def request (n : Nat) : Option NbdRequest := self.requests[n]?.map Issued.request

def uses (handle : UInt64) (n : Nat) : Bool :=
  match self.request n with
  | some request => request.handle = handle && self.answers.all fun answer => answer.request != n
  | none => false

def User (handle : UInt64) (n : Nat) : Prop := self.uses handle n = true

def lookup (handle : UInt64) : Option Nat := (List.range self.requests.length).find? fun n => self.uses handle n

def expects (n : Nat) : Nat :=
  match self.request n with
  | some request => if request.cmd_type = NBD_CMD_READ then request.length.toNat else 0
  | none => 0

def issue (request : NbdRequest) : Kernel :=
  { self with requests := self.requests ++ [⟨request, self.answers.length⟩] }

def answer (answer : Answer) : Kernel :=
  { self with answers := self.answers ++ [answer], reading := none, got := [] }

def take_header (header : List UInt8) : Kernel :=
  match self.lookup (parse_reply header).handle with
  | none => { self with got := [] }
  | some n =>
    if (parse_reply header).error = 0 ∧ self.expects n ≠ 0 then { self with reading := some n, got := [] }
    else self.answer ⟨n, (parse_reply header).error, []⟩

def awaits : Nat :=
  match self.reading with
  | none => 16
  | some n => self.expects n

def complete (bytes : List UInt8) : Kernel :=
  match self.reading with
  | none => self.take_header bytes
  | some n => self.answer ⟨n, 0, bytes⟩

def receive_byte (byte : UInt8) : Kernel :=
  if (self.got ++ [byte]).length = self.awaits then self.complete (self.got ++ [byte])
  else { self with got := self.got ++ [byte] }

def receive (bytes : List UInt8) : Kernel := bytes.foldl receive_byte self

variable {self : Kernel} {handle : UInt64} {n : Nat}

theorem user_iff : self.User handle n ↔ ∃ request, self.request n = some request ∧ request.handle = handle ∧
    ∀ answer ∈ self.answers, answer.request ≠ n := by
  rw [User, uses]
  cases self.request n with
  | none | some request => simp

theorem request_lt {request : NbdRequest} (h : self.request n = some request) : n < self.requests.length := by
  rw [Kernel.request, Option.map_eq_some_iff] at h
  obtain ⟨issued, hissued, -⟩ := h
  exact (List.getElem?_eq_some_iff.mp hissued).1

theorem lookup_eq_some (hleases : Leases self.User) (huser : self.User handle n) : self.lookup handle = some n := by
  obtain ⟨request, hrequest, -⟩ := user_iff.mp huser
  cases hfind : self.lookup handle with
  | none =>
    have hnone := List.find?_eq_none.mp hfind n (List.mem_range.mpr (request_lt hrequest))
    exact absurd huser hnone
  | some m => rw [hleases.user_unique huser (List.find?_some hfind)]

theorem lookup_eq_none (hnone : ∀ n, ¬self.User handle n) : self.lookup handle = none :=
  List.find?_eq_none.mpr fun n _ => hnone n

theorem receive_part {bytes : List UInt8} (hpart : (self.got ++ bytes).length < self.awaits) :
    self.receive bytes = { self with got := self.got ++ bytes } := by
  induction bytes generalizing self with
  | nil => rw [List.append_nil]; rfl
  | cons byte bytes ih =>
    rw [List.length_append, List.length_cons] at hpart
    have hbyte : self.receive_byte byte = { self with got := self.got ++ [byte] } := by
      rw [receive_byte, if_neg]
      rw [List.length_append, List.length_singleton]
      omega
    rw [receive, List.foldl_cons, hbyte, ← receive, ih, List.append_assoc]
    · rfl
    · rw [List.append_assoc, List.length_append]
      exact hpart

theorem receive_all {bytes : List UInt8} (hall : (self.got ++ bytes).length = self.awaits) (hbytes : bytes ≠ []) :
    self.receive bytes = self.complete (self.got ++ bytes) := by
  obtain ⟨init, last, rfl⟩ := (List.eq_nil_or_concat bytes).resolve_left hbytes
  rw [List.concat_eq_append, ← List.append_assoc] at hall ⊢
  rw [List.length_append, List.length_singleton] at hall
  have hinit : init.foldl receive_byte self = { self with got := self.got ++ init } := receive_part (by omega)
  rw [receive, List.foldl_append, hinit, List.foldl_cons, List.foldl_nil, receive_byte, if_pos]
  · rfl
  · rw [List.length_append, List.length_singleton]
    exact hall

end Kernel

end enclavia.nbd_client
