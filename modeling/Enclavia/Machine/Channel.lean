import Mathlib.Data.List.Basic

namespace machine

inductive TrySendError where
  | Full
  | Closed

/-- A bounded channel: what is in it, oldest first, and which of its ends are held. -/
structure Channel (α : Type) (capacity : Nat) where
  queue : List α
  sender : Bool
  receiver : Bool
  fits : queue.length ≤ capacity

namespace Channel

variable {α : Type} {capacity : Nat} (self : Channel α capacity)

def new : Channel α capacity where
  queue := []
  sender := true
  receiver := true
  fits := Nat.zero_le _

def room : Bool := self.queue.length < capacity

def try_send (item : α) : Except TrySendError (Channel α capacity) :=
  if self.receiver = false then .error .Closed
  else if h : self.queue.length < capacity then
    .ok { self with queue := self.queue ++ [item], fits := by rw [List.length_append]; exact h }
  else .error .Full

def skip (n : Nat) : Channel α capacity where
  queue := self.queue.drop n
  sender := self.sender
  receiver := self.receiver
  fits := Nat.le_trans (List.length_drop ▸ Nat.sub_le _ _) self.fits

def drop_sender : Channel α capacity := { self with sender := false }

def drop_receiver : Channel α capacity := { self with receiver := false }

variable {self} {item : α} {next : Channel α capacity}

theorem try_send_ok : self.try_send item = .ok next ↔
    self.receiver = true ∧ self.room = true ∧ next.queue = self.queue ++ [item] ∧ next.sender = self.sender ∧
      next.receiver = self.receiver := by
  obtain ⟨queue, sender, receiver, fits⟩ := self
  obtain ⟨queue', sender', receiver', fits'⟩ := next
  unfold try_send room
  cases receiver with
  | false => simp
  | true =>
    by_cases hroom : queue.length < capacity
    · simp [hroom, eq_comm]
    · simp [hroom]

theorem try_send_full : self.try_send item = .error .Full ↔ self.receiver = true ∧ self.room = false := by
  unfold try_send room
  cases self.receiver with
  | false => simp
  | true =>
    by_cases hroom : self.queue.length < capacity <;> simp [hroom]

end Channel

end machine
