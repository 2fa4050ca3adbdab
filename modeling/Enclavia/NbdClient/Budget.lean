import Enclavia.NbdClient.Pinner
import Mathlib.Data.List.Chain

namespace enclavia.nbd_client

/-- A session as `pin_with_retries` sees it: each call has a result, and takes a while. -/
structure PinAttempt (S : Type) where
  pin_once : S → Except (PinFailure × String) Unit × Nat × S
  can_reconnect : S → Bool
  reconnect_session : S → Except (PinFailure × String) Unit × Nat × S

inductive PinEvent where
  | pin_once (start stop : Nat) (result : Except (PinFailure × String) Unit)
  | reconnect_session (result : Except (PinFailure × String) Unit)

variable {msg : String}

namespace PinEvent

def result : PinEvent → Except (PinFailure × String) Unit
  | pin_once _ _ result => result
  | reconnect_session result => result

def is_reconnect : PinEvent → Bool
  | pin_once .. => false
  | reconnect_session _ => true

/-- When the first `Unavailable` came. -/
def first_unavailable (events : List PinEvent) : Option Nat :=
  events.findSome? fun
    | pin_once _ stop (.error (.Unavailable, _)) => some stop
    | _ => none

def Follows (late : Nat → Nat) (deadline : Nat) : PinEvent → PinEvent → Prop
  | pin_once _ stop (.error (.Unavailable, _)), pin_once start _ _ => start ≤ deadline + late stop
  | pin_once _ _ (.error (.Session, _)), reconnect_session _ => True
  | reconnect_session (.ok ()), pin_once .. => True
  | reconnect_session (.error (failure, _)), reconnect_session _ => failure ≠ .Fatal
  | _, _ => False

variable {late : Nat → Nat} {deadline : Nat} {event next : PinEvent}

theorem Follows.to_pin_once {start stop : Nat} {answer : Except (PinFailure × String) Unit}
    (h : Follows late deadline event (.pin_once start stop answer)) :
    event = .reconnect_session (.ok ()) ∨ ∃ begun now msg,
      event = .pin_once begun now (.error (.Unavailable, msg)) ∧ start ≤ deadline + late now := by
  unfold Follows at h
  split at h
  · next begun now msg start stop answer heq => cases heq; exact .inr ⟨begun, now, msg, rfl, h⟩
  · next heq => cases heq
  · exact .inl rfl
  · next heq => cases heq
  · exact h.elim

theorem Follows.not_fatal (h : Follows late deadline event next) :
    event.result ≠ .error (.Fatal, msg) := by
  unfold Follows at h
  intro hfatal
  split at h <;> simp_all [result]

theorem first_unavailable_isSome {events : List PinEvent} {start stop : Nat}
    (h : .pin_once start stop (.error (.Unavailable, msg)) ∈ events) :
    ∃ first, first_unavailable events = some first := by
  rw [← Option.isSome_iff_exists]
  exact List.findSome?_isSome_iff.mpr ⟨_, h, rfl⟩

end PinEvent

namespace PinAttempt

variable {S : Type} (session : PinAttempt S) (late : Nat → Nat)

def retry (left : Nat) (deadline : Option Nat) (dead : Option String) (s : S) (time : Nat) :
    List PinEvent × Except String Unit :=
  match dead, left with
  | some last_err, 0 =>
    ([], .error s!"pin failed after {SYNC_RECONNECT_ATTEMPTS} session re-establishments: {last_err}")
  | some _, left + 1 =>
    match session.reconnect_session s with
    | (.error (.Fatal, error), _, _) => ([.reconnect_session (.error (.Fatal, error))], .error error)
    | (.ok (), took, s) =>
      let rest := retry left deadline none s (time + SYNC_RECONNECT_BACKOFF + late time + took)
      (.reconnect_session (.ok ()) :: rest.1, rest.2)
    | (.error (failure, error), took, s) =>
      let rest := retry left deadline (some error) s (time + SYNC_RECONNECT_BACKOFF + late time + took)
      (.reconnect_session (.error (failure, error)) :: rest.1, rest.2)
  | none, left =>
    match session.pin_once s with
    | (.ok (), took, _) => ([.pin_once time (time + took) (.ok ())], .ok ())
    | (.error (.Fatal, msg), took, _) => ([.pin_once time (time + took) (.error (.Fatal, msg))], .error msg)
    | (.error (.Unavailable, msg), took, s) =>
      if time + took + SYNC_UNAVAILABLE_BACKOFF ≥ deadline.getD (time + took + SYNC_UNAVAILABLE_BUDGET) then
        ([.pin_once time (time + took) (.error (.Unavailable, msg))],
          .error s!"pin still Unavailable after the 300s no-quorum budget: {msg}")
      else
        let rest := retry left (some (deadline.getD (time + took + SYNC_UNAVAILABLE_BUDGET))) none s
          (time + took + SYNC_UNAVAILABLE_BACKOFF + late (time + took))
        (.pin_once time (time + took) (.error (.Unavailable, msg)) :: rest.1, rest.2)
    | (.error (.Session, msg), took, s) =>
      if !session.can_reconnect s then ([.pin_once time (time + took) (.error (.Session, msg))], .error msg)
      else
        let rest := retry left deadline (some msg) s (time + took)
        (.pin_once time (time + took) (.error (.Session, msg)) :: rest.1, rest.2)
termination_by (left, if dead.isNone then 1 else 0, if deadline.isNone then 1 else 0, deadline.getD 0 - time)
decreasing_by
  · exact .left _ _ (Nat.lt_succ_self left)
  · exact .left _ _ (Nat.lt_succ_self left)
  · cases deadline with
    | none => exact .right _ (.right _ (.left _ _ (by simp)))
    | some deadline =>
      refine .right _ (.right _ (.right _ ?_))
      simp only [Option.getD_some, ge_iff_le, not_le, SYNC_UNAVAILABLE_BACKOFF] at *
      omega
  · exact .right _ (.left _ _ (by simp))

def pin_with_retries (s : S) : List PinEvent × Except String Unit :=
  session.retry late SYNC_RECONNECT_ATTEMPTS none none s 0

def due (deadline : Option Nat) (events : List PinEvent) : Nat :=
  deadline.getD ((PinEvent.first_unavailable events).getD 0 + SYNC_UNAVAILABLE_BUDGET)

def Starts (dead : Option String) (time : Nat) : PinEvent → Prop
  | .pin_once start _ _ => dead = none ∧ start = time
  | .reconnect_session _ => dead ≠ none

/-- What the loops have done, from a time on. -/
structure Tried (left : Nat) (deadline : Option Nat) (dead : Option String) (time : Nat) (events : List PinEvent)
    (result : Except String Unit) : Prop where
  reconnects : events.countP PinEvent.is_reconnect ≤ left
  starts : ∀ event ∈ events.head?, Starts dead time event
  chain : events.IsChain (PinEvent.Follows late (due deadline events))
  ok : result = .ok () → ∃ before start stop, events = before ++ [.pin_once start stop (.ok ())]
  fatal : ∀ last ∈ events.getLast?, ∀ msg, last.result = .error (.Fatal, msg) → result = .error msg

variable {session : PinAttempt S} {late : Nat → Nat} {rest : List PinEvent}

theorem due_unavailable {deadline : Option Nat} {time now : Nat} :
    due deadline (.pin_once time now (.error (.Unavailable, msg)) :: rest) =
      due (some (deadline.getD (now + SYNC_UNAVAILABLE_BUDGET))) rest := by
  have hfirst : PinEvent.first_unavailable (.pin_once time now (.error (.Unavailable, msg)) :: rest) = some now := rfl
  rw [due, due, hfirst, Option.getD_some, Option.getD_some]

theorem follows_wait {time now later finish : Nat} {next : PinEvent} (h : later ≤ finish + late now)
    (hnext : Starts none later next) :
    PinEvent.Follows late (due (some finish) rest) (.pin_once time now (.error (.Unavailable, msg))) next := by
  cases next with
  | pin_once start => exact hnext.2 ▸ h
  | reconnect_session => exact absurd rfl hnext

theorem Tried.cons {left fewer time later : Nat} {deadline deadline' : Option Nat} {dead dead' : Option String}
    {event : PinEvent} {result : Except String Unit} (h : Tried late fewer deadline' dead' later rest result)
    (hleft : fewer + [event].countP PinEvent.is_reconnect ≤ left) (hstarts : Starts dead time event)
    (hdue : due deadline (event :: rest) = due deadline' rest) (hfatal : ∀ msg, event.result ≠ .error (.Fatal, msg))
    (hfollows : ∀ next, Starts dead' later next → PinEvent.Follows late (due deadline' rest) event next) :
    Tried late left deadline dead time (event :: rest) result where
  reconnects := by
    have hrest := h.reconnects
    rw [List.countP_singleton] at hleft
    rw [List.countP_cons]
    omega
  starts := by simpa using hstarts
  chain := by
    rw [hdue]
    exact List.isChain_cons.mpr ⟨fun next hnext => hfollows next (h.starts next hnext), h.chain⟩
  ok := by
    intro hresult
    obtain ⟨before, start, stop, rfl⟩ := h.ok hresult
    exact ⟨event :: before, start, stop, rfl⟩
  fatal := by
    intro last hlast msg hmsg
    cases hrest : rest.getLast? with
    | none =>
      simp only [List.getLast?_cons, hrest, Option.getD_none, Option.mem_some_iff] at hlast
      exact absurd hmsg (hlast ▸ hfatal msg)
    | some other =>
      simp only [List.getLast?_cons, hrest, Option.getD_some, Option.mem_some_iff] at hlast
      exact h.fatal last (hlast ▸ hrest) msg hmsg

theorem retry_tried (left : Nat) (deadline : Option Nat) (dead : Option String) (s : S) (time : Nat) :
    Tried late left deadline dead time (session.retry late left deadline dead s time).1
      (session.retry late left deadline dead s time).2 := by
  -- the cases are the ways through `retry`: four with a dead session, then those after `pin_once`
  fun_induction retry session late left deadline dead s time with
  | case1 => exact ⟨by simp, by simp, by simp, by simp, by simp⟩
  | case2 => exact ⟨by simp [PinEvent.is_reconnect], by simp [Starts], by simp, by simp, by simp [PinEvent.result]⟩
  | case3 deadline s time last_err left took next h rest ih =>
    refine ih.cons (by simp [PinEvent.is_reconnect]) (by simp [Starts]) (by simp [due, PinEvent.first_unavailable])
      (by simp [PinEvent.result]) ?_
    rintro (_ | _) hnext
    · trivial
    · exact absurd rfl hnext
  | case4 deadline s time last_err left failure error took next hfatal h rest ih =>
    refine ih.cons (by simp [PinEvent.is_reconnect]) (by simp [Starts]) (by simp [due, PinEvent.first_unavailable])
      (by simpa [PinEvent.result] using hfatal) ?_
    rintro (_ | _) hnext
    · exact absurd hnext.1 nofun
    · exact hfatal
  | case5 =>
    exact ⟨by simp [PinEvent.is_reconnect], by simp [Starts], by simp, fun _ =>
      ⟨[], _, _, rfl⟩, by simp [PinEvent.result]⟩
  | case6 | case7 | case9 =>
    exact ⟨by simp [PinEvent.is_reconnect], by simp [Starts], by simp, by simp, by simp [PinEvent.result]⟩
  | case8 left deadline s time msg took next h hwithin rest ih =>
    exact ih.cons (by simp [PinEvent.is_reconnect]) (by simp [Starts]) due_unavailable (by simp [PinEvent.result])
      fun _ => follows_wait (by omega)
  | case10 left deadline s time msg took next h hcan rest ih =>
    refine ih.cons (by simp [PinEvent.is_reconnect]) (by simp [Starts]) (by simp [due, PinEvent.first_unavailable])
      (by simp [PinEvent.result]) ?_
    rintro (_ | _) hnext
    · exact absurd hnext.1 nofun
    · trivial

/-- Every pin ends, however its session behaves and however long it takes, with at most three re-establishments. -/
theorem pin_with_retries_bounded (session : PinAttempt S) (late : Nat → Nat) (s : S) :
    ∃ events result, session.pin_with_retries late s = (events, result) ∧
      events.countP PinEvent.is_reconnect ≤ SYNC_RECONNECT_ATTEMPTS ∧
      (∀ before event after msg, events = before ++ event :: after → event.result = .error (.Fatal, msg) →
        after = [] ∧ result = .error msg) ∧
      (∀ before event start stop answer after, events = before ++ event :: .pin_once start stop answer :: after →
        event = .reconnect_session (.ok ()) ∨ ∃ begun now msg first,
          event = .pin_once begun now (.error (.Unavailable, msg)) ∧
            PinEvent.first_unavailable events = some first ∧ start ≤ first + SYNC_UNAVAILABLE_BUDGET + late now) ∧
      (result = .ok () → ∃ before start stop, events = before ++ [.pin_once start stop (.ok ())]) := by
  have htried : Tried late SYNC_RECONNECT_ATTEMPTS none none 0
    (session.retry late SYNC_RECONNECT_ATTEMPTS none none s 0).1
      (session.retry late SYNC_RECONNECT_ATTEMPTS none none s 0).2 := retry_tried ..
  refine ⟨_, _, rfl, htried.reconnects, ?_, ?_, htried.ok⟩
  · intro before event after msg hevents hmsg
    have hchain := htried.chain
    have hfatal := htried.fatal event
    rw [hevents] at hchain hfatal
    cases after with
    | nil => exact ⟨rfl, hfatal (by simp) msg hmsg⟩
    | cons next after =>
      exact absurd hmsg (PinEvent.Follows.not_fatal (List.isChain_append_cons_cons.mp hchain).2.1)
  · intro before event start stop answer after hevents
    have hchain := htried.chain
    rw [hevents] at hchain
    have hfollows := (List.isChain_append_cons_cons.mp hchain).2.1
    rcases PinEvent.Follows.to_pin_once hfollows with hup | ⟨begun, now, msg, rfl, hstart⟩
    · exact .inl hup
    · obtain ⟨first, hfirst⟩ := PinEvent.first_unavailable_isSome (List.mem_append_right before List.mem_cons_self)
      rw [due, hfirst, Option.getD_none, Option.getD_some] at hstart
      rw [← hevents] at hfirst
      exact .inr ⟨begun, now, msg, first, rfl, hfirst, hstart⟩

end PinAttempt

end enclavia.nbd_client
