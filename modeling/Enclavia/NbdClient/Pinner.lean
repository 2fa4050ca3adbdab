import Enclavia.NbdClient.Oracle

open interaction enclavia.synchronizer enclavia.synchronizer.wire

namespace enclavia.nbd_client

def SYNC_RECONNECT_ATTEMPTS : Nat := 3

def SYNC_RECONNECT_BACKOFF : Nat := 2000000000

def SYNC_UNAVAILABLE_BUDGET : Nat := 300000000000

def SYNC_UNAVAILABLE_BACKOFF : Nat := 2000000000

def key_text (key : PcrKey) : String := s!"PcrKey({key.bytes.toList})"

structure SyncPinner where
  key : PcrKey
  expected : Version
  can_reconnect : Bool

variable {effect : SessionEffect}

namespace SyncPinner

section Calls

variable (self : SyncPinner)

def pin_once (commitment : Bytes32) : SessionProc (Except (PinFailure × String) Version) :=
  pin_once_on self.key self.expected commitment

def reconnect_session : SessionProc (Except (PinFailure × String) Unit) :=
  if !self.can_reconnect then .ret (.error (.Fatal, "no reconnector configured"))
  else
    .act .reconnect fun
      | .error error => .ret (.error (.Session, s!"session re-establishment failed: {error}"))
      | .ok key =>
        if key ≠ self.key then
          .ret (.error (.Fatal, (s!"reconnected session attested a DIFFERENT key ({key_text key} != " ++
            s!"{key_text self.key}); our own identity cannot change mid-run, refusing")))
        else .ret (.ok ())

def reconnect : (left : Nat) → Nat → String → SessionProc (Except String (Fin left × Nat))
  | 0, _, last_err =>
    .ret (.error s!"pin failed after {SYNC_RECONNECT_ATTEMPTS} session re-establishments: {last_err}")
  | left + 1, time, _ =>
    .act (.sleep time SYNC_RECONNECT_BACKOFF) fun slept =>
      self.reconnect_session.bind fun
        | .ok () => .ret (.ok (Fin.last left, slept.val))
        | .error (.Fatal, error) => .ret (.error error)
        | .error (_, error) =>
          (reconnect left slept.val error).bind fun
            | .ok (left, time) => .ret (.ok (left.castSucc, time))
            | .error error => .ret (.error error)

def back_off (msg : String) (deadline time : Nat) :
    SessionProc (Except String { later : Nat // deadline - later < deadline - time }) :=
  .act (.now time) fun now =>
    if hover : now.val + SYNC_UNAVAILABLE_BACKOFF ≥ deadline then
      .ret (.error s!"pin still Unavailable after the 300s no-quorum budget: {msg}")
    else
      .act (.sleep now.val SYNC_UNAVAILABLE_BACKOFF) fun slept =>
        .ret (.ok ⟨slept.val, by
          have hnow := now.property
          have hslept := slept.property
          simp only [SYNC_UNAVAILABLE_BACKOFF] at hover hslept
          omega⟩)

def retry (commitment : Bytes32) (left : Nat) (deadline : Option Nat) (time : Nat) :
    SessionProc (Except String Version) :=
  (self.pin_once commitment).bind fun
    | .ok version => .ret (.ok version)
    | .error (.Fatal, msg) => .ret (.error msg)
    | .error (.Unavailable, msg) =>
      match deadline with
      | none =>
        .act (.now time) fun first =>
          (back_off msg (first.val + SYNC_UNAVAILABLE_BUDGET) first.val).bind fun
            | .error error => .ret (.error error)
            | .ok later => retry commitment left (some (first.val + SYNC_UNAVAILABLE_BUDGET)) later.val
      | some deadline =>
        (back_off msg deadline time).bind fun
          | .error error => .ret (.error error)
          | .ok later => retry commitment left (some deadline) later.val
    | .error (.Session, msg) =>
      if !self.can_reconnect then .ret (.error msg)
      else
        (self.reconnect left time msg).bind fun
          | .error error => .ret (.error error)
          | .ok (fewer, time) => retry commitment fewer.val deadline time
termination_by (left, if deadline.isNone then 1 else 0, deadline.getD 0 - time)
decreasing_by
  · exact .right _ (.left _ _ (by simp))
  · exact .right _ (.right _ later.property)
  · exact .left _ _ fewer.isLt

def pin_with_retries (commitment : Bytes32) : SessionProc (Except String Version) :=
  self.retry commitment SYNC_RECONNECT_ATTEMPTS none 0

end Calls

variable {pinner : SyncPinner} {commitment : Bytes32}

def AsksOwn (pinner : SyncPinner) (commitment : Bytes32) (effect : SessionEffect) : Prop :=
  ∀ key expected_version pinned, effect = .rpc (.Pin key expected_version pinned) →
    key = pinner.key ∧ expected_version = pinner.expected ∧ pinned = ⟨commitment⟩

/-- What a call relies on: the versions at which it is told that its commitment is pinned are among
`Landed`. -/
structure Relies (pinner : SyncPinner) (commitment : Bytes32) (Landed : Version → Prop) (effect : SessionEffect)
    (answer : SessionAnswer effect) : Prop where
  pin : ∀ version, (⟨effect, answer⟩ : SessionEvent) =
    ⟨.rpc (.Pin pinner.key pinner.expected ⟨commitment⟩), some (.ok (.PinOk version))⟩ → Landed version
  get : ∀ version, (⟨effect, answer⟩ : SessionEvent) =
    ⟨.rpc (.Get pinner.key), some (.ok (.GetOk ⟨commitment⟩ version))⟩ → Landed version

theorem Relies.mono {Landed Landed' : Version → Prop} (h : ∀ version, Landed version → Landed' version)
    {answer : SessionAnswer effect} (hrelies : pinner.Relies commitment Landed effect answer) :
    pinner.Relies commitment Landed' effect answer :=
  ⟨fun version heq => h version (hrelies.pin version heq), fun version heq => h version (hrelies.get version heq)⟩

structure Pins (pinner : SyncPinner) (commitment : Bytes32) {ε : Type} (program : SessionProc (Except ε Version)) :
    Prop where
  asks : program.Obeys (fun _ _ => True) (pinner.AsksOwn commitment)
  lands : ∀ Landed, program.Yields (pinner.Relies commitment Landed) fun result => ∀ version,
    result = .ok version → Landed version

theorem Pins.error {ε : Type} (error : ε) : Pins pinner commitment (.ret (.error error)) :=
  ⟨trivial, fun _ => nofun⟩

theorem Pins.after {α ε : Type} {p : SessionProc α} {k : α → SessionProc (Except ε Version)}
    (hquiet : p.Obeys (fun _ _ => True) (pinner.AsksOwn commitment)) (h : ∀ a, Pins pinner commitment (k a)) :
    Pins pinner commitment (p.bind k) where
  asks := hquiet.bind fun a => (h a).asks
  lands Landed := (Program.Yields.of_forall (fun _ => trivial) p).bind fun a (_ : True) => (h a).lands Landed

theorem Pins.bind {ε δ : Type} {p : SessionProc (Except ε Version)}
    {k : Except ε Version → SessionProc (Except δ Version)} (h : Pins pinner commitment p)
    (hok : ∀ version, k (.ok version) = .ret (.ok version))
    (hfailed : ∀ failure, Pins pinner commitment (k (.error failure))) : Pins pinner commitment (p.bind k) where
  asks := by
    refine h.asks.bind fun result => ?_
    cases result with
    | error failure => exact (hfailed failure).asks
    | ok version =>
      rw [hok]
      trivial
  lands Landed := by
    refine (h.lands Landed).bind fun result hlands => ?_
    cases result with
    | error failure => exact (hfailed failure).lands Landed
    | ok version =>
      rw [hok]
      rintro _ ⟨⟩
      exact hlands version rfl

theorem Pins.act {ε : Type} {next : SessionAnswer effect → SessionProc (Except ε Version)}
    (hasks : pinner.AsksOwn commitment effect) (h : ∀ answer, Pins pinner commitment (next answer)) :
    Pins pinner commitment (.act effect next) where
  asks := ⟨hasks, fun answer _ => (h answer).asks⟩
  lands Landed := fun answer _ => (h answer).lands Landed

theorem asksOwn_of_ne (hne : ∀ key expected_version pinned, effect ≠ .rpc (.Pin key expected_version pinned)) :
    pinner.AsksOwn commitment effect :=
  fun key expected_version pinned heq => absurd heq (hne key expected_version pinned)

theorem disambiguate_conflict_pins : Pins pinner commitment (disambiguate_conflict pinner.key commitment) := by
  constructor
  · refine Program.Obeys.bind ⟨asksOwn_of_ne (by simp), fun _ _ => trivial⟩ ?_
    intro result
    split
    · split <;> trivial
    · trivial
    · trivial
  · intro Landed answer hrelies
    rcases answer with _ | error | response
    · rintro _ ⟨⟩
    · rintro _ ⟨⟩
    · cases response with
      | GetOk current version =>
        by_cases hcurrent : current = ⟨commitment⟩
        · subst hcurrent
          simp only [Client.result, Program.bind, if_true]
          rintro _ ⟨⟩
          exact hrelies.get version rfl
        · simp only [Client.result, Program.bind, hcurrent, if_false]
          rintro _ ⟨⟩
      | _ => rintro _ ⟨⟩

theorem pin_once_pins : Pins pinner commitment (pinner.pin_once commitment) := by
  constructor
  · refine Program.Obeys.bind ⟨?_, fun _ _ => trivial⟩ ?_
    · rintro _ _ _ ⟨⟩
      exact ⟨rfl, rfl, rfl⟩
    · intro result
      split
      · split <;> trivial
      · trivial
      · exact disambiguate_conflict_pins.asks
      · trivial
      · trivial
  · intro Landed answer hrelies
    rcases answer with _ | error | response
    · rintro _ ⟨⟩
    · cases error <;> rintro _ ⟨⟩
    · cases response with
      | PinOk version =>
        by_cases hversion : version.val = pinner.expected.val + 1
        · simp only [Client.result, Program.bind, hversion, if_true]
          rintro _ ⟨⟩
          exact hrelies.pin version rfl
        · simp only [Client.result, Program.bind, hversion, if_false]
          rintro _ ⟨⟩
      | Err error =>
        cases error with
        | VersionConflict => exact disambiguate_conflict_pins.lands Landed
        | _ => rintro _ ⟨⟩
      | _ => rintro _ ⟨⟩

theorem reconnect_session_obeys : pinner.reconnect_session.Obeys (fun _ _ => True) (pinner.AsksOwn commitment) := by
  unfold reconnect_session
  split
  · trivial
  · refine ⟨asksOwn_of_ne nofun, fun answer _ => ?_⟩
    dsimp only
    split
    · trivial
    · split <;> trivial

theorem reconnect_obeys (left time : Nat) (last_err : String) :
    (pinner.reconnect left time last_err).Obeys (fun _ _ => True) (pinner.AsksOwn commitment) := by
  induction left generalizing time last_err with
  | zero => trivial
  | succ left ih =>
    refine ⟨asksOwn_of_ne nofun, fun slept _ => reconnect_session_obeys.bind fun result => ?_⟩
    split
    · trivial
    · trivial
    · refine (ih _ _).bind fun result => ?_
      split <;> trivial

theorem back_off_obeys (msg : String) (deadline time : Nat) :
    (back_off msg deadline time).Obeys (fun _ _ => True) (pinner.AsksOwn commitment) := by
  refine ⟨asksOwn_of_ne nofun, fun now _ => ?_⟩
  dsimp only
  split
  · trivial
  · exact ⟨asksOwn_of_ne nofun, fun _ _ => trivial⟩

theorem retry_pins (left : Nat) (deadline : Option Nat) (time : Nat) :
    Pins pinner commitment (pinner.retry commitment left deadline time) := by
  rw [retry]
  refine pin_once_pins.bind (fun _ => rfl) ?_
  rintro ⟨kind, msg⟩
  cases kind with
  | Fatal => exact .error msg
  | Unavailable =>
    cases deadline with
    | none =>
      refine .act (asksOwn_of_ne nofun) fun first => .after (back_off_obeys msg _ first.val) fun result => ?_
      cases result with
      | error error => exact .error error
      | ok later => exact retry_pins left (some (first.val + SYNC_UNAVAILABLE_BUDGET)) later.val
    | some due =>
      refine .after (back_off_obeys msg due time) fun result => ?_
      cases result with
      | error error => exact .error error
      | ok later => exact retry_pins left (some due) later.val
  | Session =>
    dsimp only
    split
    · exact .error msg
    · refine .after (reconnect_obeys left time msg) fun result => ?_
      rcases result with error | ⟨fewer, time⟩
      · exact .error error
      · exact retry_pins fewer.val deadline time
termination_by (left, if deadline.isNone then 1 else 0, deadline.getD 0 - time)
decreasing_by
  · exact .left _ _ fewer.isLt
  · exact .right _ (.left _ _ (by simp))
  · exact .right _ (.right _ later.property)

theorem pin_with_retries_pins : Pins pinner commitment (pinner.pin_with_retries commitment) :=
  retry_pins SYNC_RECONNECT_ATTEMPTS none 0

theorem pin_with_retries_first : ∃ next, pinner.pin_with_retries commitment =
    .act (.rpc (.Pin pinner.key pinner.expected ⟨commitment⟩)) next ∧
      next (some (.ok (.PinOk ⟨pinner.expected.val + 1⟩))) = .ret (.ok ⟨pinner.expected.val + 1⟩) := by
  rw [pin_with_retries, retry]
  exact ⟨_, rfl, by simp [Program.bind, Client.result]⟩

end SyncPinner

end enclavia.nbd_client
