import Enclavia.Protocol.Upgrades.Links
import Enclavia.Server.Control
import Enclavia.Server.Revoke

open interaction enclavia.protocol enclavia.synchronizer.wire

namespace enclavia.server

def MIN_UTC : Int := -8334601228800000000000

def MAX_UTC : Int := 8210266876799999999999

abbrev Utc := { instant : Int // MIN_UTC ≤ instant ∧ instant ≤ MAX_UTC }

def Utc.chrono : Chrono Utc where
  timestamp_millis time := Int64.ofInt (time.val / 1000000)
  signed_duration_since time other := time.val - other.val

def Utc.checked_add (time : Utc) (duration : Int) : Option Utc :=
  if h : MIN_UTC ≤ time.val + duration ∧ time.val + duration ≤ MAX_UTC then some ⟨_, h⟩ else none

def try_seconds (seconds : Int) : Option Int :=
  if seconds.natAbs ≤ 9223372036854775 then some (seconds * 1000000000) else none

def CLOCK_SKEW_TOLERANCE_SECS : Int := 60

def violates_min_upgrade_delay (valid_from now : Utc) (min_delay_secs : UInt64) : Bool :=
  if min_delay_secs = 0 then false
  else
    let seconds : Option Int := if min_delay_secs.toNat < 2 ^ 63 then some min_delay_secs.toNat else none
    match ((seconds.bind try_seconds).bind now.checked_add).bind
      (Utc.checked_add · (-CLOCK_SKEW_TOLERANCE_SECS * 1000000000)) with
    | some floor => valid_from.val < floor.val
    | none => true

/-- The date that a refusal names, none if its arithmetic panics. -/
def earliest_acceptable (now : Utc) (min_delay_secs : UInt64) : Option Utc :=
  ((try_seconds min_delay_secs.toInt64.toInt).bind now.checked_add).bind
    (Utc.checked_add · (-CLOCK_SKEW_TOLERANCE_SECS * 1000000000))

inductive PrepareEffect where
  | now
  | build_chain_attestation (payload : List UInt8)
  | enclavia_crypto_prepare_upgrade (rekey : RekeyParams) (to_pcrs : chain.PcrsHex)
  | submit_chain_link_to_host (link : ChainLink)

abbrev PrepareAnswer : PrepareEffect → Type
  | .now => Utc
  | .build_chain_attestation _ => Except String (PinIdentity × List UInt8)
  | .enclavia_crypto_prepare_upgrade _ _ => Bool × String
  | .submit_chain_link_to_host _ => Except String Unit

abbrev PrepareProc := Program PrepareEffect PrepareAnswer

/-- CBOR, and the texts of dates and identities. -/
structure PrepareLibrary where
  upgrades : Codec (UpgradePayload Utc)
  display : Utc → String
  debug : PinIdentity → String

variable (lib : PrepareLibrary)

def emit_upgrade (payload : UpgradePayload Utc) (chain_payload payload_signature : List UInt8)
    (rekey : Option RekeyParams) : PrepareProc (Bool × String) :=
  .act (.build_chain_attestation chain_payload) fun
    | .error message => .ret (false, s!"chain attestation failed: {message}")
    | .ok (identity, attestation) =>
      let submit : PrepareProc (Bool × String) :=
        .act (.submit_chain_link_to_host ⟨.Upgrade, chain_payload, attestation, some payload_signature⟩) fun
          | .error message => .ret (false, s!"chain-host submission failed: {message}")
          | .ok () => .ret (true, "prepare-upgrade completed: chain link submitted")
      if identity ≠ payload.from then
        .ret (false, (s!"upgrade payload `from` identity does not match this enclave: payload " ++
          s!"{lib.debug payload.from}, attested {lib.debug identity}"))
      else
        match rekey with
        | none => submit
        | some rekey =>
          .act (.enclavia_crypto_prepare_upgrade rekey (chain.image_pcrs_hex payload.to)) fun (ok, message) =>
            if !ok then .ret (false, s!"storage re-key failed: {message}") else submit

def delay_refusal (valid_from now : Utc) (min_upgrade_delay_secs : UInt64) (earliest : Utc) : Bool × String :=
  (false, (s!"valid_from {lib.display valid_from} violates the measured minimum upgrade delay: this enclave " ++
    s!"requires activation at least {min_upgrade_delay_secs}s after now ({lib.display now}); earliest acceptable is " ++
    s!"{lib.display earliest}"))

/-- The `PrepareUpgrade` flow, nothing if it panics. -/
def run_prepare_upgrade (pubkey : VerifyingKey) (chain_payload payload_signature : List UInt8)
    (rekey : Option RekeyParams) (min_upgrade_delay_secs : UInt64) : PrepareProc (Option (Bool × String)) :=
  match verify_payload_signature pubkey .UpgradePayload chain_payload payload_signature with
  | .error message => .ret (some (false, message))
  | .ok () =>
    match decode_canonical lib.upgrades chain_payload with
    | .error error => .ret (some (false, s!"chain payload is not a valid UpgradePayload: {error.message}"))
    | .ok payload =>
      let emit := (emit_upgrade lib payload chain_payload payload_signature rekey).bind fun reply => .ret (some reply)
      if !upgrade_window_is_valid Utc.chrono payload.valid_from payload.valid_until then
        .ret (some (false, (s!"upgrade payload window {lib.display payload.valid_from} to " ++
          s!"{lib.display payload.valid_until} is shorter than the minimum of 3600 s")))
      else if min_upgrade_delay_secs > 0 then
        .act .now fun now =>
          if violates_min_upgrade_delay payload.valid_from now min_upgrade_delay_secs then
            .ret ((earliest_acceptable now min_upgrade_delay_secs).map
              (delay_refusal lib payload.valid_from now min_upgrade_delay_secs))
          else emit
      else emit

/-- The floor that the measured delay sets, over the integers. -/
def delay_floor (now : Utc) (min_delay_secs : UInt64) : Int :=
  now.val + min_delay_secs.toNat * 1000000000 - CLOCK_SKEW_TOLERANCE_SECS * 1000000000

/-- The delay is a duration, and `now` and the delay is a date, with and without the tolerance. -/
structure Representable (now : Utc) (min_delay_secs : UInt64) : Prop where
  duration : min_delay_secs.toNat ≤ 9223372036854775
  sum : now.val + min_delay_secs.toNat * 1000000000 ≤ MAX_UTC
  floor : MIN_UTC ≤ delay_floor now min_delay_secs

variable {lib} {now valid_from : Utc} {min_delay_secs : UInt64}

theorem Utc.checked_add_eq {time sum : Utc} {duration : Int} (h : time.checked_add duration = some sum) :
    sum.val = time.val + duration := by
  unfold checked_add at h
  split at h
  · cases h; rfl
  · cases h

theorem floor_le_of_not_violates (hmin : min_delay_secs ≠ 0)
    (h : violates_min_upgrade_delay valid_from now min_delay_secs = false) :
    delay_floor now min_delay_secs ≤ valid_from.val := by
  unfold violates_min_upgrade_delay at h
  rw [if_neg hmin] at h
  dsimp only at h
  split at h
  · next limit hfloor =>
    simp only [Option.bind_eq_some_iff, try_seconds, Option.ite_none_right_eq_some] at hfloor
    obtain ⟨sum, ⟨delay, ⟨seconds, ⟨-, hseconds⟩, -, hdelay⟩, hsum⟩, hlimit⟩ := hfloor
    cases hseconds
    cases hdelay
    have hle : ¬valid_from.val < limit.val := of_decide_eq_false h
    rw [Utc.checked_add_eq hlimit, Utc.checked_add_eq hsum] at hle
    unfold delay_floor
    omega
  · cases h

theorem toInt_toInt64_of_le (hduration : min_delay_secs.toNat ≤ 9223372036854775) :
    min_delay_secs.toInt64.toInt = min_delay_secs.toNat := by
  rw [UInt64.toInt64, Int64.toInt, Int64.toBitVec, BitVec.toInt_eq_toNat_of_lt]
  · rfl
  · change 2 * min_delay_secs.toNat < 2 ^ 64
    omega

theorem Representable.earliest_acceptable_eq (h : Representable now min_delay_secs) :
    ∃ earliest, earliest_acceptable now min_delay_secs = some earliest ∧
      earliest.val = delay_floor now min_delay_secs := by
  have hduration := h.duration
  have hsum := h.sum
  have hfloor := h.floor
  have hnow := now.property
  unfold delay_floor CLOCK_SKEW_TOLERANCE_SECS at hfloor
  have hseconds : try_seconds (min_delay_secs.toNat : Int) =
      some ((min_delay_secs.toNat : Int) * 1000000000) :=
    if_pos (by simpa using hduration)
  have hadd : now.checked_add (min_delay_secs.toNat * 1000000000) =
      some ⟨now.val + min_delay_secs.toNat * 1000000000, by omega⟩ := dif_pos (by omega)
  rw [earliest_acceptable, toInt_toInt64_of_le hduration, hseconds, Option.bind_some, hadd, Option.bind_some]
  refine ⟨_, dif_pos (by simp only [CLOCK_SKEW_TOLERANCE_SECS]; omega), ?_⟩
  simp only [delay_floor, CLOCK_SKEW_TOLERANCE_SECS]
  omega

/-- A date that is the floor is named only where the arithmetic of the refusal is exact. -/
theorem representable_of_floor {earliest named : Utc} (hfloor : earliest.val = delay_floor now min_delay_secs)
    (hnamed : earliest_acceptable now min_delay_secs = some named) : Representable now min_delay_secs := by
  have hnow := now.property
  have hearliest := earliest.property
  rw [hfloor] at hearliest
  have hduration : min_delay_secs.toNat ≤ 9223372036854775 := by
    unfold delay_floor CLOCK_SKEW_TOLERANCE_SECS MAX_UTC at hearliest
    unfold MIN_UTC at hnow
    omega
  rw [earliest_acceptable, toInt_toInt64_of_le hduration] at hnamed
  simp only [Option.bind_eq_some_iff, try_seconds, Option.ite_none_right_eq_some] at hnamed
  obtain ⟨sum, ⟨_, ⟨-, ⟨⟩⟩, hsum⟩, -⟩ := hnamed
  refine ⟨hduration, ?_, hearliest.1⟩
  rw [← Utc.checked_add_eq hsum]
  exact sum.property.2

theorem emit_upgrade_returns {payload : UpgradePayload Utc} {chain_payload payload_signature : List UInt8}
    {rekey : Option RekeyParams} {trace : List (Event PrepareAnswer)} {value : Option (Bool × String)}
    (h : ((emit_upgrade lib payload chain_payload payload_signature rekey).bind fun reply => .ret (some reply)).Returns
      trace value) : value ≠ none := by
  obtain ⟨_, _, reply, -, -, hreply⟩ := Program.returns_bind.mp h
  obtain ⟨-, rfl⟩ := Program.returns_ret.mp hreply
  exact nofun

namespace upgrading

def epoch : Utc := ⟨0, by decide⟩

/-- An upgrade that is valid for the first hour of 1970. -/
def payload : UpgradePayload Utc where
  enclave_id := 0
  «from» := .uniform 1
  «to» := .uniform 2
  image_digest := ""
  valid_from := epoch
  valid_until := ⟨3600000000000, by decide⟩
  issued_at := epoch
  nonce := []

def library : PrepareLibrary := ⟨⟨fun _ => [2], fun _ => .ok payload⟩, fun _ => "", fun _ => ""⟩

def key : VerifyingKey := ⟨fun _ => true, fun _ _ => true⟩

theorem refuses (h : violates_min_upgrade_delay epoch epoch min_delay_secs = true) :
    (run_prepare_upgrade library key [2] [] none min_delay_secs).Returns [⟨.now, epoch⟩]
      ((earliest_acceptable epoch min_delay_secs).map (delay_refusal library epoch epoch min_delay_secs)) := by
  have hsignature : verify_payload_signature key .UpgradePayload [2] [] = .ok () := rfl
  have hpayload : decode_canonical library.upgrades [2] = .ok payload := rfl
  have hmin : min_delay_secs > 0 := by
    rw [gt_iff_lt, UInt64.pos_iff_ne_zero]
    rintro rfl
    cases h
  unfold run_prepare_upgrade
  simp only [hsignature, hpayload]
  rw [if_neg (by decide +kernel), if_pos hmin]
  refine Program.returns_act.mpr ⟨epoch, [], rfl, ?_⟩
  rw [show payload.valid_from = epoch from rfl, if_pos h]
  exact Program.returns_ret.mpr ⟨rfl, rfl⟩

end upgrading

/-- A payload is accepted only from the measured delay on, without the tolerance. An earlier one is refused before
anything but the clock was asked, with the exact date as the earliest acceptable one, if and only if the delay and the
dates can be represented; where nothing is returned, they cannot. -/
theorem prepare_upgrade_keeps_delay (lib : PrepareLibrary) (pubkey : VerifyingKey)
    (chain_payload payload_signature : List UInt8) (rekey : Option RekeyParams) (min_upgrade_delay_secs : UInt64)
    {trace : List (Event PrepareAnswer)} {value : Option (Bool × String)}
    (h : (run_prepare_upgrade lib pubkey chain_payload payload_signature rekey min_upgrade_delay_secs).Returns trace
      value) :
    (∀ message, value = some (true, message) → ∃ payload, decode_canonical lib.upgrades chain_payload = .ok payload ∧
      (min_upgrade_delay_secs = 0 ∨ ∃ now rest, trace = ⟨.now, now⟩ :: rest ∧
        delay_floor now min_upgrade_delay_secs ≤ payload.valid_from.val)) ∧
    (value = none → ∃ now, trace = [⟨.now, now⟩] ∧ ¬Representable now min_upgrade_delay_secs) ∧
    ∀ payload now rest, decode_canonical lib.upgrades chain_payload = .ok payload → trace = ⟨.now, now⟩ :: rest →
      payload.valid_from.val < delay_floor now min_upgrade_delay_secs →
      rest = [] ∧ ((∃ earliest : Utc, earliest.val = delay_floor now min_upgrade_delay_secs ∧
        value = some (delay_refusal lib payload.valid_from now min_upgrade_delay_secs earliest)) ↔
          Representable now min_upgrade_delay_secs) := by
  unfold run_prepare_upgrade at h
  split at h
  · obtain ⟨rfl, rfl⟩ := Program.returns_ret.mp h
    exact ⟨by simp, by simp, by simp⟩
  split at h
  · obtain ⟨rfl, rfl⟩ := Program.returns_ret.mp h
    exact ⟨by simp, by simp, by simp⟩
  next payload hpayload =>
  dsimp only at h
  split at h
  · obtain ⟨rfl, rfl⟩ := Program.returns_ret.mp h
    exact ⟨by simp, by simp, by simp⟩
  split at h
  · next hmin =>
    obtain ⟨now, rest, rfl, hnext⟩ := Program.returns_act.mp h
    split at hnext
    · -- too early: only the date in the refusal can panic
      obtain ⟨rfl, rfl⟩ := Program.returns_ret.mp hnext
      refine ⟨by simp [delay_refusal], ?_, ?_⟩
      · intro hnone
        refine ⟨now, rfl, fun hfits => ?_⟩
        obtain ⟨earliest, hearliest, -⟩ := hfits.earliest_acceptable_eq
        rw [hearliest] at hnone
        cases hnone
      · intro other _ _ hother heq _
        cases heq
        cases hpayload.symm.trans hother
        refine ⟨rfl, ?_, fun hfits => ?_⟩
        · rintro ⟨earliest, hfloor, hvalue⟩
          obtain ⟨named, hnamed, -⟩ := Option.map_eq_some_iff.mp hvalue
          exact representable_of_floor hfloor hnamed
        · obtain ⟨earliest, hearliest, hfloor⟩ := hfits.earliest_acceptable_eq
          exact ⟨earliest, hfloor, by rw [hearliest, Option.map_some]⟩
    · next hviolates =>
      have hfloor : delay_floor now min_upgrade_delay_secs ≤ payload.valid_from.val :=
        floor_le_of_not_violates (UInt64.ne_of_lt hmin).symm (Bool.not_eq_true _ ▸ hviolates)
      refine ⟨fun _ _ => ⟨payload, hpayload, .inr ⟨now, rest, rfl, hfloor⟩⟩,
        fun hnone => absurd hnone (emit_upgrade_returns hnext), ?_⟩
      intro other _ _ hother heq hearly
      cases heq
      cases hpayload.symm.trans hother
      omega
  · next hmin =>
    -- without a delay the clock is not asked
    have hzero : min_upgrade_delay_secs = 0 := by grind
    refine ⟨fun _ _ => ⟨payload, hpayload, .inl hzero⟩, fun hnone => absurd hnone (emit_upgrade_returns h), ?_⟩
    intro other now rest _ heq
    obtain ⟨_, _, htrace, -⟩ := Program.returns_act.mp h
    rw [heq] at htrace
    cases htrace

/-- A delay that is too long to add to a date panics, and one of `u64::MAX` seconds is refused with a date in the
past. -/
theorem prepare_upgrade_delay_panics :
    (run_prepare_upgrade upgrading.library upgrading.key [2] [] none 4611686018427387904).Returns
      [⟨.now, upgrading.epoch⟩] none ∧
    (run_prepare_upgrade upgrading.library upgrading.key [2] [] none 18446744073709551615).Returns
      [⟨.now, upgrading.epoch⟩] (some (delay_refusal upgrading.library upgrading.epoch upgrading.epoch
        18446744073709551615 ⟨-61000000000, by decide⟩)) := by
  have hlong := upgrading.refuses
    (show violates_min_upgrade_delay upgrading.epoch upgrading.epoch 4611686018427387904 = true by decide +kernel)
  have hlongest := upgrading.refuses
    (show violates_min_upgrade_delay upgrading.epoch upgrading.epoch 18446744073709551615 = true by decide +kernel)
  have hnone : earliest_acceptable upgrading.epoch 4611686018427387904 = none := by decide +kernel
  have hpast : earliest_acceptable upgrading.epoch 18446744073709551615 = some ⟨-61000000000, by decide⟩ := by
    decide +kernel
  rw [hnone] at hlong
  rw [hpast] at hlongest
  exact ⟨hlong, hlongest⟩

/-- With a delay of an hour, an upgrade from now on is refused, and 3540 s is named as the earliest acceptable time. -/
theorem prepare_upgrade_keeps_delay_hour : ∃ value,
    (run_prepare_upgrade upgrading.library upgrading.key [2] [] none 3600).Returns [⟨.now, upgrading.epoch⟩] value ∧
      ∃ earliest : Utc, earliest.val = 3540000000000 ∧
        value = some (delay_refusal upgrading.library upgrading.epoch upgrading.epoch 3600 earliest) := by
  have h := upgrading.refuses
    (show violates_min_upgrade_delay upgrading.epoch upgrading.epoch 3600 = true by decide +kernel)
  have hrepresentable : Representable upgrading.epoch 3600 :=
    ⟨by decide +kernel, by decide +kernel, by decide +kernel⟩
  obtain ⟨earliest, hfloor, hvalue⟩ := ((prepare_upgrade_keeps_delay _ _ _ _ _ _ h).2.2 upgrading.payload _ _ rfl rfl
    (by decide +kernel)).2.mpr hrepresentable
  exact ⟨_, h, earliest, hfloor.trans (by decide +kernel), hvalue⟩

end enclavia.server
