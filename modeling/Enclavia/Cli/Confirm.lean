import Enclavia.Cli.Reproduce
import Mathlib.Algebra.Group.Int.Defs
import Mathlib.Data.List.Infix

open interaction enclavia.protocol enclavia.protocol.chain enclavia.server

namespace enclavia.cli

def UPGRADE_DELAY_DEFAULT : Int := 7 * 24 * 60 * 60 * 1000 * 1000 * 1000

def UPGRADE_WINDOW_MAX : Int := 30 * 24 * 60 * 60 * 1000 * 1000 * 1000

def VALID_FROM_SLACK : Int := 60 * 1000 * 1000 * 1000

inductive TargetPcrs where
  | Expected (pcrs : PcrsHex)
  | Reproduce

structure UpgradeTarget where
  pcrs : TargetPcrs
  image_digest : Option String
  accept_synchronizer_change : Bool
  debug_enclave : Bool

/-- The third-party code behind a confirmation: that of the chain, the encoding of commands, and the last instant of a
date. -/
structure CliLibrary (DateTime : Type) where
  chain : ChainLibrary DateTime
  commands : Codec ControlCommand
  max_utc : Int

/-- The invocation: the enclave, its row as fetched before, the time asked for and the target. -/
structure Invocation (DateTime : Type) where
  enclave_id : Uuid
  enclave : EnclaveRow
  valid_from : Option DateTime
  target : UpgradeTarget

structure VerifiedLink (DateTime : Type) where
  sequence : Option Nat
  boot : Option (BootPayload DateTime)
  validation : Except ChainValidationError Outcome

structure ChainSummary (DateTime : Type) where
  pcrs : PcrsHex
  tip_matches_row : Bool
  tip_identity : Option PinIdentity
  links : List (VerifiedLink DateTime)

structure RunningVersion where
  identity : PinIdentity
  anti_rollback : AntiRollbackSetting

structure UpgradeExpectation (DateTime : Type) where
  enclave_id : Uuid
  current : PinIdentity
  target : PcrsHex
  image_digest : String
  requested_valid_from : Option DateTime
  min_upgrade_delay_secs : Nat
  now : DateTime

variable {DateTime : Type} (lib : CliLibrary DateTime)

def in_sequence_order (links : List (RecordedLink DateTime)) : Except CliError (List (RecordedLink DateTime)) :=
  let key (l : RecordedLink DateTime) := l.link.sequence.elim 0 (· + 1)
  let sorted := links.mergeSort fun a b => key a ≤ key b
  if sorted.map (·.link.sequence) = (List.range sorted.length).map some then .ok sorted
  else .error (.Refused .ChainNotNumbered)

def attestation_debug_mode (enclave : EnclaveRow) (debug_enclave : Bool) : Except CliError Bool :=
  if enclave.mode = some (if debug_enclave then "debug" else "production") then .ok debug_enclave
  else .error (.Refused (.AttestationMode enclave.mode debug_enclave))

def decode_boot (link : ChainLink) : Option (BootPayload DateTime) :=
  if link.kind = .Boot then (decode_canonical lib.chain.boots link.payload).toOption else none

def summarize (enclave_id : Uuid) (debug_mode : Bool) (row : EnclaveChainRow) (links : List (RecordedLink DateTime))
    (now : DateTime) : ChainSummary DateTime :=
  let walk := validate_chain lib.chain
    { enclave_id, row_pcrs := row.pcrs, row_image_digest := row.image_digest,
      control_public_key := row.control_public_key, upgradable := row.upgradable, now, debug_mode } links
  { pcrs := row.pcrs
    tip_matches_row := walk.tip_matches_row
    tip_identity := walk.final_identity
    links := (links.zip walk.outcomes).map fun (l, outcome) => ⟨l.link.sequence, decode_boot lib l.link, outcome⟩ }

def chain (enclave_id : Uuid) (debug_enclave : Bool) : ConfirmProc DateTime (Except CliError (ChainSummary DateTime)) :=
  .act .get_enclave fun
    | .error error => .ret (.error error)
    | .ok enclave =>
      .act .get_enclave_chain fun
        | .error error => .ret (.error error)
        | .ok wire =>
          match in_sequence_order wire, attestation_debug_mode enclave debug_enclave, enclave.chain_row with
          | .error error, _, _ | _, .error error, _ => .ret (.error error)
          | _, _, .error message => .ret (.error (.Refused (.EnclaveRow message)))
          | .ok links, .ok debug_mode, .ok row =>
            .act .now fun now => .ret (.ok (summarize lib enclave_id debug_mode row links now))

def running_anti_rollback (links : List (VerifiedLink DateTime)) (tip : PcrsHex) : Option AntiRollbackSetting :=
  links.reverse.findSome? fun link =>
    match link.validation, link.boot with
    | .ok _, some payload => if payload.pcrs.same_as tip then some payload.anti_rollback else none
    | _, _ => none

def find_invalid : List (VerifiedLink DateTime) → Option (Option Nat × ChainValidationError)
  | [] => none
  | link :: rest =>
    match link.validation with
    | .error source => some (link.sequence, source)
    | .ok _ => find_invalid rest

def running_version (summary : ChainSummary DateTime) : Except CliError RunningVersion :=
  match find_invalid summary.links with
  | some (sequence, source) => .error (.Refused (.LinkInvalid sequence source))
  | none =>
    if !summary.tip_matches_row then .error (.Refused .TipUnexplained)
    else
      match summary.tip_identity, running_anti_rollback summary.links summary.pcrs with
      | none, _ => .error (.Refused .NoTipIdentity)
      | _, none => .error (.Refused .NoBootOfTip)
      | some identity, some anti_rollback => .ok { identity, anti_rollback }

def verified_running (enclave_id : Uuid) (debug_enclave : Bool) :
    ConfirmProc DateTime (Except CliError RunningVersion) :=
  (chain lib enclave_id debug_enclave).bind fun
    | .error error => .ret (.error error)
    | .ok summary => .ret (running_version summary)

def check_target_role (running target : AntiRollbackSetting) : Except CliError Unit :=
  (running.check_successor target).mapError fun change => .Refused (.TargetRole change)

def synchronizer_diff (running target : List PcrsHex) : List PcrsHex × List PcrsHex :=
  (running.filter fun p => !target.any (·.same_as p), target.filter fun p => !running.any (·.same_as p))

def check_synchronizer_change (running : AntiRollbackSetting) (target_synchronizers : List PcrsHex) (accept : Bool) :
    Except CliError Unit :=
  if !running.enabled then .ok ()
  else
    let (removed, added) := synchronizer_diff running.synchronizer_pcrs target_synchronizers
    if removed.isEmpty && added.isEmpty || accept then .ok ()
    else .error (.Refused (.SynchronizerRotation removed.length added.length))

def min_upgrade_delay_secs (enclave : EnclaveRow) : Except CliError Nat :=
  match enclave.min_upgrade_delay_secs with
  | none => .error (.Refused .MissingDelay)
  | some none => .error (.Refused .MalformedDelay)
  | some (some seconds) => .ok seconds

def expected_digest (wanted staged : Option String) : Except CliError String :=
  match wanted, staged with
  | some want, some staged => if want ≠ staged then .error (.Refused (.ImageDigest staged want)) else .ok want
  | some want, none => .ok want
  | none, some staged => .ok staged
  | none, none => .error (.Refused .BuildNotCompleted)

def target_pcrs (target : UpgradeTarget) (running : AntiRollbackSetting) (staged : StagedUpgrade) :
    ConfirmProc DateTime (Except CliError PcrsHex) :=
  match target.pcrs with
  | .Expected pcrs =>
    .ret ((check_synchronizer_change running (staged.synchronizer_pcrs.getD []) target.accept_synchronizer_change).map
      fun () => pcrs)
  | .Reproduce =>
    reproduce_upgrade.bind fun
      | .error error => .ret (.error error)
      | .ok result =>
        if !result.is_reproducible then .ret (.error (.Refused (.NotReproducible result.mismatches)))
        else
          .ret do
            check_target_role running result.anti_rollback_setting
            check_synchronizer_change running result.anti_rollback_setting.synchronizer_pcrs
              target.accept_synchronizer_change
            return result.actual

def upgrade_expectation (call : Invocation DateTime) :
    ConfirmProc DateTime (Except CliError (UpgradeExpectation DateTime)) :=
  .act .get_upgrade fun
    | .error error => .ret (.error error)
    | .ok staged =>
      match expected_digest call.target.image_digest staged.image_digest with
      | .error error => .ret (.error error)
      | .ok image_digest =>
        (verified_running lib call.enclave_id call.target.debug_enclave).bind fun
          | .error error => .ret (.error error)
          | .ok running =>
            (target_pcrs call.target running.anti_rollback staged).bind fun
              | .error error => .ret (.error error)
              | .ok target =>
                match min_upgrade_delay_secs call.enclave with
                | .error error => .ret (.error error)
                | .ok min_upgrade_delay_secs =>
                  .act .now fun now =>
                    .ret (.ok
                      { enclave_id := call.enclave_id, current := running.identity, target, image_digest,
                        requested_valid_from := call.valid_from, min_upgrade_delay_secs, now })

def checked_upgrade_window (payload : List UInt8) : Except CliError (UpgradePayload DateTime) :=
  match decode_canonical lib.chain.upgrades payload with
  | .error error => .error (.Refused (.NotAnUpgradePayload error))
  | .ok payload =>
    if !upgrade_window_is_valid lib.chain.chrono payload.valid_from payload.valid_until then
      .error (.Refused .WindowTooShort)
    else if lib.chain.chrono.signed_duration_since payload.valid_until payload.valid_from > UPGRADE_WINDOW_MAX then
      .error (.Refused .WindowTooLong)
    else .ok payload

/-- The earliest activation that the minimum delay allows, when it is a date. -/
def delay_floor (now : DateTime) (seconds : Nat) : Option Int :=
  if seconds < 2 ^ 63 ∧ seconds ≤ (2 ^ 63 - 1) / 1000 ∧
      lib.chain.instant now + seconds * 1000000000 ≤ lib.max_utc then
    some (lib.chain.instant now + seconds * 1000000000)
  else none

def asked (requested_valid_from : Option DateTime) (now : DateTime) : Int :=
  requested_valid_from.elim (lib.chain.instant now + UPGRADE_DELAY_DEFAULT) lib.chain.instant

def check_upgrade_payload (payload : List UInt8) (expected : UpgradeExpectation DateTime) :
    Except CliError (UpgradePayload DateTime) :=
  match checked_upgrade_window lib payload with
  | .error error => .error error
  | .ok p =>
    if p.enclave_id ≠ expected.enclave_id then .error (.Refused .OtherEnclave)
    else if !(image_pcrs_hex p.from).same_as (image_pcrs_hex expected.current) then .error (.Refused .FromPcrs)
    else if p.from.user ≠ expected.current.user then .error (.Refused .FromUserPcrs)
    else if !(image_pcrs_hex p.to).same_as expected.target then .error (.Refused .TargetPcrs)
    else if p.to.user ≠ p.from.user then .error (.Refused .TargetUserPcrs)
    else if p.image_digest ≠ expected.image_digest then
      .error (.Refused (.PayloadDigest p.image_digest expected.image_digest))
    else
      match delay_floor lib expected.now expected.min_upgrade_delay_secs with
      | none => .error (.Refused (.DelayOutOfRange expected.min_upgrade_delay_secs))
      | some floor =>
        let earliest := max (asked lib expected.requested_valid_from expected.now) floor - VALID_FROM_SLACK
        if lib.chain.instant p.valid_from < earliest then .error (.Refused (.TooEarly earliest)) else .ok p

def sign_confirm_submission (prep : ConfirmPrepareResponse) :
    ConfirmProc DateTime (Except CliError ConfirmSubmitRequest) :=
  .act (.sign (signed_message .UpgradePayload prep.payload)) fun
    | .error error => .ret (.error error)
    | .ok inner =>
      let command := lib.commands.encode (.PrepareUpgrade prep.payload inner prep.rekey prep.nonce)
      .act (.sign (signed_message .ControlCommand command)) fun
        | .error error => .ret (.error error)
        | .ok envelope => .ret (.ok ⟨command, envelope⟩)

def is_stale_nonce (body : String) : Bool :=
  decide ("control nonce in the submitted command is stale".toList <:+: body.toList) ||
    decide ("stale nonce".toList <:+: body.toList)

def confirm_self_hosted (call : Invocation DateTime) : ConfirmProc DateTime (Except CliError StagedUpgrade) :=
  (upgrade_expectation lib call).bind fun
    | .error error => .ret (.error error)
    | .ok expected =>
      .act .confirm_prepare fun
        | .error error => .ret (.error error)
        | .ok prep =>
          match check_upgrade_payload lib prep.payload expected with
          | .error error => .ret (.error error)
          | .ok _ =>
            .act .signer_for_enclave fun
              | .error error => .ret (.error error)
              | .ok () =>
                (sign_confirm_submission lib prep).bind fun
                  | .error error => .ret (.error error)
                  | .ok submission =>
                    .act (.confirm_submit submission) fun
                      | .error (.Conflict message) =>
                        if is_stale_nonce message then
                          .act .confirm_prepare fun
                            | .error error => .ret (.error error)
                            | .ok prep =>
                              .act .now fun now =>
                                match check_upgrade_payload lib prep.payload { expected with now } with
                                | .error error => .ret (.error error)
                                | .ok _ =>
                                  (sign_confirm_submission lib prep).bind fun
                                    | .error error => .ret (.error error)
                                    | .ok submission => .act (.confirm_submit submission) .ret
                        else .ret (.error (.Conflict message))
                      | other => .ret other

def staged_rows (history : List (Event (ConfirmAnswer DateTime))) : List StagedUpgrade :=
  history.filterMap fun
    | ⟨.get_upgrade, .ok staged⟩ => some staged
    | _ => none

def builds (history : List (Event (ConfirmAnswer DateTime))) : List (BuildArgs × PcrsHex) :=
  history.filterMap fun
    | ⟨.run_builder args, .ok actual⟩ => some (args, actual)
    | _ => none

def last_reading (history : List (Event (ConfirmAnswer DateTime))) : Option DateTime :=
  history.reverse.findSome? fun
    | ⟨.now, now⟩ => some now
    | _ => none

def Attested (call : Invocation DateTime) (history : List (Event (ConfirmAnswer DateTime))) (identity : PinIdentity)
    (setting : AntiRollbackSetting) : Prop :=
  ∃ enclave wire links row now, ⟨.get_enclave, .ok enclave⟩ ∈ history ∧ ⟨.get_enclave_chain, .ok wire⟩ ∈ history ∧
    ⟨.now, now⟩ ∈ history ∧ in_sequence_order wire = .ok links ∧ enclave.chain_row = .ok row ∧
    let summary := summarize lib call.enclave_id call.target.debug_enclave row links now
    (∀ link ∈ summary.links, ∃ outcome, link.validation = .ok outcome) ∧ summary.tip_identity = some identity ∧
      running_anti_rollback summary.links summary.pcrs = some setting

def BuildArgs.setting (args : BuildArgs) : AntiRollbackSetting :=
  (rebuilt args ⟨"", "", ""⟩ ⟨"", "", ""⟩).anti_rollback_setting

structure Intended (call : Invocation DateTime) (history : List (Event (ConfirmAnswer DateTime)))
    (payload : List UInt8) (p : UpgradePayload DateTime) (setting : AntiRollbackSetting) (now : DateTime)
    (seconds : Nat) : Prop where
  canonical : decode_canonical lib.chain.upgrades payload = .ok p
  enclave_id : p.enclave_id = call.enclave_id
  attested : Attested lib call history p.from setting
  user : p.to.user = p.from.user
  target : match call.target.pcrs with
    | .Expected pcrs => pcrs.to_pcrs = .ok p.to.image_pcrs
    | .Reproduce => ∃ args actual, (args, actual) ∈ builds history ∧ actual.to_pcrs = .ok p.to.image_pcrs ∧
        Pins args.pinned_image p.image_digest ∧ args.image_digest = p.image_digest ∧
        check_target_role setting args.setting = .ok ()
  digest : ∀ want, call.target.image_digest = some want → p.image_digest = want
  reading : last_reading history = some now
  delay : call.enclave.min_upgrade_delay_secs = some (some seconds)
  start : max (asked lib call.valid_from now) (lib.chain.instant now + seconds * 1000000000) - VALID_FROM_SLACK ≤
    lib.chain.instant p.valid_from
  window : UPGRADE_WINDOW_MIN ≤ lib.chain.chrono.signed_duration_since p.valid_until p.valid_from ∧
    lib.chain.chrono.signed_duration_since p.valid_until p.valid_from ≤ UPGRADE_WINDOW_MAX

/-- With a rebuild, both staged rows name one digest, and the second one doesn't refer to another image. -/
def Consistent (target : UpgradeTarget) (rows : List StagedUpgrade) : Prop :=
  match target.pcrs with
  | .Expected _ => True
  | .Reproduce => ∃ staged built digest, rows = [staged, built] ∧
      (target.image_digest <|> staged.image_digest) = some digest ∧
      built.image_digest = some digest ∧ ('@' ∈ built.docker_image.toList → Pins built.docker_image digest)

variable {lib} {call : Invocation DateTime} {history trace : List (Event (ConfirmAnswer DateTime))}
  {expected : UpgradeExpectation DateTime} {p : UpgradePayload DateTime}
  {now : DateTime} {seconds : Nat} {enclave : EnclaveRow} {debug_enclave : Bool} {enclave_id : Uuid}
  {summary : ChainSummary DateTime} {target : UpgradeTarget}

theorem checked_upgrade_window_ok {payload : List UInt8} (h : checked_upgrade_window lib payload = .ok p) :
    decode_canonical lib.chain.upgrades payload = .ok p ∧
      UPGRADE_WINDOW_MIN ≤ lib.chain.chrono.signed_duration_since p.valid_until p.valid_from ∧
      lib.chain.chrono.signed_duration_since p.valid_until p.valid_from ≤ UPGRADE_WINDOW_MAX := by
  unfold checked_upgrade_window at h
  split at h
  · cases h
  · next p' hp' =>
    split at h
    · cases h
    · next hshort =>
      split at h
      · cases h
      · next hlong =>
        cases h
        simp only [Bool.not_eq_true', Bool.not_eq_false, upgrade_window_is_valid, ge_iff_le,
          decide_eq_true_eq] at hshort
        exact ⟨hp', hshort, Int.not_lt.mp hlong⟩

theorem delay_floor_some {floor : Int} (h : delay_floor lib now seconds = some floor) :
    floor = lib.chain.instant now + seconds * 1000000000 := by
  unfold delay_floor at h
  split at h
  · exact (Option.some.inj h).symm
  · cases h

theorem image_of_same_as {identity other : PinIdentity}
    (h : (image_pcrs_hex identity).same_as (image_pcrs_hex other) = true) : identity.image = other.image := by
  have hpcrs := PcrsHex.to_pcrs_of_same_as h
  simp only [to_pcrs_image_pcrs_hex, Except.ok.injEq, PinIdentity.image_pcrs, Pcrs.mk.injEq, Vector.toList_inj] at hpcrs
  obtain ⟨h0, h1, h2⟩ := hpcrs
  refine Vector.ext fun i hi => ?_
  obtain rfl | rfl | rfl : i = 0 ∨ i = 1 ∨ i = 2 := by omega
  · exact h0
  · exact h1
  · exact h2

structure Checked (payload : List UInt8) (expected : UpgradeExpectation DateTime) (p : UpgradePayload DateTime) :
    Prop where
  canonical : decode_canonical lib.chain.upgrades payload = .ok p
  window : UPGRADE_WINDOW_MIN ≤ lib.chain.chrono.signed_duration_since p.valid_until p.valid_from ∧
    lib.chain.chrono.signed_duration_since p.valid_until p.valid_from ≤ UPGRADE_WINDOW_MAX
  enclave_id : p.enclave_id = expected.enclave_id
  current : p.from = expected.current
  target : expected.target.to_pcrs = .ok p.to.image_pcrs
  user : p.to.user = p.from.user
  digest : p.image_digest = expected.image_digest
  start : max (asked lib expected.requested_valid_from expected.now)
    (lib.chain.instant expected.now + expected.min_upgrade_delay_secs * 1000000000) - VALID_FROM_SLACK ≤
      lib.chain.instant p.valid_from

theorem check_upgrade_payload_ok {payload : List UInt8} (h : check_upgrade_payload lib payload expected = .ok p) :
    @Checked _ lib payload expected p := by
  unfold check_upgrade_payload at h
  split at h
  · cases h
  next p' hwindow =>
  obtain ⟨hcanonical, hbounds⟩ := checked_upgrade_window_ok hwindow
  split at h
  · cases h
  next henclave =>
  split at h
  · cases h
  next hfrom =>
  split at h
  · cases h
  next huser =>
  split at h
  · cases h
  next htarget =>
  split at h
  · cases h
  next htouser =>
  split at h
  · cases h
  next hdigest =>
  split at h
  · cases h
  next floor hfloor =>
  rw [delay_floor_some hfloor] at h
  dsimp only at h
  split at h
  · cases h
  next hstart =>
  cases h
  simp only [Bool.not_eq_true', Bool.not_eq_false] at hfrom htarget
  refine ⟨hcanonical, hbounds, not_not.mp henclave, ?_, ?_, not_not.mp htouser, not_not.mp hdigest,
    Int.not_lt.mp hstart⟩
  · exact (PinIdentity.mk.injEq ..).mpr ⟨image_of_same_as hfrom, not_not.mp huser⟩
  · rw [← PcrsHex.to_pcrs_of_same_as htarget, to_pcrs_image_pcrs_hex]

structure Expects (call : Invocation DateTime) (history : List (Event (ConfirmAnswer DateTime)))
    (expected : UpgradeExpectation DateTime) (setting : AntiRollbackSetting) : Prop where
  enclave_id : expected.enclave_id = call.enclave_id
  requested : expected.requested_valid_from = call.valid_from
  delay : call.enclave.min_upgrade_delay_secs = some (some expected.min_upgrade_delay_secs)
  reading : last_reading history = some expected.now
  attested : Attested lib call history expected.current setting
  digest : ∀ want, call.target.image_digest = some want → expected.image_digest = want
  target : match call.target.pcrs with
    | .Expected pcrs => expected.target = pcrs
    | .Reproduce => ∃ staged built enclave inputs, staged_rows history = [staged, built] ∧
        (call.target.image_digest <|> staged.image_digest) = some expected.image_digest ∧
        from_staged_upgrade built = .ok inputs ∧ builds history = [(build_args enclave inputs, expected.target)] ∧
        check_target_role setting (build_args enclave inputs).setting = .ok ()

theorem Expects.append {setting : AntiRollbackSetting} {later : List (Event (ConfirmAnswer DateTime))}
    (h : @Expects _ lib call history expected setting) (hrows : staged_rows later = []) (hbuilds : builds later = [])
    (hreading : (last_reading later).getD expected.now = now) :
    @Expects _ lib call (history ++ later) { expected with now } setting where
  enclave_id := h.enclave_id
  requested := h.requested
  delay := h.delay
  reading := by
    have hlast : last_reading (history ++ later) = (last_reading later).or (last_reading history) := by
      simp [last_reading, List.findSome?_append]
    rw [hlast, h.reading, ← hreading]
    cases last_reading later <;> rfl
  attested := by
    obtain ⟨enclave, wire, links, row, reading, henclave, hwire, hnow, hrest⟩ := h.attested
    exact ⟨enclave, wire, links, row, reading, List.mem_append_left _ henclave, List.mem_append_left _ hwire,
      List.mem_append_left _ hnow, hrest⟩
  digest := h.digest
  target := by
    have htarget := h.target
    have hrows' : staged_rows (history ++ later) = staged_rows history := by
      rw [staged_rows, List.filterMap_append, ← staged_rows, ← staged_rows, hrows, List.append_nil]
    have hbuilds' : builds (history ++ later) = builds history := by
      rw [builds, List.filterMap_append, ← builds, ← builds, hbuilds, List.append_nil]
    rw [hrows', hbuilds']
    exact htarget

theorem Expects.intended_iff {setting : AntiRollbackSetting}
    {payload : List UInt8} (h : @Expects _ lib call history expected setting)
    (hchecked : check_upgrade_payload lib payload expected = .ok p) :
    (∃ p setting now seconds, Intended lib call history payload p setting now seconds) ↔
      Consistent call.target (staged_rows history) := by
  have hc := check_upgrade_payload_ok hchecked
  have htarget := h.target
  constructor
  · rintro ⟨p', setting', now, seconds, hintended⟩
    cases hc.canonical.symm.trans hintended.canonical
    have hbuilt := hintended.target
    unfold Consistent
    cases hpcrs : call.target.pcrs with
    | Expected pcrs => trivial
    | Reproduce =>
      rw [hpcrs] at htarget hbuilt
      obtain ⟨staged, built, enclave, inputs, hrows, hdigest, hinputs, hbuilds, -⟩ := htarget
      obtain ⟨args, actual, hmem, -, hpins, hargs, -⟩ := hbuilt
      rw [hbuilds, List.mem_singleton] at hmem
      cases hmem
      obtain ⟨hbuilt, hdocker⟩ := from_staged_upgrade_ok hinputs
      refine ⟨staged, built, _, hrows, hdigest, hbuilt.trans (congrArg some (hargs.trans hc.digest)), fun hat => ?_⟩
      rw [hdocker] at hat ⊢
      rw [← hc.digest]
      exact (if_pos hat).mp (pin_to_digest_pins.mp hpins)
  · intro hconsistent
    refine ⟨p, setting, expected.now, expected.min_upgrade_delay_secs, ?_⟩
    refine
      { canonical := hc.canonical
        enclave_id := hc.enclave_id.trans h.enclave_id
        attested := hc.current ▸ h.attested
        user := hc.user
        target := ?_
        digest := fun want hwant => hc.digest.trans (h.digest want hwant)
        reading := h.reading
        delay := h.delay
        start := h.requested ▸ hc.start
        window := hc.window }
    cases hpcrs : call.target.pcrs with
    | Expected pcrs =>
      rw [hpcrs] at htarget
      exact htarget ▸ hc.target
    | Reproduce =>
      unfold Consistent at hconsistent
      rw [hpcrs] at htarget hconsistent
      obtain ⟨staged, built, enclave, inputs, hrows, hdigest, hinputs, hbuilds, hrole⟩ := htarget
      obtain ⟨staged', built', digest, hrows', hdigest', hbuilt', hdocker'⟩ := hconsistent
      cases hrows.symm.trans hrows'
      obtain ⟨hbuilt, hdocker⟩ := from_staged_upgrade_ok hinputs
      have hsame : inputs.image_digest = p.image_digest := by
        rw [hc.digest]
        exact Option.some.inj (hbuilt.symm.trans (hbuilt'.trans (hdigest'.symm.trans hdigest)))
      refine ⟨build_args enclave inputs, expected.target, hbuilds ▸ List.mem_singleton_self _, hc.target, ?_, hsame,
        hrole⟩
      refine pin_to_digest_pins.mpr ?_
      split
      · next hat =>
        rw [← hdocker] at hat ⊢
        have h := hdocker' hat
        rwa [← Option.some.inj (hbuilt.symm.trans hbuilt'), hsame] at h
      · exact hsame

theorem attestation_debug_mode_ok {debug_mode : Bool}
    (h : attestation_debug_mode enclave debug_enclave = .ok debug_mode) : debug_mode = debug_enclave := by
  unfold attestation_debug_mode at h
  by_cases hmode : enclave.mode = some (if debug_enclave then "debug" else "production")
  · rw [if_pos hmode] at h
    exact (Except.ok.inj h).symm
  · rw [if_neg hmode] at h
    cases h

theorem chain_ok (h : (chain lib enclave_id debug_enclave).Returns trace (.ok summary)) :
    ∃ enclave wire links row now,
      trace = [⟨.get_enclave, .ok enclave⟩, ⟨.get_enclave_chain, .ok wire⟩, ⟨.now, now⟩] ∧
      in_sequence_order wire = .ok links ∧ enclave.chain_row = .ok row ∧
      summary = summarize lib enclave_id debug_enclave row links now := by
  obtain ⟨answer, rest, rfl, hchain⟩ := Program.returns_act.mp h
  rcases answer with error | enclave
  · exact nomatch (Program.returns_ret.mp hchain).2
  obtain ⟨answer, rest, rfl, hwalk⟩ := Program.returns_act.mp hchain
  rcases answer with error | wire
  · exact nomatch (Program.returns_ret.mp hwalk).2
  dsimp only at hwalk
  split at hwalk
  · exact nomatch (Program.returns_ret.mp hwalk).2
  · exact nomatch (Program.returns_ret.mp hwalk).2
  · exact nomatch (Program.returns_ret.mp hwalk).2
  · next links debug_mode row hlinks hmode hrow =>
    obtain ⟨now, rest, rfl, hresult⟩ := Program.returns_act.mp hwalk
    obtain ⟨rfl, heq⟩ := Program.returns_ret.mp hresult
    cases heq
    cases attestation_debug_mode_ok hmode
    exact ⟨enclave, wire, links, row, now, rfl, hlinks, hrow, rfl⟩

theorem find_invalid_none {links : List (VerifiedLink DateTime)} (h : find_invalid links = none) :
    ∀ link ∈ links, ∃ outcome, link.validation = .ok outcome := by
  induction links with
  | nil => simp
  | cons link rest ih =>
    unfold find_invalid at h
    split at h
    · cases h
    · next outcome hvalid =>
      intro link' hmem
      rcases List.mem_cons.mp hmem with rfl | hmem
      · exact ⟨outcome, hvalid⟩
      · exact ih h link' hmem

theorem running_version_ok {running : RunningVersion} (h : running_version summary = .ok running) :
    (∀ link ∈ summary.links, ∃ outcome, link.validation = .ok outcome) ∧
      summary.tip_identity = some running.identity ∧
      running_anti_rollback summary.links summary.pcrs = some running.anti_rollback := by
  unfold running_version at h
  split at h
  · cases h
  · next hinvalid =>
    split at h
    · cases h
    · split at h
      · cases h
      · cases h
      · next hidentity hsetting =>
        cases h
        exact ⟨find_invalid_none hinvalid, hidentity, hsetting⟩

theorem rebuilt_setting (args : BuildArgs) (expected actual : PcrsHex) :
    (rebuilt args expected actual).anti_rollback_setting = args.setting := rfl

theorem target_pcrs_ok {running : AntiRollbackSetting} {staged : StagedUpgrade} {pcrs : PcrsHex}
    (h : (target_pcrs target running staged).Returns trace (.ok pcrs)) :
    match target.pcrs with
    | .Expected expected => trace = [] ∧ pcrs = expected
    | .Reproduce => ∃ enclave upgrade inputs,
        trace = [⟨.get_enclave, .ok enclave⟩, ⟨.get_upgrade, .ok upgrade⟩,
          ⟨.run_builder (build_args enclave inputs), .ok pcrs⟩] ∧
        from_staged_upgrade upgrade = .ok inputs ∧
        check_target_role running (build_args enclave inputs).setting = .ok () := by
  unfold target_pcrs at h
  cases hpcrs : target.pcrs with
  | Expected expected =>
    rw [hpcrs] at h
    obtain ⟨rfl, heq⟩ := Program.returns_ret.mp h
    cases hchange : check_synchronizer_change running (staged.synchronizer_pcrs.getD [])
      target.accept_synchronizer_change with
    | error error =>
      rw [hchange] at heq
      cases heq
    | ok _ =>
      rw [hchange] at heq
      cases heq
      exact ⟨rfl, rfl⟩
  | Reproduce =>
    rw [hpcrs] at h
    obtain ⟨first, second, result, rfl, hresult, hcheck⟩ := Program.returns_bind.mp h
    rcases result with error | result
    · exact nomatch (Program.returns_ret.mp hcheck).2
    dsimp only at hcheck
    split at hcheck
    · exact nomatch (Program.returns_ret.mp hcheck).2
    obtain ⟨rfl, heq⟩ := Program.returns_ret.mp hcheck
    obtain ⟨enclave, upgrade, inputs, actual, rfl, hinputs, rfl⟩ := reproduce_upgrade_ok hresult
    cases hrole : check_target_role running (build_args enclave inputs).setting with
    | error error => simp [rebuilt_setting, hrole, bind, Except.bind] at heq
    | ok _ =>
      cases hchange : check_synchronizer_change running (build_args enclave inputs).setting.synchronizer_pcrs
          target.accept_synchronizer_change with
      | error error => simp [rebuilt_setting, hrole, hchange, bind, Except.bind] at heq
      | ok _ =>
        simp only [rebuilt_setting, hrole, hchange, bind, Except.bind, pure, Except.pure, Except.ok.injEq] at heq
        cases heq
        exact ⟨enclave, upgrade, inputs, rfl, hinputs, hrole⟩

theorem min_upgrade_delay_secs_ok (h : min_upgrade_delay_secs enclave = .ok seconds) :
    enclave.min_upgrade_delay_secs = some (some seconds) := by
  unfold min_upgrade_delay_secs at h
  split at h
  · cases h
  · cases h
  · next hdelay =>
    cases h
    exact hdelay

theorem expected_digest_ok {wanted staged : Option String} {digest : String}
    (h : expected_digest wanted staged = .ok digest) : (wanted <|> staged) = some digest := by
  unfold expected_digest at h
  split at h
  · split at h
    · cases h
    · cases h
      rfl
  · cases h
    rfl
  · cases h
    rfl
  · cases h

theorem upgrade_expectation_ok
    (h : (upgrade_expectation lib call).Returns trace (.ok expected)) :
    ∃ setting, @Expects _ lib call trace expected setting := by
  obtain ⟨answer, rest, rfl, hstaged⟩ := Program.returns_act.mp h
  rcases answer with error | staged
  · exact nomatch (Program.returns_ret.mp hstaged).2
  dsimp only at hstaged
  split at hstaged
  · exact nomatch (Program.returns_ret.mp hstaged).2
  next image_digest hdigest =>
  obtain ⟨first, second, running, rfl, hrunning, htarget⟩ := Program.returns_bind.mp hstaged
  rcases running with error | running
  · exact nomatch (Program.returns_ret.mp htarget).2
  obtain ⟨third, fourth, target, rfl, htarget', hdelay⟩ := Program.returns_bind.mp htarget
  rcases target with error | target
  · exact nomatch (Program.returns_ret.mp hdelay).2
  dsimp only at hdelay
  split at hdelay
  · exact nomatch (Program.returns_ret.mp hdelay).2
  next seconds hseconds =>
  obtain ⟨now, rest, rfl, hresult⟩ := Program.returns_act.mp hdelay
  obtain ⟨rfl, heq⟩ := Program.returns_ret.mp hresult
  cases heq
  obtain ⟨walked, nothing, summary, rfl, hsummary, hversion⟩ := Program.returns_bind.mp hrunning
  rcases summary with error | summary
  · exact nomatch (Program.returns_ret.mp hversion).2
  obtain ⟨rfl, hok⟩ := Program.returns_ret.mp hversion
  obtain ⟨enclave, wire, links, row, reading, rfl, hlinks, hrow, rfl⟩ := chain_ok hsummary
  refine ⟨running.anti_rollback, rfl, rfl, min_upgrade_delay_secs_ok hseconds, ?_, ?_, ?_, ?_⟩
  · simp [last_reading]
  · exact ⟨enclave, wire, links, row, reading, by simp, by simp, by simp, hlinks, hrow, running_version_ok hok⟩
  · intro want hwant
    have h := expected_digest_ok hdigest
    rw [hwant] at h
    exact (Option.some.inj h).symm
  · have htrace := target_pcrs_ok htarget'
    cases hpcrs : call.target.pcrs with
    | Expected pcrs =>
      rw [hpcrs] at htrace
      exact htrace.2
    | Reproduce =>
      rw [hpcrs] at htrace
      obtain ⟨enclave', built, inputs, rfl, hinputs, hrole⟩ := htrace
      exact ⟨staged, built, enclave', inputs, by simp [staged_rows], expected_digest_ok hdigest, hinputs,
        by simp [builds], hrole⟩

def NoSignature (_ : List (Event (ConfirmAnswer DateTime))) (effect : ConfirmEffect) : Prop :=
  ∀ message, effect ≠ .sign message

theorem reproduce_upgrade_asks : Program.Asks NoSignature history (reproduce_upgrade : ConfirmProc DateTime _) := by
  refine ⟨nofun, ?_⟩
  rintro (error | enclave)
  · trivial
  refine ⟨nofun, ?_⟩
  rintro (error | upgrade)
  · trivial
  dsimp only
  split
  · trivial
  · refine ⟨nofun, ?_⟩
    rintro (error | actual) <;> trivial

theorem chain_asks :
    Program.Asks NoSignature history (chain lib enclave_id debug_enclave) := by
  refine ⟨nofun, ?_⟩
  rintro (error | enclave)
  · trivial
  refine ⟨nofun, ?_⟩
  rintro (error | wire)
  · trivial
  dsimp only
  split
  · trivial
  · trivial
  · trivial
  · exact ⟨nofun, fun _ => trivial⟩

theorem target_pcrs_asks {running : AntiRollbackSetting} {staged : StagedUpgrade} :
    Program.Asks NoSignature history (target_pcrs target running staged : ConfirmProc DateTime _) := by
  unfold target_pcrs
  split
  · trivial
  · refine reproduce_upgrade_asks.bind ?_
    rintro trace (error | result) -
    · trivial
    dsimp only
    split <;> trivial

theorem upgrade_expectation_asks : Program.Asks NoSignature history (upgrade_expectation lib call) := by
  refine ⟨nofun, ?_⟩
  rintro (error | staged)
  · trivial
  dsimp only
  split
  · trivial
  refine Program.Asks.bind (chain_asks.bind ?_) ?_
  · rintro trace (error | summary) - <;> trivial
  rintro trace (error | running) -
  · trivial
  refine target_pcrs_asks.bind ?_
  rintro trace (error | target) -
  · trivial
  dsimp only
  split
  · trivial
  · exact ⟨nofun, fun _ => trivial⟩

theorem signed_message_inj {first second : List UInt8}
    (h : signed_message .UpgradePayload first = signed_message .UpgradePayload second) : first = second :=
  List.append_cancel_left h

theorem signed_message_command_ne (command payload : List UInt8) :
    signed_message .ControlCommand command ≠ signed_message .UpgradePayload payload := by
  intro h
  have htake := congrArg (List.take 10) h
  have hlength : 10 ≤ (SignedDomain.context .ControlCommand).length ∧
      10 ≤ (SignedDomain.context .UpgradePayload).length := by
    decide +kernel
  rw [signed_message, signed_message, List.take_append_of_le_length hlength.1,
    List.take_append_of_le_length hlength.2] at htake
  revert htake
  decide +kernel

def SignsAsAsked (lib : CliLibrary DateTime) (call : Invocation DateTime)
    (history : List (Event (ConfirmAnswer DateTime))) (effect : ConfirmEffect) : Prop :=
  ∀ payload, effect = .sign (signed_message .UpgradePayload payload) →
    ((∃ p setting now seconds, Intended lib call history payload p setting now seconds) ↔
      Consistent call.target (staged_rows history))

theorem SignsAsAsked.of_no_signature {effect : ConfirmEffect} (h : NoSignature history effect) :
    SignsAsAsked lib call history effect := fun _ heq => absurd heq (h _)

theorem sign_confirm_submission_asks {setting : AntiRollbackSetting}
    {prep : ConfirmPrepareResponse} (h : @Expects _ lib call history expected setting)
    (hchecked : check_upgrade_payload lib prep.payload expected = .ok p) :
    Program.Asks (SignsAsAsked lib call) history (sign_confirm_submission lib prep) := by
  refine ⟨?_, ?_⟩
  · intro payload heq
    cases signed_message_inj (ConfirmEffect.sign.inj heq)
    exact h.intended_iff hchecked
  rintro (error | inner)
  · trivial
  refine ⟨?_, ?_⟩
  · intro payload heq
    exact absurd (ConfirmEffect.sign.inj heq) (signed_message_command_ne _ payload)
  · rintro (error | envelope) <;> trivial

theorem sign_confirm_submission_ok {prep : ConfirmPrepareResponse}
    {submission : ConfirmSubmitRequest} (h : (sign_confirm_submission lib prep).Returns trace (.ok submission)) :
    staged_rows trace = [] ∧ builds trace = [] ∧ last_reading trace = none := by
  obtain ⟨answer, rest, rfl, hinner⟩ := Program.returns_act.mp h
  rcases answer with error | inner
  · exact nomatch (Program.returns_ret.mp hinner).2
  obtain ⟨answer, rest, rfl, henvelope⟩ := Program.returns_act.mp hinner
  rcases answer with error | envelope
  · exact nomatch (Program.returns_ret.mp henvelope).2
  obtain ⟨rfl, -⟩ := Program.returns_ret.mp henvelope
  simp [staged_rows, builds, last_reading]

theorem confirm_self_hosted_asks : Program.Asks (SignsAsAsked lib call) [] (confirm_self_hosted lib call) := by
  refine (upgrade_expectation_asks.mono fun _ _ => .of_no_signature).bind ?_
  rintro trace (error | expected) hreturns
  · trivial
  obtain ⟨setting, hexpects⟩ := upgrade_expectation_ok hreturns
  refine ⟨.of_no_signature nofun, ?_⟩
  rintro (error | prep)
  · trivial
  dsimp only
  split
  · trivial
  next p hchecked =>
  refine ⟨.of_no_signature nofun, ?_⟩
  rintro (error | _)
  · trivial
  have hfirst : @Expects _ lib call (trace ++ [⟨.confirm_prepare, .ok prep⟩, ⟨.signer_for_enclave, .ok ()⟩]) expected
    setting := hexpects.append rfl rfl rfl
  simp only [List.nil_append, List.append_assoc, List.cons_append]
  refine (sign_confirm_submission_asks hfirst hchecked).bind ?_
  rintro signing (error | submission) hsigning
  · trivial
  obtain ⟨hrows, hbuilds, hreading⟩ := sign_confirm_submission_ok hsigning
  refine ⟨.of_no_signature nofun, ?_⟩
  rintro (error | staged)
  · cases error with
    | Conflict message =>
      dsimp only
      split
      · -- the retry: another payload, checked against the clock as it is then
        refine ⟨.of_no_signature nofun, ?_⟩
        rintro (error | prep')
        · trivial
        refine ⟨.of_no_signature nofun, ?_⟩
        intro now
        dsimp only
        split
        · trivial
        next p' hchecked' =>
        have hsecond : @Expects _ lib call (trace ++ [⟨.confirm_prepare, .ok prep⟩, ⟨.signer_for_enclave, .ok ()⟩] ++
            (signing ++ [⟨.confirm_submit submission, .error (.Conflict message)⟩, ⟨.confirm_prepare, .ok prep'⟩,
              ⟨.now, now⟩])) { expected with now } setting :=
          hfirst.append (by simpa [staged_rows] using hrows) (by simpa [builds] using hbuilds)
            (by simp [last_reading])
        simp only [List.append_assoc, List.cons_append, List.nil_append] at hsecond ⊢
        refine (sign_confirm_submission_asks hsecond hchecked').bind ?_
        rintro trace' (error | submission') -
        · trivial
        · exact ⟨.of_no_signature nofun, fun _ => trivial⟩
      · trivial
    | _ => trivial
  · trivial

/-- Whenever a confirmation makes an upgrade signature, whatever the backend has answered: the signed payload is the
upgrade that the owner asked for exactly when the PCRs are the owner's own, or the row that the rebuild went by names
the digest of the first one and doesn't refer to an image with another digest. -/
theorem upgrade_signed_as_asked_iff {before after : List (Event (ConfirmAnswer DateTime))} {payload : List UInt8}
    {answer : Except CliError (List UInt8)} {program : ConfirmProc DateTime (Except CliError StagedUpgrade)}
    (hrun : (confirm_self_hosted lib call).Run
      (before ++ ⟨.sign (signed_message .UpgradePayload payload), answer⟩ :: after) program) :
    (∃ p setting now seconds, Intended lib call before payload p setting now seconds) ↔
      Consistent call.target (staged_rows before) :=
  confirm_self_hosted_asks.of_run hrun payload rfl

namespace sample

open chain.sample

def payload : UpgradePayload Int where
  enclave_id := 0
  «from» := .uniform 1
  «to» := .uniform 2
  image_digest := "sha256:two"
  valid_from := UPGRADE_DELAY_DEFAULT
  valid_until := UPGRADE_DELAY_DEFAULT + UPGRADE_WINDOW_MIN
  issued_at := 0
  nonce := [7]

def library : CliLibrary Int where
  chain := chain.sample.library [boot 1 "sha256:one" false] [payload] []
  commands := ⟨fun _ => [], fun _ => .error "unknown"⟩
  max_utc := 2 ^ 63

def row : EnclaveRow where
  mode := some "production"
  chain_row := .ok ⟨image_pcrs_hex (.uniform 1), "sha256:one", some [], true⟩
  min_upgrade_delay_secs := some (some 0)
  storage_size_bytes := none
  storage_size := none
  egress_allowlist := none
  container_port := none
  control_public_key := none

def invocation : Invocation Int := ⟨0, row, none, ⟨.Reproduce, none, false, false⟩⟩

def link : RecordedLink Int := ⟨(stored 0 .Boot 1 [1]).with_assignment 0 0, none⟩

def staged (docker_image digest : String) : StagedUpgrade where
  docker_image := docker_image
  image_digest := some digest
  pcrs := some (image_pcrs_hex (.uniform 2))
  builder_rev := some "builder"
  crates_rev := some "crates"
  synchronizer_pcrs := none
  synchronizer_enabled := false
  upgrade_target := false

def inputs (docker_image digest : String) : ReproduceInputs where
  image_digest := digest
  expected := image_pcrs_hex (.uniform 2)
  docker_image := docker_image
  builder_rev := some "builder"
  crates_rev := some "crates"
  synchronizer_pcrs := none
  synchronizer_enabled := false
  upgrade_target := false

def prepared : ConfirmPrepareResponse := ⟨[7], .replicate 32 0, none⟩

def answered (docker_image digest : String) : List (Event (ConfirmAnswer Int)) :=
  [⟨.get_upgrade, .ok (staged "app:latest" "sha256:two")⟩, ⟨.get_enclave, .ok row⟩, ⟨.get_enclave_chain, .ok [link]⟩,
    ⟨.now, (0 : Int)⟩, ⟨.get_enclave, .ok row⟩, ⟨.get_upgrade, .ok (staged docker_image digest)⟩,
    ⟨.run_builder (build_args row (inputs docker_image digest)), .ok (image_pcrs_hex (.uniform 2))⟩, ⟨.now, (0 : Int)⟩,
    ⟨.confirm_prepare, .ok prepared⟩, ⟨.signer_for_enclave, .ok ()⟩]

theorem links_in_order : in_sequence_order [link] = .ok [link] := by
  simp [in_sequence_order, link, ChainLink.with_assignment, stored]

def walk_input : WalkInput Int where
  enclave_id := 0
  row_pcrs := image_pcrs_hex (.uniform 1)
  row_image_digest := "sha256:one"
  control_public_key := some []
  upgradable := true
  now := 0
  debug_mode := false

theorem walked : walk_links library.chain walk_input [link] =
    ⟨[.ok (.Append 0)], [link.link], some (image_pcrs_hex (.uniform 1), "sha256:one"), some (.uniform 1)⟩ := by
  have hdoc : link_attestation library.chain link.link false = _ :=
    link_attestation_stored (by decide) 0 .Boot [1]
  have hvalid : validate_chain_link library.chain link.link
      (walk_input.context (image_pcrs_hex (.uniform 1)) "sha256:one" []) 0 false = .ok (.Append 0) := by
    have hpcrs : (walk_input.context (image_pcrs_hex (.uniform 1)) "sha256:one" []).enclave_pcrs =
      image_pcrs_hex (.uniform 1) := rfl
    refine (validate_stored (by decide) hpcrs 0 .Boot [1] 0).trans ?_
    simp [validate_boot, stored, chain.sample.library, codec, decode_canonical, boot, walk_input, WalkInput.context,
      last_boot]
  have hmode : walk_input.debug_mode = false := rfl
  have hrebuild : rebuild_context library.chain walk_input link.link Walk.start.prior Walk.start.in_force =
      .ok (image_pcrs_hex (.uniform 1), "sha256:one", true) := by
    simp [rebuild_context, link, ChainLink.with_assignment, stored, Walk.start, library, chain.sample.library, codec,
      decode_canonical, boot]
  rw [walk_links, List.foldl_cons, List.foldl_nil, walk_link_eq (image_pcrs_hex (.uniform 1)) "sha256:one" true
    (.Append 0) (by simp [link, ChainLink.with_assignment, stored]) hrebuild hvalid]
  rw [if_pos ⟨rfl, rfl⟩, hmode, hdoc]
  simp [Walk.push, Walk.start, Except.toOption]

theorem same_as_self (pcrs : PcrsHex) : pcrs.same_as pcrs = true := by
  simp [PcrsHex.same_as, bytes.eq_ignore_ascii_case]

theorem running : running_version (summarize library 0 false ⟨image_pcrs_hex (.uniform 1), "sha256:one", some [], true⟩
    [link] 0) = .ok ⟨.uniform 1, setting false⟩ := by
  have hboot : decode_boot library link.link = some (boot 1 "sha256:one" false) := by
    simp [decode_boot, link, ChainLink.with_assignment, stored, library, chain.sample.library, codec, decode_canonical,
      boot, Except.toOption]
  have hwalk : validate_chain library.chain walk_input [link] =
      ⟨[.ok (.Append 0)], some (image_pcrs_hex (.uniform 1)), some "sha256:one", some (.uniform 1), true⟩ := by
    simp only [validate_chain, walked]
    simp [walk_input]
  have hsummary : summarize library 0 false ⟨image_pcrs_hex (.uniform 1), "sha256:one", some [], true⟩ [link] 0 =
      ⟨image_pcrs_hex (.uniform 1), (validate_chain library.chain walk_input [link]).tip_matches_row,
        (validate_chain library.chain walk_input [link]).final_identity,
        ([link].zip (validate_chain library.chain walk_input [link]).outcomes).map fun entry =>
          ⟨entry.1.link.sequence, decode_boot library entry.1.link, entry.2⟩⟩ := rfl
  rw [hsummary, hwalk]
  simp [running_version, find_invalid, running_anti_rollback, hboot, boot, same_as_self]

theorem checked :
    check_upgrade_payload library [7] ⟨0, .uniform 1, image_pcrs_hex (.uniform 2), "sha256:two", none, 0, 0⟩ =
      .ok payload := by
  have hdecoded : decode_canonical library.chain.upgrades [7] = .ok payload := by
    simp [library, chain.sample.library, codec, decode_canonical, payload]
  have hlong : upgrade_window_is_valid library.chain.chrono payload.valid_from payload.valid_until = true := by decide
  have hshort : ¬library.chain.chrono.signed_duration_since payload.valid_until payload.valid_from >
      UPGRADE_WINDOW_MAX := by
    decide
  have hwindow : checked_upgrade_window library [7] = .ok payload := by
    simp only [checked_upgrade_window, hdecoded, hlong, hshort, Bool.not_true, Bool.false_eq_true, if_false]
  have huser : (PinIdentity.uniform 2).user = (PinIdentity.uniform 1).user := rfl
  have hfloor : delay_floor library 0 0 = some 0 := by simp [delay_floor, library, chain.sample.library]
  have hstart : ¬library.chain.instant UPGRADE_DELAY_DEFAULT < max (asked library none 0) 0 - VALID_FROM_SLACK :=
    (by decide : ¬UPGRADE_DELAY_DEFAULT < max (0 + UPGRADE_DELAY_DEFAULT) 0 - VALID_FROM_SLACK)
  simp [check_upgrade_payload, hwindow, same_as_self, payload, huser, hfloor, hstart]

theorem signs (docker_image digest : String) : ∃ program, (confirm_self_hosted library invocation).Run
    (answered docker_image digest ++ [⟨.sign (signed_message .UpgradePayload [7]), .error (.Backend "unplugged")⟩])
      program := by
  have hchain : (chain library 0 false).Returns
      [⟨.get_enclave, .ok row⟩, ⟨.get_enclave_chain, .ok [link]⟩, ⟨.now, (0 : Int)⟩]
      (.ok (summarize library 0 false ⟨image_pcrs_hex (.uniform 1), "sha256:one", some [], true⟩ [link] 0)) := by
    refine .cons (.cons ?_)
    simp only [links_in_order, row]
    exact .cons (.nil _)
  have hrunning : (verified_running library 0 false).Returns
      [⟨.get_enclave, .ok row⟩, ⟨.get_enclave_chain, .ok [link]⟩, ⟨.now, (0 : Int)⟩]
      (.ok ⟨.uniform 1, setting false⟩) := by
    refine Program.returns_bind.mpr ⟨_, [], _, rfl, hchain, ?_⟩
    simp only [running]
    exact .nil _
  have htarget : (target_pcrs invocation.target (setting false) (staged "app:latest" "sha256:two") :
      ConfirmProc Int _).Returns
      [⟨.get_enclave, .ok row⟩, ⟨.get_upgrade, .ok (staged docker_image digest)⟩,
        ⟨.run_builder (build_args row (inputs docker_image digest)), .ok (image_pcrs_hex (.uniform 2))⟩]
      (.ok (image_pcrs_hex (.uniform 2))) := by
    have hinputs : from_staged_upgrade (staged docker_image digest) = .ok (inputs docker_image digest) := rfl
    have hreproduce : (reproduce_upgrade : ConfirmProc Int _).Returns
        [⟨.get_enclave, .ok row⟩, ⟨.get_upgrade, .ok (staged docker_image digest)⟩,
          ⟨.run_builder (build_args row (inputs docker_image digest)), .ok (image_pcrs_hex (.uniform 2))⟩]
        (.ok (rebuilt (build_args row (inputs docker_image digest)) (image_pcrs_hex (.uniform 2))
          (image_pcrs_hex (.uniform 2)))) := by
      refine .cons (.cons ?_)
      simp only [hinputs]
      exact .cons (.nil _)
    refine Program.returns_bind.mpr ⟨_, [], _, rfl, hreproduce, ?_⟩
    simp [ReproduceResult.is_reproducible, rebuilt, diff_pcrs, ReproduceResult.anti_rollback_setting, build_args,
      inputs,
      check_target_role, AntiRollbackSetting.check_successor, setting, check_synchronizer_change, Except.mapError, bind,
      Except.bind]
    exact .nil _
  have hexpected : (upgrade_expectation library invocation).Returns ((answered docker_image digest).take 8)
      (.ok ⟨0, .uniform 1, image_pcrs_hex (.uniform 2), "sha256:two", none, 0, 0⟩) := by
    refine .cons ?_
    have hdigest : expected_digest invocation.target.image_digest
      (staged "app:latest" "sha256:two").image_digest = .ok "sha256:two" := rfl
    simp only [hdigest]
    refine Program.returns_bind.mpr ⟨_, _, _, rfl, hrunning, ?_⟩
    refine Program.returns_bind.mpr ⟨_, _, _, rfl, htarget, ?_⟩
    exact .cons (.nil _)
  refine ⟨.ret (.error (.Backend "unplugged")), ?_⟩
  have hsplit : answered docker_image digest ++
      [⟨.sign (signed_message .UpgradePayload [7]), .error (.Backend "unplugged")⟩] =
      (answered docker_image digest).take 8 ++ [⟨.confirm_prepare, .ok prepared⟩, ⟨.signer_for_enclave, .ok ()⟩,
        ⟨.sign (signed_message .UpgradePayload [7]), .error (.Backend "unplugged")⟩] := rfl
  rw [hsplit, confirm_self_hosted]
  refine hexpected.run_bind_append (.cons ?_)
  simp only [prepared, checked]
  exact .cons (.cons (.nil _))

theorem rows (docker_image digest : String) : staged_rows (answered docker_image digest) =
    [staged "app:latest" "sha256:two", staged docker_image digest] := rfl

end sample

/-- The rebuild goes by the same row as the expectation. -/
theorem upgrade_signed_as_asked_iff_rebuilt : ∃ p setting now seconds,
    Intended sample.library sample.invocation (sample.answered "app:latest" "sha256:two") [7] p setting now
      seconds := by
  obtain ⟨program, hrun⟩ := sample.signs "app:latest" "sha256:two"
  refine (upgrade_signed_as_asked_iff hrun).mpr ?_
  rw [sample.rows]
  exact ⟨_, _, "sha256:two", rfl, rfl, rfl, fun hat => absurd hat (by decide)⟩

/-- A signature of a payload that isn't what the owner asked for, with the given second row. -/
def sample.SignsAnother (docker_image digest : String) : Prop :=
  (∃ program, (confirm_self_hosted sample.library sample.invocation).Run
    (sample.answered docker_image digest ++
      [⟨.sign (signed_message .UpgradePayload [7]), .error (.Backend "unplugged")⟩]) program) ∧
  ¬∃ p setting now seconds,
    Intended sample.library sample.invocation (sample.answered docker_image digest) [7] p setting now seconds

theorem sample.signs_another {docker_image digest : String}
    (hrow : digest = "sha256:two" → ('@' ∈ docker_image.toList ∧ ¬Pins docker_image digest)) :
    sample.SignsAnother docker_image digest := by
  obtain ⟨program, hrun⟩ := sample.signs docker_image digest
  refine ⟨⟨program, hrun⟩, fun hintended => ?_⟩
  obtain ⟨first, second, digest', hrows, hfirst, hsecond, hdocker⟩ :=
    (confirm_self_hosted_asks.of_run hrun [7] rfl).mp hintended
  rw [List.nil_append, sample.rows] at hrows
  cases hrows
  cases hfirst
  have hdigest : digest = "sha256:two" := Option.some.inj hsecond
  obtain ⟨hat, hpins⟩ := hrow hdigest
  exact hpins (hdigest ▸ hdocker hat)

/-- The key signs a payload that names one image, with the PCRs of a rebuild of another one: when the second row has
another digest, and when it refers to an image by another digest. -/
theorem upgrade_signed_for_another_image :
    sample.SignsAnother "app:latest" "sha256:evil" ∧ sample.SignsAnother "app@sha256:evil" "sha256:two" := by
  constructor
  · exact sample.signs_another (fun h => absurd h (by decide))
  · refine sample.signs_another fun _ => ⟨by decide, fun hpins => ?_⟩
    have hevil : Pins "app@sha256:evil" "sha256:evil" := ⟨"app".toList, by decide, by decide⟩
    exact absurd (hevil.unique hpins) (by decide)

end enclavia.cli
