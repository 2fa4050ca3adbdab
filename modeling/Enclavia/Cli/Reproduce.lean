import Enclavia.Protocol.Upgrades.Walk
import Enclavia.Server.Control

open interaction enclavia.protocol enclavia.protocol.chain enclavia.server

namespace enclavia.cli

inductive Refusal where
  | ChainNotNumbered
  | AttestationMode (mode : Option String) (debug_enclave : Bool)
  | EnclaveRow (message : String)
  | LinkInvalid (sequence : Option Nat) (source : ChainValidationError)
  | TipUnexplained
  | NoTipIdentity
  | NoBootOfTip
  | ImageDigest (staged wanted : String)
  | BuildNotCompleted
  | NoProvenance
  | NotReproducible (slots : List String)
  | TargetRole (change : AntiRollbackChange)
  | SynchronizerRotation (removed added : Nat)
  | MissingDelay
  | MalformedDelay
  | NotAnUpgradePayload (error : CanonicalDecodeError)
  | WindowTooShort
  | WindowTooLong
  | OtherEnclave
  | FromPcrs
  | FromUserPcrs
  | TargetPcrs
  | TargetUserPcrs
  | PayloadDigest (digest expected : String)
  | DelayOutOfRange (seconds : Nat)
  | TooEarly (earliest : Int)

inductive CliError where
  | NotLoggedIn
  | Unauthorized
  | Conflict (message : String)
  | Backend (message : String)
  | Refused (why : Refusal)

structure EnclaveChainRow where
  pcrs : PcrsHex
  image_digest : String
  control_public_key : Option (List UInt8)
  upgradable : Bool

/-- The backend's row of an enclave, as far as it is read. -/
structure EnclaveRow where
  mode : Option String
  chain_row : Except String EnclaveChainRow
  min_upgrade_delay_secs : Option (Option Nat)
  storage_size_bytes : Option Nat
  storage_size : Option Nat
  egress_allowlist : Option String
  container_port : Option Nat
  control_public_key : Option String

def row_is_debug (enclave : EnclaveRow) : Bool := enclave.mode = some "debug"

def row_has_storage (enclave : EnclaveRow) : Bool := (enclave.storage_size_bytes <|> enclave.storage_size).isSome

structure StagedUpgrade where
  docker_image : String
  image_digest : Option String
  pcrs : Option PcrsHex
  builder_rev : Option String
  crates_rev : Option String
  synchronizer_pcrs : Option (List PcrsHex)
  synchronizer_enabled : Bool
  upgrade_target : Bool

structure ReproduceInputs where
  image_digest : String
  expected : PcrsHex
  docker_image : String
  builder_rev : Option String
  crates_rev : Option String
  synchronizer_pcrs : Option (List PcrsHex)
  synchronizer_enabled : Bool
  upgrade_target : Bool

def from_staged_upgrade (upgrade : StagedUpgrade) : Except CliError ReproduceInputs :=
  match upgrade.image_digest, upgrade.pcrs with
  | none, _ | _, none => .error (.Refused .BuildNotCompleted)
  | some image_digest, some expected =>
    if upgrade.builder_rev.isNone || upgrade.crates_rev.isNone then .error (.Refused .NoProvenance)
    else
      .ok
        { image_digest
          expected
          docker_image := upgrade.docker_image
          builder_rev := upgrade.builder_rev
          crates_rev := upgrade.crates_rev
          synchronizer_pcrs := upgrade.synchronizer_pcrs
          synchronizer_enabled := upgrade.synchronizer_enabled
          upgrade_target := upgrade.upgrade_target }

def before_last (c : Char) (text : List Char) : Option (List Char) :=
  match text.reverse.dropWhile (· ≠ c) with
  | [] => none
  | _ :: stem => some stem.reverse

def pin_to_digest (canonical digest : String) : String :=
  if '@' ∈ canonical.toList then canonical
  else String.ofList (((before_last ':' canonical.toList).getD canonical.toList) ++ '@' :: digest.toList)

structure BuildArgs where
  pinned_image : String
  enclave : EnclaveRow
  image_digest : String
  builder_rev : Option String
  crates_rev : Option String
  synchronizer_pcrs : Option (List PcrsHex)
  synchronizer_enabled : Bool
  upgrade_target : Bool

structure ConfirmPrepareResponse where
  payload : List UInt8
  nonce : Nonce
  rekey : Option RekeyParams

structure ConfirmSubmitRequest where
  command : List UInt8
  envelope_signature : List UInt8

inductive ConfirmEffect where
  | get_enclave
  | get_enclave_chain
  | get_upgrade
  | run_builder (args : BuildArgs)
  | now
  | confirm_prepare
  | signer_for_enclave
  | sign (message : List UInt8)
  | confirm_submit (submission : ConfirmSubmitRequest)

abbrev ConfirmAnswer (DateTime : Type) : ConfirmEffect → Type
  | .get_enclave => Except CliError EnclaveRow
  | .get_enclave_chain => Except CliError (List (RecordedLink DateTime))
  | .get_upgrade => Except CliError StagedUpgrade
  | .run_builder _ => Except CliError PcrsHex
  | .now => DateTime
  | .confirm_prepare => Except CliError ConfirmPrepareResponse
  | .signer_for_enclave => Except CliError Unit
  | .sign _ => Except CliError (List UInt8)
  | .confirm_submit _ => Except CliError StagedUpgrade

abbrev ConfirmProc (DateTime : Type) := Program ConfirmEffect (ConfirmAnswer DateTime)

def diff_pcrs (expected actual : PcrsHex) : List String :=
  (if expected.pcr0 ≠ actual.pcr0 then ["PCR0"] else []) ++ (if expected.pcr1 ≠ actual.pcr1 then ["PCR1"] else []) ++
    if expected.pcr2 ≠ actual.pcr2 then ["PCR2"] else []

structure ReproduceResult where
  image_digest : String
  actual : PcrsHex
  mismatches : List String
  recorded_synchronizer_pcrs : Option (List PcrsHex)
  recorded_synchronizer_enabled : Bool
  recorded_upgrade_target : Bool
  built_debug : Bool
  built_storage : Bool

namespace ReproduceResult

def is_reproducible (result : ReproduceResult) : Bool := result.mismatches.isEmpty

def anti_rollback_setting (result : ReproduceResult) : AntiRollbackSetting :=
  match result.recorded_synchronizer_pcrs with
  | none => ⟨false, false, false, []⟩
  | some synchronizer_pcrs =>
    { enabled := result.built_storage && result.recorded_synchronizer_enabled
      upgrade_target := result.recorded_upgrade_target
      debug_attestation := result.built_debug
      synchronizer_pcrs }

end ReproduceResult

variable {DateTime : Type}

def build_args (enclave : EnclaveRow) (inputs : ReproduceInputs) : BuildArgs where
  pinned_image := pin_to_digest inputs.docker_image inputs.image_digest
  enclave := enclave
  image_digest := inputs.image_digest
  builder_rev := inputs.builder_rev
  crates_rev := inputs.crates_rev
  synchronizer_pcrs := inputs.synchronizer_pcrs
  synchronizer_enabled := inputs.synchronizer_enabled
  upgrade_target := inputs.upgrade_target

def rebuilt (args : BuildArgs) (expected actual : PcrsHex) : ReproduceResult where
  image_digest := args.image_digest
  actual := actual
  mismatches := diff_pcrs expected actual
  recorded_synchronizer_pcrs := args.synchronizer_pcrs
  recorded_synchronizer_enabled := args.synchronizer_enabled
  recorded_upgrade_target := args.upgrade_target
  built_debug := row_is_debug args.enclave
  built_storage := row_has_storage args.enclave

def run_reproduce (enclave : EnclaveRow) (inputs : ReproduceInputs) :
    ConfirmProc DateTime (Except CliError ReproduceResult) :=
  .act (.run_builder (build_args enclave inputs)) fun
    | .error error => .ret (.error error)
    | .ok actual => .ret (.ok (rebuilt (build_args enclave inputs) inputs.expected actual))

def reproduce_upgrade : ConfirmProc DateTime (Except CliError ReproduceResult) :=
  .act .get_enclave fun
    | .error error => .ret (.error error)
    | .ok enclave =>
      .act .get_upgrade fun
        | .error error => .ret (.error error)
        | .ok upgrade =>
          match from_staged_upgrade upgrade with
          | .error error => .ret (.error error)
          | .ok inputs => run_reproduce enclave inputs

def Pins (image digest : String) : Prop :=
  ∃ stem, '@' ∉ stem ∧ image.toList = stem ++ '@' :: digest.toList

theorem Pins.unique {image first second : String} (hfirst : Pins image first) (hsecond : Pins image second) :
    first = second := by
  obtain ⟨stem, hstem, heq⟩ := hfirst
  obtain ⟨stem', hstem', heq'⟩ := hsecond
  have hdrop (stem : List Char) (digest : String) (hstem : '@' ∉ stem) :
      (stem ++ '@' :: digest.toList).dropWhile (· ≠ '@') = '@' :: digest.toList := by
    rw [List.dropWhile_append_of_pos (by
      intro c hc
      exact decide_eq_true fun h => hstem (h ▸ hc))]
    rfl
  have h := hdrop stem first hstem
  rw [← heq, heq', hdrop stem' second hstem'] at h
  exact (String.toList_inj.mp (List.cons.inj h).2).symm

theorem before_last_mem {c : Char} {text stem : List Char} (h : before_last c text = some stem) {d : Char}
    (hd : d ∈ stem) : d ∈ text := by
  unfold before_last at h
  split at h
  · cases h
  · next first rest hdrop =>
    cases h
    have hmem : d ∈ text.reverse.dropWhile (· ≠ c) := hdrop ▸ List.mem_cons_of_mem _ (List.mem_reverse.mp hd)
    exact List.mem_reverse.mp ((List.dropWhile_suffix _).subset hmem)

theorem pin_to_digest_pins {canonical digest digest' : String} :
    Pins (pin_to_digest canonical digest) digest' ↔
      if '@' ∈ canonical.toList then Pins canonical digest' else digest = digest' := by
  unfold pin_to_digest
  split
  · exact Iff.rfl
  · next hat =>
    have hpins : Pins (String.ofList ((before_last ':' canonical.toList).getD canonical.toList ++ '@' :: digest.toList))
        digest := by
      refine ⟨_, ?_, String.toList_ofList⟩
      intro hmem
      cases hstem : before_last ':' canonical.toList with
      | none => exact hat (by rwa [hstem] at hmem)
      | some stem =>
        rw [hstem] at hmem
        exact hat (before_last_mem hstem hmem)
    constructor
    · exact hpins.unique
    · rintro rfl
      exact hpins

theorem from_staged_upgrade_ok {upgrade : StagedUpgrade} {inputs : ReproduceInputs}
    (h : from_staged_upgrade upgrade = .ok inputs) :
    upgrade.image_digest = some inputs.image_digest ∧ upgrade.docker_image = inputs.docker_image := by
  unfold from_staged_upgrade at h
  split at h
  · cases h
  · cases h
  · next hdigest _ =>
    split at h
    · cases h
    · cases h
      exact ⟨hdigest, rfl⟩

theorem reproduce_upgrade_ok {trace : List (Event (ConfirmAnswer DateTime))} {result : ReproduceResult}
    (h : (reproduce_upgrade : ConfirmProc DateTime _).Returns trace (.ok result)) :
    ∃ enclave upgrade inputs actual,
      trace = [⟨.get_enclave, .ok enclave⟩, ⟨.get_upgrade, .ok upgrade⟩,
        ⟨.run_builder (build_args enclave inputs), .ok actual⟩] ∧
      from_staged_upgrade upgrade = .ok inputs ∧
      result = rebuilt (build_args enclave inputs) inputs.expected actual := by
  obtain ⟨answer, rest, rfl, hupgrade⟩ := Program.returns_act.mp h
  rcases answer with error | enclave
  · exact nomatch (Program.returns_ret.mp hupgrade).2
  obtain ⟨answer, rest, rfl, hbuild⟩ := Program.returns_act.mp hupgrade
  rcases answer with error | upgrade
  · exact nomatch (Program.returns_ret.mp hbuild).2
  dsimp only at hbuild
  split at hbuild
  · exact nomatch (Program.returns_ret.mp hbuild).2
  · next inputs hinputs =>
    obtain ⟨answer, rest, rfl, hresult⟩ := Program.returns_act.mp hbuild
    rcases answer with error | actual
    · exact nomatch (Program.returns_ret.mp hresult).2
    obtain ⟨rfl, heq⟩ := Program.returns_ret.mp hresult
    cases heq
    exact ⟨enclave, upgrade, inputs, actual, rfl, hinputs, rfl⟩

end enclavia.cli
