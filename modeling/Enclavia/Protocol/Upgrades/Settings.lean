import Enclavia.Protocol.Upgrades.Links

namespace enclavia.protocol.chain

/-- The chains that ingest builds: every link was accepted, with some context and at some time, to be appended to the
links before it. -/
inductive Built {DateTime : Type} (lib : ChainLibrary DateTime) : List ChainLink → Prop
  | nil : Built lib []
  | append {link : ChainLink} {ctx : ChainContext} {now : DateTime} {debug_mode : Bool} {sequence : Nat}
      {id : Option Uuid} {assigned : Option Nat} (hbuilt : Built lib ctx.prior_chain)
      (haccepted : validate_chain_link lib link ctx now debug_mode = .ok (.Append sequence)) :
      Built lib (ctx.prior_chain ++ [{ link with id := id, sequence := assigned }])

structure AntiRollbackSetting.Succeeds (setting next : AntiRollbackSetting) : Prop where
  enabled : next.enabled = setting.enabled
  upgrade_target : next.enabled = true → next.upgrade_target = true
  debug_attestation : next.enabled = true → next.debug_attestation = setting.debug_attestation
  synchronizer_pcrs : next.enabled = true → next.synchronizer_pcrs ≠ []

theorem check_successor_ok {setting next : AntiRollbackSetting} :
    setting.check_successor next = .ok () ↔ setting.Succeeds next := by
  unfold AntiRollbackSetting.check_successor
  constructor
  · intro h
    split at h
    · next hsetting hnext => constructor <;> simp [hsetting, hnext]
    · cases h
    · cases h
    · next hsetting hnext =>
      split at h
      · cases h
      next htarget =>
      split at h
      · cases h
      next hdebug =>
      split at h
      · cases h
      next htrusted =>
      constructor <;> simp_all
  · rintro ⟨henabled, htarget, hdebug, htrusted⟩
    cases hnext : next.enabled <;> simp_all

theorem AntiRollbackSetting.Succeeds.trans {first second third : AntiRollbackSetting}
    (hfirst : first.Succeeds second) (hsecond : second.Succeeds third) : first.Succeeds third where
  enabled := hsecond.enabled.trans hfirst.enabled
  upgrade_target := hsecond.upgrade_target
  debug_attestation henabled :=
    (hsecond.debug_attestation henabled).trans (hfirst.debug_attestation (hsecond.enabled ▸ henabled))
  synchronizer_pcrs := hsecond.synchronizer_pcrs

variable {DateTime : Type} (lib : ChainLibrary DateTime)

def boot_payload (link : ChainLink) : Option (BootPayload DateTime) :=
  if link.kind = .Boot then (decode_canonical lib.boots link.payload).toOption else none

def booted (prior : List ChainLink) : List (BootPayload DateTime) := prior.filterMap (boot_payload lib)

/-- The new boot is of the version that booted last, or of one that may succeed it. -/
def KeepsProtection (prev next : BootPayload DateTime) : Prop :=
  next.pcrs = prev.pcrs ∧ next.anti_rollback = prev.anti_rollback ∨
    prev.anti_rollback.check_successor next.anti_rollback = .ok ()

variable {lib} {prior : List ChainLink}

/-- The stored boots decode, and from the first one on each of them may succeed the one before. -/
structure Built.Inv (lib : ChainLibrary DateTime) (prior : List ChainLink) : Prop where
  last : ∀ prev, last_boot prior = some prev →
    ∃ payload, decode_canonical lib.boots prev.payload = .ok payload ∧ (booted lib prior).getLast? = some payload
  none : last_boot prior = none → booted lib prior = []
  succeed : ∀ genesis rest, booted lib prior = genesis :: rest →
    ∀ later ∈ rest, genesis.anti_rollback.Succeeds later.anti_rollback

theorem Built.Inv.last_succeeds (hinv : Inv lib prior) {prev genesis : BootPayload DateTime}
    {rest : List (BootPayload DateTime)} (hbooted : booted lib prior = genesis :: rest)
    (hlast : (booted lib prior).getLast? = some prev) :
    prev.anti_rollback = genesis.anti_rollback ∨ genesis.anti_rollback.Succeeds prev.anti_rollback := by
  have hmem := List.mem_of_getLast? hlast
  rw [hbooted, List.mem_cons] at hmem
  rcases hmem with rfl | hmem
  · exact .inl rfl
  · exact .inr (hinv.succeed genesis rest hbooted prev hmem)

theorem Built.Inv.append_boot {link : ChainLink} {payload : BootPayload DateTime} (hinv : Inv lib prior)
    (hkind : link.kind = .Boot) (hdecoded : decode_canonical lib.boots link.payload = .ok payload)
    (hsucceeds : ∀ prev, (booted lib prior).getLast? = some prev → prev.anti_rollback.Succeeds payload.anti_rollback) :
    Inv lib (prior ++ [link]) := by
  have hpayload : boot_payload lib link = some payload := by
    rw [boot_payload, if_pos hkind, hdecoded]
    rfl
  have hbooted : booted lib (prior ++ [link]) = booted lib prior ++ [payload] := by
    simp [booted, hpayload]
  have hlast : last_boot (prior ++ [link]) = some link := by rw [last_boot_append, if_pos hkind]
  constructor
  · intro prev hprev
    cases hlast.symm.trans hprev
    exact ⟨payload, hdecoded, by rw [hbooted, List.getLast?_concat]⟩
  · intro hnone
    cases hlast.symm.trans hnone
  · intro genesis rest hsplit later hlater
    rw [hbooted] at hsplit
    cases hprior : booted lib prior with
    | nil =>
      rw [hprior] at hsplit
      cases hsplit
      cases hlater
    | cons first between =>
      rw [hprior] at hsplit
      cases hsplit
      rcases List.mem_append.mp hlater with hlater | hlater
      · exact hinv.succeed _ _ hprior later hlater
      · obtain rfl := List.mem_singleton.mp hlater
        obtain ⟨prev, hprev⟩ : ∃ prev, (booted lib prior).getLast? = some prev := by
          rw [hprior]
          exact ⟨_, List.getLast?_cons⟩
        rcases hinv.last_succeeds hprior hprev with heq | hfirst
        · exact heq ▸ hsucceeds prev hprev
        · exact hfirst.trans (hsucceeds prev hprev)

theorem Built.Inv.append_signed {link : ChainLink} (hinv : Inv lib prior) (hkind : link.kind ≠ .Boot) :
    Inv lib (prior ++ [link]) := by
  have hbooted : booted lib (prior ++ [link]) = booted lib prior := by
    simp [booted, boot_payload, hkind]
  have hlast : last_boot (prior ++ [link]) = last_boot prior := by rw [last_boot_append, if_neg hkind]
  constructor
  · rw [hlast, hbooted]
    exact hinv.last
  · rw [hlast, hbooted]
    exact hinv.none
  · rw [hbooted]
    exact hinv.succeed

theorem Built.inv (hbuilt : Built lib prior) : Built.Inv lib prior := by
  induction hbuilt with
  | nil => exact ⟨nofun, fun _ => rfl, nofun⟩
  | @append link ctx now debug_mode sequence id assigned _ haccepted ih =>
    by_cases hkind : link.kind = .Boot
    · obtain ⟨doc, -, -, hboot⟩ := validate_chain_link_ok haccepted
      rw [hkind] at hboot
      obtain ⟨payload, hboot, hlast⟩ := validate_boot_ok hboot
      refine ih.append_boot hkind hboot.decoded fun prev hprev => ?_
      rcases hlast with ⟨hnone, -⟩ | ⟨prev_link, prev_payload, hlink, hdecoded, hcase⟩
      · rw [ih.none hnone] at hprev
        cases hprev
      obtain ⟨last, hlast, hget⟩ := ih.last prev_link hlink
      cases hdecoded.symm.trans hlast
      cases hprev.symm.trans hget
      rcases hcase with ⟨-, hdedup⟩ | ⟨-, hsuccessor, -⟩
      · cases hdedup
      · exact check_successor_ok.mp hsuccessor
    · exact ih.append_signed hkind

/-- A boot that is accepted on top of a chain keeps the protection, if with the digest that booted last it has the PCRs
and the setting that booted last: then its setting is the one of the first boot or one that may succeed it, as those of
the stored boots are. -/
theorem boot_keeps_protection {prior : List ChainLink} {link prev : ChainLink} {ctx : ChainContext}
    {now : DateTime} {debug_mode : Bool} {outcome : Outcome} (hbuilt : Built lib prior)
    (hprior : ctx.prior_chain = prior) (hkind : link.kind = .Boot) (hprev : last_boot prior = some prev)
    (haccepted : validate_chain_link lib link ctx now debug_mode = .ok outcome)
    (hsame : ∀ prev_payload payload, decode_canonical lib.boots prev.payload = .ok prev_payload →
      decode_canonical lib.boots link.payload = .ok payload → payload.image_digest = prev_payload.image_digest →
        payload.pcrs = prev_payload.pcrs ∧ payload.anti_rollback = prev_payload.anti_rollback) :
    ∃ genesis rest prev_payload payload, booted lib prior = genesis :: rest ∧
      decode_canonical lib.boots prev.payload = .ok prev_payload ∧
      decode_canonical lib.boots link.payload = .ok payload ∧ KeepsProtection prev_payload payload ∧
      (∀ later ∈ rest, genesis.anti_rollback.Succeeds later.anti_rollback) ∧
      (payload.anti_rollback = genesis.anti_rollback ∨ genesis.anti_rollback.Succeeds payload.anti_rollback) := by
  have hinv := hbuilt.inv
  obtain ⟨prev_payload, hdecoded, hlast⟩ := hinv.last prev hprev
  obtain ⟨doc, -, -, hboot⟩ := validate_chain_link_ok haccepted
  rw [hkind] at hboot
  obtain ⟨payload, hboot, hcases⟩ := validate_boot_ok hboot
  obtain ⟨genesis, rest, hbooted⟩ : ∃ genesis rest, booted lib prior = genesis :: rest := by
    cases hbooted : booted lib prior with
    | nil =>
      rw [hbooted] at hlast
      cases hlast
    | cons genesis rest => exact ⟨genesis, rest, rfl⟩
  have hkeeps : KeepsProtection prev_payload payload := by
    rw [hprior, hprev] at hcases
    rcases hcases with ⟨hnone, -⟩ | ⟨prev', prev_payload', hsome, hdecoded', hcase⟩
    · cases hnone
    cases hsome
    cases hdecoded.symm.trans hdecoded'
    rcases hcase with ⟨hdigest, -⟩ | ⟨-, hsuccessor, -⟩
    · exact .inl (hsame _ _ hdecoded hboot.decoded hdigest.symm)
    · exact .inr hsuccessor
  refine ⟨genesis, rest, prev_payload, payload, hbooted, hdecoded, hboot.decoded, hkeeps,
    hinv.succeed genesis rest hbooted, ?_⟩
  have hfirst := hinv.last_succeeds hbooted hlast
  rcases hkeeps with ⟨-, hsetting⟩ | hsuccessor
  · rw [hsetting]
    exact hfirst
  · have hsucceeds := check_successor_ok.mp hsuccessor
    rcases hfirst with heq | hfirst
    · exact .inr (heq ▸ hsucceeds)
    · exact .inr (hfirst.trans hsucceeds)

namespace sample

/-- The first boot, with anti-rollback on, a rebuild from the same image with it off, and a boot of another image with
it on. -/
def boots : List (BootPayload Int) :=
  [boot 1 "sha256:image" true, boot 2 "sha256:image" false, boot 3 "sha256:other" true]

def context (byte : UInt8) (image_digest : String) (prior_chain : List ChainLink) : ChainContext where
  enclave_id := 0
  enclave_pcrs := image_pcrs_hex (.uniform byte)
  enclave_image_digest := image_digest
  control_public_key := none
  upgradable := true
  prior_chain := prior_chain

theorem genesis_built : Built (library boots [] []) [stored 0 .Boot 1 [1]] := by
  have haccepted : validate_chain_link (library boots [] []) (stored 0 .Boot 1 [1]) (context 1 "sha256:image" []) 0
      false = .ok (.Append 0) := by
    rw [validate_stored (by decide) rfl]
    decide +kernel
  exact @Built.append _ _ _ (context 1 "sha256:image" []) _ _ _ _ _ .nil haccepted

end sample

open sample in
/-- The rebuild turns anti-rollback off and is accepted, since the digest is the one that booted last. -/
theorem boot_turns_protection_off : ∃ (prior : List ChainLink) (link prev : ChainLink) (ctx : ChainContext),
    Built (library boots [] []) prior ∧ ctx.prior_chain = prior ∧ link.kind = .Boot ∧ last_boot prior = some prev ∧
      validate_chain_link (library boots [] []) link ctx 0 false = .ok .Dedup ∧
      ∃ prev_payload payload, decode_canonical (library boots [] []).boots prev.payload = .ok prev_payload ∧
        decode_canonical (library boots [] []).boots link.payload = .ok payload ∧
        prev_payload.anti_rollback.enabled = true ∧ payload.anti_rollback.enabled = false ∧
        ¬KeepsProtection prev_payload payload := by
  refine ⟨_, stored 1 .Boot 2 [2], stored 0 .Boot 1 [1], context 2 "sha256:image" [stored 0 .Boot 1 [1]],
    genesis_built, rfl, rfl, rfl, by rw [validate_stored (by decide) rfl]; decide +kernel, boot 1 "sha256:image" true,
    boot 2 "sha256:image" false, rfl, rfl, rfl, rfl, ?_⟩
  rintro (⟨-, hsetting⟩ | hsuccessor)
  · cases congrArg AntiRollbackSetting.enabled hsetting
  · cases hsuccessor

open sample in
/-- The boot of the other image keeps anti-rollback on. -/
theorem boot_keeps_protection_upgrade :
    ∃ prev_payload payload, decode_canonical (library boots [] []).boots [1] = .ok prev_payload ∧
      decode_canonical (library boots [] []).boots [3] = .ok payload ∧ KeepsProtection prev_payload payload := by
  have haccepted : validate_chain_link (library boots [] []) (stored 1 .Boot 3 [3])
      (context 3 "sha256:other" [stored 0 .Boot 1 [1]]) 0 false = .ok (.Append 1) := by
    rw [validate_stored (by decide) rfl]
    decide +kernel
  obtain ⟨-, -, prev_payload, payload, -, hprev, hpayload, hkeeps, -⟩ :=
    boot_keeps_protection genesis_built rfl rfl rfl haccepted (by
      intro _ _ hprev hpayload hsame
      cases hprev
      cases hpayload
      exact absurd hsame (by decide))
  exact ⟨prev_payload, payload, hprev, hpayload, hkeeps⟩

end enclavia.protocol.chain
