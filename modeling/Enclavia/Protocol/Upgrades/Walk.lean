import Enclavia.Protocol.Upgrades.Links
import Mathlib.Data.List.Induction

namespace enclavia.protocol.chain

def CLOCK_SKEW_TOLERANCE : Int := 60 * 1000 * 1000 * 1000

structure RecordedLink (DateTime : Type) where
  link : ChainLink
  recorded_at : Option DateTime

structure WalkInput (DateTime : Type) where
  enclave_id : Uuid
  row_pcrs : PcrsHex
  row_image_digest : String
  control_public_key : Option (List UInt8)
  upgradable : Bool
  now : DateTime
  debug_mode : Bool

def WalkInput.context {DateTime : Type} (input : WalkInput DateTime) (pcrs : PcrsHex) (image_digest : String)
    (prior_chain : List ChainLink) : ChainContext where
  enclave_id := input.enclave_id
  enclave_pcrs := pcrs
  enclave_image_digest := image_digest
  control_public_key := input.control_public_key
  upgradable := input.upgradable
  prior_chain := prior_chain

/-- A walk over the links so far: their outcomes, the links themselves, and the state in force. -/
structure Walk where
  outcomes : List (Except ChainValidationError Outcome)
  prior : List ChainLink
  in_force : Option (PcrsHex × String)
  in_force_identity : Option PinIdentity

def Walk.start : Walk := ⟨[], [], none, none⟩

def Walk.push (walk : Walk) (link : ChainLink) (outcome : Except ChainValidationError Outcome) : Walk :=
  { walk with outcomes := walk.outcomes ++ [outcome], prior := walk.prior ++ [link] }

structure ChainWalk where
  outcomes : List (Except ChainValidationError Outcome)
  final_pcrs : Option PcrsHex
  final_image_digest : Option String
  final_identity : Option PinIdentity
  tip_matches_row : Bool

def Outcome.is_append : Outcome → Bool
  | .Append _ => true
  | .Dedup => false

variable {DateTime : Type} (lib : ChainLibrary DateTime)

def revoked_ids (prior : List ChainLink) : List Uuid :=
  (prior.filter fun l => l.kind = .Revocation).filterMap fun l =>
    (decode_canonical lib.revocations l.payload).toOption.map (·.revokes)

def find_promotion (revoked : List Uuid) (boot_pcrs : PcrsHex) (boot_image_digest : String) :
    List ChainLink → Option (UpgradePayload DateTime)
  | [] => none
  | l :: before =>
    if l.kind ≠ .Upgrade then find_promotion revoked boot_pcrs boot_image_digest before
    else if l.id.any fun id => revoked.contains id then find_promotion revoked boot_pcrs boot_image_digest before
    else if signed_payload_seen l before then find_promotion revoked boot_pcrs boot_image_digest before
    else
      match decode_canonical lib.upgrades l.payload with
      | .error _ => find_promotion revoked boot_pcrs boot_image_digest before
      | .ok p =>
        if image_pcrs_hex p.to = boot_pcrs ∧ p.image_digest = boot_image_digest then some p
        else find_promotion revoked boot_pcrs boot_image_digest before

def promotion_target (prior : List ChainLink) (boot_pcrs : PcrsHex) (boot_image_digest : String) :
    Option (UpgradePayload DateTime) :=
  find_promotion lib (revoked_ids lib prior) boot_pcrs boot_image_digest prior.reverse

def rebuild_context (input : WalkInput DateTime) (link : ChainLink) (prior : List ChainLink)
    (in_force : Option (PcrsHex × String)) : Except ChainValidationError (PcrsHex × String × Bool) :=
  match link.kind with
  | .Boot =>
    if prior.isEmpty then
      match decode_canonical lib.boots link.payload with
      | .ok p => .ok (p.pcrs, p.image_digest, true)
      | .error _ => .ok (input.row_pcrs, input.row_image_digest, false)
    else
      match decode_canonical lib.boots link.payload, in_force with
      | .ok p, some (pcrs, digest) =>
        if p.pcrs = pcrs then .ok (pcrs, digest, false)
        else
          match promotion_target lib prior p.pcrs p.image_digest with
          | some target =>
            if lib.instant p.booted_at < lib.instant target.valid_from - CLOCK_SKEW_TOLERANCE then
              .error .UpgradeNotYetActive
            else if lib.instant p.booted_at > lib.instant target.valid_until + CLOCK_SKEW_TOLERANCE then
              .error .UpgradeExpired
            else
              match link_attestation lib link input.debug_mode with
              | .ok doc =>
                if doc.identity ≠ target.to then .error .PromotionIdentityMismatch
                else .ok (image_pcrs_hex target.to, target.image_digest, true)
              | .error _ => .ok (image_pcrs_hex target.to, target.image_digest, true)
          | none => .ok (pcrs, digest, false)
      | _, some (pcrs, digest) => .ok (pcrs, digest, false)
      | _, none => .ok (input.row_pcrs, input.row_image_digest, false)
  | _ =>
    match in_force with
    | some (pcrs, digest) => .ok (pcrs, digest, false)
    | none => .ok (input.row_pcrs, input.row_image_digest, false)

def walk_link (input : WalkInput DateTime) (walk : Walk) (recorded : RecordedLink DateTime) : Walk :=
  let link := recorded.link
  if link.kind ≠ .Boot ∧ signed_payload_seen link walk.prior = true then
    walk.push link (.error (.DuplicatePayload link.kind))
  else
    match rebuild_context lib input link walk.prior walk.in_force with
    | .error error => walk.push link (.error error)
    | .ok (ctx_pcrs, ctx_digest, promotes) =>
      match validate_chain_link lib link (input.context ctx_pcrs ctx_digest walk.prior)
          (recorded.recorded_at.getD input.now) input.debug_mode with
      | .error error => walk.push link (.error error)
      | .ok outcome =>
        if promotes ∧ outcome.is_append then
          { walk with
            in_force := some (ctx_pcrs, ctx_digest)
            in_force_identity := (link_attestation lib link input.debug_mode).toOption.map ValidatedAttestation.identity
              }.push
              link (.ok outcome)
        else walk.push link (.ok outcome)

def walk_links (input : WalkInput DateTime) (links : List (RecordedLink DateTime)) : Walk :=
  links.foldl (walk_link lib input) .start

def validate_chain (input : WalkInput DateTime) (links : List (RecordedLink DateTime)) : ChainWalk :=
  let walk := walk_links lib input links
  { outcomes := walk.outcomes
    final_pcrs := walk.in_force.map (·.1)
    final_image_digest := walk.in_force.map (·.2)
    final_identity := walk.in_force_identity
    tip_matches_row := walk.in_force.any fun (p, d) => p = input.row_pcrs && d = input.row_image_digest }

inductive PcrDescentError where
  | NoGenesis
  | LinkInvalid (position : Nat) (source : ChainValidationError)
  | PinnedNotInLineage
  | BootPayloadUnreadable (position : Nat)

def first_invalid : Nat → List (Except ChainValidationError Outcome) → Except PcrDescentError Unit
  | _, [] => .ok ()
  | position, .error source :: _ => .error (.LinkInvalid position source)
  | position, .ok _ :: rest => first_invalid (position + 1) rest

def pinned_in_lineage (pinned : Pcrs) : Nat → List (RecordedLink DateTime) → Except PcrDescentError Bool
  | _, [] => .ok false
  | position, recorded :: rest =>
    if recorded.link.kind ≠ .Boot then pinned_in_lineage pinned (position + 1) rest
    else
      match decode_canonical lib.boots recorded.link.payload with
      | .error _ => .error (.BootPayloadUnreadable position)
      | .ok payload =>
        match payload.pcrs.to_pcrs with
        | .error _ => .error (.BootPayloadUnreadable position)
        | .ok state =>
          match pinned_in_lineage pinned (position + 1) rest with
          | .error error => .error error
          | .ok found => .ok (decide (state = pinned) || found)

def verify_pcr_descent (pinned : Pcrs) (links : List (RecordedLink DateTime)) (input : WalkInput DateTime) :
    Except PcrDescentError Pcrs :=
  let walk := validate_chain lib input links
  match first_invalid 0 walk.outcomes with
  | .error error => .error error
  | .ok () =>
    match walk.final_pcrs with
    | none => .error .NoGenesis
    | some pcrs =>
      match pcrs.to_pcrs with
      | .error _ => .error (.BootPayloadUnreadable 0)
      | .ok tip =>
        match pinned_in_lineage lib pinned 0 links with
        | .error error => .error error
        | .ok false => .error .PinnedNotInLineage
        | .ok true => .ok tip

structure Version where
  pcrs : PcrsHex
  image_digest : String
  identity : PinIdentity

def SignedBy (control_public_key : Option (List UInt8)) (domain : SignedDomain) (link : ChainLink) : Prop :=
  ∃ signature key verifying, link.signature = some signature ∧ control_public_key = some key ∧
    lib.from_sec1_bytes key = .ok verifying ∧
    verify_control_signature verifying domain link.payload signature = .ok ()

/-- A boot with other PCRs than those in force, and the upgrade that the walk explains it with. -/
structure Promotes (input : WalkInput DateTime) (prior : List ChainLink) (version : Version) (link : ChainLink)
    (payload : BootPayload DateTime) (target : UpgradePayload DateTime) : Prop where
  decoded : decode_canonical lib.boots link.payload = .ok payload
  other : payload.pcrs ≠ version.pcrs
  explained : promotion_target lib prior payload.pcrs payload.image_digest = some target
  active : ¬lib.instant payload.booted_at < lib.instant target.valid_from - CLOCK_SKEW_TOLERANCE
  unexpired : ¬lib.instant payload.booted_at > lib.instant target.valid_until + CLOCK_SKEW_TOLERANCE
  attested : ∃ doc, link_attestation lib link input.debug_mode = .ok doc ∧ doc.identity = target.to

structure Upgrades (input : WalkInput DateTime) (prior : List ChainLink) (version : Version) (link : ChainLink) :
    Prop where
  kind : link.kind = .Upgrade
  signed : SignedBy lib input.control_public_key .UpgradePayload link
  attested : ∃ doc, link_attestation lib link input.debug_mode = .ok doc ∧
    version.pcrs.to_pcrs = .ok doc.identity.image_pcrs
  fresh : signed_payload_seen link prior = false

structure Revokes (prior : List ChainLink) (link : ChainLink) (payload : RevocationPayload DateTime) : Prop where
  kind : link.kind = .Revocation
  decoded : decode_canonical lib.revocations link.payload = .ok payload
  target : ∃ target, prior.find? (fun l => l.id = some payload.revokes) = some target ∧ target.kind = .Upgrade ∧
    payload.revokes_link = upgrade_link_hash target.payload

/-- What a link does that a walk accepts after others: a boot of the version in force or of a rebuild from its image
leaves that version in force, and so do the signed links. -/
inductive Accepted (input : WalkInput DateTime) (prior : List ChainLink) (version : Version) (link : ChainLink) :
    Version → Prop
  | reboot {payload : BootPayload DateTime} (hkind : link.kind = .Boot)
      (hdecoded : decode_canonical lib.boots link.payload = .ok payload) (hpcrs : payload.pcrs = version.pcrs)
      (hdigest : payload.image_digest = version.image_digest) : Accepted input prior version link version
  | rebuild {payload : BootPayload DateTime} {target : UpgradePayload DateTime} (hkind : link.kind = .Boot)
      (hpromotes : Promotes lib input prior version link payload target)
      (hdigest : payload.image_digest = version.image_digest) : Accepted input prior version link version
  | promotion {payload : BootPayload DateTime} {target : UpgradePayload DateTime} (hkind : link.kind = .Boot)
      (hpromotes : Promotes lib input prior version link payload target)
      (hdigest : payload.image_digest ≠ version.image_digest) :
      Accepted input prior version link ⟨payload.pcrs, payload.image_digest, target.to⟩
  | upgrade (hupgrades : Upgrades lib input prior version link) : Accepted input prior version link version
  | revocation {payload : RevocationPayload DateTime} (hrevokes : Revokes lib prior link payload) :
      Accepted input prior version link version

inductive Walked (input : WalkInput DateTime) : List (RecordedLink DateTime) → Version → Prop
  | genesis {r : RecordedLink DateTime} {payload : BootPayload DateTime}
      {doc : ValidatedAttestation (List UInt8)} (hkind : r.link.kind = .Boot)
      (hdecoded : decode_canonical lib.boots r.link.payload = .ok payload)
      (hdoc : link_attestation lib r.link input.debug_mode = .ok doc)
      (hpcrs : payload.pcrs.to_pcrs = .ok doc.identity.image_pcrs) :
      Walked input [r] ⟨payload.pcrs, payload.image_digest, doc.identity⟩
  | step {links : List (RecordedLink DateTime)} {version version' : Version} {r : RecordedLink DateTime}
      (hwalked : Walked input links version)
      (haccepted : Accepted lib input (links.map (·.link)) version r.link version') :
      Walked input (links ++ [r]) version'

variable {lib} {input : WalkInput DateTime}
  {boot_pcrs : PcrsHex} {boot_image_digest : String} {target : UpgradePayload DateTime} {prior : List ChainLink}

/-- An upgrade that explains a boot: it leads to the PCRs and the digest of the boot, no revocation names its id, and it
is the first with its payload. -/
structure Explains (lib : ChainLibrary DateTime) (revoked : List Uuid) (before : List ChainLink) (l : ChainLink)
    (boot_pcrs : PcrsHex) (boot_image_digest : String) (target : UpgradePayload DateTime) : Prop where
  kind : l.kind = .Upgrade
  unrevoked : ∀ id, l.id = some id → id ∉ revoked
  fresh : signed_payload_seen l before = false
  decoded : decode_canonical lib.upgrades l.payload = .ok target
  pcrs : image_pcrs_hex target.to = boot_pcrs
  image_digest : target.image_digest = boot_image_digest

theorem find_promotion_some {revoked : List Uuid} {links : List ChainLink}
    (h : find_promotion lib revoked boot_pcrs boot_image_digest links = some target) :
    ∃ after l before, links = after ++ l :: before ∧
      Explains lib revoked before l boot_pcrs boot_image_digest target := by
  induction links with
  | nil => cases h
  | cons l before ih =>
    have hlater (h : find_promotion lib revoked boot_pcrs boot_image_digest before = some target) :
        ∃ after l' before', l :: before = after ++ l' :: before' ∧
          Explains lib revoked before' l' boot_pcrs boot_image_digest target := by
      obtain ⟨after, l', before', rfl, hexplains⟩ := ih h
      exact ⟨l :: after, l', before', rfl, hexplains⟩
    rw [find_promotion] at h
    split at h
    · exact hlater h
    next hkind =>
    split at h
    · exact hlater h
    next hrevoked =>
    split at h
    · exact hlater h
    next hseen =>
    split at h
    · exact hlater h
    next p hdecoded =>
    split at h
    · next htarget =>
      cases h
      refine ⟨[], l, before, rfl, not_not.mp hkind, fun id hid hmem => hrevoked ?_, Bool.not_eq_true _ ▸ hseen,
        hdecoded,
        htarget.1, htarget.2⟩
      rw [hid]
      simpa using hmem
    · exact hlater h

theorem signed_payload_seen_reverse (link : ChainLink) (prior : List ChainLink) :
    signed_payload_seen link prior.reverse = signed_payload_seen link prior := by
  simp [signed_payload_seen]

theorem promotion_target_some (h : promotion_target lib prior boot_pcrs boot_image_digest = some target) :
    ∃ before l after, prior = before ++ l :: after ∧
      Explains lib (revoked_ids lib prior) before l boot_pcrs boot_image_digest target := by
  obtain ⟨after, l, before, hsplit, hexplains⟩ := find_promotion_some h
  refine ⟨before.reverse, l, after.reverse, ?_, { hexplains with fresh := ?_ }⟩
  · rw [← List.reverse_reverse prior, hsplit]
    simp
  · rw [signed_payload_seen_reverse]
    exact hexplains.fresh

theorem mem_revoked_ids {link : ChainLink} {payload : RevocationPayload DateTime} (hmem : link ∈ prior)
    (hkind : link.kind = .Revocation) (hdecoded : decode_canonical lib.revocations link.payload = .ok payload) :
    payload.revokes ∈ revoked_ids lib prior := by
  rw [revoked_ids, List.mem_filterMap]
  refine ⟨link, by simp [hmem, hkind], ?_⟩
  rw [hdecoded]
  rfl

@[simp] theorem Walk.push_fields (walk : Walk) (link : ChainLink) (outcome : Except ChainValidationError Outcome) :
    (walk.push link outcome).outcomes = walk.outcomes ++ [outcome] ∧
      (walk.push link outcome).prior = walk.prior ++ [link] := ⟨rfl, rfl⟩

def Walk.Accepting (walk : Walk) : Prop := ∀ outcome ∈ walk.outcomes, outcome.isOk = true

theorem walk_links_concat (links : List (RecordedLink DateTime)) (r : RecordedLink DateTime) :
    walk_links lib input (links ++ [r]) = walk_link lib input (walk_links lib input links) r := by
  simp [walk_links]

theorem walk_link_prior (walk : Walk) (r : RecordedLink DateTime) :
    (walk_link lib input walk r).prior = walk.prior ++ [r.link] := by
  unfold walk_link
  dsimp only
  split
  · rfl
  split
  · rfl
  split
  · rfl
  split <;> rfl

theorem walk_links_prior (links : List (RecordedLink DateTime)) :
    (walk_links lib input links).prior = links.map (·.link) := by
  induction links using List.reverseRecOn with
  | nil => rfl
  | append_singleton links r ih => rw [walk_links_concat, walk_link_prior, ih, List.map_append, List.map_singleton]

variable {r : RecordedLink DateTime} {links : List (RecordedLink DateTime)} {walk : Walk} {version : Version}

theorem walk_link_accepting
    (h : (walk_link lib input walk r).Accepting) :
    walk.Accepting ∧ (r.link.kind ≠ .Boot → signed_payload_seen r.link walk.prior = false) ∧
      ∃ pcrs digest promotes outcome,
        rebuild_context lib input r.link walk.prior walk.in_force = .ok (pcrs, digest, promotes) ∧
        validate_chain_link lib r.link (input.context pcrs digest walk.prior) (r.recorded_at.getD input.now)
          input.debug_mode = .ok outcome ∧
        ((promotes = true ∧ outcome.is_append = true) ∧
            (walk_link lib input walk r).in_force = some (pcrs, digest) ∧
            (walk_link lib input walk r).in_force_identity =
              (link_attestation lib r.link input.debug_mode).toOption.map ValidatedAttestation.identity ∨
          ¬(promotes = true ∧ outcome.is_append = true) ∧
            (walk_link lib input walk r).in_force = walk.in_force ∧
            (walk_link lib input walk r).in_force_identity = walk.in_force_identity) := by
  have herror {walk' : Walk} {error : ChainValidationError} {P : Prop}
      (h : (walk'.push r.link (.error error)).Accepting) : P := by
    have hlast := h (.error error) (by simp)
    cases hlast
  have hbefore {walk' : Walk} {outcome : Except ChainValidationError Outcome}
      (h : (walk'.push r.link outcome).Accepting) : walk'.Accepting :=
    fun o ho => h o (List.mem_append_left _ ho)
  unfold walk_link at h ⊢
  dsimp only at h ⊢
  split at h
  · exact herror h
  next hnew =>
  rw [if_neg hnew]
  have hnew : r.link.kind ≠ .Boot → signed_payload_seen r.link walk.prior = false := fun hkind => by
    by_contra hseen
    exact hnew ⟨hkind, Bool.not_eq_false _ ▸ hseen⟩
  split at h
  · exact herror h
  next pcrs digest promotes hrebuild =>
  split at h
  · exact herror h
  next outcome hvalid =>
  simp only [hrebuild]
  split at h
  · next happend =>
    rw [if_pos happend]
    exact ⟨hbefore h, hnew, pcrs, digest, promotes, outcome, rfl, hvalid, .inl ⟨happend, rfl, rfl⟩⟩
  · next hdedup =>
    rw [if_neg hdedup]
    exact ⟨hbefore h, hnew, pcrs, digest, promotes, outcome, rfl, hvalid, .inr ⟨hdedup, rfl, rfl⟩⟩

theorem Walked.ne_nil
    (hwalked : Walked lib input links version) : links ≠ [] := by
  cases hwalked <;> simp

theorem Walked.last_boot_digest
    (hwalked : Walked lib input links version) :
    ∃ prev payload, last_boot (links.map (·.link)) = some prev ∧
      decode_canonical lib.boots prev.payload = .ok payload ∧ payload.image_digest = version.image_digest := by
  have hboot {links : List (RecordedLink DateTime)} {r : RecordedLink DateTime} (hkind : r.link.kind = .Boot) :
      last_boot ((links ++ [r]).map (·.link)) = some r.link := by
    rw [List.map_append, List.map_singleton, last_boot_append, if_pos hkind]
  have hsigned {links : List (RecordedLink DateTime)} {r : RecordedLink DateTime} (hkind : r.link.kind ≠ .Boot) :
      last_boot ((links ++ [r]).map (·.link)) = last_boot (links.map (·.link)) := by
    rw [List.map_append, List.map_singleton, last_boot_append, if_neg hkind]
  induction hwalked with
  | genesis hkind hdecoded => exact ⟨_, _, @hboot [] _ hkind, hdecoded, rfl⟩
  | step _ haccepted ih =>
    cases haccepted with
    | reboot hkind hdecoded _ hdigest => exact ⟨_, _, hboot hkind, hdecoded, hdigest⟩
    | rebuild hkind hpromotes hdigest => exact ⟨_, _, hboot hkind, hpromotes.decoded, hdigest⟩
    | promotion hkind hpromotes => exact ⟨_, _, hboot hkind, hpromotes.decoded, rfl⟩
    | upgrade hupgrades =>
      rw [hsigned (by rw [hupgrades.kind]; decide)]
      exact ih
    | revocation hrevokes =>
      rw [hsigned (by rw [hrevokes.kind]; decide)]
      exact ih

def Walk.InForce (walk : Walk) (version : Version) : Prop :=
  walk.in_force = some (version.pcrs, version.image_digest) ∧ walk.in_force_identity = some version.identity

theorem walked_genesis (h : (walk_link lib input .start r).Accepting) :
    ∃ version, Walked lib input [r] version ∧ (walk_link lib input .start r).InForce version := by
  obtain ⟨-, -, pcrs, digest, promotes, outcome, hrebuild, hvalid, hmoves⟩ := walk_link_accepting h
  obtain ⟨doc, hdoc, hpcrs, hkinds⟩ := validate_chain_link_ok hvalid
  cases hkind : r.link.kind with
  | Boot =>
    rw [hkind] at hkinds
    obtain ⟨payload, hboot, hcases⟩ := validate_boot_ok hkinds
    have happend : outcome.is_append = true := by
      rcases hcases with ⟨-, rfl⟩ | ⟨prev, _, hprev, -⟩
      · rfl
      · cases hprev
    simp only [rebuild_context, hkind, Walk.start, List.isEmpty_nil, if_true, hboot.decoded, Except.ok.injEq,
      Prod.mk.injEq] at hrebuild
    obtain ⟨rfl, rfl, rfl⟩ := hrebuild
    rcases hmoves with ⟨-, hforce, hidentity⟩ | ⟨hnot, -⟩
    · refine ⟨_, .genesis hkind hboot.decoded hdoc hpcrs, hforce, ?_⟩
      rw [hidentity, hdoc]
      rfl
    · exact absurd ⟨rfl, happend⟩ hnot
  | Upgrade =>
    rw [hkind] at hkinds
    obtain ⟨-, payload, -, -, -, ⟨hseen, -⟩ | ⟨-, hprior, -⟩⟩ := validate_upgrade_ok hkinds
    · cases hseen
    · exact absurd rfl hprior
  | Revocation =>
    rw [hkind] at hkinds
    obtain ⟨-, payload, -, -, ⟨hseen, -⟩ | ⟨-, -, target, htarget, -⟩⟩ := validate_revocation_ok hkinds
    · cases hseen
    · cases htarget

theorem accepted_boot (hwalked : Walked lib input links version) (hprior : walk.prior = links.map (·.link))
    (hforce : walk.InForce version) (hkind : r.link.kind = .Boot) (h : (walk_link lib input walk r).Accepting) :
    ∃ version', Accepted lib input (links.map (·.link)) version r.link version' ∧
      (walk_link lib input walk r).InForce version' := by
  obtain ⟨-, -, pcrs, digest, promotes, outcome, hrebuild, hvalid, hmoves⟩ := walk_link_accepting h
  obtain ⟨doc, hdoc, hpcrs, hkinds⟩ := validate_chain_link_ok hvalid
  rw [hkind] at hkinds
  obtain ⟨payload, hboot, hcases⟩ := validate_boot_ok hkinds
  have hnonempty : walk.prior.isEmpty = false := by
    rw [hprior, List.isEmpty_eq_false_iff]
    exact fun hnil => hwalked.ne_nil (List.map_eq_nil_iff.mp hnil)
  have hpcrs_eq : payload.pcrs = pcrs := hboot.pcrs
  have hdigest_eq : payload.image_digest = digest := hboot.image_digest
  simp only [rebuild_context, hkind, hnonempty, Bool.false_eq_true, if_false, hboot.decoded, hforce.1] at hrebuild
  have hstays (hpromotes : promotes = false) : (walk_link lib input walk r).InForce version := by
    rcases hmoves with ⟨⟨htrue, -⟩, -⟩ | ⟨-, hsame, hidentity⟩
    · rw [hpromotes] at htrue
      cases htrue
    · exact ⟨hsame.trans hforce.1, hidentity.trans hforce.2⟩
  split at hrebuild
  · next hsame =>
    cases hrebuild
    exact ⟨version, .reboot hkind hboot.decoded hsame hdigest_eq, hstays rfl⟩
  next hother =>
  split at hrebuild
  · next target htarget =>
    split at hrebuild
    · cases hrebuild
    next hactive =>
    split at hrebuild
    · cases hrebuild
    next hunexpired =>
    rw [hdoc] at hrebuild
    dsimp only at hrebuild
    split at hrebuild
    · cases hrebuild
    next hidentity =>
    cases hrebuild
    have hpromotes : Promotes lib input (links.map (·.link)) version r.link payload target :=
      ⟨hboot.decoded, hother, hprior ▸ htarget, hactive, hunexpired, doc, hdoc, not_not.mp hidentity⟩
    obtain ⟨prev, prev_payload, hlast, hprev, hdigest⟩ := hwalked.last_boot_digest
    rw [← hprior] at hlast
    -- the digest that is in force is the one of the boot before, so the validator appends exactly the other ones
    rcases hcases with ⟨hnone, -⟩ | ⟨prev', prev_payload', hlast', hprev', hcase⟩
    · cases hlast.symm.trans hnone
    cases hlast.symm.trans hlast'
    cases hprev.symm.trans hprev'
    rcases hcase with ⟨hsame, rfl⟩ | ⟨hnew, -, rfl⟩
    · refine ⟨version, .rebuild hkind hpromotes (hsame.symm.trans hdigest), ?_⟩
      rcases hmoves with ⟨⟨-, happend⟩, -⟩ | ⟨-, hforce', hidentity'⟩
      · cases happend
      · exact ⟨hforce'.trans hforce.1, hidentity'.trans hforce.2⟩
    · refine ⟨_, .promotion hkind hpromotes fun hsame => hnew (hdigest.trans hsame.symm), ?_⟩
      rcases hmoves with ⟨-, hforce', hidentity'⟩ | ⟨hnot, -⟩
      · refine ⟨by rw [hforce', hpcrs_eq, hdigest_eq], ?_⟩
        rw [hidentity', hdoc, ← not_not.mp hidentity]
        rfl
      · exact absurd ⟨rfl, rfl⟩ hnot
  · cases hrebuild
    exact absurd hpcrs_eq hother

theorem accepted_signed (hprior : walk.prior = links.map (·.link)) (hforce : walk.InForce version)
    (hkind : r.link.kind ≠ .Boot) (h : (walk_link lib input walk r).Accepting) :
    Accepted lib input (links.map (·.link)) version r.link version ∧
      (walk_link lib input walk r).InForce version := by
  obtain ⟨-, hnew, pcrs, digest, promotes, outcome, hrebuild, hvalid, hmoves⟩ := walk_link_accepting h
  have hnew := hnew hkind
  rw [hprior] at hnew
  have hctx : pcrs = version.pcrs ∧ promotes = false := by
    cases hcase : r.link.kind <;> simp_all [rebuild_context, hforce.1]
  obtain ⟨rfl, rfl⟩ := hctx
  have hstays : (walk_link lib input walk r).InForce version := by
    rcases hmoves with ⟨⟨htrue, -⟩, -⟩ | ⟨-, hsame, hidentity⟩
    · cases htrue
    · exact ⟨hsame.trans hforce.1, hidentity.trans hforce.2⟩
  refine ⟨?_, hstays⟩
  obtain ⟨doc, hdoc, hpcrs, hkinds⟩ := validate_chain_link_ok hvalid
  cases hcase : r.link.kind with
  | Boot => exact absurd hcase hkind
  | Upgrade =>
    rw [hcase] at hkinds
    obtain ⟨hsigned, -⟩ := validate_upgrade_ok hkinds
    exact .upgrade ⟨hcase, check_link_signature_ok hsigned, ⟨doc, hdoc, hpcrs⟩, hnew⟩
  | Revocation =>
    rw [hcase] at hkinds
    obtain ⟨-, payload, hdecoded, -, hcases⟩ := validate_revocation_ok hkinds
    simp only [WalkInput.context, hprior] at hcases
    rcases hcases with ⟨hseen, -⟩ | ⟨-, -, target⟩
    · rw [hnew] at hseen
      cases hseen
    · exact .revocation ⟨hcase, hdecoded, target⟩

theorem accepted_of_accepting
    (hwalked : Walked lib input links version) (hforce : (walk_links lib input links).InForce version)
    (h : (walk_links lib input (links ++ [r])).Accepting) :
    ∃ version', Accepted lib input (links.map (·.link)) version r.link version' ∧
      (walk_links lib input (links ++ [r])).InForce version' := by
  rw [walk_links_concat] at h ⊢
  by_cases hkind : r.link.kind = .Boot
  · exact accepted_boot hwalked (walk_links_prior links) hforce hkind h
  · exact ⟨version, accepted_signed (walk_links_prior links) hforce hkind h⟩

theorem accepting_of_append {rest : List (RecordedLink DateTime)}
    (h : (walk_links lib input (links ++ rest)).Accepting) : (walk_links lib input links).Accepting := by
  induction rest using List.reverseRecOn with
  | nil => rwa [List.append_nil] at h
  | append_singleton rest r ih =>
    rw [← List.append_assoc, walk_links_concat] at h
    exact ih (walk_link_accepting h).1

theorem walked_of_accepting (hlinks : links ≠ [])
    (h : (walk_links lib input links).Accepting) :
    ∃ version, Walked lib input links version ∧ (walk_links lib input links).InForce version := by
  induction links using List.reverseRecOn with
  | nil => exact absurd rfl hlinks
  | append_singleton links r ih =>
    by_cases hnil : links = []
    · subst hnil
      exact walked_genesis h
    · obtain ⟨version, hwalked, hforce⟩ := ih hnil (accepting_of_append h)
      obtain ⟨version', haccepted, hforce'⟩ := accepted_of_accepting hwalked hforce h
      exact ⟨version', hwalked.step haccepted, hforce'⟩

theorem walk_link_eq (pcrs : PcrsHex) (digest : String) (promotes : Bool)
    (outcome : Outcome) (hnew : ¬(r.link.kind ≠ .Boot ∧ signed_payload_seen r.link walk.prior = true))
    (hrebuild : rebuild_context lib input r.link walk.prior walk.in_force = .ok (pcrs, digest, promotes))
    (hvalid : validate_chain_link lib r.link (input.context pcrs digest walk.prior) (r.recorded_at.getD input.now)
      input.debug_mode = .ok outcome) :
    walk_link lib input walk r =
      if promotes ∧ outcome.is_append then
        { walk with
          in_force := some (pcrs, digest)
          in_force_identity :=
            (link_attestation lib r.link input.debug_mode).toOption.map ValidatedAttestation.identity }.push
              r.link (.ok outcome)
      else walk.push r.link (.ok outcome) := by
  simp only [walk_link, if_neg hnew, hrebuild, hvalid]

namespace sample

def upgrade (image_digest : String) : UpgradePayload Int where
  enclave_id := 0
  «from» := .uniform 1
  «to» := .uniform 2
  image_digest := image_digest
  valid_from := 0
  valid_until := UPGRADE_WINDOW_MIN
  issued_at := 0
  nonce := [1]

def history_library (image_digest : String) : ChainLibrary Int :=
  library [boot 1 "sha256:one" true, boot 2 image_digest true] [upgrade image_digest] []

def announcement : List (RecordedLink Int) := [⟨stored 0 .Boot 1 [1], none⟩] ++ [⟨stored 1 .Upgrade 1 [1], none⟩]

def history : List (RecordedLink Int) := announcement ++ [⟨stored 2 .Boot 2 [2], none⟩]

def history_input (image_digest : String) : WalkInput Int where
  enclave_id := 0
  row_pcrs := image_pcrs_hex (.uniform 2)
  row_image_digest := image_digest
  control_public_key := some []
  upgradable := true
  now := 0
  debug_mode := false

theorem uniform_pcrs_ne : image_pcrs_hex (.uniform 2) ≠ image_pcrs_hex (.uniform 1) := by decide +kernel

def announced : Walk where
  outcomes := [.ok (.Append 0), .ok (.Append 1)]
  prior := [stored 0 .Boot 1 [1], stored 1 .Upgrade 1 [1]]
  in_force := some (image_pcrs_hex (.uniform 1), "sha256:one")
  in_force_identity := some (.uniform 1)

variable (image_digest : String)

theorem validate_genesis : validate_chain_link (history_library image_digest) (stored 0 .Boot 1 [1])
    ((history_input image_digest).context (image_pcrs_hex (.uniform 1)) "sha256:one" []) 0 false =
      .ok (.Append 0) := by
  refine (validate_stored (by decide) rfl ..).trans ?_
  simp [validate_boot, stored, library, codec, decode_canonical, boot, history_input,
    WalkInput.context, last_boot]

theorem validate_announcement : validate_chain_link (history_library image_digest) (stored 1 .Upgrade 1 [1])
    ((history_input image_digest).context (image_pcrs_hex (.uniform 1)) "sha256:one" [stored 0 .Boot 1 [1]]) 0 false =
      .ok (.Append 1) := by
  refine (validate_stored (by decide) rfl ..).trans ?_
  simp [validate_upgrade, check_link_signature, verify_control_signature, stored, library, codec,
    decode_canonical, upgrade, history_input, WalkInput.context, upgrade_window_is_valid, signed_payload_seen]

theorem validate_promotion : validate_chain_link (history_library image_digest) (stored 2 .Boot 2 [2])
    ((history_input image_digest).context (image_pcrs_hex (.uniform 2)) image_digest announced.prior) 0 false =
      .ok (if image_digest = "sha256:one" then .Dedup else .Append 2) := by
  refine (validate_stored (by decide) rfl ..).trans ?_
  simp [validate_boot, stored, library, codec, decode_canonical, boot, history_input,
    WalkInput.context, last_boot, announced, AntiRollbackSetting.check_successor, setting]
  by_cases hsame : image_digest = "sha256:one"
  · rw [if_pos hsame, if_pos hsame.symm]
  · rw [if_neg hsame, if_neg (Ne.symm hsame)]

theorem promotion_explained : promotion_target (history_library image_digest) announced.prior
    (image_pcrs_hex (.uniform 2)) image_digest = some (upgrade image_digest) := by
  simp [promotion_target, find_promotion, revoked_ids, announced, stored, signed_payload_seen, history_library, library,
    codec,
    decode_canonical, upgrade]

theorem rebuild_promotion : rebuild_context (history_library image_digest) (history_input image_digest)
    (stored 2 .Boot 2 [2]) announced.prior announced.in_force = .ok
      (image_pcrs_hex (.uniform 2), image_digest, true) := by
  have hdecoded : decode_canonical (history_library image_digest).boots (stored 2 .Boot 2 [2]).payload = .ok
      (boot 2 image_digest true) := by
    simp [history_library, library, codec, decode_canonical, boot, stored]
  have hdoc : link_attestation (history_library image_digest) (stored 2 .Boot 2 [2]) false = _ :=
    link_attestation_stored (by decide) ..
  have hkind : (stored 2 .Boot 2 [2]).kind = .Boot := rfl
  have hpcrs : (boot 2 image_digest true).pcrs = image_pcrs_hex (.uniform 2) := rfl
  have hdigest : (boot 2 image_digest true).image_digest = image_digest := rfl
  have hprior : announced.prior.isEmpty = false := rfl
  have hforce : announced.in_force = some (image_pcrs_hex (.uniform 1), "sha256:one") := rfl
  have hmode : (history_input image_digest).debug_mode = false := rfl
  have hactive : ¬(history_library image_digest).instant (boot 2 image_digest true).booted_at <
      (history_library image_digest).instant (upgrade image_digest).valid_from - CLOCK_SKEW_TOLERANCE :=
    (by decide : ¬(0 : Int) < 0 - CLOCK_SKEW_TOLERANCE)
  have hunexpired : ¬(history_library image_digest).instant (boot 2 image_digest true).booted_at >
      (history_library image_digest).instant (upgrade image_digest).valid_until + CLOCK_SKEW_TOLERANCE :=
    (by decide : ¬(0 : Int) > UPGRADE_WINDOW_MIN + CLOCK_SKEW_TOLERANCE)
  simp only [rebuild_context, hkind, hprior, hdecoded, hforce, hpcrs, hdigest, uniform_pcrs_ne, if_false,
    Bool.false_eq_true, promotion_explained, hactive, hunexpired, hmode, hdoc]
  exact if_neg (not_not_intro rfl)

theorem walk_booted :
    walk_links (history_library image_digest) (history_input image_digest) [⟨stored 0 .Boot 1 [1], none⟩] =
      ⟨[.ok (.Append 0)], [stored 0 .Boot 1 [1]], some (image_pcrs_hex (.uniform 1), "sha256:one"),
        some (.uniform 1)⟩ := by
  have hdoc : link_attestation (history_library image_digest) (stored 0 .Boot 1 [1]) false = _ :=
    link_attestation_stored (by decide) ..
  have hmode : (history_input image_digest).debug_mode = false := rfl
  have hrebuild : rebuild_context (history_library image_digest) (history_input image_digest) (stored 0 .Boot 1 [1])
      Walk.start.prior Walk.start.in_force = .ok (image_pcrs_hex (.uniform 1), "sha256:one", true) := by
    simp [rebuild_context, stored, Walk.start, history_library, library, codec, decode_canonical, boot]
  rw [walk_links, List.foldl_cons, List.foldl_nil, walk_link_eq (image_pcrs_hex (.uniform 1)) "sha256:one" true
    (.Append 0) (by simp [stored]) hrebuild (validate_genesis image_digest)]
  rw [if_pos ⟨rfl, rfl⟩, hmode, hdoc]
  simp [Walk.push, Walk.start, Except.toOption]

theorem walk_announced :
    walk_links (history_library image_digest) (history_input image_digest) announcement = announced := by
  rw [announcement, walk_links_concat, walk_booted,
    walk_link_eq (image_pcrs_hex (.uniform 1)) "sha256:one" false (.Append 1)
    (by simp [stored, signed_payload_seen]) (by simp [rebuild_context, stored]) (validate_announcement image_digest)]
  simp [Walk.push, announced]

theorem walk_history :
    walk_links (history_library image_digest) (history_input image_digest) history =
      if image_digest = "sha256:one" then announced.push (stored 2 .Boot 2 [2]) (.ok .Dedup)
      else
        { announced with
          in_force := some (image_pcrs_hex (.uniform 2), image_digest)
          in_force_identity := some (.uniform 2) }.push (stored 2 .Boot 2 [2]) (.ok (.Append 2)) := by
  have hdoc : link_attestation (history_library image_digest) (stored 2 .Boot 2 [2]) false = _ :=
    link_attestation_stored (by decide) ..
  have hmode : (history_input image_digest).debug_mode = false := rfl
  rw [history, walk_links_concat, walk_announced, walk_link_eq (image_pcrs_hex (.uniform 2)) image_digest true _
    (by simp [stored]) (rebuild_promotion image_digest) (validate_promotion image_digest)]
  split <;> simp_all [Outcome.is_append, Except.toOption]

end sample

end enclavia.protocol.chain
