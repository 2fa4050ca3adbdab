import Enclavia.Machine.Run
import Enclavia.Protocol.Upgrades.Walk

namespace enclavia.protocol.chain

/-- The instants that chrono represents. -/
structure DateRange where
  min_utc : Int
  max_utc : Int

def DateRange.contains (range : DateRange) (instant : Int) : Bool :=
  decide (range.min_utc ≤ instant) && decide (instant ≤ range.max_utc)

variable {DateTime : Type} (lib : ChainLibrary DateTime) (range : DateRange)

def explaining (link : ChainLink) (prior : List ChainLink) (in_force : Option (PcrsHex × String)) :
    Option (BootPayload DateTime × UpgradePayload DateTime) :=
  if link.kind ≠ .Boot ∨ prior.isEmpty then none
  else
    match decode_canonical lib.boots link.payload, in_force with
    | .ok p, some (pcrs, _) =>
      if p.pcrs = pcrs then none else (promotion_target lib prior p.pcrs p.image_digest).map (p, ·)
    | _, _ => none

def try_rebuild_context (input : WalkInput DateTime) (link : ChainLink) (prior : List ChainLink)
    (in_force : Option (PcrsHex × String)) : Option (Except ChainValidationError (PcrsHex × String × Bool)) :=
  match explaining lib link prior in_force with
  | none => some (rebuild_context lib input link prior in_force)
  | some (p, target) =>
    if !range.contains (lib.instant target.valid_from - CLOCK_SKEW_TOLERANCE) then none
    else if lib.instant p.booted_at < lib.instant target.valid_from - CLOCK_SKEW_TOLERANCE then
      some (rebuild_context lib input link prior in_force)
    else if !range.contains (lib.instant target.valid_until + CLOCK_SKEW_TOLERANCE) then none
    else some (rebuild_context lib input link prior in_force)

def validate_signed (link : ChainLink) (ctx : ChainContext) (attested : PinIdentity) (now : DateTime) :
    Option (Except ChainValidationError Outcome) :=
  match link.kind with
  | .Upgrade => some (validate_upgrade lib link ctx attested)
  | .Revocation => some (validate_revocation lib link ctx now)
  | .Boot => none

def try_validate_chain_link (link : ChainLink) (ctx : ChainContext) (now : DateTime) (debug_mode : Bool) :
    Option (Except ChainValidationError Outcome) :=
  if link.attestation.isEmpty then some (.error .EmptyAttestation)
  else
    match ctx.enclave_pcrs.to_pcrs with
    | .error error => some (.error error)
    | .ok recorded_pcrs =>
      match link_attestation lib link debug_mode with
      | .error error => some (.error (.Attestation error))
      | .ok doc =>
        match doc.require_pcrs recorded_pcrs with
        | .error error => some (.error (.Attestation error))
        | .ok () =>
          match link.kind with
          | .Boot => some (validate_boot lib link ctx)
          | .Upgrade | .Revocation => validate_signed lib link ctx doc.identity now

def try_walk_link (input : WalkInput DateTime) (walk : Walk) (recorded : RecordedLink DateTime) : Option Walk :=
  if recorded.link.kind ≠ .Boot ∧ signed_payload_seen recorded.link walk.prior = true then
    some (walk_link lib input walk recorded)
  else
    (try_rebuild_context lib range input recorded.link walk.prior walk.in_force).bind fun
      | .error _ => some (walk_link lib input walk recorded)
      | .ok (ctx_pcrs, ctx_digest, _) =>
        (try_validate_chain_link lib recorded.link (input.context ctx_pcrs ctx_digest walk.prior)
          (recorded.recorded_at.getD input.now) input.debug_mode).map fun _ => walk_link lib input walk recorded

/-- `validate_chain`, nothing if it panics. -/
def try_validate_chain (input : WalkInput DateTime) (links : List (RecordedLink DateTime)) : Option ChainWalk :=
  (links.foldlM (try_walk_link lib range input) .start).map fun _ => validate_chain lib input links

def try_verify_pcr_descent (pinned : Pcrs) (links : List (RecordedLink DateTime)) (input : WalkInput DateTime) :
    Option (Except PcrDescentError Pcrs) :=
  (try_validate_chain lib range input links).map fun _ => verify_pcr_descent lib pinned links input

/-- Where a boot is explained by an upgrade, the dates that it is compared with are dates. -/
def Movable (walk : Walk) (link : ChainLink) : Prop :=
  ∀ p target, explaining lib link walk.prior walk.in_force = some (p, target) →
    range.contains (lib.instant target.valid_from - CLOCK_SKEW_TOLERANCE) = true ∧
      (lib.instant p.booted_at < lib.instant target.valid_from - CLOCK_SKEW_TOLERANCE ∨
        range.contains (lib.instant target.valid_until + CLOCK_SKEW_TOLERANCE) = true)

/-- `Movable` at every position of the walk. -/
def Datable (input : WalkInput DateTime) (links : List (RecordedLink DateTime)) : Prop :=
  ∀ before r after, links = before ++ r :: after → Movable lib range (walk_links lib input before) r.link

variable {lib range} {input : WalkInput DateTime}

theorem datable_concat {links : List (RecordedLink DateTime)} {r : RecordedLink DateTime} :
    Datable lib range input (links ++ [r]) ↔
      Datable lib range input links ∧ Movable lib range (walk_links lib input links) r.link :=
  machine.forall_split_concat

theorem try_rebuild_context_iff {walk : Walk} {link : ChainLink}
    {rebuilt : Except ChainValidationError (PcrsHex × String × Bool)} :
    try_rebuild_context lib range input link walk.prior walk.in_force = some rebuilt ↔
      Movable lib range walk link ∧ rebuilt = rebuild_context lib input link walk.prior walk.in_force := by
  unfold try_rebuild_context Movable
  cases explaining lib link walk.prior walk.in_force with
  | none => simp [@eq_comm _ rebuilt]
  | some found =>
    obtain ⟨p, target⟩ := found
    simp only [Option.some.injEq, Prod.mk.injEq, and_imp, forall_eq', forall_apply_eq_imp_iff, @eq_comm _ rebuilt]
    by_cases hearly : lib.instant p.booted_at < lib.instant target.valid_from - CLOCK_SKEW_TOLERANCE <;>
      cases range.contains (lib.instant target.valid_from - CLOCK_SKEW_TOLERANCE) <;>
      cases range.contains (lib.instant target.valid_until + CLOCK_SKEW_TOLERANCE) <;>
      simp [hearly]

theorem try_validate_chain_link_eq (link : ChainLink) (ctx : ChainContext) (now : DateTime) (debug_mode : Bool) :
    try_validate_chain_link lib link ctx now debug_mode = some (validate_chain_link lib link ctx now debug_mode) := by
  unfold try_validate_chain_link validate_chain_link
  split
  · rfl
  cases ctx.enclave_pcrs.to_pcrs with
  | error error => rfl
  | ok recorded_pcrs =>
    cases link_attestation lib link debug_mode with
    | error error => rfl
    | ok doc =>
      dsimp only
      cases doc.require_pcrs recorded_pcrs with
      | error error => rfl
      | ok => cases hkind : link.kind <;> simp only [validate_signed, hkind]

theorem movable_of_signed {walk : Walk} {link : ChainLink} (h : link.kind ≠ .Boot) : Movable lib range walk link := by
  intro p target hexplaining
  unfold explaining at hexplaining
  rw [if_pos (.inl h)] at hexplaining
  cases hexplaining

theorem try_walk_link_iff {walk next : Walk} {recorded : RecordedLink DateTime} :
    try_walk_link lib range input walk recorded = some next ↔
      Movable lib range walk recorded.link ∧ next = walk_link lib input walk recorded := by
  unfold try_walk_link
  split
  · next hseen => simp [movable_of_signed hseen.1, eq_comm]
  cases hrebuilt : try_rebuild_context lib range input recorded.link walk.prior walk.in_force with
  | none =>
    have hnot : ¬Movable lib range walk recorded.link := by
      intro hmovable
      cases hrebuilt.symm.trans (try_rebuild_context_iff.mpr ⟨hmovable, rfl⟩)
    simp [hnot]
  | some rebuilt =>
    have hmovable := (try_rebuild_context_iff.mp hrebuilt).1
    obtain _ | ⟨_, _, _⟩ := rebuilt
    · simp [hmovable, @eq_comm _ next]
    · simp [hmovable, try_validate_chain_link_eq, @eq_comm _ next]

theorem foldlM_try_walk_link_iff {links : List (RecordedLink DateTime)} {walk : Walk} :
    links.foldlM (try_walk_link lib range input) .start = some walk ↔
      Datable lib range input links ∧ walk = walk_links lib input links := by
  -- from the end: what a link is compared with is the walk over those before it
  induction links using List.reverseRecOn generalizing walk with
  | nil => simp [Datable, walk_links, eq_comm]
  | append_singleton links r ih =>
    have hlast (walked : Walk) : [r].foldlM (try_walk_link lib range input) walked =
        try_walk_link lib range input walked r := by simp
    rw [List.foldlM_append, Option.bind_eq_bind, Option.bind_eq_some_iff, datable_concat, walk_links_concat]
    simp only [hlast, ih, try_walk_link_iff]
    constructor
    · rintro ⟨_, ⟨hlinks, rfl⟩, hlast, rfl⟩
      exact ⟨⟨hlinks, hlast⟩, rfl⟩
    · rintro ⟨⟨hlinks, hlast⟩, rfl⟩
      exact ⟨_, ⟨hlinks, rfl⟩, hlast, rfl⟩

theorem try_validate_chain_iff {links : List (RecordedLink DateTime)} {walk : ChainWalk} :
    try_validate_chain lib range input links = some walk ↔
      Datable lib range input links ∧ walk = validate_chain lib input links := by
  rw [try_validate_chain, Option.map_eq_some_iff]
  constructor
  · rintro ⟨_, hwalk, rfl⟩
    exact ⟨(foldlM_try_walk_link_iff.mp hwalk).1, rfl⟩
  · rintro ⟨hlinks, rfl⟩
    exact ⟨_, foldlM_try_walk_link_iff.mpr ⟨hlinks, rfl⟩, rfl⟩

/-- A walk over a chain, and the check of descent on it, return if and only if the dates of each upgrade that explains
a boot can be moved by the tolerance, the second only where it is asked for. -/
theorem walk_returns_iff (lib : ChainLibrary DateTime) (range : DateRange) (input : WalkInput DateTime)
    (links : List (RecordedLink DateTime)) (pinned : Pcrs) :
    (try_validate_chain lib range input links = some (validate_chain lib input links) ↔
        Datable lib range input links) ∧
      (try_verify_pcr_descent lib range pinned links input = some (verify_pcr_descent lib pinned links input) ↔
        Datable lib range input links) ∧
      (¬Datable lib range input links → try_validate_chain lib range input links = none) := by
  have hwalk : try_validate_chain lib range input links = some (validate_chain lib input links) ↔
      Datable lib range input links := by
    rw [try_validate_chain_iff, and_iff_left rfl]
  refine ⟨hwalk, ?_, fun hnot => ?_⟩
  · rw [← hwalk, try_verify_pcr_descent, Option.map_eq_some_iff]
    constructor
    · rintro ⟨_, hsome, -⟩
      exact hwalk.mpr (try_validate_chain_iff.mp hsome).1
    · intro hsome
      exact ⟨_, hsome, rfl⟩
  · cases hsome : try_validate_chain lib range input links with
    | none => rfl
    | some walk => exact absurd (try_validate_chain_iff.mp hsome).1 hnot

namespace sample

/-- The dates of chrono, in nanoseconds from the first one, and from the Unix epoch. -/
def from_first : DateRange := ⟨0, 16544868105599999999999⟩

def from_epoch : DateRange := ⟨-8334601228800000000000, 8210266876799999999999⟩

theorem explaining_promotion : explaining (history_library "sha256:two") (stored 2 .Boot 2 [2]) announced.prior
    announced.in_force = some (boot 2 "sha256:two" true, upgrade "sha256:two") := by
  have hdecoded : decode_canonical (history_library "sha256:two").boots (stored 2 .Boot 2 [2]).payload =
      .ok (boot 2 "sha256:two" true) := by
    simp [history_library, library, codec, decode_canonical, boot, stored]
  have hforce : announced.in_force = some (image_pcrs_hex (.uniform 1), "sha256:one") := rfl
  have hpcrs : (boot 2 "sha256:two" true).pcrs = image_pcrs_hex (.uniform 2) := rfl
  have hdigest : (boot 2 "sha256:two" true).image_digest = "sha256:two" := rfl
  have hkind : ¬((stored 2 .Boot 2 [2]).kind ≠ .Boot ∨ announced.prior.isEmpty = true) := by decide
  unfold explaining
  rw [if_neg hkind, hdecoded, hforce]
  simp only [hpcrs, hdigest, uniform_pcrs_ne, if_false, promotion_explained, Option.map_some]

theorem datable_history_iff {range : DateRange} :
    Datable (history_library "sha256:two") range (history_input "sha256:two") history ↔
      Movable (history_library "sha256:two") range announced (stored 2 .Boot 2 [2]) := by
  have hfirst : Datable (history_library "sha256:two") range (history_input "sha256:two") announcement := by
    refine (@datable_concat _ _ _ _ [_] _).mpr ⟨(@datable_concat _ _ _ _ [] _).mpr ⟨by simp [Datable], ?_⟩,
      movable_of_signed (by decide)⟩
    intro p target hexplaining
    cases hexplaining
  rw [history, datable_concat, and_iff_right hfirst, walk_announced]

end sample

/-- An upgrade from the first date on: the date at which its target may boot is not a date. -/
theorem walk_panics_at_first_date :
    try_validate_chain (sample.history_library "sha256:two") sample.from_first (sample.history_input "sha256:two")
      sample.history = none := by
  cases hwalk : try_validate_chain (sample.history_library "sha256:two") sample.from_first
      (sample.history_input "sha256:two") sample.history with
  | none => rfl
  | some walk =>
    have hmovable := sample.datable_history_iff.mp (try_validate_chain_iff.mp hwalk).1
    exact absurd (hmovable _ _ sample.explaining_promotion).1 (by decide)

/-- From the epoch on, the same walk returns. -/
theorem walk_returns_iff_history :
    try_validate_chain (sample.history_library "sha256:two") sample.from_epoch (sample.history_input "sha256:two")
      sample.history = some (validate_chain (sample.history_library "sha256:two") (sample.history_input "sha256:two")
        sample.history) := by
  refine (walk_returns_iff _ _ _ _ ⟨[], [], []⟩).1.mpr (sample.datable_history_iff.mpr ?_)
  intro p target hexplaining
  cases sample.explaining_promotion.symm.trans hexplaining
  exact ⟨by decide, .inr (by decide)⟩

end enclavia.protocol.chain
