import Enclavia.Protocol.Upgrades.Descent
import Enclavia.Protocol.Upgrades.Panics

namespace enclavia.protocol.chain

variable {DateTime : Type} (lib : ChainLibrary DateTime) (input : WalkInput DateTime)

structure Ledger (DateTime : Type) where
  row_pcrs : PcrsHex
  row_image_digest : String
  links : List (RecordedLink DateTime)

/-- A link arrives, or the row moves to the target of an upgrade, whose image then boots. -/
inductive Event (DateTime : Type) where
  | arrive (link : ChainLink) (now : DateTime) (id : Uuid)
  | promote (upgrade : RecordedLink DateTime) (target : UpgradePayload DateTime) (link : ChainLink)
      (payload : BootPayload DateTime) (now : DateTime) (id : Uuid)

variable {lib input} {target : UpgradePayload DateTime}

def Ledger.prior (s : Ledger DateTime) : List ChainLink := s.links.map (·.link)

def Ledger.walk_input (input : WalkInput DateTime) (s : Ledger DateTime) : WalkInput DateTime :=
  { input with row_pcrs := s.row_pcrs, row_image_digest := s.row_image_digest }

def Ledger.record (s : Ledger DateTime) (link : ChainLink) (now : DateTime) (id : Uuid) : Outcome → Ledger DateTime
  | .Append sequence => { s with links := s.links ++ [⟨link.with_assignment id sequence, some now⟩] }
  | .Dedup => s

def MostRecent (lib : ChainLibrary DateTime) (prior : List ChainLink) (boot_pcrs : PcrsHex)
    (boot_image_digest : String) (target : UpgradePayload DateTime) : Prop :=
  ∃ before l after, prior = before ++ l :: after ∧
    Explains lib (revoked_ids lib prior) before l boot_pcrs boot_image_digest target ∧
    ∀ between later rest other, after = between ++ later :: rest →
      ¬Explains lib (revoked_ids lib prior) (before ++ l :: between) later boot_pcrs boot_image_digest other

/-- The row does not move, or both the PCRs and the digest change and the most recent upgrade that leads there agrees
with the one that the row moves by: it has the same `to`, and the boot is in its window too, whose ends can be moved by
the tolerance. -/
def Event.Agrees (lib : ChainLibrary DateTime) (range : DateRange) (s : Ledger DateTime) : Event DateTime → Prop
  | .arrive _ _ _ => True
  | .promote _ target _ payload _ _ =>
    image_pcrs_hex target.to = s.row_pcrs ∧ target.image_digest = s.row_image_digest ∨
      image_pcrs_hex target.to ≠ s.row_pcrs ∧ target.image_digest ≠ s.row_image_digest ∧
        ∃ latest, MostRecent lib s.prior (image_pcrs_hex target.to) target.image_digest latest ∧
          latest.to = target.to ∧
          range.contains (lib.instant latest.valid_from - CLOCK_SKEW_TOLERANCE) = true ∧
          range.contains (lib.instant latest.valid_until + CLOCK_SKEW_TOLERANCE) = true ∧
          lib.instant latest.valid_from - CLOCK_SKEW_TOLERANCE ≤ lib.instant payload.booted_at ∧
          lib.instant payload.booted_at ≤ lib.instant latest.valid_until + CLOCK_SKEW_TOLERANCE

/-- A walk over what is stored returns, accepts every link and ends at the row. -/
def Ledger.Accepted (lib : ChainLibrary DateTime) (range : DateRange) (input : WalkInput DateTime)
    (s : Ledger DateTime) : Prop :=
  ∃ walk, try_validate_chain lib range (s.walk_input input) s.links = some walk ∧
    (∀ outcome ∈ walk.outcomes, outcome.isOk = true) ∧ walk.tip_matches_row = true

/-- The same for a walk over unbounded dates. -/
def Ledger.Explained (lib : ChainLibrary DateTime) (input : WalkInput DateTime) (s : Ledger DateTime) : Prop :=
  (∀ outcome ∈ (validate_chain lib (s.walk_input input) s.links).outcomes, outcome.isOk = true) ∧
    (validate_chain lib (s.walk_input input) s.links).tip_matches_row = true

theorem Ledger.explained_iff {s : Ledger DateTime} :
    s.Explained lib input ↔ (walk_links lib (s.walk_input input) s.links).Accepting ∧
      (walk_links lib (s.walk_input input) s.links).in_force = some (s.row_pcrs, s.row_image_digest) := by
  refine and_congr Iff.rfl ?_
  simp only [validate_chain, Ledger.walk_input]
  cases (walk_links lib { input with row_pcrs := s.row_pcrs, row_image_digest := s.row_image_digest }
    s.links).in_force with
  | none => simp
  | some version =>
    obtain ⟨pcrs, image_digest⟩ := version
    simp only [Option.any_some, Bool.and_eq_true, Option.some.injEq, Prod.mk.injEq]
    exact and_congr decide_eq_true_iff decide_eq_true_iff

theorem Ledger.accepted_iff {range : DateRange} {s : Ledger DateTime} :
    s.Accepted lib range input ↔ Datable lib range (s.walk_input input) s.links ∧ s.Explained lib input := by
  simp only [Accepted, try_validate_chain_iff, and_assoc, exists_and_left, exists_eq_left, Explained]

section MostRecent

variable {revoked : List Uuid} {boot_pcrs : PcrsHex} {boot_image_digest : String}
  {l : ChainLink} {before : List ChainLink}

theorem Explains.congr {before' : List ChainLink}
    (h : Explains lib revoked before l boot_pcrs boot_image_digest target) (hmem : ∀ x, x ∈ before ↔ x ∈ before') :
    Explains lib revoked before' l boot_pcrs boot_image_digest target := by
  refine { h with fresh := ?_ }
  rw [signed_payload_seen_eq_false]
  exact fun x hx => signed_payload_seen_eq_false.mp h.fresh x ((hmem x).mpr hx)

end MostRecent

theorem walk_links_row {input' : WalkInput DateTime} {links : List (RecordedLink DateTime)} (hlinks : links ≠ [])
    (hinput : ∀ pcrs digest prior, input'.context pcrs digest prior = input.context pcrs digest prior)
    (hnow : input'.now = input.now) (hmode : input'.debug_mode = input.debug_mode)
    (h : (walk_links lib input links).Accepting) : walk_links lib input' links = walk_links lib input links := by
  have hwalk {walk : Walk} {r : RecordedLink DateTime} (hrebuild : rebuild_context lib input' r.link walk.prior
      walk.in_force = rebuild_context lib input r.link walk.prior walk.in_force) :
      walk_link lib input' walk r = walk_link lib input walk r := by
    simp only [walk_link, hrebuild, hinput, hnow, hmode]
  induction links using List.reverseRecOn with
  | nil => exact absurd rfl hlinks
  | append_singleton links r ih =>
    rw [walk_links_concat, walk_links_concat]
    by_cases hnil : links = []
    · subst hnil
      obtain ⟨version, hwalked, -⟩ := @walked_genesis _ lib input r h
      obtain ⟨hkind, payload, hdecoded⟩ := hwalked.genesis_boot
      refine hwalk ?_
      simp only [rebuild_context, hkind, walk_links, List.foldl_nil, Walk.start, List.isEmpty_nil, if_true, hdecoded]
    · rw [ih hnil (accepting_of_append h)]
      obtain ⟨version, hwalked, hforce⟩ := walked_of_accepting hnil (accepting_of_append h)
      have hprior : (walk_links lib input links).prior.isEmpty = false := by
        rw [walk_links_prior, List.isEmpty_eq_false_iff]
        exact fun hmap => hnil (List.map_eq_nil_iff.mp hmap)
      apply hwalk
      simp only [rebuild_context, hprior, hforce.1, hmode, Bool.false_eq_true, if_false]
      cases decode_canonical lib.boots r.link.payload <;> rfl

namespace Ledger

variable {range : DateRange} {s : Ledger DateTime} {link : ChainLink} {now : DateTime} {id : Uuid} {outcome : Outcome}
  {pcrs : PcrsHex} {digest : String} {sequence : Nat}

theorem Explained.walk_moved (h : s.Explained lib input) (hlinks : s.links ≠ []) (s' : Ledger DateTime) :
    (walk_links lib (s'.walk_input input) s.links).Accepting ∧
      (walk_links lib (s'.walk_input input) s.links).in_force = some (s.row_pcrs, s.row_image_digest) := by
  obtain ⟨haccepting, hforce⟩ := explained_iff.mp h
  have hmoved : walk_links lib (s'.walk_input input) s.links = walk_links lib (s.walk_input input) s.links :=
    walk_links_row hlinks (fun _ _ _ => rfl) rfl rfl haccepting
  rw [hmoved]
  exact ⟨haccepting, hforce⟩

theorem Explained.boot_outcome (h : s.Explained lib input) (hlinks : s.links ≠ []) (hkind : link.kind = .Boot)
    (haccepted : validate_chain_link lib link (input.context pcrs digest s.prior) now input.debug_mode = .ok outcome) :
    ∃ payload, BootOf lib (input.context pcrs digest s.prior) link payload ∧
      (digest = s.row_image_digest ∧ outcome = .Dedup ∨
        digest ≠ s.row_image_digest ∧ outcome = .Append s.prior.length) := by
  obtain ⟨haccepting, hforce⟩ := explained_iff.mp h
  obtain ⟨version, hwalked, hversion, -⟩ := walked_of_accepting hlinks haccepting
  have hdigest : version.image_digest = s.row_image_digest :=
    congrArg Prod.snd (Option.some.inj (hversion.symm.trans hforce))
  obtain ⟨prev, prev_payload, hlast, hprev, hsame⟩ := hwalked.last_boot_digest
  obtain ⟨doc, -, -, hkinds⟩ := validate_chain_link_ok haccepted
  rw [hkind] at hkinds
  obtain ⟨payload, hboot, hcases⟩ := validate_boot_ok hkinds
  refine ⟨payload, hboot, ?_⟩
  have hpayload : payload.image_digest = digest := hboot.image_digest
  rcases hcases with ⟨hnone, -⟩ | ⟨prev', prev_payload', hlast', hprev', hcase⟩
  · cases hlast.symm.trans hnone
  cases hlast.symm.trans hlast'
  cases hprev.symm.trans hprev'
  rw [hsame, hdigest, hpayload] at hcase
  rcases hcase with ⟨heq, hdedup⟩ | ⟨hne, -, happend⟩
  · exact .inl ⟨heq.symm, hdedup⟩
  · exact .inr ⟨Ne.symm hne, happend⟩

theorem explained_genesis (hlinks : s.links = [])
    (haccepted : validate_chain_link lib link (input.context s.row_pcrs s.row_image_digest s.prior) now
      input.debug_mode = .ok (.Append sequence)) :
    (s.record link now id (.Append sequence)).Explained lib input := by
  have hprior : s.prior = [] := by rw [prior, hlinks]; rfl
  rw [hprior] at haccepted
  obtain ⟨doc, hdoc, -, hkinds⟩ := validate_chain_link_ok haccepted
  cases hkind : link.kind with
  | Boot =>
    rw [hkind] at hkinds
    obtain ⟨payload, hboot, -⟩ := validate_boot_ok hkinds
    have hpcrs : payload.pcrs = s.row_pcrs := hboot.pcrs
    have hdigest : payload.image_digest = s.row_image_digest := hboot.image_digest
    have hrebuild : rebuild_context lib (s.walk_input input) (link.with_assignment id sequence) Walk.start.prior
        Walk.start.in_force = .ok (s.row_pcrs, s.row_image_digest, true) := by
      simp [rebuild_context, ChainLink.with_assignment, hkind, Walk.start, hboot.decoded, hpcrs, hdigest]
    have hwalk := walk_link_eq (r := ⟨link.with_assignment id sequence, some now⟩) s.row_pcrs s.row_image_digest true
      (.Append sequence) (fun hsigned => hsigned.1 hkind) hrebuild haccepted
    have hrecorded : walk_links lib ((s.record link now id (.Append sequence)).walk_input input)
        (s.record link now id (.Append sequence)).links =
          walk_link lib (s.walk_input input) .start ⟨link.with_assignment id sequence, some now⟩ := by
      simp [record, hlinks, walk_links, walk_input]
    rw [explained_iff, hrecorded, hwalk, if_pos ⟨rfl, rfl⟩]
    refine ⟨?_, rfl⟩
    simp [Walk.Accepting, Walk.start, Except.isOk, Except.toBool]
  | Upgrade =>
    rw [hkind] at hkinds
    obtain ⟨-, payload, -, -, -, ⟨hseen, -⟩ | ⟨-, hnonempty, -⟩⟩ := validate_upgrade_ok hkinds
    · cases hseen
    · exact absurd rfl hnonempty
  | Revocation =>
    rw [hkind] at hkinds
    obtain ⟨-, payload, -, -, ⟨hseen, -⟩ | ⟨-, -, target, htarget, -⟩⟩ := validate_revocation_ok hkinds
    · cases hseen
    · cases htarget

theorem Explained.record_append {s' : Ledger DateTime} {promotes : Bool} (h : s.Explained lib input)
    (hlinks : s.links ≠ []) (hs' : s'.links = s.links)
    (hnew : link.kind ≠ .Boot → signed_payload_seen link s.prior = false)
    (hrebuild : rebuild_context lib (s'.walk_input input) link s.prior (some (s.row_pcrs, s.row_image_digest)) = .ok
      (pcrs, digest, promotes))
    (haccepted : validate_chain_link lib link (input.context pcrs digest s.prior) now input.debug_mode = .ok
      (.Append sequence))
    (hrow : (s'.row_pcrs, s'.row_image_digest) = if promotes = true then (pcrs, digest) else
      (s.row_pcrs, s.row_image_digest)) :
    (s'.record link now id (.Append sequence)).Explained lib input := by
  obtain ⟨haccepting, hforce⟩ := h.walk_moved hlinks s'
  have hprior : (walk_links lib (s'.walk_input input) s.links).prior = s.prior := walk_links_prior s.links
  have hwalk : walk_link lib (s'.walk_input input) (walk_links lib (s'.walk_input input) s.links)
      ⟨link.with_assignment id sequence, some now⟩ = _ := walk_link_eq pcrs digest promotes (.Append sequence)
    (fun hsigned => by
      rw [hprior] at hsigned
      exact Bool.false_ne_true ((hnew hsigned.1).symm.trans hsigned.2))
    (by rw [hprior, hforce]; exact hrebuild) (by rw [hprior]; exact haccepted)
  have hrecorded : walk_links lib ((s'.record link now id (.Append sequence)).walk_input input)
      (s'.record link now id (.Append sequence)).links =
        walk_link lib (s'.walk_input input) (walk_links lib (s'.walk_input input) s.links)
          ⟨link.with_assignment id sequence, some now⟩ := by
    rw [← walk_links_concat, ← hs']
    rfl
  have hpush {walk : Walk} (haccepting : walk.Accepting) :
      (walk.push (link.with_assignment id sequence) (.ok (.Append sequence))).Accepting := by
    intro outcome houtcome
    rcases List.mem_append.mp houtcome with houtcome | houtcome
    · exact haccepting outcome houtcome
    · obtain rfl := List.mem_singleton.mp houtcome
      rfl
  rw [explained_iff, hrecorded, hwalk]
  change _ ∧ _ = some (s'.row_pcrs, s'.row_image_digest)
  rw [hrow]
  cases promotes with
  | true => exact ⟨hpush haccepting, rfl⟩
  | false => exact ⟨hpush haccepting, hforce⟩

theorem Explained.arrive (h : s.Explained lib input) (hlinks : s.links ≠ [])
    (haccepted : validate_chain_link lib link (input.context s.row_pcrs s.row_image_digest s.prior) now
      input.debug_mode = .ok outcome) :
    (s.record link now id outcome).Explained lib input := by
  cases outcome with
  | Dedup => exact h
  | Append sequence =>
    have hrebuild (hkind : link.kind ≠ .Boot) : rebuild_context lib (s.walk_input input) link s.prior
        (some (s.row_pcrs, s.row_image_digest)) = .ok (s.row_pcrs, s.row_image_digest, false) := by
      unfold rebuild_context
      split
      · next hboot => exact absurd hboot hkind
      · rfl
    obtain ⟨doc, -, -, hkinds⟩ := validate_chain_link_ok haccepted
    cases hkind : link.kind with
    | Boot =>
      obtain ⟨-, -, ⟨-, hdedup⟩ | ⟨hother, -⟩⟩ := h.boot_outcome hlinks hkind haccepted
      · cases hdedup
      · exact absurd rfl hother
    | Upgrade =>
      rw [hkind] at hkinds
      obtain ⟨-, payload, -, -, -, ⟨-, hdedup⟩ | ⟨hnew, -⟩⟩ := validate_upgrade_ok hkinds
      · cases hdedup
      · exact h.record_append hlinks rfl (fun _ => hnew) (hrebuild (by rw [hkind]; decide)) haccepted rfl
    | Revocation =>
      rw [hkind] at hkinds
      obtain ⟨-, payload, -, -, ⟨-, hdedup⟩ | ⟨hnew, -⟩⟩ := validate_revocation_ok hkinds
      · cases hdedup
      · exact h.record_append hlinks rfl (fun _ => hnew) (hrebuild (by rw [hkind]; decide)) haccepted rfl

theorem Accepted.genesis (hlinks : s.links = []) (haccepted : validate_chain_link lib link
      (input.context s.row_pcrs s.row_image_digest s.prior) now input.debug_mode = .ok (.Append sequence)) :
    (s.record link now id (.Append sequence)).Accepted lib range input := by
  refine accepted_iff.mpr ⟨?_, explained_genesis hlinks haccepted⟩
  rw [record, hlinks]
  refine (@datable_concat _ _ _ _ [] _).mpr ⟨by simp [Datable], ?_⟩
  -- the first link has nothing before it that could explain it
  intro p target hexplaining
  unfold explaining at hexplaining
  rw [if_pos (.inr rfl)] at hexplaining
  cases hexplaining

theorem Accepted.arrive (h : s.Accepted lib range input) (hlinks : s.links ≠ []) (haccepted : validate_chain_link lib
      link (input.context s.row_pcrs s.row_image_digest s.prior) now input.debug_mode = .ok outcome) :
    (s.record link now id outcome).Accepted lib range input := by
  obtain ⟨hdatable, hexplained⟩ := accepted_iff.mp h
  refine accepted_iff.mpr ⟨?_, hexplained.arrive hlinks haccepted⟩
  cases outcome with
  | Dedup => exact hdatable
  | Append sequence =>
    refine datable_concat.mpr ⟨hdatable, movable_of_signed fun hkind => ?_⟩
    obtain ⟨-, -, ⟨-, hdedup⟩ | ⟨hother, -⟩⟩ := hexplained.boot_outcome hlinks hkind haccepted
    · cases hdedup
    · exact hother rfl

end Ledger

namespace sample

variable (image_digest : String)

def promotion : Event Int :=
  .promote ⟨(stored 1 .Upgrade 1 [1]).with_assignment 1 1, some 0⟩ (upgrade image_digest) (stored 2 .Boot 2 [2])
    (boot 2 image_digest true) 0 2

end sample

end enclavia.protocol.chain
