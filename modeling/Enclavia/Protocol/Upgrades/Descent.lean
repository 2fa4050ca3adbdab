import Enclavia.Protocol.Upgrades.Promotions
import Enclavia.Protocol.Upgrades.Settings
import Mathlib.Logic.Relation

namespace enclavia.protocol.chain

variable {DateTime : Type} (lib : ChainLibrary DateTime) (input : WalkInput DateTime)

def BootsWith (r : RecordedLink DateTime) (state : Pcrs) : Prop :=
  ∃ payload, boot_payload lib r.link = some payload ∧ payload.pcrs.to_pcrs = .ok state

def LeadsTo (links : List (RecordedLink DateTime)) (state next : Pcrs) : Prop :=
  ∃ before boot after u doc target, links = before ++ boot :: after ∧ BootsWith lib boot next ∧ u ∈ before ∧
    u.link.kind = .Upgrade ∧ link_attestation lib u.link input.debug_mode = .ok doc ∧
    doc.identity.image_pcrs = state ∧ decode_canonical lib.upgrades u.link.payload = .ok target ∧
    target.to.image_pcrs = next ∧ ∀ id, u.link.id = some id → id ∉ revoked_ids lib (before.map (·.link))

def Descends (links : List (RecordedLink DateTime)) : Pcrs → Pcrs → Prop :=
  Relation.ReflTransGen (LeadsTo lib input links)

def install (current : Option (BootPayload DateTime)) (r : RecordedLink DateTime) : Option (BootPayload DateTime) :=
  match boot_payload lib r.link, current with
  | none, _ => current
  | some payload, none => some payload
  | some payload, some before => if payload.image_digest = before.image_digest then current else some payload

def installed (links : List (RecordedLink DateTime)) : Option (BootPayload DateTime) :=
  links.foldl (install lib) none

/-- A boot with a new digest descends from the version that it takes over from. -/
def TakesOver (links : List (RecordedLink DateTime)) : Prop :=
  ∀ before r after current payload state next, links = before ++ r :: after → installed lib before = some current →
    boot_payload lib r.link = some payload → current.pcrs.to_pcrs = .ok state → payload.pcrs.to_pcrs = .ok next →
    if payload.image_digest = current.image_digest then Descends lib input (before ++ [r]) next state
    else Descends lib input (before ++ [r]) state next

variable {lib input} {links : List (RecordedLink DateTime)} {link : ChainLink} {version : Version} {position : Nat}

theorem Descends.append {state next : Pcrs} (h : Descends lib input links state next)
    (rest : List (RecordedLink DateTime)) :
    Descends lib input (links ++ rest) state next := by
  refine Relation.ReflTransGen.mono (fun a b hleads => ?_) _ _ h
  obtain ⟨before, boot, after, u, doc, target, rfl, hrest⟩ := hleads
  exact ⟨before, boot, after ++ rest, u, doc, target, by simp, hrest⟩

theorem boot_payload_eq_some {payload : BootPayload DateTime} :
    boot_payload lib link = some payload ↔
      link.kind = .Boot ∧ decode_canonical lib.boots link.payload = .ok payload := by
  unfold boot_payload
  split
  · next hkind =>
    cases decode_canonical lib.boots link.payload <;> simp [hkind, Except.toOption]
  · next hkind => simp [hkind]

theorem boot_payload_signed (hkind : link.kind ≠ .Boot) : boot_payload lib link = none := by
  rw [boot_payload, if_neg hkind]

/-- The version that is in force has the PCRs and the digest of the boot that the list leaves in force, and the PCRs of
every boot on the way can be read. -/
structure Walked.Inv (lib : ChainLibrary DateTime) (links : List (RecordedLink DateTime)) (version : Version) :
    Prop where
  installed : ∃ current, installed lib links = some current ∧ current.pcrs = version.pcrs ∧
    current.image_digest = version.image_digest
  booted : ∃ r ∈ links, ∃ payload, boot_payload lib r.link = some payload ∧ payload.pcrs = version.pcrs
  readable : ∃ state, version.pcrs.to_pcrs = .ok state
  boots : ∀ r ∈ links, r.link.kind = .Boot → ∃ state, BootsWith lib r state

theorem installed_concat (links : List (RecordedLink DateTime)) (r : RecordedLink DateTime) :
    installed lib (links ++ [r]) = install lib (installed lib links) r := by
  simp [installed]

theorem Walked.inv (hwalked : Walked lib input links version) : Walked.Inv lib links version := by
  induction hwalked with
  | @genesis r payload doc hkind hdecoded hdoc hpcrs =>
    have hboot : boot_payload lib r.link = some payload := boot_payload_eq_some.mpr ⟨hkind, hdecoded⟩
    refine ⟨⟨payload, ?_, rfl, rfl⟩, ⟨r, List.mem_singleton_self _, payload, hboot, rfl⟩, ⟨_, hpcrs⟩, ?_⟩
    · simp [installed, install, hboot]
    · intro r' hr' _
      obtain rfl := List.mem_singleton.mp hr'
      exact ⟨_, payload, hboot, hpcrs⟩
  | @step links version version' r _ haccepted ih =>
    obtain ⟨⟨current, hinstalled, hcurrent_pcrs, hcurrent_digest⟩, ⟨b, hb, hbooted⟩, ⟨state, hreadable⟩, hboots⟩ := ih
    have hbefore : ∃ r' ∈ links ++ [r], ∃ payload, boot_payload lib r'.link = some payload ∧
        payload.pcrs = version.pcrs := ⟨b, List.mem_append_left _ hb, hbooted⟩
    have hall (hnew : r.link.kind = .Boot → ∃ state, BootsWith lib r state) :
        ∀ r' ∈ links ++ [r], r'.link.kind = .Boot → ∃ state, BootsWith lib r' state := by
      intro r' hr' hkind'
      rcases List.mem_append.mp hr' with hr' | hr'
      · exact hboots r' hr' hkind'
      · obtain rfl := List.mem_singleton.mp hr'
        exact hnew hkind'
    have hsigned (hkind : r.link.kind ≠ .Boot) : Walked.Inv lib (links ++ [r]) version := by
      refine ⟨⟨current, ?_, hcurrent_pcrs, hcurrent_digest⟩, hbefore, ⟨state, hreadable⟩,
        hall fun hboot => absurd hboot hkind⟩
      simp [installed_concat, hinstalled, install, boot_payload_signed hkind]
    cases haccepted with
    | @reboot payload hkind hdecoded hpcrs hdigest =>
      have hboot := boot_payload_eq_some.mpr ⟨hkind, hdecoded⟩
      refine ⟨⟨current, ?_, hcurrent_pcrs, hcurrent_digest⟩, hbefore, ⟨state, hreadable⟩,
        hall fun _ => ⟨state, payload, hboot, hpcrs ▸ hreadable⟩⟩
      simp [installed_concat, hinstalled, install, hboot, hdigest, hcurrent_digest]
    | @rebuild payload target hkind hpromotes hdigest =>
      have hboot := boot_payload_eq_some.mpr ⟨hkind, hpromotes.decoded⟩
      obtain ⟨_, _, _, _, hexplains⟩ := promotion_target_some hpromotes.explained
      refine ⟨⟨current, ?_, hcurrent_pcrs, hcurrent_digest⟩, hbefore, ⟨state, hreadable⟩,
        hall fun _ => ⟨_, payload, hboot, hexplains.pcrs ▸ to_pcrs_image_pcrs_hex _⟩⟩
      simp [installed_concat, hinstalled, install, hboot, hdigest, hcurrent_digest]
    | @promotion payload target hkind hpromotes hdigest =>
      have hboot := boot_payload_eq_some.mpr ⟨hkind, hpromotes.decoded⟩
      obtain ⟨_, _, _, _, hexplains⟩ := promotion_target_some hpromotes.explained
      have hpcrs : payload.pcrs.to_pcrs = .ok target.to.image_pcrs := hexplains.pcrs ▸ to_pcrs_image_pcrs_hex _
      refine ⟨⟨payload, ?_, rfl, rfl⟩, ⟨r, by simp, payload, hboot, rfl⟩, ⟨_, hpcrs⟩,
        hall fun _ => ⟨_, payload, hboot, hpcrs⟩⟩
      simp [installed_concat, hinstalled, install, hboot, hcurrent_digest, hdigest]
    | upgrade hupgrades => exact hsigned (by rw [hupgrades.kind]; decide)
    | revocation hrevokes => exact hsigned (by rw [hrevokes.kind]; decide)

theorem first_invalid_ok {outcomes : List (Except ChainValidationError Outcome)} :
    first_invalid position outcomes = .ok () ↔ ∀ outcome ∈ outcomes, outcome.isOk = true := by
  induction outcomes generalizing position with
  | nil => simp [first_invalid]
  | cons outcome rest ih =>
    cases outcome with
    | error source => simp [first_invalid, Except.isOk, Except.toBool]
    | ok outcome =>
      rw [first_invalid, ih]
      simp [Except.isOk, Except.toBool]

theorem pinned_in_lineage_ok {pinned : Pcrs} {found : Bool}
    (h : pinned_in_lineage lib pinned position links = .ok found) :
    found = true ↔ ∃ r ∈ links, BootsWith lib r pinned := by
  induction links generalizing position found with
  | nil =>
    cases h
    simp
  | cons r rest ih =>
    rw [pinned_in_lineage] at h
    split at h
    · next hkind =>
      rw [ih h]
      simp [BootsWith, boot_payload_signed hkind]
    next hkind =>
    split at h
    · cases h
    next payload hdecoded =>
    split at h
    · cases h
    next state hstate =>
    split at h
    · cases h
    next later hlater =>
    cases h
    have hboot : boot_payload lib r.link = some payload :=
      boot_payload_eq_some.mpr ⟨Decidable.not_not.mp hkind, hdecoded⟩
    simp [ih hlater, BootsWith, hboot, hstate]

theorem pinned_in_lineage_readable (pinned : Pcrs) (position : Nat)
    (hboots : ∀ r ∈ links, r.link.kind = .Boot → ∃ state, BootsWith lib r state) :
    ∃ found, pinned_in_lineage lib pinned position links = .ok found := by
  induction links generalizing position with
  | nil => exact ⟨false, rfl⟩
  | cons r rest ih =>
    obtain ⟨found, hfound⟩ := ih (position + 1) fun r' hr' => hboots r' (List.mem_cons_of_mem _ hr')
    rw [pinned_in_lineage]
    split
    · exact ⟨found, hfound⟩
    next hkind =>
    obtain ⟨state, payload, hboot, hstate⟩ := hboots r List.mem_cons_self (Decidable.not_not.mp hkind)
    rw [(boot_payload_eq_some.mp hboot).2]
    simp [hstate, hfound]

theorem verify_pcr_descent_ok {pinned tip : Pcrs} :
    verify_pcr_descent lib pinned links input = .ok tip ↔ (walk_links lib input links).Accepting ∧
      (∃ version, Walked lib input links version ∧ version.pcrs.to_pcrs = .ok tip) ∧
      ∃ r ∈ links, BootsWith lib r pinned := by
  constructor
  · intro h
    rw [verify_pcr_descent] at h
    split at h
    · cases h
    next hvalid =>
    have haccepting : (walk_links lib input links).Accepting := first_invalid_ok.mp hvalid
    split at h
    · cases h
    next pcrs hpcrs =>
    split at h
    · cases h
    next state hstate =>
    split at h
    · cases h
    · cases h
    next hfound =>
    cases h
    have hmember := (pinned_in_lineage_ok hfound).mp rfl
    obtain ⟨r, hr, -⟩ := hmember
    obtain ⟨version, hwalked, hforce⟩ := walked_of_accepting (List.ne_nil_of_mem hr) haccepting
    refine ⟨haccepting, ⟨version, hwalked, ?_⟩, (pinned_in_lineage_ok hfound).mp rfl⟩
    simp only [validate_chain, hforce.1, Option.map_some, Option.some.injEq] at hpcrs
    rw [hpcrs]
    exact hstate
  · rintro ⟨haccepting, ⟨version, hwalked, htip⟩, hmember⟩
    obtain ⟨version', hwalked', hforce⟩ := walked_of_accepting hwalked.ne_nil haccepting
    obtain ⟨current, hinstalled, hpcrs, -⟩ := hwalked.inv.installed
    obtain ⟨current', hinstalled', hpcrs', -⟩ := hwalked'.inv.installed
    cases hinstalled.symm.trans hinstalled'
    have hvalid : first_invalid 0 (validate_chain lib input links).outcomes = .ok () := first_invalid_ok.mpr haccepting
    have hfinal : (validate_chain lib input links).final_pcrs = some version.pcrs := by
      rw [validate_chain, hforce.1, ← hpcrs', hpcrs]
      rfl
    obtain ⟨found, hfound⟩ := pinned_in_lineage_readable pinned 0 hwalked.inv.boots
    have htrue := (pinned_in_lineage_ok hfound).mpr hmember
    simp [verify_pcr_descent, hvalid, hfinal, htip, hfound, htrue]

theorem TakesOver.descends {tip : Pcrs} (hwalked : Walked lib input links version)
    (htakes : TakesOver lib input links) (htip : version.pcrs.to_pcrs = .ok tip) {r : RecordedLink DateTime}
    {state : Pcrs} (hr : r ∈ links) (hboots : BootsWith lib r state) : Descends lib input links state tip := by
  induction hwalked generalizing r state tip with
  | @genesis r' payload doc hkind hdecoded hdoc hpcrs =>
    obtain rfl := List.mem_singleton.mp hr
    obtain ⟨payload', hboot, hstate⟩ := hboots
    cases (boot_payload_eq_some.mpr ⟨hkind, hdecoded⟩).symm.trans hboot
    cases htip.symm.trans hstate
    exact .refl
  | @step links version version' r' hwalked haccepted ih =>
    have hprefix : TakesOver lib input links := by
      intro before r'' after current payload state next hsplit
      exact htakes before r'' (after ++ [r']) current payload state next (by rw [hsplit]; simp)
    obtain ⟨⟨current, hinstalled, hcurrent_pcrs, hcurrent_digest⟩, -, ⟨old, hold⟩, -⟩ := hwalked.inv
    have hbefore {r : RecordedLink DateTime} {state : Pcrs} (hr : r ∈ links) (hboots : BootsWith lib r state) :
        Descends lib input (links ++ [r']) state old := (ih hprefix hold hr hboots).append [r']
    -- the new boot, when the version in force stays
    have hstays {payload : BootPayload DateTime} (hboot : boot_payload lib r'.link = some payload)
        (hdigest : payload.image_digest = version.image_digest) (hboots : BootsWith lib r' state) :
        Descends lib input (links ++ [r']) state old := by
      obtain ⟨payload', hboot', hstate⟩ := hboots
      cases hboot.symm.trans hboot'
      have htaken := htakes links r' [] current payload old state rfl hinstalled hboot (hcurrent_pcrs ▸ hold) hstate
      rwa [if_pos (hdigest.trans hcurrent_digest.symm)] at htaken
    have hsigned (hkind : r'.link.kind ≠ .Boot) : Descends lib input (links ++ [r']) state old := by
      rcases List.mem_append.mp hr with hr | hr
      · exact hbefore hr hboots
      · obtain rfl := List.mem_singleton.mp hr
        obtain ⟨payload, hboot, -⟩ := hboots
        exact absurd (boot_payload_eq_some.mp hboot).1 hkind
    cases haccepted with
    | @reboot payload hkind hdecoded _ hdigest =>
      cases hold.symm.trans htip
      rcases List.mem_append.mp hr with hr | hr
      · exact hbefore hr hboots
      · obtain rfl := List.mem_singleton.mp hr
        exact hstays (boot_payload_eq_some.mpr ⟨hkind, hdecoded⟩) hdigest hboots
    | @rebuild payload target hkind hpromotes hdigest =>
      cases hold.symm.trans htip
      rcases List.mem_append.mp hr with hr | hr
      · exact hbefore hr hboots
      · obtain rfl := List.mem_singleton.mp hr
        exact hstays (boot_payload_eq_some.mpr ⟨hkind, hpromotes.decoded⟩) hdigest hboots
    | @promotion payload target hkind hpromotes hdigest =>
      have hboot := boot_payload_eq_some.mpr ⟨hkind, hpromotes.decoded⟩
      rcases List.mem_append.mp hr with hr | hr
      · have htaken := htakes links r' [] current payload old tip rfl hinstalled hboot (hcurrent_pcrs ▸ hold) htip
        rw [if_neg fun hsame => hdigest (hsame.trans hcurrent_digest)] at htaken
        exact (hbefore hr hboots).trans htaken
      · obtain rfl := List.mem_singleton.mp hr
        obtain ⟨payload', hboot', hstate⟩ := hboots
        cases hboot.symm.trans hboot'
        cases htip.symm.trans hstate
        exact .refl
    | upgrade hupgrades =>
      cases hold.symm.trans htip
      exact hsigned (by rw [hupgrades.kind]; decide)
    | revocation hrevokes =>
      cases hold.symm.trans htip
      exact hsigned (by rw [hrevokes.kind]; decide)

/-- On a chain that is accepted throughout, the check is right about descent at every point of the history if and only
if each boot with a new digest descends from the version that it takes over from, and that version from each boot that
has its digest. -/
theorem descent_is_real_iff {links : List (RecordedLink DateTime)}
    (haccepting : (walk_links lib input links).Accepting) :
    (∀ upto rest pinned tip, links = upto ++ rest → verify_pcr_descent lib pinned upto input = .ok tip →
      Descends lib input upto pinned tip) ↔ TakesOver lib input links := by
  constructor
  · intro hreal before r after current payload state next hsplit hinstalled hboot hstate hnext
    have hlinks : links = (before ++ [r]) ++ after := by rw [hsplit]; simp
    have hupto : (walk_links lib input (before ++ [r])).Accepting := accepting_of_append (hlinks ▸ haccepting)
    have hbefore : before ≠ [] := by
      rintro rfl
      cases hinstalled
    obtain ⟨version, hwalked, hforce⟩ := walked_of_accepting hbefore (accepting_of_append hupto)
    obtain ⟨version', haccepted, -⟩ := accepted_of_accepting hwalked hforce hupto
    have hinv := hwalked.inv
    have hinv' := (hwalked.step haccepted).inv
    obtain ⟨current', hcurrent', hpcrs, hdigest⟩ := hinv.installed
    cases hinstalled.symm.trans hcurrent'
    obtain ⟨current', hcurrent', hpcrs', -⟩ := hinv'.installed
    simp only [installed_concat, hinstalled, install, hboot] at hcurrent'
    split
    · next hsame =>
      rw [if_pos hsame] at hcurrent'
      cases hcurrent'
      refine hreal _ after next state hlinks
        (verify_pcr_descent_ok.mpr ⟨hupto, ⟨version', hwalked.step haccepted, ?_⟩, ?_⟩)
      · rw [← hpcrs', hstate]
      · exact ⟨r, by simp, payload, hboot, hnext⟩
    · next hnew =>
      rw [if_neg hnew] at hcurrent'
      cases hcurrent'
      refine hreal _ after state next hlinks
        (verify_pcr_descent_ok.mpr ⟨hupto, ⟨version', hwalked.step haccepted, ?_⟩, ?_⟩)
      · rw [← hpcrs', hnext]
      · obtain ⟨b, hb, old, hold, hold_pcrs⟩ := hinv.booted
        exact ⟨b, List.mem_append_left _ hb, old, hold, by rw [hold_pcrs, ← hpcrs, hstate]⟩
  · intro htakes upto rest pinned tip hsplit hverified
    obtain ⟨-, ⟨version, hwalked, htip⟩, r, hr, hboots⟩ := verify_pcr_descent_ok.mp hverified
    refine TakesOver.descends hwalked ?_ htip hr hboots
    intro before r' after current payload state next hsplit'
    exact htakes before r' (after ++ rest) current payload state next (by rw [hsplit, hsplit']; simp)

namespace sample

theorem image_pcrs_ne : (PinIdentity.uniform 2).image_pcrs ≠ (PinIdentity.uniform 1).image_pcrs := by decide +kernel

variable {image_digest : String}

theorem history_accepting :
    (walk_links (history_library image_digest) (history_input image_digest) history).Accepting := by
  rw [walk_history]
  split <;> simp [Walk.Accepting, announced, Except.isOk, Except.toBool]

theorem boot_payload_first :
    boot_payload (history_library image_digest) (stored 0 .Boot 1 [1]) = some (boot 1 "sha256:one" true) := by
  simp [boot_payload, stored, history_library, library, codec, decode_canonical, boot, Except.toOption]

theorem boot_payload_second :
    boot_payload (history_library image_digest) (stored 2 .Boot 2 [2]) = some (boot 2 image_digest true) := by
  simp [boot_payload, stored, history_library, library, codec, decode_canonical, boot, Except.toOption]

theorem boots_second : BootsWith (history_library image_digest) ⟨stored 2 .Boot 2 [2], none⟩
    (PinIdentity.uniform 2).image_pcrs := ⟨_, boot_payload_second, to_pcrs_image_pcrs_hex _⟩

theorem leads_from_first {state next : Pcrs}
    (h : LeadsTo (history_library image_digest) (history_input image_digest) history state next) :
    state = (PinIdentity.uniform 1).image_pcrs := by
  obtain ⟨before, bootlink, after, u, doc, target, hsplit, -, hu, hkind, hdoc, rfl, -⟩ := h
  have hmem : u ∈ history := hsplit ▸ List.mem_append_left _ hu
  simp only [history, announcement, List.cons_append, List.nil_append, List.mem_cons, List.not_mem_nil,
    or_false] at hmem
  rcases hmem with rfl | rfl | rfl
  · cases hkind
  · cases (link_attestation_stored (by decide) ..).symm.trans hdoc
    rfl
  · cases hkind

theorem history_takes_over : TakesOver (history_library "sha256:two") (history_input "sha256:two") history := by
  intro before r after current payload state next hsplit hinstalled hboot hstate hnext
  have hleads : LeadsTo (history_library "sha256:two") (history_input "sha256:two") history
      (PinIdentity.uniform 1).image_pcrs (PinIdentity.uniform 2).image_pcrs := by
    refine ⟨announcement, ⟨stored 2 .Boot 2 [2], none⟩, [], ⟨stored 1 .Upgrade 1 [1], none⟩, _,
      upgrade "sha256:two", rfl, boots_second, by simp [announcement], rfl,
      link_attestation_stored (by decide) .., rfl, ?_, rfl, ?_⟩
    · simp [history_library, library, codec, decode_canonical, upgrade, stored]
    · simp [revoked_ids, announcement, stored]
  rcases before with _ | ⟨a, _ | ⟨b, _ | ⟨c, before⟩⟩⟩
  · cases hinstalled
  · simp only [history, announcement, List.cons_append, List.nil_append, List.cons.injEq] at hsplit
    obtain ⟨-, rfl, -⟩ := hsplit
    cases hboot
  · simp only [history, announcement, List.cons_append, List.nil_append, List.cons.injEq] at hsplit
    obtain ⟨rfl, rfl, rfl, rfl⟩ := hsplit
    have hsigned : boot_payload (history_library "sha256:two") (stored 1 .Upgrade 1 [1]) = none :=
      boot_payload_signed (by simp [stored])
    simp only [installed, List.foldl_cons, List.foldl_nil, install, boot_payload_first, hsigned, Option.some.injEq]
      at hinstalled
    cases boot_payload_second.symm.trans hboot
    subst hinstalled
    cases (to_pcrs_image_pcrs_hex (.uniform 1)).symm.trans hstate
    cases (to_pcrs_image_pcrs_hex (.uniform 2)).symm.trans hnext
    rw [if_neg (by simp [boot])]
    exact .single hleads
  · simp [history, announcement] at hsplit

end sample

open sample in
/-- The rebuild has the digest of the version that it succeeds, which stays in force: pinned to the rebuild, the check
says that its predecessor descends from it. -/
theorem predecessor_verified_as_descendant :
    ∃ pinned tip,
      verify_pcr_descent (history_library "sha256:one") pinned history (history_input "sha256:one") = .ok tip ∧
      tip ≠ pinned ∧ (∀ u ∈ history, u.link.kind = .Upgrade → ∀ doc,
        link_attestation (history_library "sha256:one") u.link false = .ok doc → doc.identity.image_pcrs ≠ pinned) ∧
      ¬Descends (history_library "sha256:one") (history_input "sha256:one") history pinned tip := by
  refine ⟨(PinIdentity.uniform 2).image_pcrs, (PinIdentity.uniform 1).image_pcrs, ?_, image_pcrs_ne.symm, ?_, ?_⟩
  · obtain ⟨version, hwalked, hforce⟩ := walked_of_accepting (by simp [history])
      (@history_accepting "sha256:one")
    refine verify_pcr_descent_ok.mpr ⟨history_accepting, ⟨version, hwalked, ?_⟩, _, by simp [history], boots_second⟩
    rw [Walk.InForce, walk_history, if_pos rfl] at hforce
    have hpcrs : image_pcrs_hex (.uniform 1) = version.pcrs := congrArg Prod.fst (Option.some.inj hforce.1)
    rw [← hpcrs, to_pcrs_image_pcrs_hex]
  · intro u hu hkind doc hdoc
    simp only [history, announcement, List.cons_append, List.nil_append, List.mem_cons, List.not_mem_nil,
      or_false] at hu
    rcases hu with rfl | rfl | rfl
    · cases hkind
    · cases (link_attestation_stored (by decide) ..).symm.trans hdoc
      exact image_pcrs_ne.symm
    · cases hkind
  · intro h
    rcases Relation.ReflTransGen.cases_head h with heq | ⟨next, hleads, -⟩
    · exact image_pcrs_ne heq
    · exact image_pcrs_ne (leads_from_first hleads)

open sample in
/-- An upgrade that was announced and booted. -/
theorem descent_is_real_iff_upgrade :
    Descends (history_library "sha256:two") (history_input "sha256:two") history (PinIdentity.uniform 1).image_pcrs
      (PinIdentity.uniform 2).image_pcrs := by
  obtain ⟨version, hwalked, hforce⟩ := walked_of_accepting (by simp [history]) (@history_accepting "sha256:two")
  refine (descent_is_real_iff history_accepting).mpr history_takes_over history [] _ _ (by simp)
    (verify_pcr_descent_ok.mpr ⟨history_accepting, ⟨version, hwalked, ?_⟩, _, List.mem_cons_self, _, boot_payload_first,
      to_pcrs_image_pcrs_hex _⟩)
  rw [Walk.InForce, walk_history, if_neg (by decide)] at hforce
  have hpcrs : image_pcrs_hex (.uniform 2) = version.pcrs := congrArg Prod.fst (Option.some.inj hforce.1)
  rw [← hpcrs, to_pcrs_image_pcrs_hex]

end enclavia.protocol.chain
