import Enclavia.Protocol.Upgrades.Walk

namespace enclavia.protocol.chain

variable {DateTime : Type} {lib : ChainLibrary DateTime} {input : WalkInput DateTime}
  {prior : List ChainLink} {link : ChainLink}
  {r : RecordedLink DateTime} {payload : RevocationPayload DateTime} {links : List (RecordedLink DateTime)}

theorem Walked.genesis_boot {version : Version} (hwalked : Walked lib input [r] version) :
    r.link.kind = .Boot ∧ ∃ payload, decode_canonical lib.boots r.link.payload = .ok payload := by
  generalize hlinks : [r] = links at hwalked
  cases hwalked with
  | genesis hboot hdecoded =>
    cases hlinks
    exact ⟨hboot, _, hdecoded⟩
  | step hwalked =>
    have hlen := congrArg List.length hlinks
    have hpos := List.length_pos_iff.mpr hwalked.ne_nil
    rw [List.length_singleton, List.length_append, List.length_singleton] at hlen
    omega

theorem accepted_at {earlier later : List (RecordedLink DateTime)}
    (h : (walk_links lib input (earlier ++ r :: later)).Accepting) (hkind : r.link.kind ≠ .Boot) :
    ∃ version, (walk_links lib input earlier).InForce version ∧
      Accepted lib input (earlier.map (·.link)) version r.link version := by
  rw [← List.singleton_append, ← List.append_assoc] at h
  have haccepting := accepting_of_append h
  have hearlier : earlier ≠ [] := by
    rintro rfl
    obtain ⟨version, hwalked, -⟩ := @walked_genesis _ lib input r haccepting
    exact hkind hwalked.genesis_boot.1
  obtain ⟨version, hwalked, hforce⟩ := walked_of_accepting hearlier (accepting_of_append haccepting)
  rw [walk_links_concat] at haccepting
  exact ⟨version, hforce, (accepted_signed (walk_links_prior earlier) hforce hkind haccepting).1⟩

theorem Accepted.upgrades {version version' : Version} (h : Accepted lib input prior version link version')
    (hkind : link.kind = .Upgrade) :
    Upgrades lib input prior version link := by
  cases h with
  | upgrade hupgrades => exact hupgrades
  | revocation hrevokes => cases hkind.symm.trans hrevokes.kind
  | reboot hboot | rebuild hboot | promotion hboot => cases hkind.symm.trans hboot

theorem Accepted.revokes {version version' : Version} (h : Accepted lib input prior version link version')
    (hkind : link.kind = .Revocation) (hdecoded : decode_canonical lib.revocations link.payload = .ok payload) :
    Revokes lib prior link payload := by
  cases h with
  | revocation hrevokes =>
    cases hdecoded.symm.trans hrevokes.decoded
    exact hrevokes
  | upgrade hupgrades => cases hkind.symm.trans hupgrades.kind
  | reboot hboot | rebuild hboot | promotion hboot => cases hkind.symm.trans hboot

theorem signed_payload_seen_eq_false :
    signed_payload_seen link prior = false ↔ ∀ l ∈ prior, l.kind = link.kind → l.payload ≠ link.payload := by
  simp [signed_payload_seen]

theorem upgrade_unique (h : (walk_links lib input links).Accepting) {u v : RecordedLink DateTime} (hu : u ∈ links)
    (hv : v ∈ links) (hukind : u.link.kind = .Upgrade) (hvkind : v.link.kind = .Upgrade)
    (hpayload : u.link.payload = v.link.payload) : u.link = v.link := by
  have hfirst {earlier later : List (RecordedLink DateTime)} {r e : RecordedLink DateTime}
      (h : (walk_links lib input (earlier ++ r :: later)).Accepting) (hkind : r.link.kind = .Upgrade)
      (he : e ∈ earlier) (hekind : e.link.kind = .Upgrade) : e.link.payload ≠ r.link.payload := by
    obtain ⟨version, -, haccepted⟩ := accepted_at h (by rw [hkind]; decide)
    have hfresh := signed_payload_seen_eq_false.mp (haccepted.upgrades hkind).fresh
    exact hfresh e.link (List.mem_map_of_mem he) (hekind.trans hkind.symm)
  obtain ⟨earlier, later, rfl⟩ := List.append_of_mem hu
  rcases List.mem_append.mp hv with hv | hv
  · exact absurd hpayload.symm (hfirst h hukind hv hvkind)
  rcases List.mem_cons.mp hv with rfl | hv
  · rfl
  · obtain ⟨between, rest, rfl⟩ := List.append_of_mem hv
    rw [← List.cons_append, ← List.append_assoc] at h
    exact absurd hpayload (hfirst h hvkind (by simp) hukind)

theorem revocation_names_id (h : (walk_links lib input links).Accepting)
    (hcollision_free : ∀ a ∈ links, ∀ b ∈ links, upgrade_link_hash a.link.payload = upgrade_link_hash b.link.payload →
      a.link.payload = b.link.payload)
    {u v : RecordedLink DateTime} (hu : u ∈ links) (hv : v ∈ links) (hukind : u.link.kind = .Upgrade)
    (hvkind : v.link.kind = .Revocation) (hdecoded : decode_canonical lib.revocations v.link.payload = .ok payload)
    (hhash : payload.revokes_link = upgrade_link_hash u.link.payload) : u.link.id = some payload.revokes := by
  obtain ⟨earlier, later, rfl⟩ := List.append_of_mem hv
  obtain ⟨version, -, haccepted⟩ := accepted_at h (by rw [hvkind]; decide)
  obtain ⟨target, hfind, htkind, htarget⟩ := (haccepted.revokes hvkind hdecoded).target
  obtain ⟨t, ht, rfl⟩ := List.mem_map.mp (List.mem_of_find?_eq_some hfind)
  have ht : t ∈ earlier ++ v :: later := List.mem_append_left _ ht
  have hsame := upgrade_unique h hu ht hukind htkind (hcollision_free u hu t ht (hhash.symm.trans htarget))
  rw [hsame]
  simpa using List.find?_some hfind

/-- On a chain that is accepted throughout, a change of the state in force after the genesis is a boot of what an
earlier upgrade leads to, which the control key signed, the version then in force attested, and no revocation cancels
before the boot. -/
theorem change_is_authorised {links before after : List (RecordedLink DateTime)} {r : RecordedLink DateTime}
    (hcollision_free : ∀ a ∈ links, ∀ b ∈ links,
      upgrade_link_hash a.link.payload = upgrade_link_hash b.link.payload → a.link.payload = b.link.payload)
    (hvalid : ∀ outcome ∈ (validate_chain lib input links).outcomes, outcome.isOk = true)
    (hsplit : links = before ++ r :: after) (hgenesis : before ≠ [])
    (hchange : (walk_links lib input (before ++ [r])).in_force ≠ (walk_links lib input before).in_force) :
    r.link.kind = .Boot ∧ ∃ payload target doc earlier u later version,
      decode_canonical lib.boots r.link.payload = .ok payload ∧
      link_attestation lib r.link input.debug_mode = .ok doc ∧
      (walk_links lib input (before ++ [r])).in_force = some (payload.pcrs, payload.image_digest) ∧
      before = earlier ++ u :: later ∧ u.link.kind = .Upgrade ∧
      decode_canonical lib.upgrades u.link.payload = .ok target ∧
      payload.pcrs = image_pcrs_hex target.to ∧ payload.image_digest = target.image_digest ∧
      doc.identity = target.to ∧ SignedBy lib input.control_public_key .UpgradePayload u.link ∧
      (walk_links lib input earlier).InForce version ∧
      (∃ attested, link_attestation lib u.link input.debug_mode = .ok attested ∧
        version.pcrs.to_pcrs = .ok attested.identity.image_pcrs) ∧
      (∀ e ∈ earlier, e.link.kind = .Upgrade → e.link.payload ≠ u.link.payload) ∧
      (∀ v ∈ before, v.link.kind = .Revocation → ∀ revocation,
        decode_canonical lib.revocations v.link.payload = .ok revocation →
          revocation.revokes_link ≠ upgrade_link_hash u.link.payload) ∧
      lib.instant target.valid_from - CLOCK_SKEW_TOLERANCE ≤ lib.instant payload.booted_at ∧
      lib.instant payload.booted_at ≤ lib.instant target.valid_until + CLOCK_SKEW_TOLERANCE := by
  have hvalid : (walk_links lib input links).Accepting := hvalid
  have hprefix : (walk_links lib input (before ++ [r])).Accepting := by
    rw [hsplit, ← List.singleton_append, ← List.append_assoc] at hvalid
    exact accepting_of_append hvalid
  have hbefore := accepting_of_append hprefix
  have hmem {x : RecordedLink DateTime} (hx : x ∈ before) : x ∈ links :=
    hsplit ▸ List.mem_append_left _ hx
  obtain ⟨version, hwalked, hforce⟩ := walked_of_accepting hgenesis hbefore
  obtain ⟨version', haccepted, hforce'⟩ := accepted_of_accepting hwalked hforce hprefix
  cases haccepted with
  | reboot | rebuild | upgrade | revocation => exact absurd (hforce'.1.trans hforce.1.symm) hchange
  | @promotion payload target hkind hpromotes =>
    obtain ⟨doc, hdoc, hidentity⟩ := hpromotes.attested
    obtain ⟨earlier, l, later, hprior, hexplains⟩ := promotion_target_some hpromotes.explained
    obtain ⟨earlier, rest, rfl, rfl, hrest⟩ := List.map_eq_append_iff.mp hprior
    obtain ⟨u, later, rfl, rfl, rfl⟩ := List.map_eq_cons_iff.mp hrest
    obtain ⟨attesting, hattesting, hupgrades⟩ := accepted_at hbefore (by rw [hexplains.kind]; decide)
    have hupgrades := hupgrades.upgrades hexplains.kind
    refine ⟨hkind, payload, target, doc, earlier, u, later, attesting, hpromotes.decoded, hdoc, hforce'.1, rfl,
      hexplains.kind, hexplains.decoded, hexplains.pcrs.symm, hexplains.image_digest.symm, hidentity,
      hupgrades.signed, hattesting, hupgrades.attested, ?_, ?_, Int.not_lt.mp hpromotes.active,
      Int.not_lt.mp hpromotes.unexpired⟩
    · intro e he hekind
      exact signed_payload_seen_eq_false.mp hupgrades.fresh e.link (List.mem_map_of_mem he)
        (hekind.trans hexplains.kind.symm)
    · intro v hv hvkind revocation hdecoded hhash
      have hid := revocation_names_id hvalid hcollision_free (hmem (by simp)) (hmem hv) hexplains.kind hvkind
        hdecoded hhash
      exact hexplains.unrevoked _ hid (mem_revoked_ids (List.mem_map_of_mem hv) hvkind hdecoded)

namespace sample

theorem hash_ne : upgrade_link_hash [1] ≠ upgrade_link_hash [2] := by decide +kernel

theorem history_collision_free : ∀ a ∈ history, ∀ b ∈ history,
    upgrade_link_hash a.link.payload = upgrade_link_hash b.link.payload → a.link.payload = b.link.payload := by
  simp [history, announcement, stored, hash_ne, hash_ne.symm]

theorem history_accepted : ∀ outcome ∈ (validate_chain (history_library "sha256:two") (history_input "sha256:two")
    history).outcomes, outcome.isOk = true := by
  simp [validate_chain, walk_history, announced, Except.isOk, Except.toBool]

end sample

open sample in
/-- The announced upgrade is what the change of PCRs goes back to. -/
theorem change_is_authorised_upgrade :
    ∃ earlier u later, announcement = earlier ++ u :: later ∧ u.link.kind = .Upgrade ∧
      SignedBy (history_library "sha256:two") (some []) .UpgradePayload u.link := by
  have hchange : (walk_links (history_library "sha256:two") (history_input "sha256:two")
      (announcement ++ [⟨stored 2 .Boot 2 [2], none⟩])).in_force ≠
        (walk_links (history_library "sha256:two") (history_input "sha256:two") announcement).in_force := by
    rw [← history, walk_history, walk_announced]
    simp [announced, Walk.push, uniform_pcrs_ne]
  obtain ⟨-, -, -, -, earlier, u, later, -, -, -, -, hsplit, hkind, -, -, -, -, hsigned, -⟩ :=
    change_is_authorised history_collision_free history_accepted rfl (by simp [announcement]) hchange
  exact ⟨earlier, u, later, hsplit, hkind, hsigned⟩

end enclavia.protocol.chain
