import Enclavia.Volume.Completion
import Enclavia.Volume.Walks

open interaction bytes enclavia.protocol enclavia.protocol.kms_policy

namespace enclavia.crypto

/-- What a volume was initialised with: the image that runs, its key, and the passphrase of its slot. -/
structure Provision where
  own : Pcrs
  key_id : String
  ciphertext : String
  passphrase : List UInt8
  slot : Nat

namespace Provision

/-- The blob of the running image, whether or not it has a previous key to delete. -/
structure Old (provision : Provision) (blob : KeyBlob) : Prop where
  version : blob.version = BLOB_VERSION
  key_id : blob.kms_key_id = provision.key_id
  ciphertext : blob.ciphertext = some provision.ciphertext

structure Valid (provision : Provision) (codecs : Codecs) (env : Env) : Prop where
  names : env.names provision.key_id = provision.own
  origin : env.origin provision.key_id = "AWS_KMS"
  policy : verify_decrypt_policy codecs.policy_from_str (env.policy provision.key_id) provision.own = .ok ()
  wraps : Wraps codecs env provision.key_id provision.ciphertext provision.passphrase
  length : provision.passphrase.length = PASSPHRASE_BYTES

/-- What holds of the world as long as only the one image runs: the stored blob is its own or one for another image,
its slot is live, and a rollback goes back to its blob and leaves its slot alone. -/
structure Inv (provision : Provision) (codecs : Codecs) (env : Env) (w : World) : Prop where
  image : w.image = provision.own
  blob : ∃ blob, w.blob = codecs.to_vec blob ∧
    (provision.Old blob ∨ env.names blob.kms_key_id ≠ provision.own ∧ blob.ciphertext ≠ none)
  slot : w.slots provision.slot = some provision.passphrase
  stash : ∀ stash, w.stash = some (.whole stash) →
    (∃ blob, stash.pre_prepare_blob = codecs.to_vec blob ∧ provision.Old blob) ∧ stash.new_keyslot ≠ provision.slot

end Provision

/-- The stored blob is under a key of the running image, not under that of a prepared upgrade. -/
def HoldsOldKey (codecs : Codecs) (env : Env) (own : Pcrs) (w : World) : Prop :=
  ∃ blob, codecs.from_slice w.blob = .ok blob ∧ env.names blob.kms_key_id = own

section Histories

variable {provision : Provision} {codecs : Codecs} {env : Env} {w w' : World} {n : Nat} {blob : KeyBlob}

namespace Provision.Inv

theorem congr (h : provision.Inv codecs env w) (himage : w'.image = w.image) (hblob : w'.blob = w.blob)
    (hslots : w'.slots provision.slot = w.slots provision.slot) (hstash : w'.stash = w.stash) :
    provision.Inv codecs env w' :=
  ⟨himage.trans h.image, hblob ▸ h.blob, hslots.trans h.slot, hstash ▸ h.stash⟩

theorem same (h : provision.Inv codecs env w) (hsame : World.Same w w') : provision.Inv codecs env w' :=
  h.congr hsame.image hsame.blob (congrFun hsame.slots _) hsame.stash

theorem removed (h : provision.Inv codecs env w) {file : Option StashFile}
    (hfile : ∀ stash, file ≠ some (.whole stash)) :
    provision.Inv codecs env { w with stash := file } :=
  ⟨h.image, h.blob, h.slot, fun stash hstash => absurd hstash (hfile stash)⟩

theorem put (h : provision.Inv codecs env w)
    (hblob : provision.Old blob ∨ env.names blob.kms_key_id ≠ provision.own ∧ blob.ciphertext ≠ none) :
    provision.Inv codecs env { w with blob := codecs.to_vec blob } :=
  ⟨h.image, ⟨blob, rfl, hblob⟩, h.slot, h.stash⟩

theorem old_of_names (h : provision.Inv codecs env w) (hblob : codecs.from_slice w.blob = .ok blob)
    (hnames : env.names blob.kms_key_id = w.image) : w.blob = codecs.to_vec blob ∧ provision.Old blob := by
  obtain ⟨blob', hraw, hcases⟩ := h.blob
  rw [hraw, codecs.from_slice_to_vec] at hblob
  cases hblob
  refine ⟨hraw, hcases.resolve_right ?_⟩
  rintro ⟨hother, -⟩
  exact hother (hnames.trans h.image)

end Provision.Inv

abbrev KeepsProvision {α : Type} (provision : Provision) (codecs : Codecs) (env : Env) (p : Proc α) (w : World) :
    Prop :=
  Program.Guards (World.Step env) (fun w _ => provision.Inv codecs env w) (fun _ w => provision.Inv codecs env w) p w

theorem KeepsProvision.of_untouched {α : Type} {p : Proc α} {post : α → World → Prop}
    (hinv : provision.Inv codecs env w) (h : Program.Guards (World.Step env) (Untouched w) post p w) :
    Program.Guards (World.Step env) (fun w _ => provision.Inv codecs env w) post p w :=
  h.mono (fun _ _ huntouched => hinv.same huntouched.1) fun _ _ => id

theorem Provision.keeps :
    Keeps (fun s _ => provision.Inv codecs env s.world) fun s => provision.Inv codecs env s.world :=
  ⟨fun _ _ h _ => h, fun _ _ h => h.same⟩

theorem prepare_upgrade_keeps_provision {args : PrepareUpgrade} {s : State} (hhonest : env.honest)
    (hother : env.names args.new_key_id ≠ provision.own) (h : provision.Inv codecs env s.world) :
    Program.Guards (State.Step env) (fun s _ => provision.Inv codecs env s.world)
      (fun _ s => provision.Inv codecs env s.world) (prepare_upgrade codecs args) s := by
  refine Provision.keeps.prepare_upgrade h ?_
  intro t prepared n ht _ hready hfree
  have hne : n ≠ provision.slot := (luks.ne_of_free hfree ht.slot).symm
  obtain ⟨hraw, hblob, -⟩ := hready.blob hhonest
  rw [← hready.same.blob] at hraw hblob
  obtain ⟨hvec, hold⟩ := ht.old_of_names hblob ((hready.named hhonest).trans hready.same.image.symm)
  have hstashed : provision.Inv codecs env
      { t.world with stash := some (.whole ⟨codecs.from_utf8_lossy prepared.raw, n⟩) } := by
    refine ⟨ht.image, ht.blob, ht.slot, ?_⟩
    intro stash hwhole
    cases hwhole
    exact ⟨⟨prepared.blob, by rw [hraw, hvec, codecs.from_utf8_lossy_to_vec], hold⟩, hne⟩
  exact Keeps.add_new_key (A := fun t => provision.Inv codecs env t.world) (fun _ _ => id) (fun _ => id)
    (fun _ h => h.removed nofun) (fun _ h _ => h.congr rfl rfl (luks.kill_slot_of_ne hne.symm) rfl)
    (fun _ h _ => h.put (.inr ⟨hother, nofun⟩)) ht hready (fun _ => ht.removed) hstashed
    (hstashed.congr rfl rfl (luks.add_key_of_ne hne.symm) rfl)

theorem revoke_upgrade_keeps_provision {s : State} (h : provision.Inv codecs env s.world) :
    Program.Guards (State.Step env) (fun s _ => provision.Inv codecs env s.world)
      (fun _ s => provision.Inv codecs env s.world) (revoke_upgrade codecs) s := by
  refine Provision.keeps.revoke_upgrade h ?_
  intro t stash passphrase ht _ _ hwhole _ _
  obtain ⟨⟨blob, hblob, hold⟩, hne⟩ := h.stash stash hwhole
  refine Provision.keeps.roll_back ht ht (fun _ => ht.congr rfl rfl (luks.kill_slot_of_ne hne.symm) rfl) ?_
  intro slots key _ _ hslots
  rw [hblob]
  exact ⟨hslots.put (.inl hold), (hslots.put (.inl hold)).removed nofun⟩

theorem delete_previous_keeps_provision (hold : provision.Old blob) (h : provision.Inv codecs env w) :
    KeepsProvision provision codecs env (delete_previous codecs blob) w := by
  unfold delete_previous
  split
  · exact h
  refine ⟨h, ?_⟩
  rintro (message | _) w₁ hschedule
  · exact h.same (hschedule.same trivial)
  have h₁ := h.same (hschedule.same trivial)
  refine ⟨h₁, ?_⟩
  have hput : ∀ w₂, w₂ = { w₁ with blob := codecs.to_vec { blob with prev_key_id := none } } ∨ w₂ = w₁ →
      provision.Inv codecs env w₂ := by
    rintro w₂ (rfl | rfl)
    · exact h₁.put (.inl ⟨hold.version, hold.key_id, hold.ciphertext⟩)
    · exact h₁
  rintro (message | _) w₂ hmeta
  · exact hput w₂ (hmeta.meta_put.imp id And.left)
  · exact hput w₂ (hmeta.meta_put.imp id And.left)

theorem init_keeps_provision (hhonest : env.honest) (h : provision.Inv codecs env w) :
    KeepsProvision provision codecs env (init codecs) w := by
  refine ⟨h, ?_⟩
  rintro (message | raw) w₁ hget
  · exact h.same (hget.same trivial)
  have h₁ := h.same (hget.same trivial)
  obtain rfl : raw = w₁.blob := by
    rw [(hget.same trivial).blob]
    rcases hget with ⟨-, htrusted⟩ | ⟨⟨message, hmessage⟩, -⟩
    · exact Except.ok.inj (htrusted hhonest)
    · cases hmessage
  dsimp only
  split
  · exact h₁
  · next blob hparse =>
    obtain ⟨hblob, -⟩ := parse_blob_ok hparse
    refine (KeepsProvision.of_untouched h₁ (guards_of_quiet verify_key_policy_quiet (World.Same.refl w₁))).bind ?_
    rintro (message | _) w₂ hsame₂
    · exact h₁.same hsame₂
    have h₂ := h₁.same hsame₂
    obtain ⟨blob', hraw, hcases⟩ := h₁.blob
    rw [hraw, codecs.from_slice_to_vec] at hblob
    cases hblob
    obtain ⟨ct, hct⟩ : ∃ ct, blob.ciphertext = some ct := by
      rcases hcases with hold | ⟨-, hsome⟩
      · exact ⟨_, hold.ciphertext⟩
      · exact Option.ne_none_iff_exists'.mp hsome
    refine (KeepsProvision.of_untouched h₂ (boot_passphrase_guards hct (World.Same.refl w₂))).bind ?_
    rintro (message | ⟨passphrase, found⟩) w₃ ⟨hsame₃, hfound⟩
    · exact h₂.same hsame₃
    obtain ⟨hfound, hnamed⟩ := hfound _ rfl
    obtain rfl : found = blob := hfound
    have hold : provision.Old found := by
      refine hcases.resolve_right ?_
      rintro ⟨hother, -⟩
      exact hother ((hnamed hhonest).1.trans h₂.image)
    refine ⟨h₂.same hsame₃, ?_⟩
    rintro (message | _) w₄ hfile
    · exact (h₂.same hsame₃).same (hfile.same trivial)
    · exact delete_previous_keeps_provision hold ((h₂.same hsame₃).same (hfile.same trivial))

structure Provision.Governs (provision : Provision) (env : Env) (rules : Rules) : Prop where
  images : ∀ image, rules.images image → image = provision.own
  targets : ∀ s args, rules.commands s (.prepare_upgrade args) → env.names args.new_key_id ≠ provision.own

theorem Provision.Inv.of_reaches {rules : Rules} (hhonest : env.honest) (hgoverns : provision.Governs env rules)
    {m₀ m : Machine} (hidle : m₀.running = none) (hinit : provision.Inv codecs env m₀.state.world)
    (hreaches : Machine.Reaches codecs env rules m₀ m) : provision.Inv codecs env m.state.world := by
  refine (Machine.invariant (I := fun _ s _ => provision.Inv codecs env s.world) ?_ (fun _ _ _ => id) ?_ ?_ hidle hinit
    hreaches).1
  · intro s command hs hrule _
    cases command with
    | init => exact guards_state (s := { s with began := s.world }) (init_keeps_provision hhonest hs)
    | prepare_upgrade args => exact prepare_upgrade_keeps_provision hhonest (hgoverns.targets s args hrule) hs
    | revoke_upgrade => exact revoke_upgrade_keeps_provision hs
  · intro s key hs _ _
    exact hs.same World.same_with_file
  · intro s image hs himage
    exact ⟨hgoverns.images image himage, hs.blob, hs.slot, nofun⟩

def Recovered (result : Except String Unit) (w : World) : Prop :=
  result = .ok () ∧ ∃ passphrase, w.files .luks = some passphrase ∧ luks.Opens w.slots passphrase

theorem delete_previous_ends (h : ∃ p, w.files .luks = some p ∧ luks.Opens w.slots p) :
    Program.Ends (World.Works env) Recovered (delete_previous codecs blob) w := by
  unfold delete_previous
  split
  · exact ⟨rfl, h⟩
  · exact (Program.ends_act World.works_schedule_deletion).mpr ((Program.ends_act World.works_meta_put).mpr ⟨rfl, h⟩)

theorem unwrap_ends {key_id ciphertext what : String} {p : List UInt8} (hnames : env.names key_id = w.image)
    (hwraps : Wraps codecs env key_id ciphertext p) (hlength : p.length = PASSPHRASE_BYTES) :
    Program.Ends (World.Works env) (fun result w' => result = .ok p ∧ w' = w) (unwrap codecs key_id ciphertext what)
      w := by
  obtain ⟨ct, hct, hdecrypt⟩ := hwraps
  rw [unwrap, hct]
  refine (Program.ends_act (World.works_decrypt hnames hdecrypt)).mpr ?_
  dsimp only
  rw [if_neg (not_not.mpr hlength)]
  exact ⟨rfl, rfl⟩

theorem init_ends_of_old (hvalid : provision.Valid codecs env) (h : provision.Inv codecs env w)
    (hkey : HoldsOldKey codecs env provision.own w) :
    Program.Ends (World.Works env) Recovered (init codecs) w := by
  obtain ⟨blob, hblob, hnames⟩ := hkey
  obtain ⟨hraw, hold⟩ := h.old_of_names hblob (hnames.trans h.image.symm)
  have hparse : parse_blob codecs "bootstrap key blob missing — backend must write it before launch" w.blob =
      .ok blob := by
    rw [parse_blob, if_neg (hraw ▸ codecs.to_vec_ne_nil blob), hblob]
    exact if_neg (not_not.mpr hold.version)
  refine (Program.ends_act World.works_meta_get).mpr ?_
  dsimp only
  rw [hparse]
  refine Program.Ends.bind (fun result w' => result = .ok () ∧ w' = w) ?_ ?_
  · refine (Program.ends_act World.works_own_pcrs).mpr ((Program.ends_act World.works_key_origin).mpr ?_)
    dsimp only
    rw [hold.key_id, h.image, if_neg (not_not.mpr hvalid.origin)]
    refine (Program.ends_act World.works_key_policy).mpr ?_
    dsimp only
    rw [hvalid.policy]
    exact ⟨rfl, rfl⟩
  rintro result w' ⟨rfl, rfl⟩
  refine Program.Ends.bind (fun result w => result = .ok (provision.passphrase, blob) ∧ w = w') ?_ ?_
  · unfold boot_passphrase
    simp only [hold.ciphertext, hold.key_id]
    refine (unwrap_ends (hvalid.names.trans h.image.symm) hvalid.wraps hvalid.length).bind _ ?_
    rintro result w ⟨rfl, rfl⟩
    exact ⟨rfl, rfl⟩
  rintro result w ⟨rfl, rfl⟩
  refine (Program.ends_act World.works_write_keyfile).mpr (delete_previous_ends ?_)
  exact ⟨provision.passphrase, rfl, provision.slot, h.slot⟩

theorem init_not_ends_of_other (h : provision.Inv codecs env w) (hkey : ¬HoldsOldKey codecs env provision.own w) :
    ¬Program.Ends (World.Works env) Recovered (init codecs) w := by
  obtain ⟨blob, hraw, hcases⟩ := h.blob
  have hblob : codecs.from_slice w.blob = .ok blob := by rw [hraw, codecs.from_slice_to_vec]
  have hnames : env.names blob.kms_key_id ≠ provision.own := fun hnames => hkey ⟨blob, hblob, hnames⟩
  have hdenied : ∀ plaintext ct,
    ¬(env.names blob.kms_key_id = w.image ∧ env.decrypt blob.kms_key_id ct = some plaintext) :=
    fun plaintext ct hpermits => hnames (hpermits.1.trans h.image)
  intro hends
  have hafter := (Program.ends_act World.works_meta_get).mp hends
  dsimp only at hafter
  split at hafter
  · cases hafter.1
  · next blob' hparse =>
    obtain ⟨hblob', -⟩ := parse_blob_ok hparse
    rw [hblob] at hblob'
    cases hblob'
    replace hafter := (Program.ends_act World.works_own_pcrs).mp hafter
    replace hafter := (Program.ends_act World.works_key_origin).mp hafter
    dsimp only at hafter
    split at hafter
    · cases hafter.1
    replace hafter := (Program.ends_act World.works_key_policy).mp hafter
    dsimp only at hafter
    split at hafter
    · cases hafter.1
    obtain ⟨ct, hct⟩ : ∃ ct, blob.ciphertext = some ct := by
      rcases hcases with hold | ⟨-, hsome⟩
      · exact ⟨_, hold.ciphertext⟩
      · exact Option.ne_none_iff_exists'.mp hsome
    simp only [Program.bind, boot_passphrase, hct, unwrap] at hafter
    split at hafter
    · cases hafter.1
    · next c hc =>
      have hrefused := hafter.2 (.error "AccessDeniedException") w
        ⟨rfl, .inr ⟨fun hpermits => hpermits.elim fun plaintext h => hdenied plaintext c h, _, rfl⟩⟩
      cases hrefused.1

/-- In every history of the one image, it recovers a passphrase that opens the volume after a reboot exactly if the
stored blob is still under its own key. -/
theorem reboot_recovers_iff {rules : Rules} (hhonest : env.honest) (hgoverns : provision.Governs env rules)
    (hvalid : provision.Valid codecs env) {m₀ m : Machine} (hidle : m₀.running = none)
    (hinit : provision.Inv codecs env m₀.state.world) (hreaches : Machine.Reaches codecs env rules m₀ m) :
    Program.Ends (World.Works env) Recovered (init codecs) (m.state.reboot provision.own).world ↔
      HoldsOldKey codecs env provision.own m.state.world := by
  have hinv := Provision.Inv.of_reaches hhonest hgoverns hidle hinit hreaches
  have hrebooted : provision.Inv codecs env (m.state.reboot provision.own).world :=
    ⟨rfl, hinv.blob, hinv.slot, nofun⟩
  constructor
  · intro hends
    by_contra hkey
    exact init_not_ends_of_other hrebooted hkey hends
  · exact fun hkey => init_ends_of_old hvalid hrebooted hkey

end Histories

namespace sample

def provision : Provision := ⟨image, "current", hex_encode (1 :: passphrase), passphrase, 0⟩

def upgrading : Rules :=
  ⟨fun _ command => ∀ args, command = .prepare_upgrade args → args.new_key_id = "next", (· = image)⟩

theorem valid : provision.Valid codecs env where
  names := rfl
  origin := rfl
  policy := by decide +kernel
  wraps := wraps_blob
  length := by decide

theorem provisioned : provision.Inv codecs env world where
  image := rfl
  blob := ⟨blob, rfl, .inl ⟨rfl, rfl, rfl⟩⟩
  slot := rfl
  stash := nofun

theorem governs : provision.Governs env upgrading where
  images _ := id
  targets s args hrule := by
    have hkey : args.new_key_id = "next" := hrule args rfl
    rw [hkey]
    decide

theorem reaches_upgrading : ∃ s, Machine.Reaches codecs env upgrading machine { state := s, running := none } ∧
    s.world = upgraded ∧ s.opened = some passphrase := by
  refine reaches_upgraded upgrading ?_
  rintro args hargs
  cases hargs
  rfl

theorem upgraded_not_holdsOldKey : ¬HoldsOldKey codecs env image upgraded := by
  rintro ⟨blob, hblob, hnames⟩
  have heq : blob = upgraded_blob codecs "next" prepared :=
    Except.ok.inj (hblob.symm.trans (from_slice_to_vec (upgraded_blob codecs "next" prepared)))
  subst heq
  exact absurd hnames (by decide)

end sample

/-- An upgrade has been prepared, and the next image boots. -/
theorem reboot_recovers_iff_prepared :
    ∃ s, Machine.Reaches sample.codecs sample.env sample.upgrading sample.machine { state := s, running := none } ∧
      s.world = sample.upgraded ∧
        (Program.Ends (World.Works sample.env) Recovered (init sample.codecs) (s.reboot sample.image).world ↔
          HoldsOldKey sample.codecs sample.env sample.image s.world) := by
  obtain ⟨s, hreaches, hworld, -⟩ := sample.reaches_upgrading
  exact ⟨s, hreaches, hworld,
    reboot_recovers_iff trivial sample.governs sample.valid rfl sample.provisioned hreaches⟩

/-- With an upgrade prepared, the image doesn't come up again. -/
theorem prepared_upgrade_stops_reboot :
    ∃ s, Machine.Reaches sample.codecs sample.env sample.upgrading sample.machine { state := s, running := none } ∧
      ¬Program.Ends (World.Works sample.env) Recovered (init sample.codecs) (s.reboot sample.image).world := by
  obtain ⟨s, hreaches, hworld, -⟩ := sample.reaches_upgrading
  have hinv := Provision.Inv.of_reaches trivial sample.governs rfl sample.provisioned hreaches
  refine ⟨s, hreaches, init_not_ends_of_other ⟨rfl, hinv.blob, hinv.slot, nofun⟩ ?_⟩
  change ¬HoldsOldKey sample.codecs sample.env sample.image s.world
  rw [hworld]
  exact sample.upgraded_not_holdsOldKey

end enclavia.crypto
