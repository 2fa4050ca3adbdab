import Enclavia.Volume.World

open interaction enclavia.protocol

namespace enclavia.crypto

/-! What `prepare-upgrade` knows when it comes to touch the volume, and `revoke-upgrade` when it kills a slot. -/

variable {codecs : Codecs} {env : Env} {w₀ w : World} {α : Type} {key_id : String} {blob : KeyBlob}
  {args : PrepareUpgrade} {files : List KeyFile} {expected : Pcrs} {raw : List UInt8}

def Untouched (w₀ w : World) (e : Effect) : Prop := World.Same w₀ w ∧ World.Quiet e

abbrev AsksQuiet (p : Proc α) : Prop := Program.Obeys (fun _ _ => True) World.Quiet p

theorem guards_of_quiet {p : Proc α} (hquiet : AsksQuiet p) (hsame : World.Same w₀ w) :
    Program.Guards (World.Step env) (Untouched w₀) (fun _ w => World.Same w₀ w) p w := by
  induction p generalizing w with
  | ret value => exact hsame
  | act effect next ih =>
    refine ⟨⟨hsame, hquiet.1⟩, ?_⟩
    intro answer w' hstep
    exact ih answer (hquiet.2 answer trivial) (hsame.trans (hstep.same hquiet.1))

theorem verify_key_policy_for_quiet :
    AsksQuiet (verify_key_policy_for codecs key_id expected) := by
  refine ⟨trivial, ?_⟩
  rintro (message | origin) -
  · trivial
  dsimp only
  split
  · trivial
  refine ⟨trivial, ?_⟩
  rintro (message | policy) -
  · trivial
  dsimp only
  split <;> trivial

theorem verify_key_policy_quiet : AsksQuiet (verify_key_policy codecs key_id) := by
  refine ⟨trivial, ?_⟩
  rintro (message | own) -
  · trivial
  · exact verify_key_policy_for_quiet

def Wraps (codecs : Codecs) (env : Env) (key_id ciphertext : String) (passphrase : List UInt8) : Prop :=
  ∃ ct, codecs.b64_decode ciphertext = .ok ct ∧ env.decrypt key_id ct = some passphrase

theorem Wraps.unique {ciphertext : String} {p p' : List UInt8} (h : Wraps codecs env key_id ciphertext p)
    (h' : Wraps codecs env key_id ciphertext p') : p = p' := by
  obtain ⟨ct, hct, hp⟩ := h
  obtain ⟨ct', hct', hp'⟩ := h'
  rw [hct] at hct'
  cases hct'
  rw [hp] at hp'
  exact Option.some.inj hp'

theorem decrypt_ok {ct plaintext : List UInt8} {w' : World} (hhonest : env.honest)
    (h : w.Step env (.kms_decrypt key_id ct) (.ok plaintext) w') :
    env.names key_id = w.image ∧ env.decrypt key_id ct = some plaintext := by
  rcases h with ⟨-, htrusted⟩ | ⟨⟨message, hmessage⟩, -⟩
  · rcases htrusted hhonest with ⟨plaintext', hnames, hdecrypt, hanswer⟩ | ⟨-, message, hmessage⟩
    · cases hanswer
      exact ⟨hnames, hdecrypt⟩
    · cases hmessage
  · cases hmessage

theorem unwrap_guards {ciphertext what : String} (hsame : World.Same w₀ w) :
    Program.Guards (World.Step env) (Untouched w₀)
      (fun result w => World.Same w₀ w ∧ ∀ p, result = .ok p → env.honest →
        env.names key_id = w₀.image ∧ Wraps codecs env key_id ciphertext p)
      (unwrap codecs key_id ciphertext what) w := by
  unfold unwrap
  split
  · exact ⟨hsame, nofun⟩
  · next ct hct =>
    refine ⟨⟨hsame, trivial⟩, ?_⟩
    rintro (message | plaintext) w' hstep
    · exact ⟨hsame.trans (hstep.same trivial), nofun⟩
    dsimp only
    split
    · exact ⟨hsame.trans (hstep.same trivial), nofun⟩
    refine ⟨hsame.trans (hstep.same trivial), ?_⟩
    intro p hp hhonest
    cases hp
    obtain ⟨hnames, hdecrypt⟩ := decrypt_ok hhonest hstep
    exact ⟨hnames.trans hsame.image, ct, hct, hdecrypt⟩

theorem verify_new_key_guards (hsame : World.Same w₀ w) :
    Program.Guards (World.Step env) (Untouched w₀)
      (fun result w => World.Same w₀ w ∧ ∀ der, result = .ok der → env.honest → der = env.public_key args.new_key_id)
      (verify_new_key codecs args expected) w := by
  unfold verify_new_key
  split
  · exact ⟨hsame, nofun⟩
  refine (guards_of_quiet verify_key_policy_for_quiet hsame).bind ?_
  rintro (message | _) w hsame
  · exact ⟨hsame, nofun⟩
  refine ⟨⟨hsame, trivial⟩, ?_⟩
  rintro (message | kms_pubkey_der) w' hstep
  · exact ⟨hsame.trans (hstep.same trivial), nofun⟩
  dsimp only
  split
  · exact ⟨hsame.trans (hstep.same trivial), nofun⟩
  · next heq =>
    refine ⟨hsame.trans (hstep.same trivial), ?_⟩
    intro der hder hhonest
    cases hder
    rw [← not_not.mp heq]
    rcases hstep with ⟨-, htrusted⟩ | ⟨⟨message, hmessage⟩, -⟩
    · exact Except.ok.inj (htrusted hhonest)
    · cases hmessage

/-- What holds when `prepare-upgrade` has all it needs: there was no stash, the new passphrase is a fresh one, both are
staged, and where KMS and the storage host are honest, they are those of the two blobs. -/
structure Ready (codecs : Codecs) (env : Env) (w₀ : World) (new_key_id : String) (w : World) (prepared : Prepared) :
    Prop where
  same : World.Same w₀ w
  stash : w₀.stash = none
  fresh : prepared.new_passphrase ∉ w₀.drawn
  drawn : prepared.new_passphrase ∈ w.drawn
  current_file : w.files .current = some prepared.current_passphrase
  new_file : w.files .new = some prepared.new_passphrase
  blob : env.honest → prepared.raw = w₀.blob ∧ codecs.from_slice w₀.blob = .ok prepared.blob ∧
    prepared.blob.version = BLOB_VERSION
  current : env.honest → ∃ ct, prepared.blob.ciphertext = some ct ∧
    Wraps codecs env prepared.blob.kms_key_id ct prepared.current_passphrase
  named : env.honest → env.names prepared.blob.kms_key_id = w₀.image
  sealed : env.honest → env.decrypt new_key_id prepared.new_ct = some prepared.new_passphrase

theorem parse_blob_ok {missing : String} (h : parse_blob codecs missing raw = .ok blob) :
    codecs.from_slice raw = .ok blob ∧ blob.version = BLOB_VERSION := by
  unfold parse_blob at h
  split_ifs at h
  split at h
  · cases h
  · next blob' hparse =>
    split_ifs at h with hversion
    cases h
    exact ⟨hparse, not_not.mp hversion⟩

theorem stage_passphrases_guards {der current : List UInt8} {new_key_id ct : String} (hsame : World.Same w₀ w)
    (hstash : w₀.stash = none)
    (hblob : env.honest → raw = w₀.blob ∧ codecs.from_slice w₀.blob = .ok blob ∧ blob.version = BLOB_VERSION)
    (hct : blob.ciphertext = some ct) (hder : env.honest → der = env.public_key new_key_id)
    (hcurrent : env.honest → env.names blob.kms_key_id = w₀.image ∧ Wraps codecs env blob.kms_key_id ct current) :
    Program.Guards (World.Step env) (Untouched w₀)
      (fun result w => World.Same w₀ w ∧ ∀ prepared, result = .ok prepared → Ready codecs env w₀ new_key_id w prepared)
      (stage_passphrases raw blob der current) w := by
  refine ⟨⟨hsame, trivial⟩, ?_⟩
  intro new_passphrase w₁ hrandom
  have hsame₁ := hsame.trans (hrandom.same trivial)
  obtain ⟨-, hfresh, rfl⟩ := hrandom.random
  refine ⟨⟨hsame₁, trivial⟩, ?_⟩
  rintro (message | new_ct) w₂ hencrypt
  · exact ⟨hsame₁.trans (hencrypt.same trivial), nofun⟩
  have hsame₂ := hsame₁.trans (hencrypt.same trivial)
  have hdrawn₂ : new_passphrase ∈ w₂.drawn := (hencrypt.same trivial).drawn List.mem_cons_self
  have hsealed : env.honest → env.decrypt new_key_id new_ct = some new_passphrase := by
    intro hhonest
    rcases hencrypt with ⟨-, htrusted⟩ | ⟨⟨message, hmessage⟩, -⟩
    · obtain ⟨ciphertext, hencrypts, hanswer⟩ := htrusted hhonest
      cases hanswer
      rw [hder hhonest] at hencrypts
      exact env.decrypt_of_encrypts hencrypts
    · cases hmessage
  refine ⟨⟨hsame₂, trivial⟩, ?_⟩
  rintro (message | _) w₃ hcurrent_file
  · exact ⟨hsame₂.trans (hcurrent_file.same trivial), nofun⟩
  obtain rfl := hcurrent_file.write_keyfile_ok
  refine ⟨⟨hsame₂.trans World.same_with_file, trivial⟩, ?_⟩
  rintro (message | _) w₄ hnew_file
  · exact ⟨(hsame₂.trans World.same_with_file).trans (hnew_file.same trivial), nofun⟩
  obtain rfl := hnew_file.write_keyfile_ok
  have hsame₄ := (hsame₂.trans World.same_with_file).trans (hnew_file.same trivial)
  refine ⟨hsame₄, ?_⟩
  intro prepared hprepared
  cases hprepared
  exact {
    same := hsame₄
    stash := hstash
    fresh := fun hmem => hfresh (hsame.drawn hmem)
    drawn := hdrawn₂
    current_file := rfl
    new_file := rfl
    blob := hblob
    current := fun hhonest => ⟨ct, hct, (hcurrent hhonest).2⟩
    named := fun hhonest => (hcurrent hhonest).1
    sealed := hsealed }

theorem prepare_keys_guards (w₀ : World) :
    Program.Guards (World.Step env) (Untouched w₀)
      (fun result w => World.Same w₀ w ∧
        ∀ prepared, result = .ok prepared → Ready codecs env w₀ args.new_key_id w prepared)
      (prepare_keys codecs args) w₀ := by
  have hrefl := World.Same.refl w₀
  unfold prepare_keys
  split
  · exact ⟨hrefl, nofun⟩
  split
  · exact ⟨hrefl, nofun⟩
  refine ⟨⟨hrefl, trivial⟩, ?_⟩
  rintro (message | (_ | stash)) w₁ hread
  · exact ⟨hread.same trivial, nofun⟩
  swap
  · exact ⟨hread.same trivial, nofun⟩
  obtain ⟨rfl, hstash, -⟩ := hread.read_stash
  have hstash := hstash rfl
  refine ⟨⟨hrefl, trivial⟩, ?_⟩
  rintro (message | raw) w₂ hget
  · exact ⟨hget.same trivial, nofun⟩
  have hsame₂ := hget.same trivial
  have hraw : env.honest → raw = w₁.blob := by
    intro hhonest
    rcases hget with ⟨-, htrusted⟩ | ⟨⟨message, hmessage⟩, -⟩
    · exact Except.ok.inj (htrusted hhonest)
    · cases hmessage
  dsimp only
  split
  · exact ⟨hsame₂, nofun⟩
  · next blob hparse =>
    obtain ⟨hblob, hversion⟩ := parse_blob_ok hparse
    split
    · exact ⟨hsame₂, nofun⟩
    split
    · exact ⟨hsame₂, nofun⟩
    · next ct hct =>
      refine (verify_new_key_guards hsame₂).bind ?_
      rintro (message | der) w₃ ⟨hsame₃, hder⟩
      · exact ⟨hsame₃, nofun⟩
      refine (unwrap_guards hsame₃).bind ?_
      rintro (message | current) w₄ ⟨hsame₄, hcurrent⟩
      · exact ⟨hsame₄, nofun⟩
      exact stage_passphrases_guards hsame₄ hstash
        (fun hhonest => ⟨hraw hhonest, hraw hhonest ▸ hblob, hversion⟩) hct (hder der rfl) (hcurrent current rfl)

theorem first_free_keyslot_guards (w : World) :
    Program.Guards (World.Step env) (Untouched w)
      (fun result w' => World.Same w w' ∧ ∀ n, result = .ok n → w' = w ∧ w.slots n = none) first_free_keyslot w := by
  refine ⟨⟨World.Same.refl w, trivial⟩, ?_⟩
  rintro (message | ⟨success, text⟩) w' hstep
  · exact ⟨hstep.same trivial, nofun⟩
  obtain ⟨rfl, hdump⟩ := hstep.dump_ok
  have hrefl := World.Same.refl w'
  cases success with
  | false => exact ⟨hrefl, nofun⟩
  | true =>
    obtain ⟨occupied, hparse, hlive⟩ := parse_occupied_keyslots_dump (hdump rfl)
    simp only [hparse, Bool.not_true, Bool.false_eq_true, if_false]
    cases occupied with
    | nil => exact ⟨hrefl, nofun⟩
    | cons slot rest =>
      refine ⟨hrefl, ?_⟩
      intro n hn
      cases hn
      refine ⟨rfl, ?_⟩
      by_contra hne
      exact first_free_from_occupied_not_mem _ ((hlive _).mpr hne)

theorem stashed_passphrase_guards {stash : UpgradeRollbackStash} (hsame : World.Same w₀ w) :
    Program.Guards (World.Step env) (Untouched w₀)
      (fun result w => World.Same w₀ w ∧ ∀ p, result = .ok p → env.honest →
        ∃ blob ct, codecs.from_slice stash.pre_prepare_blob = .ok blob ∧ blob.ciphertext = some ct ∧
          Wraps codecs env blob.kms_key_id ct p)
      (stashed_passphrase codecs stash) w := by
  unfold stashed_passphrase
  split
  · exact ⟨hsame, nofun⟩
  · next blob hblob =>
    split
    · exact ⟨hsame, nofun⟩
    · next ct hct =>
      split
      · exact ⟨hsame, nofun⟩
      · next c hc =>
        refine ⟨⟨hsame, trivial⟩, ?_⟩
        rintro answer w' hstep
        refine ⟨hsame.trans (hstep.same trivial), ?_⟩
        rintro p rfl hhonest
        exact ⟨blob, ct, hblob, hct, c, hc, (decrypt_ok hhonest hstep).2⟩

theorem boot_passphrase_guards {ct : String} (hct : blob.ciphertext = some ct) (hsame : World.Same w₀ w) :
    Program.Guards (World.Step env) (Untouched w₀)
      (fun result w => World.Same w₀ w ∧ ∀ found, result = .ok found → found.2 = blob ∧
        (env.honest → env.names blob.kms_key_id = w₀.image ∧ Wraps codecs env blob.kms_key_id ct found.1))
      (boot_passphrase codecs blob) w := by
  unfold boot_passphrase
  simp only [hct]
  refine (unwrap_guards hsame).bind ?_
  rintro (message | plaintext) w' ⟨hsame', hwraps⟩
  · exact ⟨hsame', nofun⟩
  refine ⟨hsame', ?_⟩
  rintro found hfound
  cases hfound
  exact ⟨rfl, hwraps plaintext rfl⟩

theorem remove_keyfiles_quiet {result : α} : AsksQuiet (remove_keyfiles files result) := by
  induction files with
  | nil => trivial
  | cons file rest ih => exact ⟨trivial, fun _ _ => ih⟩

def RollsBack : Effect → Prop
  | .read_rollback_stash | .kms_decrypt _ _ | .write_keyfile .current _ | .test_passphrase _ _ | .luksKillSlot _ _
  | .meta_put _ | .remove_rollback_stash | .remove_keyfile _ => True
  | _ => False

theorem remove_keyfiles_rollsBack {result : α} :
    Program.Obeys (fun _ _ => True) RollsBack (remove_keyfiles files result) := by
  induction files with
  | nil => trivial
  | cons file rest ih => exact ⟨trivial, fun _ _ => ih⟩

theorem roll_back_rollsBack (stash : UpgradeRollbackStash) :
    Program.Obeys (fun _ _ => True) RollsBack (roll_back stash) := by
  refine ⟨trivial, ?_⟩
  rintro (message | (_ | _)) -
  · trivial
  swap
  · trivial
  refine ⟨trivial, ?_⟩
  rintro (message | (_ | _)) -
  · trivial
  · trivial
  refine ⟨trivial, ?_⟩
  rintro (message | (_ | _)) -
  · trivial
  · trivial
  refine ⟨trivial, ?_⟩
  rintro (message | _) -
  · trivial
  refine ⟨trivial, ?_⟩
  rintro (message | _) - <;> trivial

theorem revoke_upgrade_rollsBack : Program.Obeys (fun _ _ => True) RollsBack (revoke_upgrade codecs) := by
  refine ⟨trivial, ?_⟩
  rintro (message | (_ | stash)) -
  · trivial
  · trivial
  have hpassphrase : Program.Obeys (fun _ _ => True) RollsBack (stashed_passphrase codecs stash) := by
    unfold stashed_passphrase
    split
    · trivial
    split
    · trivial
    split
    · trivial
    exact ⟨trivial, fun _ _ => trivial⟩
  refine hpassphrase.bind ?_
  rintro (message | passphrase)
  · trivial
  refine ⟨trivial, ?_⟩
  rintro (message | _) -
  · trivial
  · exact (roll_back_rollsBack stash).bind fun _ => remove_keyfiles_rollsBack

end enclavia.crypto
