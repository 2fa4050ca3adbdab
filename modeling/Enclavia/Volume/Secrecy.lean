import Enclavia.Volume.Reboot

open interaction bytes enclavia.protocol enclavia.protocol.kms_policy

namespace enclavia.crypto

/-! Who knows the passphrases, with a storage host that answers what it likes. KMS and the channel to it are ideal. -/

/-- An encryption that an enclave has made, with the image that it was made for. -/
structure Seal where
  pubkey_der : List UInt8
  plaintext : List UInt8
  ciphertext : List UInt8
  image : Option Pcrs

/-- The running image, the passphrases that were drawn in enclaves and the encryptions made there, and the key files. -/
structure Vault where
  image : Pcrs
  drawn : List (List UInt8)
  sealed : List Seal
  files : KeyFile → Option (List UInt8)

def Command.sealed_for (image : Pcrs) : Command → Option Pcrs
  | .init => some image
  | .prepare_upgrade args => (parse_expected_pcrs args.expected_pcr0 args.expected_pcr1 args.expected_pcr2).toOption
  | .revoke_upgrade => none

namespace Vault

/-- What an effect is answered, and what it leaves. -/
def Step (env : Env) (host : Vault → List UInt8 → Prop) (command : Command) (s : Vault) :
    (e : Effect) → Answer e → Vault → Prop
  | .meta_get, answer, s' => s' = s ∧ ∀ raw, answer = .ok raw → host s raw
  | .own_pcrs, answer, s' => s' = s ∧ ∀ own, answer = .ok own → own = s.image
  | .kms_key_origin key_id, answer, s' => s' = s ∧ ∀ origin, answer = .ok origin → origin = env.origin key_id
  | .kms_get_key_policy key_id, answer, s' => s' = s ∧ ∀ policy, answer = .ok policy → policy = env.policy key_id
  | .kms_get_public_key key_id, answer, s' =>
    s' = s ∧ ∀ pubkey_der, answer = .ok pubkey_der → pubkey_der = env.public_key key_id
  | .kms_decrypt key_id ciphertext, answer, s' => s' = s ∧ ∀ plaintext, answer = .ok plaintext →
    env.names key_id = s.image ∧ env.decrypt key_id ciphertext = some plaintext
  | .random_passphrase, passphrase, s' =>
    passphrase.length = PASSPHRASE_BYTES ∧ passphrase ∉ s.drawn ∧ s' = { s with drawn := passphrase :: s.drawn }
  | .rsa_oaep_encrypt pubkey_der plaintext, answer, s' =>
    (∃ ciphertext, env.encrypts pubkey_der plaintext ciphertext ∧ answer = .ok ciphertext ∧
      s' = { s with sealed := ⟨pubkey_der, plaintext, ciphertext, command.sealed_for s.image⟩ :: s.sealed }) ∨
    (∃ message, answer = .error message) ∧ s' = s
  | .write_keyfile file contents, answer, s' =>
      ∃ written, s' = { s with files := Function.update s.files file written } ∧
    (answer = .ok () → written = some contents)
  | .remove_keyfile file, _, s' => ∃ left, s' = { s with files := Function.update s.files file left }
  | _, _, s' => s' = s

def Boots (s s' : Vault) : Prop := ∃ image, s' = { s with image := image, files := fun _ => none }

abbrev Reaches (codecs : Codecs) (env : Env) (host : Vault → List UInt8 → Prop) :=
  History.Reaches (Step env host) (Command.program codecs) (fun _ _ => True) Boots

end Vault

def Confined (codecs : Codecs) (env : Env) (pubkey_der : List UInt8) (image : Option Pcrs) : Prop :=
  ∃ key_id pcrs, pubkey_der = env.public_key key_id ∧ image = some pcrs ∧ env.origin key_id = "AWS_KMS" ∧
    verify_decrypt_policy codecs.policy_from_str (env.policy key_id) pcrs = .ok ()

/-- What the host can't compute: a passphrase that was drawn in an enclave, and only left it encrypted under keys that
are confined to an image it was meant for. -/
def Vault.Secret (codecs : Codecs) (env : Env) (s : Vault) (passphrase : List UInt8) : Prop :=
  passphrase ∈ s.drawn ∧ ∀ sealing ∈ s.sealed, sealing.plaintext = passphrase →
    Confined codecs env sealing.pubkey_der sealing.image

/-- The ciphertext that the host hands out was made by an enclave under the key of the blob, if it is of that key. -/
def HandsOutSealed (codecs : Codecs) (env : Env) (s : Vault) (raw : List UInt8) : Prop :=
  ∀ blob text ciphertext, codecs.from_slice raw = .ok blob → blob.ciphertext = some text →
    codecs.b64_decode text = .ok ciphertext → env.decrypt blob.kms_key_id ciphertext ≠ none →
    ∃ sealing ∈ s.sealed, sealing.pubkey_der = env.public_key blob.kms_key_id ∧ sealing.ciphertext = ciphertext

/-- What the enclaves have encrypted are passphrases of theirs, under confined keys. -/
def Vault.Kept (codecs : Codecs) (env : Env) (s : Vault) : Prop :=
  ∀ sealing ∈ s.sealed, sealing.plaintext ∈ s.drawn ∧
    env.encrypts sealing.pubkey_der sealing.plaintext sealing.ciphertext ∧
    Confined codecs env sealing.pubkey_der sealing.image

def Vault.Uses (s : Vault) : Effect → Prop
  | .write_keyfile .luks passphrase => passphrase ∈ s.drawn
  | .luksAddKey _ _ new_key_file => ∃ passphrase, s.files new_key_file = some passphrase ∧ passphrase ∈ s.drawn
  | _ => True

def Vault.Careful (codecs : Codecs) (env : Env) (s : Vault) (e : Effect) : Prop := s.Kept codecs env ∧ s.Uses e

variable {args : PrepareUpgrade}

section Secrecy

variable {codecs : Codecs} {env : Env} {host : Vault → List UInt8 → Prop} {command : Command} {s : Vault} {α : Type}
  {key_id : String} {blob : KeyBlob} {raw : List UInt8} {new_key_id : String} {prepared : Prepared}
  {expected : Pcrs} {text : String}

abbrev KeepsSecrets (codecs : Codecs) (env : Env) (host : Vault → List UInt8 → Prop) (command : Command)
    (post : α → Vault → Prop) (p : Proc α) (s : Vault) : Prop :=
  Program.Guards (Vault.Step env host command) (Vault.Careful codecs env) post p s

theorem verify_key_policy_for_secret (h : s.Kept codecs env) :
    KeepsSecrets codecs env host command (fun result s' => s' = s ∧ (result = .ok () → env.origin key_id = "AWS_KMS" ∧
        verify_decrypt_policy codecs.policy_from_str (env.policy key_id) expected = .ok ()))
      (verify_key_policy_for codecs key_id expected) s := by
  refine ⟨⟨h, trivial⟩, ?_⟩
  rintro (message | origin) _ ⟨rfl, horigin⟩
  · exact ⟨rfl, nofun⟩
  obtain rfl := horigin origin rfl
  dsimp only
  split
  · exact ⟨rfl, nofun⟩
  · next haws =>
    refine ⟨⟨h, trivial⟩, ?_⟩
    rintro (message | policy) _ ⟨rfl, hpolicy⟩
    · exact ⟨rfl, nofun⟩
    obtain rfl := hpolicy policy rfl
    dsimp only
    split
    · exact ⟨rfl, nofun⟩
    · next hverified => exact ⟨rfl, fun _ => ⟨not_not.mp haws, hverified⟩⟩

theorem verify_key_policy_secret (h : s.Kept codecs env) :
    KeepsSecrets codecs env host command (fun result s' => s' = s ∧ (result = .ok () → env.origin key_id = "AWS_KMS" ∧
        verify_decrypt_policy codecs.policy_from_str (env.policy key_id) s.image = .ok ()))
      (verify_key_policy codecs key_id) s := by
  refine ⟨⟨h, trivial⟩, ?_⟩
  rintro (message | own) _ ⟨rfl, hown⟩
  · exact ⟨rfl, nofun⟩
  · obtain rfl := hown own rfl
    exact verify_key_policy_for_secret h

theorem unwrap_secret {what : String} (h : s.Kept codecs env) :
    KeepsSecrets codecs env host command (fun result s' => s' = s ∧ ∀ plaintext, result = .ok plaintext →
        Wraps codecs env key_id text plaintext) (unwrap codecs key_id text what) s := by
  unfold unwrap
  split
  · exact ⟨rfl, nofun⟩
  · next ct hct =>
    refine ⟨⟨h, trivial⟩, ?_⟩
    rintro (message | plaintext) _ ⟨rfl, hdecrypt⟩
    · exact ⟨rfl, nofun⟩
    dsimp only
    split
    · exact ⟨rfl, nofun⟩
    · refine ⟨rfl, ?_⟩
      rintro _ ⟨⟩
      exact ⟨ct, hct, (hdecrypt plaintext rfl).2⟩

theorem drawn_of_wraps {plaintext : List UInt8} (h : s.Kept codecs env) (hhost : HandsOutSealed codecs env s raw)
    (hparse : codecs.from_slice raw = .ok blob) (htext : blob.ciphertext = some text)
    (hwraps : Wraps codecs env blob.kms_key_id text plaintext) :
    plaintext ∈ s.drawn := by
  obtain ⟨ciphertext, hdecode, hdecrypt⟩ := hwraps
  obtain ⟨sealing, hmem, hkey, rfl⟩ := hhost blob text ciphertext hparse htext hdecode (by rw [hdecrypt]; exact nofun)
  obtain ⟨hdrawn, hencrypts, -⟩ := h sealing hmem
  rw [hkey] at hencrypts
  cases (env.decrypt_of_encrypts hencrypts).symm.trans hdecrypt
  exact hdrawn

theorem Vault.Kept.draw (h : s.Kept codecs env) (passphrase : List UInt8) :
    ({ s with drawn := passphrase :: s.drawn } : Vault).Kept codecs env :=
  fun sealing hmem => ⟨List.mem_cons_of_mem _ (h sealing hmem).1, (h sealing hmem).2⟩

theorem Vault.Kept.encrypt (h : s.Kept codecs env) {pubkey_der plaintext ciphertext : List UInt8} {image : Option Pcrs}
    (hdrawn : plaintext ∈ s.drawn) (hencrypts : env.encrypts pubkey_der plaintext ciphertext)
    (hconfined : Confined codecs env pubkey_der image) :
    ({ s with sealed := ⟨pubkey_der, plaintext, ciphertext, image⟩ :: s.sealed } : Vault).Kept codecs env := by
  intro sealing hmem
  rcases List.mem_cons.mp hmem with rfl | hmem
  · exact ⟨hdrawn, hencrypts, hconfined⟩
  · exact h sealing hmem

theorem boot_passphrase_secret (h : s.Kept codecs env) (hhost : HandsOutSealed codecs env s raw)
    (hparse : codecs.from_slice raw = .ok blob)
    (hverified : env.origin blob.kms_key_id = "AWS_KMS" ∧
      verify_decrypt_policy codecs.policy_from_str (env.policy blob.kms_key_id) s.image = .ok ()) :
    KeepsSecrets codecs env host .init (fun result s' => s'.Kept codecs env ∧ ∀ passphrase blob',
        result = .ok (passphrase, blob') → passphrase ∈ s'.drawn) (boot_passphrase codecs blob) s := by
  unfold boot_passphrase
  split
  · -- the first boot
    refine ⟨⟨h, trivial⟩, ?_⟩
    rintro passphrase _ ⟨-, -, rfl⟩
    have h₁ := h.draw passphrase
    refine ⟨⟨h₁, trivial⟩, ?_⟩
    rintro (message | pubkey_der) _ ⟨rfl, hkey⟩
    · exact ⟨h₁, nofun⟩
    obtain rfl := hkey pubkey_der rfl
    refine ⟨⟨h₁, trivial⟩, ?_⟩
    rintro answer _ (⟨ciphertext, hencrypts, rfl, rfl⟩ | ⟨⟨message, rfl⟩, rfl⟩)
    swap
    · exact ⟨h₁, nofun⟩
    have h₂ := h₁.encrypt List.mem_cons_self hencrypts ⟨blob.kms_key_id, s.image, rfl, rfl, hverified⟩
    refine ⟨⟨h₂, trivial⟩, ?_⟩
    rintro (message | _) _ rfl
    · exact ⟨h₂, nofun⟩
    · refine ⟨h₂, ?_⟩
      rintro _ _ ⟨⟩
      exact List.mem_cons_self
  · next text htext =>
    refine (unwrap_secret h).bind ?_
    rintro (message | plaintext) _ ⟨rfl, hwraps⟩
    · exact ⟨h, nofun⟩
    · refine ⟨h, ?_⟩
      rintro _ _ ⟨⟩
      exact drawn_of_wraps h hhost hparse htext (hwraps _ rfl)

theorem delete_previous_secret (h : s.Kept codecs env) :
    KeepsSecrets codecs env host command (fun _ s' => s'.Kept codecs env) (delete_previous codecs blob) s := by
  unfold delete_previous
  split
  · exact h
  refine ⟨⟨h, trivial⟩, ?_⟩
  rintro (message | _) _ rfl
  · exact h
  refine ⟨⟨h, trivial⟩, ?_⟩
  rintro (message | _) _ rfl <;> exact h

theorem init_secret (hhost : ∀ s raw, host s raw → HandsOutSealed codecs env s raw) (h : s.Kept codecs env) :
    KeepsSecrets codecs env host .init (fun _ s' => s'.Kept codecs env) (init codecs) s := by
  refine ⟨⟨h, trivial⟩, ?_⟩
  rintro (message | raw) _ ⟨rfl, hraw⟩
  · exact h
  dsimp only
  split
  · exact h
  next blob hblob =>
  refine (verify_key_policy_secret h).bind ?_
  rintro (message | _) _ ⟨rfl, hverified⟩
  · exact h
  refine (boot_passphrase_secret h (hhost _ _ (hraw raw rfl)) (parse_blob_ok hblob).1 (hverified rfl)).bind ?_
  rintro (message | ⟨passphrase, blob'⟩) s' ⟨h', hdrawn⟩
  · exact h'
  refine ⟨⟨h', hdrawn _ _ rfl⟩, ?_⟩
  rintro (message | _) _ ⟨written, rfl, -⟩
  · exact h'
  · exact delete_previous_secret h'

theorem remove_keyfiles_secret {files : List KeyFile} {result : α} (h : s.Kept codecs env) :
    KeepsSecrets codecs env host command (fun _ s' => s'.Kept codecs env) (remove_keyfiles files result) s := by
  induction files generalizing s with
  | nil => exact h
  | cons file rest ih =>
    refine ⟨⟨h, trivial⟩, ?_⟩
    rintro _ _ ⟨left, rfl⟩
    exact ih h

theorem verify_new_key_secret (h : s.Kept codecs env) :
    KeepsSecrets codecs env host command (fun result s' => s' = s ∧ ∀ pubkey_der, result = .ok pubkey_der →
        Confined codecs env pubkey_der (some expected)) (verify_new_key codecs args expected) s := by
  unfold verify_new_key
  split
  · exact ⟨rfl, nofun⟩
  refine (verify_key_policy_for_secret h).bind ?_
  rintro (message | _) _ ⟨rfl, hverified⟩
  · exact ⟨rfl, nofun⟩
  refine ⟨⟨h, trivial⟩, ?_⟩
  rintro (message | kms_pubkey_der) _ ⟨rfl, hkey⟩
  · exact ⟨rfl, nofun⟩
  dsimp only
  split
  · exact ⟨rfl, nofun⟩
  · next heq =>
    refine ⟨rfl, ?_⟩
    rintro _ ⟨⟩
    exact ⟨args.new_key_id, expected, (not_not.mp heq).symm.trans (hkey _ rfl), rfl, hverified rfl⟩

def Staging (codecs : Codecs) (env : Env) (result : Except String Prepared) (s : Vault) : Prop :=
  s.Kept codecs env ∧ ∀ prepared, result = .ok prepared →
    s.files .new = some prepared.new_passphrase ∧ prepared.new_passphrase ∈ s.drawn

theorem stage_passphrases_secret {pubkey_der current_passphrase : List UInt8} (h : s.Kept codecs env)
    (hconfined : Confined codecs env pubkey_der (command.sealed_for s.image)) :
    KeepsSecrets codecs env host command (Staging codecs env)
      (stage_passphrases raw blob pubkey_der current_passphrase) s := by
  refine ⟨⟨h, trivial⟩, ?_⟩
  rintro new_passphrase _ ⟨-, -, rfl⟩
  have h₁ := h.draw new_passphrase
  refine ⟨⟨h₁, trivial⟩, ?_⟩
  rintro answer _ (⟨new_ct, hencrypts, rfl, rfl⟩ | ⟨⟨message, rfl⟩, rfl⟩)
  swap
  · exact ⟨h₁, nofun⟩
  have h₂ := h₁.encrypt List.mem_cons_self hencrypts hconfined
  refine ⟨⟨h₂, trivial⟩, ?_⟩
  rintro (message | _) _ ⟨written, rfl, -⟩
  · exact ⟨h₂, nofun⟩
  refine ⟨⟨h₂, trivial⟩, ?_⟩
  rintro (message | _) _ ⟨written', rfl, hwritten⟩
  · exact ⟨h₂, nofun⟩
  refine ⟨h₂, ?_⟩
  rintro _ ⟨⟩
  refine ⟨?_, List.mem_cons_self⟩
  simp [hwritten rfl]

theorem prepare_keys_secret (h : s.Kept codecs env) :
    KeepsSecrets codecs env host (.prepare_upgrade args) (Staging codecs env) (prepare_keys codecs args) s := by
  unfold prepare_keys
  split
  · exact ⟨h, nofun⟩
  split
  · exact ⟨h, nofun⟩
  next expected hexpected =>
  have hsealed : (Command.prepare_upgrade args).sealed_for s.image = some expected := by
    simp only [Command.sealed_for, hexpected, Except.toOption]
  refine ⟨⟨h, trivial⟩, ?_⟩
  rintro (message | (_ | stash)) _ rfl
  · exact ⟨h, nofun⟩
  swap
  · exact ⟨h, nofun⟩
  refine ⟨⟨h, trivial⟩, ?_⟩
  rintro (message | raw) _ ⟨rfl, -⟩
  · exact ⟨h, nofun⟩
  dsimp only
  split
  · exact ⟨h, nofun⟩
  split
  · exact ⟨h, nofun⟩
  split
  · exact ⟨h, nofun⟩
  refine (verify_new_key_secret h).bind ?_
  rintro (message | new_pubkey_der) _ ⟨rfl, hconfined⟩
  · exact ⟨h, nofun⟩
  refine (unwrap_secret h).bind ?_
  rintro (message | current_passphrase) _ ⟨rfl, -⟩
  · exact ⟨h, nofun⟩
  · exact stage_passphrases_secret h (hsealed ▸ hconfined _ rfl)

theorem first_free_keyslot_secret (h : s.Kept codecs env) :
    KeepsSecrets codecs env host command (fun _ s' => s' = s) first_free_keyslot s := by
  refine ⟨⟨h, trivial⟩, ?_⟩
  rintro (message | ⟨success, text⟩) _ rfl
  · exact rfl
  dsimp only
  split
  · exact rfl
  split <;> exact rfl

theorem publish_new_key_secret {n : Nat} (h : s.Kept codecs env) :
    KeepsSecrets codecs env host command (fun _ s' => s'.Kept codecs env) (publish_new_key codecs new_key_id prepared n)
      s := by
  refine ⟨⟨h, trivial⟩, ?_⟩
  rintro (message | (_ | _)) _ rfl
  · exact h
  · refine ⟨⟨h, trivial⟩, ?_⟩
    rintro _ _ rfl
    refine ⟨⟨h, trivial⟩, ?_⟩
    rintro _ _ rfl
    exact h
  · refine ⟨⟨h, trivial⟩, ?_⟩
    rintro (message | _) _ rfl <;> exact h

theorem stage_upgrade_secret (h : s.Kept codecs env) (hfile : s.files .new = some prepared.new_passphrase)
    (hdrawn : prepared.new_passphrase ∈ s.drawn) :
    KeepsSecrets codecs env host command (fun _ s' => s'.Kept codecs env) (stage_upgrade codecs new_key_id prepared)
      s := by
  refine (first_free_keyslot_secret h).bind ?_
  rintro (message | n) _ rfl
  · exact h
  refine ⟨⟨h, trivial⟩, ?_⟩
  rintro (message | _) _ rfl
  · exact h
  refine ⟨⟨h, _, hfile, hdrawn⟩, ?_⟩
  rintro (message | (_ | _)) _ rfl
  · exact h
  · refine ⟨⟨h, trivial⟩, ?_⟩
    rintro _ _ rfl
    exact h
  · exact publish_new_key_secret h

theorem prepare_upgrade_secret (h : s.Kept codecs env) :
    KeepsSecrets codecs env host (.prepare_upgrade args) (fun _ s' => s'.Kept codecs env) (prepare_upgrade codecs args)
      s := by
  refine (prepare_keys_secret h).bind ?_
  rintro (message | prepared) s' ⟨h', hstaged⟩
  · exact h'
  obtain ⟨hfile, hdrawn⟩ := hstaged prepared rfl
  exact (stage_upgrade_secret h' hfile hdrawn).bind fun _ _ => remove_keyfiles_secret

theorem secret_of_rollsBack {p : Proc α} (hobeys : Program.Obeys (fun _ _ => True) RollsBack p)
    (h : s.Kept codecs env) :
    KeepsSecrets codecs env host command (fun _ s' => s'.Kept codecs env) p s := by
  induction p generalizing s with
  | ret value => exact h
  | act e next ih =>
    have hrollsBack := hobeys.1
    have hnext : ∀ answer s', Vault.Step env host command s e answer s' → s'.Kept codecs env := by
      intro answer s' hstep
      cases e with
      | kms_decrypt key_id ciphertext =>
        obtain ⟨rfl, -⟩ := hstep
        exact h
      | write_keyfile file contents =>
        obtain ⟨written, rfl, -⟩ := hstep
        exact h
      | remove_keyfile file =>
        obtain ⟨left, rfl⟩ := hstep
        exact h
      | read_rollback_stash | test_passphrase slot file | luksKillSlot n file | meta_put data | remove_rollback_stash =>
        obtain rfl : s' = s := hstep
        exact h
      | _ => exact hrollsBack.elim
    refine ⟨⟨h, ?_⟩, fun answer s' hstep => ih answer (hobeys.2 answer trivial) (hnext answer s' hstep)⟩
    cases e with
    | write_keyfile file contents =>
      cases file with
      | current => trivial
      | _ => exact hrollsBack.elim
    | luksAddKey n file new_file => exact hrollsBack.elim
    | _ => trivial

/-- As long as the host hands out no ciphertext of its own making, every passphrase that `init` writes for the volume
and every one that `prepare-upgrade` adds to it is secret, and so is what was drawn before. -/
theorem passphrases_stay_secret (hhost : ∀ s raw, host s raw → HandsOutSealed codecs env s raw) {s₀ : Vault}
    (hinit : s₀.Kept codecs env) {running : Option (Command × Proc (Except String Unit))}
    (hreaches : Vault.Reaches codecs env host (s₀, none) (s, running)) :
    (∀ passphrase next, running = some (.init, .act (.write_keyfile .luks passphrase) next) →
      s.Secret codecs env passphrase) ∧
    (∀ args n file new_file next, running = some (.prepare_upgrade args, .act (.luksAddKey n file new_file) next) →
      ∃ passphrase, s.files new_file = some passphrase ∧ s.Secret codecs env passphrase) ∧
    ∀ passphrase ∈ s.drawn, s.Secret codecs env passphrase := by
  have hinv := History.invariant (I := fun _ => Vault.Careful codecs env) ?_ (fun _ _ _ => And.left) ?_ hinit hreaches
  · obtain ⟨hkept, hrunning⟩ := hinv
    have hsecret : ∀ passphrase ∈ s.drawn, s.Secret codecs env passphrase :=
      fun passphrase hdrawn => ⟨hdrawn, fun sealing hmem _ => (hkept sealing hmem).2.2⟩
    refine ⟨?_, ?_, hsecret⟩
    · rintro passphrase next rfl
      exact hsecret passphrase (hrunning _ _ rfl).1.2
    · rintro args n file new_file next rfl
      obtain ⟨passphrase, hfile, hdrawn⟩ := (hrunning _ _ rfl).1.2
      exact ⟨passphrase, hfile, hsecret passphrase hdrawn⟩
  · intro s command h _
    cases command with
    | init => exact init_secret hhost h
    | prepare_upgrade args => exact prepare_upgrade_secret h
    | revoke_upgrade => exact secret_of_rollsBack revoke_upgrade_rollsBack h
  · rintro s _ h ⟨image, rfl⟩
    exact h

theorem init_exec_recover {passphrase : List UInt8} (hversion : blob.version = BLOB_VERSION)
    (htext : blob.ciphertext = some text) (hwraps : Wraps codecs env blob.kms_key_id text passphrase)
    (hlength : passphrase.length = PASSPHRASE_BYTES) (hnames : env.names blob.kms_key_id = s.image)
    (horigin : env.origin blob.kms_key_id = "AWS_KMS")
    (hpolicy : verify_decrypt_policy codecs.policy_from_str (env.policy blob.kms_key_id) s.image = .ok ())
    (hhost : host s (codecs.to_vec blob)) :
    ∃ next, Program.Exec (Vault.Step env host .init) (init codecs) s (.act (.write_keyfile .luks passphrase) next)
      s := by
  obtain ⟨ciphertext, hdecode, hdecrypt⟩ := hwraps
  have hget : Vault.Step env host .init s .meta_get (.ok (codecs.to_vec blob)) s :=
    ⟨rfl, fun raw hraw => Except.ok.inj hraw ▸ hhost⟩
  have hown : Vault.Step env host .init s .own_pcrs (.ok s.image) s := ⟨rfl, fun _ h => (Except.ok.inj h).symm⟩
  have hread : Vault.Step env host .init s (.kms_key_origin blob.kms_key_id) (.ok (env.origin blob.kms_key_id)) s :=
    ⟨rfl, fun _ h => (Except.ok.inj h).symm⟩
  have hread' : Vault.Step env host .init s (.kms_get_key_policy blob.kms_key_id) (.ok (env.policy blob.kms_key_id))
    s :=
    ⟨rfl, fun _ h => (Except.ok.inj h).symm⟩
  have hdecrypts : Vault.Step env host .init s (.kms_decrypt blob.kms_key_id ciphertext) (.ok passphrase) s :=
    ⟨rfl, fun plaintext h => ⟨hnames, Except.ok.inj h ▸ hdecrypt⟩⟩
  have hparse : parse_blob codecs "bootstrap key blob missing — backend must write it before launch"
      (codecs.to_vec blob) = .ok blob := by
    rw [parse_blob, if_neg (codecs.to_vec_ne_nil blob), codecs.from_slice_to_vec]
    exact if_neg (not_not.mpr hversion)
  have hverify : Program.Exec (Vault.Step env host .init) (verify_key_policy codecs blob.kms_key_id) s
      (.ret (.ok ())) s := by
    refine .head hown (.head hread ?_)
    dsimp only
    rw [if_neg (not_not.mpr horigin)]
    refine .head hread' ?_
    dsimp only
    rw [hpolicy]
    exact .refl _ _
  have hunwrap : Program.Exec (Vault.Step env host .init) (unwrap codecs blob.kms_key_id text "passphrase") s
      (.ret (.ok passphrase)) s := by
    rw [unwrap, hdecode]
    refine .head hdecrypts ?_
    dsimp only
    rw [if_neg (not_not.mpr hlength)]
    exact .refl _ _
  have hboot : Program.Exec (Vault.Step env host .init) (boot_passphrase codecs blob) s
      (.ret (.ok (passphrase, blob))) s := by
    rw [boot_passphrase, htext]
    exact hunwrap.bind (.refl _ _)
  refine ⟨?_, .head hget ?_⟩
  rotate_left
  · dsimp only
    rw [hparse]
    refine hverify.bind ?_
    refine hboot.bind ?_
    exact .refl _ _

end Secrecy

namespace sample

def unsealed : Vault := ⟨image, [], [], fun _ => none⟩

def once_sealed : Vault := ⟨image, [passphrase], [⟨[1], passphrase, 1 :: passphrase, some image⟩], fun _ => none⟩

theorem once_sealed_kept : once_sealed.Kept codecs env := by
  intro sealing hmem
  cases List.mem_singleton.mp hmem
  exact ⟨List.mem_singleton_self _, rfl, "current", image, rfl, rfl, rfl, valid.policy⟩

theorem hands_out_blob : HandsOutSealed codecs env once_sealed (to_vec blob) := by
  intro blob' text ciphertext hparse htext hdecode _
  have hblob : blob' = blob := Except.ok.inj (hparse.symm.trans (from_slice_to_vec blob))
  have hwrapped : text = hex_encode (1 :: passphrase) := by
    rw [hblob] at htext
    exact (Option.some.inj htext).symm
  rw [hwrapped] at hdecode
  have hciphertext : ciphertext = 1 :: passphrase :=
    Except.ok.inj (hdecode.symm.trans (codecs.b64_decode_encode (1 :: passphrase)))
  rw [hblob, hciphertext]
  exact ⟨_, List.mem_singleton_self _, rfl, rfl⟩

theorem init_writes {host : Vault → List UInt8 → Prop} {s : Vault} (himage : s.image = image)
    (hhost : host s (to_vec blob)) : ∃ next, Program.Exec (Vault.Step env host .init) (init codecs) s
      (.act (.write_keyfile .luks passphrase) next) s := by
  have hpolicy := valid.policy
  have hnames := valid.names
  have himage' : provision.own = s.image := himage.symm
  rw [himage'] at hpolicy hnames
  exact @init_exec_recover codecs env host s blob _ passphrase rfl rfl wraps_blob valid.length hnames valid.origin
    hpolicy hhost

end sample

/-- The host hands out what the first boot of the enclave has sealed. -/
theorem passphrases_stay_secret_sealed : ∃ next, Vault.Reaches sample.codecs sample.env
      (HandsOutSealed sample.codecs sample.env) (sample.once_sealed, none)
      (sample.once_sealed, some (.init, .act (.write_keyfile .luks sample.passphrase) next)) ∧
    sample.once_sealed.Secret sample.codecs sample.env sample.passphrase := by
  obtain ⟨next, hexec⟩ := sample.init_writes rfl sample.hands_out_blob
  have hreaches : Vault.Reaches sample.codecs sample.env (HandsOutSealed sample.codecs sample.env)
      (sample.once_sealed, none) _ := .head (.start trivial) (History.reaches_of_exec hexec)
  exact ⟨next, hreaches, (passphrases_stay_secret (fun _ _ => id) sample.once_sealed_kept hreaches).1 _ _ rfl⟩

/-- The host makes a blob of its own, with a passphrase it knows and the public key of the enclave's key. -/
theorem host_chooses_passphrase : ∃ next, Vault.Reaches sample.codecs sample.env (fun _ _ => True)
      (sample.unsealed, none) (sample.unsealed, some (.init, .act (.write_keyfile .luks sample.passphrase) next)) ∧
    ¬sample.unsealed.Secret sample.codecs sample.env sample.passphrase := by
  obtain ⟨next, hexec⟩ := @sample.init_writes (fun _ _ => True) sample.unsealed rfl trivial
  exact ⟨next, .head (.start trivial) (History.reaches_of_exec hexec), fun h => nomatch h.1⟩

end enclavia.crypto
