import Enclavia.Interaction.Crash
import Enclavia.Volume.Commands

open interaction enclavia.protocol

namespace enclavia.crypto

/-- What the stash file holds: all that was written, or less after a write that failed. -/
inductive StashFile where
  | whole (stash : UpgradeRollbackStash)
  | torn

/-- What the commands work on. -/
structure World where
  slots : luks.Slots (List UInt8)
  blob : List UInt8
  stash : Option StashFile
  files : KeyFile → Option (List UInt8)
  image : Pcrs
  drawn : List (List UInt8)

/-- KMS, and whether it and the storage host answer for themselves. -/
structure Env where
  honest : Prop
  public_key : String → List UInt8
  origin : String → String
  policy : String → String
  names : String → Pcrs
  decrypt : String → List UInt8 → Option (List UInt8)
  encrypts : List UInt8 → List UInt8 → List UInt8 → Prop
  decrypt_of_encrypts : ∀ {key_id plaintext ciphertext}, encrypts (public_key key_id) plaintext ciphertext →
    decrypt key_id ciphertext = some plaintext

namespace World

def Unlocks (w : World) (slot : Option Nat) (file : KeyFile) : Prop :=
  ∃ key, w.files file = some key ∧ match slot with
    | some n => w.slots n = some key
    | none => luks.Opens w.slots key

def with_file (w : World) (file : KeyFile) (contents : Option (List UInt8)) : World :=
  { w with files := Function.update w.files file contents }

def Performs (w : World) : (e : Effect) → Answer e → World → Prop
  | .read_rollback_stash, answer, w' => w' = w ∧ match w.stash with
    | none => answer = .ok none
    | some (.whole stash) => answer = .ok (some stash)
    | some .torn => ∃ message, answer = .error message
  | .write_rollback_stash stash, answer, w' => answer = .ok () ∧ w' = { w with stash := some (.whole stash) }
  | .remove_rollback_stash, answer, w' => answer = .ok () ∧ w' = { w with stash := none }
  | .meta_put data, answer, w' => answer = .ok () ∧ w' = { w with blob := data }
  | .random_passphrase, passphrase, w' =>
    passphrase.length = PASSPHRASE_BYTES ∧ passphrase ∉ w.drawn ∧ w' = { w with drawn := passphrase :: w.drawn }
  | .write_keyfile file contents, answer, w' => answer = .ok () ∧ w' = w.with_file file (some contents)
  | .remove_keyfile file, _, w' => w' = w.with_file file none
  | .luksDump, answer, w' => w' = w ∧ ∃ text, answer = .ok (true, text) ∧ IsDump text w.slots
  | .luksAddKey n file new_file, answer, w' =>
    (∃ key new_key, w.files file = some key ∧ w.files new_file = some new_key ∧ luks.CanAdd w.slots n key ∧
      answer = .ok true ∧ w' = { w with slots := luks.add_key w.slots n new_key }) ∨
    (¬∃ key new_key, w.files file = some key ∧ w.files new_file = some new_key ∧ luks.CanAdd w.slots n key) ∧
      answer = .ok false ∧ w' = w
  | .test_passphrase slot file, answer, w' =>
    w' = w ∧ (w.Unlocks slot file ∧ answer = .ok true ∨ ¬w.Unlocks slot file ∧ answer = .ok false)
  | .luksKillSlot n file, answer, w' =>
    (∃ key, w.files file = some key ∧ luks.CanKill w.slots n key ∧ answer = .ok true ∧
      w' = { w with slots := luks.kill_slot w.slots n }) ∨
    (¬∃ key, w.files file = some key ∧ luks.CanKill w.slots n key) ∧ answer = .ok false ∧ w' = w
  | _, _, w' => w' = w

def Trusted (env : Env) (w : World) : (e : Effect) → Answer e → Prop
  | .meta_get, answer => answer = .ok w.blob
  | .own_pcrs, answer => answer = .ok w.image
  | .kms_key_origin key_id, answer => answer = .ok (env.origin key_id)
  | .kms_get_key_policy key_id, answer => answer = .ok (env.policy key_id)
  | .kms_get_public_key key_id, answer => answer = .ok (env.public_key key_id)
  | .kms_decrypt key_id ciphertext, answer =>
    (∃ plaintext, env.names key_id = w.image ∧ env.decrypt key_id ciphertext = some plaintext ∧
      answer = .ok plaintext) ∨
    (¬∃ plaintext, env.names key_id = w.image ∧ env.decrypt key_id ciphertext = some plaintext) ∧
      ∃ message, answer = .error message
  | .kms_schedule_deletion _, answer => answer = .ok ()
  | .rsa_oaep_encrypt pubkey_der plaintext, answer =>
    ∃ ciphertext, env.encrypts pubkey_der plaintext ciphertext ∧ answer = .ok ciphertext
  | _, _ => True

def Failed : (e : Effect) → Answer e → Prop
  | .read_rollback_stash, answer => ∃ message, answer = .error message
  | .write_rollback_stash _, answer => ∃ message, answer = .error message
  | .remove_rollback_stash, answer => ∃ message, answer = .error message
  | .meta_get, answer => ∃ message, answer = .error message
  | .meta_put _, answer => ∃ message, answer = .error message
  | .own_pcrs, answer => ∃ message, answer = .error message
  | .kms_key_origin _, answer => ∃ message, answer = .error message
  | .kms_get_key_policy _, answer => ∃ message, answer = .error message
  | .kms_get_public_key _, answer => ∃ message, answer = .error message
  | .kms_decrypt _ _, answer => ∃ message, answer = .error message
  | .kms_schedule_deletion _, answer => ∃ message, answer = .error message
  | .random_passphrase, _ => False
  | .rsa_oaep_encrypt _ _, answer => ∃ message, answer = .error message
  | .write_keyfile _ _, answer => ∃ message, answer = .error message
  | .remove_keyfile _, _ => True
  | .luksDump, answer => (∃ message, answer = .error message) ∨ ∃ text, answer = .ok (false, text)
  | .luksAddKey _ _ _, answer => (∃ message, answer = .error message) ∨ answer = .ok false
  | .test_passphrase _ _, answer => (∃ message, answer = .error message) ∨ answer = .ok false
  | .luksKillSlot _ _, answer => (∃ message, answer = .error message) ∨ answer = .ok false

def Torn (w : World) : Effect → World → Prop
  | .write_rollback_stash _, w' => w' = { w with stash := some .torn }
  | .write_keyfile file _, w' => ∃ contents, w' = w.with_file file contents
  | _, _ => False

/-- An effect that may go wrong: then it has no effect, or all of it, or for a file half of it. -/
def Step (env : Env) (w : World) (e : Effect) (answer : Answer e) (w' : World) : Prop :=
  w.Performs e answer w' ∧ (env.honest → w.Trusted env e answer) ∨
    Failed e answer ∧ (w' = w ∨ (∃ answer', w.Performs e answer' w') ∨ w.Torn e w')

def Works (env : Env) (w : World) (e : Effect) (answer : Answer e) (w' : World) : Prop :=
  w.Performs e answer w' ∧ w.Trusted env e answer

structure Same (w w' : World) : Prop where
  slots : w'.slots = w.slots
  blob : w'.blob = w.blob
  stash : w'.stash = w.stash
  image : w'.image = w.image
  drawn : w.drawn ⊆ w'.drawn

def Quiet : Effect → Prop
  | .write_rollback_stash _ | .remove_rollback_stash | .meta_put _ | .luksAddKey _ _ _ | .luksKillSlot _ _ => False
  | _ => True

variable {env : Env} {w w' : World} {e : Effect} {answer : Answer e} {slot : Option Nat}

theorem Same.refl (w : World) : Same w w := ⟨rfl, rfl, rfl, rfl, List.Subset.refl _⟩

theorem Same.trans {w'' : World} (h : Same w w') (h' : Same w' w'') : Same w w'' :=
  ⟨h'.slots.trans h.slots, h'.blob.trans h.blob, h'.stash.trans h.stash, h'.image.trans h.image,
    List.Subset.trans h.drawn h'.drawn⟩

theorem same_with_file {file : KeyFile} {contents : Option (List UInt8)} : Same w (w.with_file file contents) :=
  ⟨rfl, rfl, rfl, rfl, List.Subset.refl _⟩

theorem Performs.same (h : w.Performs e answer w') (hquiet : Quiet e) : Same w w' := by
  cases e with
  | read_rollback_stash => exact h.1 ▸ Same.refl w
  | write_rollback_stash stash | remove_rollback_stash | meta_put data => exact hquiet.elim
  | random_passphrase =>
    obtain ⟨-, -, rfl⟩ := h
    exact ⟨rfl, rfl, rfl, rfl, List.subset_cons_self _ _⟩
  | write_keyfile file contents => exact h.2 ▸ same_with_file
  | remove_keyfile file =>
    have h : w' = w.with_file file none := h
    exact h ▸ same_with_file
  | luksDump => exact h.1 ▸ Same.refl w
  | luksAddKey n file new_file => exact hquiet.elim
  | test_passphrase slot file => exact h.1 ▸ Same.refl w
  | luksKillSlot n file => exact hquiet.elim
  | _ =>
    have h : w' = w := h
    exact h ▸ Same.refl w

theorem Step.same (h : w.Step env e answer w') (hquiet : Quiet e) : Same w w' := by
  rcases h with ⟨hperforms, -⟩ | ⟨-, rfl | ⟨answer', hperforms⟩ | htorn⟩
  · exact hperforms.same hquiet
  · exact Same.refl w'
  · exact hperforms.same hquiet
  · cases e with
    | write_rollback_stash stash => exact hquiet.elim
    | write_keyfile file contents =>
      obtain ⟨contents', rfl⟩ := htorn
      exact same_with_file
    | _ => exact htorn.elim

section Effects

variable {n : Nat} {file new_file : KeyFile} {data : List UInt8} {stash : UpgradeRollbackStash}

theorem Step.done_or_same {P : Prop} {Q : Answer e → Prop} (h : w.Step env e answer w')
    (hperforms : ∀ {answer' : Answer e}, w.Performs e answer' w' → P ∨ w' = w ∧ Q answer')
    (hfailed : ∀ {answer' : Answer e}, Failed e answer' → Q answer') (htorn : ¬w.Torn e w') :
    P ∨ w' = w ∧ Q answer := by
  rcases h with ⟨h, -⟩ | ⟨hfails, hsame | ⟨answer', h⟩ | h⟩
  · exact hperforms h
  · exact .inr ⟨hsame, hfailed hfails⟩
  · rcases hperforms h with hdone | ⟨hsame, -⟩
    · exact .inl hdone
    · exact .inr ⟨hsame, hfailed hfails⟩
  · exact absurd h htorn

theorem Step.meta_put {answer : Answer (.meta_put data)} (h : w.Step env (.meta_put data) answer w') :
    w' = { w with blob := data } ∨ w' = w ∧ ∃ message, answer = .error message :=
  h.done_or_same (fun h => .inl h.2) id id

theorem Step.write_stash {answer : Answer (.write_rollback_stash stash)}
    (h : w.Step env (.write_rollback_stash stash) answer w') :
    w' = { w with stash := some (.whole stash) } ∨
      (w' = w ∨ w' = { w with stash := some .torn }) ∧ ∃ message, answer = .error message := by
  rcases h with ⟨⟨-, rfl⟩, -⟩ | ⟨hfailed, rfl | ⟨answer', -, rfl⟩ | rfl⟩
  · exact .inl rfl
  · exact .inr ⟨.inl rfl, hfailed⟩
  · exact .inl rfl
  · exact .inr ⟨.inr rfl, hfailed⟩

theorem Step.remove_stash {answer : Answer .remove_rollback_stash} (h : w.Step env .remove_rollback_stash answer w') :
    w' = { w with stash := none } ∨ w' = w ∧ ∃ message, answer = .error message :=
  h.done_or_same (fun h => .inl h.2) id id

theorem Step.add_key {answer : Answer (.luksAddKey n file new_file)}
    (h : w.Step env (.luksAddKey n file new_file) answer w') :
    (∃ key new_key, w.files file = some key ∧ w.files new_file = some new_key ∧ luks.CanAdd w.slots n key ∧
      w' = { w with slots := luks.add_key w.slots n new_key }) ∨ w' = w ∧ answer ≠ .ok true := by
  refine h.done_or_same (Q := fun answer => answer ≠ Except.ok true) ?_ ?_ id
  · rintro answer' (⟨key, new_key, hkey, hnew, hcan, -, rfl⟩ | ⟨-, rfl, rfl⟩)
    · exact .inl ⟨key, new_key, hkey, hnew, hcan, rfl⟩
    · exact .inr ⟨rfl, by simp⟩
  · rintro answer' (⟨message, rfl⟩ | rfl) <;> simp

theorem Step.kill_slot {answer : Answer (.luksKillSlot n file)} (h : w.Step env (.luksKillSlot n file) answer w') :
    (∃ key, w.files file = some key ∧ luks.CanKill w.slots n key ∧
      w' = { w with slots := luks.kill_slot w.slots n }) ∨ w' = w ∧ answer ≠ .ok true := by
  refine h.done_or_same (Q := fun answer => answer ≠ Except.ok true) ?_ ?_ id
  · rintro answer' (⟨key, hkey, hcan, -, rfl⟩ | ⟨-, rfl, rfl⟩)
    · exact .inl ⟨key, hkey, hcan, rfl⟩
    · exact .inr ⟨rfl, by simp⟩
  · rintro answer' (⟨message, rfl⟩ | rfl) <;> simp

theorem Step.test_ok (h : w.Step env (.test_passphrase slot file) (.ok true) w') :
    w' = w ∧ w.Unlocks slot file := by
  rcases h with ⟨⟨rfl, ⟨hunlocks, -⟩ | ⟨-, hanswer⟩⟩, -⟩ | ⟨⟨message, hmessage⟩ | hfalse, -⟩
  · exact ⟨rfl, hunlocks⟩
  · cases hanswer
  · cases hmessage
  · cases hfalse

theorem Step.test_same {answer : Answer (.test_passphrase slot file)}
    (h : w.Step env (.test_passphrase slot file) answer w') : w' = w := by
  rcases h with ⟨⟨rfl, -⟩, -⟩ | ⟨-, rfl | ⟨answer', rfl, -⟩ | htorn⟩
  · rfl
  · rfl
  · rfl
  · exact htorn.elim

theorem Step.read_stash {answer : Answer .read_rollback_stash} (h : w.Step env .read_rollback_stash answer w') :
    w' = w ∧ (answer = .ok none → w.stash = none) ∧
      ∀ stash, answer = .ok (some stash) → w.stash = some (.whole stash) := by
  have hperforms : ∀ {answer' : Answer .read_rollback_stash}, w.Performs _ answer' w' →
      w' = w ∧ (answer' = .ok none → w.stash = none) ∧
        ∀ stash, answer' = .ok (some stash) → w.stash = some (.whole stash) := by
    rintro answer' ⟨rfl, h⟩
    refine ⟨rfl, ?_⟩
    split at h
    · next hstash =>
      subst h
      exact ⟨fun _ => hstash, nofun⟩
    · next stash hstash =>
      subst h
      refine ⟨nofun, ?_⟩
      rintro stash' hstash'
      cases hstash'
      exact hstash
    · obtain ⟨message, rfl⟩ := h
      exact ⟨nofun, nofun⟩
  rcases h with ⟨h, -⟩ | ⟨⟨message, rfl⟩, rfl | ⟨answer', h⟩ | htorn⟩
  · exact hperforms h
  · exact ⟨rfl, nofun, nofun⟩
  · exact ⟨(hperforms h).1, nofun, nofun⟩
  · exact htorn.elim

theorem Step.write_keyfile_ok {contents : List UInt8} (h : w.Step env (.write_keyfile file contents) (.ok ()) w') :
    w' = w.with_file file (some contents) := by
  rcases h with ⟨⟨-, rfl⟩, -⟩ | ⟨⟨message, hmessage⟩, -⟩
  · rfl
  · cases hmessage

theorem Step.dump_ok {success : Bool} {text : String} (h : w.Step env .luksDump (.ok (success, text)) w') :
    w' = w ∧ (success = true → IsDump text w.slots) := by
  rcases h with ⟨⟨rfl, text', hanswer, hdump⟩, -⟩ | ⟨⟨message, hmessage⟩ | ⟨text', hfalse⟩, hleaves⟩
  · cases hanswer
    exact ⟨rfl, fun _ => hdump⟩
  · cases hmessage
  · cases hfalse
    rcases hleaves with rfl | ⟨answer', rfl, -⟩ | htorn
    · exact ⟨rfl, nofun⟩
    · exact ⟨rfl, nofun⟩
    · exact htorn.elim

theorem Step.random {passphrase : List UInt8} (h : w.Step env .random_passphrase passphrase w') :
    passphrase.length = PASSPHRASE_BYTES ∧ passphrase ∉ w.drawn ∧ w' = { w with drawn := passphrase :: w.drawn } := by
  rcases h with ⟨h, -⟩ | ⟨hfailed, -⟩
  · exact h
  · exact hfailed.elim

end Effects

section Works

variable {key_id : String} {data plaintext ciphertext : List UInt8} {file : KeyFile}

theorem works_meta_get (answer : Answer .meta_get) (w' : World) :
    Works env w .meta_get answer w' ↔ answer = .ok w.blob ∧ w' = w := and_comm

theorem works_own_pcrs (answer : Answer .own_pcrs) (w' : World) :
    Works env w .own_pcrs answer w' ↔ answer = .ok w.image ∧ w' = w := and_comm

theorem works_key_origin (answer : Answer (.kms_key_origin key_id)) (w' : World) :
    Works env w (.kms_key_origin key_id) answer w' ↔ answer = .ok (env.origin key_id) ∧ w' = w := and_comm

theorem works_key_policy (answer : Answer (.kms_get_key_policy key_id)) (w' : World) :
    Works env w (.kms_get_key_policy key_id) answer w' ↔ answer = .ok (env.policy key_id) ∧ w' = w := and_comm

theorem works_schedule_deletion (answer : Answer (.kms_schedule_deletion key_id)) (w' : World) :
    Works env w (.kms_schedule_deletion key_id) answer w' ↔ answer = .ok () ∧ w' = w := and_comm

theorem works_meta_put (answer : Answer (.meta_put data)) (w' : World) :
    Works env w (.meta_put data) answer w' ↔ answer = .ok () ∧ w' = { w with blob := data } :=
  ⟨fun h => h.1, fun h => ⟨h, trivial⟩⟩

theorem works_write_keyfile (answer : Answer (.write_keyfile file data)) (w' : World) :
    Works env w (.write_keyfile file data) answer w' ↔ answer = .ok () ∧ w' = w.with_file file (some data) :=
  ⟨fun h => h.1, fun h => ⟨h, trivial⟩⟩

theorem works_remove_keyfile (answer : Answer (.remove_keyfile file)) (w' : World) :
    Works env w (.remove_keyfile file) answer w' ↔ answer = () ∧ w' = w.with_file file none :=
  ⟨fun h => ⟨rfl, h.1⟩, fun h => ⟨h.2, trivial⟩⟩

theorem works_remove_stash (answer : Answer .remove_rollback_stash) (w' : World) :
    Works env w .remove_rollback_stash answer w' ↔ answer = .ok () ∧ w' = { w with stash := none } :=
  ⟨fun h => h.1, fun h => ⟨h, trivial⟩⟩

theorem works_decrypt (hnames : env.names key_id = w.image) (hdecrypt : env.decrypt key_id ciphertext = some plaintext)
    (answer : Answer (.kms_decrypt key_id ciphertext)) (w' : World) :
    Works env w (.kms_decrypt key_id ciphertext) answer w' ↔ answer = .ok plaintext ∧ w' = w := by
  constructor
  · rintro ⟨hw, ⟨plaintext', -, hdecrypt', rfl⟩ | ⟨hno, -⟩⟩
    · rw [hdecrypt] at hdecrypt'
      cases hdecrypt'
      exact ⟨rfl, hw⟩
    · exact absurd ⟨plaintext, hnames, hdecrypt⟩ hno
  · rintro ⟨rfl, hw⟩
    exact ⟨hw, .inl ⟨plaintext, hnames, hdecrypt, rfl⟩⟩

theorem works_read_whole {stash : UpgradeRollbackStash} (hstash : w.stash = some (.whole stash))
    (answer : Answer .read_rollback_stash) (w' : World) :
    Works env w .read_rollback_stash answer w' ↔ answer = .ok (some stash) ∧ w' = w := by
  have hperforms : w.Performs .read_rollback_stash answer w' ↔ w' = w ∧ answer = .ok (some stash) := by
    simp only [Performs, hstash]
  exact ⟨fun h => (hperforms.mp h.1).symm, fun h => ⟨hperforms.mpr h.symm, trivial⟩⟩

theorem works_read_none (hstash : w.stash = none) (answer : Answer .read_rollback_stash) (w' : World) :
    Works env w .read_rollback_stash answer w' ↔ answer = .ok none ∧ w' = w := by
  have hperforms : w.Performs .read_rollback_stash answer w' ↔ w' = w ∧ answer = .ok none := by
    simp only [Performs, hstash]
  exact ⟨fun h => (hperforms.mp h.1).symm, fun h => ⟨hperforms.mpr h.symm, trivial⟩⟩

theorem works_test_true (h : w.Unlocks slot file) (answer : Answer (.test_passphrase slot file)) (w' : World) :
    Works env w (.test_passphrase slot file) answer w' ↔ answer = .ok true ∧ w' = w :=
  ⟨fun ⟨⟨hw, hcases⟩, _⟩ => ⟨(hcases.resolve_right fun hno => hno.1 h).2, hw⟩,
    fun ⟨hanswer, hw⟩ => ⟨⟨hw, .inl ⟨h, hanswer⟩⟩, trivial⟩⟩

theorem works_test_false (h : ¬w.Unlocks slot file) (answer : Answer (.test_passphrase slot file)) (w' : World) :
    Works env w (.test_passphrase slot file) answer w' ↔ answer = .ok false ∧ w' = w :=
  ⟨fun ⟨⟨hw, hcases⟩, _⟩ => ⟨(hcases.resolve_left fun hyes => h hyes.1).2, hw⟩,
    fun ⟨hanswer, hw⟩ => ⟨⟨hw, .inr ⟨h, hanswer⟩⟩, trivial⟩⟩

theorem works_kill {n : Nat} {key : List UInt8} (hfile : w.files file = some key) (hcan : luks.CanKill w.slots n key)
    (answer : Answer (.luksKillSlot n file)) (w' : World) :
    Works env w (.luksKillSlot n file) answer w' ↔
      answer = .ok true ∧ w' = { w with slots := luks.kill_slot w.slots n } := by
  constructor
  · rintro ⟨⟨key', -, -, hanswer, hw⟩ | ⟨hno, -⟩, -⟩
    · exact ⟨hanswer, hw⟩
    · exact absurd ⟨key, hfile, hcan⟩ hno
  · rintro ⟨hanswer, hw⟩
    exact ⟨.inl ⟨key, hfile, hcan, hanswer, hw⟩, trivial⟩

theorem works_kill_not {n : Nat} (hno : ¬∃ key, w.files file = some key ∧ luks.CanKill w.slots n key)
    (answer : Answer (.luksKillSlot n file)) (w' : World) :
    Works env w (.luksKillSlot n file) answer w' ↔ answer = .ok false ∧ w' = w := by
  constructor
  · rintro ⟨⟨key, hfile, hcan, -⟩ | ⟨-, hanswer, hw⟩, -⟩
    · exact absurd ⟨key, hfile, hcan⟩ hno
    · exact ⟨hanswer, hw⟩
  · rintro ⟨hanswer, hw⟩
    exact ⟨.inr ⟨hno, hanswer, hw⟩, trivial⟩

end Works

end World

end enclavia.crypto
