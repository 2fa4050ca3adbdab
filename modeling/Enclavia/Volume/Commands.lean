import Enclavia.Interaction.Program
import Enclavia.Protocol.KmsPolicy
import Enclavia.Volume.Keyslots

open interaction bytes text enclavia.protocol enclavia.protocol.kms_policy

namespace enclavia.crypto

def BLOB_VERSION : Nat := 1

def PASSPHRASE_BYTES : Nat := 32

/-- What is stored for the enclave: the key that wraps the passphrase, and the passphrase wrapped. -/
structure KeyBlob where
  version : Nat
  kms_key_id : String
  ciphertext : Option String
  prev_key_id : Option String

/-- What `prepare-upgrade` writes before it touches the volume, and `revoke-upgrade` rolls back to. -/
structure UpgradeRollbackStash where
  pre_prepare_blob : List UInt8
  new_keyslot : Nat

inductive KeyFile where
  | luks
  | current
  | new
deriving DecidableEq

structure Codecs where
  from_slice : List UInt8 → Except String KeyBlob
  to_vec : KeyBlob → List UInt8
  from_utf8_lossy : List UInt8 → List UInt8
  b64_decode : String → Except String (List UInt8)
  b64_encode : List UInt8 → String
  policy_from_str : String → Except String json.Value
  from_slice_to_vec : ∀ blob, from_slice (to_vec blob) = .ok blob
  to_vec_ne_nil : ∀ blob, to_vec blob ≠ []
  from_utf8_lossy_to_vec : ∀ blob, from_utf8_lossy (to_vec blob) = to_vec blob
  b64_decode_encode : ∀ bytes, b64_decode (b64_encode bytes) = .ok bytes

inductive Effect where
  | read_rollback_stash
  | write_rollback_stash (stash : UpgradeRollbackStash)
  | remove_rollback_stash
  | meta_get
  | meta_put (data : List UInt8)
  | own_pcrs
  | kms_key_origin (key_id : String)
  | kms_get_key_policy (key_id : String)
  | kms_get_public_key (key_id : String)
  | kms_decrypt (key_id : String) (ciphertext : List UInt8)
  | kms_schedule_deletion (key_id : String)
  | random_passphrase
  | rsa_oaep_encrypt (pubkey_der plaintext : List UInt8)
  | write_keyfile (file : KeyFile) (contents : List UInt8)
  | remove_keyfile (file : KeyFile)
  | luksDump
  | luksAddKey (slot : Nat) (key_file new_key_file : KeyFile)
  | test_passphrase (slot : Option Nat) (key_file : KeyFile)
  | luksKillSlot (slot : Nat) (key_file : KeyFile)

abbrev Answer : Effect → Type
  | .read_rollback_stash => Except String (Option UpgradeRollbackStash)
  | .write_rollback_stash _ => Except String Unit
  | .remove_rollback_stash => Except String Unit
  | .meta_get => Except String (List UInt8)
  | .meta_put _ => Except String Unit
  | .own_pcrs => Except String Pcrs
  | .kms_key_origin _ => Except String String
  | .kms_get_key_policy _ => Except String String
  | .kms_get_public_key _ => Except String (List UInt8)
  | .kms_decrypt _ _ => Except String (List UInt8)
  | .kms_schedule_deletion _ => Except String Unit
  | .random_passphrase => List UInt8
  | .rsa_oaep_encrypt _ _ => Except String (List UInt8)
  | .write_keyfile _ _ => Except String Unit
  | .remove_keyfile _ => Unit
  | .luksDump => Except String (Bool × String)
  | .luksAddKey _ _ _ => Except String Bool
  | .test_passphrase _ _ => Except String Bool
  | .luksKillSlot _ _ => Except String Bool

abbrev Proc := Program Effect Answer

def remove_keyfiles {α : Type} : List KeyFile → α → Proc α
  | [], result => .ret result
  | file :: rest, result => .act (.remove_keyfile file) fun _ => remove_keyfiles rest result

variable (codecs : Codecs)

def verify_key_policy_for (key_id : String) (expected : Pcrs) : Proc (Except String Unit) :=
  .act (.kms_key_origin key_id) fun
    | .error message => .ret (.error message)
    | .ok origin =>
      if origin ≠ "AWS_KMS" then
        .ret (.error (s!"KMS key {key_id} has Origin={origin}, refusing to trust it: only KMS-generated " ++
          "(non-exportable) keys are trusted; imported/external material could be held out-of-band and decrypt our " ++
          "sealed passphrase."))
      else
        .act (.kms_get_key_policy key_id) fun
          | .error message => .ret (.error message)
          | .ok policy =>
            match verify_decrypt_policy codecs.policy_from_str policy expected with
            | .error e => .ret (.error (s!"KMS key {key_id} policy rejected, refusing to trust it: {e.message}. The " ++
              "key's Decrypt must be gated to the expected PCR0/1/2 and grant no principal a way to loosen it."))
            | .ok () => .ret (.ok ())

def verify_key_policy (key_id : String) : Proc (Except String Unit) :=
  .act .own_pcrs fun
    | .error message => .ret (.error message)
    | .ok own => verify_key_policy_for codecs key_id own

def parse_blob (missing : String) (raw : List UInt8) : Except String KeyBlob :=
  if raw = [] then .error missing
  else
    match codecs.from_slice raw with
    | .error message => .error message
    | .ok blob => if blob.version ≠ BLOB_VERSION then .error s!"unsupported blob version: {blob.version}" else .ok blob

def unwrap (key_id ciphertext what : String) : Proc (Except String (List UInt8)) :=
  match codecs.b64_decode ciphertext with
  | .error message => .ret (.error message)
  | .ok ct =>
    .act (.kms_decrypt key_id ct) fun
      | .error message => .ret (.error message)
      | .ok plaintext =>
        if plaintext.length ≠ PASSPHRASE_BYTES then
          .ret (.error s!"decrypted {what} has wrong length: {plaintext.length} (expected {PASSPHRASE_BYTES})")
        else .ret (.ok plaintext)

def boot_passphrase (blob : KeyBlob) : Proc (Except String (List UInt8 × KeyBlob)) :=
  match blob.ciphertext with
  | none =>
    .act .random_passphrase fun passphrase =>
      .act (.kms_get_public_key blob.kms_key_id) fun
        | .error message => .ret (.error message)
        | .ok pubkey_der =>
          .act (.rsa_oaep_encrypt pubkey_der passphrase) fun
            | .error message => .ret (.error message)
            | .ok ciphertext =>
              let blob := { blob with ciphertext := some (codecs.b64_encode ciphertext) }
              .act (.meta_put (codecs.to_vec blob)) fun
                | .error message => .ret (.error message)
                | .ok () => .ret (.ok (passphrase, blob))
  | some ct =>
    (unwrap codecs blob.kms_key_id ct "passphrase").bind fun
      | .error message => .ret (.error message)
      | .ok plaintext => .ret (.ok (plaintext, blob))

def delete_previous (blob : KeyBlob) : Proc (Except String Unit) :=
  match blob.prev_key_id with
  | none => .ret (.ok ())
  | some prev_key_id =>
    .act (.kms_schedule_deletion prev_key_id) fun
      | .error _ => .ret (.ok ())
      | .ok () =>
        .act (.meta_put (codecs.to_vec { blob with prev_key_id := none })) fun
          | .error message => .ret (.error message)
          | .ok () => .ret (.ok ())

def init : Proc (Except String Unit) :=
  .act .meta_get fun
    | .error message => .ret (.error message)
    | .ok raw =>
      match parse_blob codecs "bootstrap key blob missing — backend must write it before launch" raw with
      | .error message => .ret (.error message)
      | .ok blob =>
        (verify_key_policy codecs blob.kms_key_id).bind fun
          | .error message => .ret (.error message)
          | .ok () =>
            (boot_passphrase codecs blob).bind fun
              | .error message => .ret (.error message)
              | .ok (passphrase, blob) =>
                .act (.write_keyfile .luks passphrase) fun
                  | .error message => .ret (.error message)
                  | .ok () => delete_previous codecs blob

def expected_pcr (i : Nat) (h : String) : Except String (List UInt8) :=
  match hex_decode (String.ofList (trim_start (trim_end h.toList))) with
  | none => .error s!"expected_pcr{i} is not valid hex"
  | some pcr =>
    if pcr.length ≠ 48 then
      .error s!"expected_pcr{i} is {pcr.length} bytes, expected the 48 bytes of a Nitro PCR"
    else .ok pcr

def parse_expected_pcrs (expected0 expected1 expected2 : String) : Except String Pcrs :=
  match expected_pcr 0 expected0 with
  | .error message => .error message
  | .ok pcr0 =>
    match expected_pcr 1 expected1 with
    | .error message => .error message
    | .ok pcr1 =>
      match expected_pcr 2 expected2 with
      | .error message => .error message
      | .ok pcr2 => .ok ⟨pcr0, pcr1, pcr2⟩

structure PrepareUpgrade where
  new_public_key : String
  new_key_id : String
  expected_pcr0 : String
  expected_pcr1 : String
  expected_pcr2 : String

/-- What is there before the volume is touched: the blob, the passphrase of now, and the new one with its ciphertext. -/
structure Prepared where
  raw : List UInt8
  blob : KeyBlob
  current_passphrase : List UInt8
  new_passphrase : List UInt8
  new_ct : List UInt8

def verify_new_key (args : PrepareUpgrade) (expected : Pcrs) : Proc (Except String (List UInt8)) :=
  match codecs.b64_decode args.new_public_key with
  | .error message => .ret (.error message)
  | .ok new_pubkey_der =>
    (verify_key_policy_for codecs args.new_key_id expected).bind fun
      | .error message => .ret (.error message)
      | .ok () =>
        .act (.kms_get_public_key args.new_key_id) fun
          | .error message => .ret (.error message)
          | .ok kms_pubkey_der =>
            if kms_pubkey_der ≠ new_pubkey_der then
              .ret (.error (s!"the control command's new_public_key does not match " ++
                s!"kms:GetPublicKey({args.new_key_id}); refusing to seal the new passphrase to an unverified key"))
            else .ret (.ok new_pubkey_der)

def stage_passphrases (raw : List UInt8) (blob : KeyBlob) (new_pubkey_der current_passphrase : List UInt8) :
    Proc (Except String Prepared) :=
  .act .random_passphrase fun new_passphrase =>
    .act (.rsa_oaep_encrypt new_pubkey_der new_passphrase) fun
      | .error message => .ret (.error message)
      | .ok new_ct =>
        .act (.write_keyfile .current current_passphrase) fun
          | .error message => .ret (.error message)
          | .ok () =>
            .act (.write_keyfile .new new_passphrase) fun
              | .error message => .ret (.error message)
              | .ok () => .ret (.ok { raw, blob, current_passphrase, new_passphrase, new_ct })

def prepare_keys (args : PrepareUpgrade) : Proc (Except String Prepared) :=
  if args.new_key_id = "" then .ret (.error "new_key_id must not be empty")
  else
    match parse_expected_pcrs args.expected_pcr0 args.expected_pcr1 args.expected_pcr2 with
    | .error message => .ret (.error message)
    | .ok expected =>
      .act .read_rollback_stash fun
        | .error message => .ret (.error message)
        | .ok (some _) =>
          .ret (.error ("upgrade rollback stash already exists: a previous prepare-upgrade is still pending; revoke " ++
            "it first"))
        | .ok none =>
          .act .meta_get fun
            | .error message => .ret (.error message)
            | .ok raw =>
              match parse_blob codecs "key blob missing — volume is not provisioned" raw with
              | .error message => .ret (.error message)
              | .ok blob =>
                if args.new_key_id = blob.kms_key_id then
                  .ret (.error "new_key_id must differ from the current key id")
                else
                  match blob.ciphertext with
                  | none => .ret (.error "blob has no ciphertext — volume hasn't been provisioned yet")
                  | some current_ct =>
                    (verify_new_key codecs args expected).bind fun
                      | .error message => .ret (.error message)
                      | .ok new_pubkey_der =>
                        (unwrap codecs blob.kms_key_id current_ct "current passphrase").bind fun
                          | .error message => .ret (.error message)
                          | .ok current_passphrase => stage_passphrases raw blob new_pubkey_der current_passphrase

def first_free_keyslot : Proc (Except String Nat) :=
  .act .luksDump fun
    | .error message => .ret (.error s!"failed to spawn cryptsetup luksDump: {message}")
    | .ok (success, text) =>
      if !success then .ret (.error "cryptsetup luksDump failed")
      else
        match parse_occupied_keyslots text with
        | none => .ret (.error "luksDump output has no Keyslots section: not a LUKS2 volume?")
        | some [] =>
          .ret (.error "luksDump reports no occupied keyslots, but the volume is open: refusing to guess")
        | some occupied => .ret (.ok (first_free_from_occupied occupied))

def upgraded_blob (new_key_id : String) (prepared : Prepared) : KeyBlob :=
  { prepared.blob with
    kms_key_id := new_key_id
    ciphertext := some (codecs.b64_encode prepared.new_ct)
    prev_key_id := some prepared.blob.kms_key_id }

def publish_new_key (new_key_id : String) (prepared : Prepared) (new_keyslot : Nat) : Proc (Except String Unit) :=
  .act (.test_passphrase (some new_keyslot) .new) fun
    | .error message => .ret (.error s!"failed to spawn cryptsetup luksOpen --test-passphrase: {message}")
    | .ok false =>
      .act (.luksKillSlot new_keyslot .current) fun _ =>
        .act .remove_rollback_stash fun _ =>
          .ret (.error s!"new keyslot verification failed: passphrase does not open slot {new_keyslot}")
    | .ok true =>
      .act (.meta_put (codecs.to_vec (upgraded_blob codecs new_key_id prepared))) fun
        | .error message => .ret (.error message)
        | .ok () => .ret (.ok ())

def add_new_key (new_key_id : String) (prepared : Prepared) (new_keyslot : Nat) : Proc (Except String Unit) :=
  .act (.write_rollback_stash ⟨codecs.from_utf8_lossy prepared.raw, new_keyslot⟩) fun
    | .error message => .ret (.error message)
    | .ok () =>
      .act (.luksAddKey new_keyslot .current .new) fun
        | .error message => .ret (.error s!"failed to spawn cryptsetup luksAddKey: {message}")
        | .ok false => .act .remove_rollback_stash fun _ => .ret (.error "cryptsetup luksAddKey failed")
        | .ok true => publish_new_key codecs new_key_id prepared new_keyslot

def stage_upgrade (new_key_id : String) (prepared : Prepared) : Proc (Except String Unit) :=
  first_free_keyslot.bind fun
    | .error message => .ret (.error message)
    | .ok new_keyslot => add_new_key codecs new_key_id prepared new_keyslot

def prepare_upgrade (args : PrepareUpgrade) : Proc (Except String Unit) :=
  (prepare_keys codecs args).bind fun
    | .error message => .ret (.error message)
    | .ok prepared => (stage_upgrade codecs args.new_key_id prepared).bind (remove_keyfiles [.new, .current])

def roll_back (stash : UpgradeRollbackStash) : Proc (Except String Unit) :=
  .act (.test_passphrase (some stash.new_keyslot) .current) fun
    | .error message => .ret (.error s!"failed to spawn cryptsetup luksOpen --test-passphrase: {message}")
    | .ok true =>
      .ret (.error (s!"refusing to kill keyslot {stash.new_keyslot}: the current passphrase opens it (stash points " ++
        "at the live slot)"))
    | .ok false =>
      .act (.luksKillSlot stash.new_keyslot .current) fun
        | .error message => .ret (.error s!"failed to spawn cryptsetup luksKillSlot: {message}")
        | .ok false => .ret (.error s!"cryptsetup luksKillSlot (slot {stash.new_keyslot}) failed")
        | .ok true =>
          .act (.test_passphrase none .current) fun
            | .error message => .ret (.error s!"failed to spawn cryptsetup luksOpen --test-passphrase: {message}")
            | .ok false =>
              .ret (.error (s!"volume no longer opens with the pre-upgrade passphrase after killing slot " ++
                s!"{stash.new_keyslot}: leaving blob and stash untouched, manual recovery required"))
            | .ok true =>
              .act (.meta_put stash.pre_prepare_blob) fun
                | .error message => .ret (.error message)
                | .ok () =>
                  .act .remove_rollback_stash fun
                    | .error message => .ret (.error message)
                    | .ok () => .ret (.ok ())

def stashed_passphrase (stash : UpgradeRollbackStash) : Proc (Except String (List UInt8)) :=
  match codecs.from_slice stash.pre_prepare_blob with
  | .error message => .ret (.error message)
  | .ok pre_blob =>
    match pre_blob.ciphertext with
    | none => .ret (.error "pre-prepare blob has no ciphertext, unexpected state")
    | some ct_b64 =>
      match codecs.b64_decode ct_b64 with
      | .error message => .ret (.error message)
      | .ok ct => .act (.kms_decrypt pre_blob.kms_key_id ct) .ret

def revoke_upgrade : Proc (Except String Unit) :=
  .act .read_rollback_stash fun
    | .error message => .ret (.error message)
    | .ok none =>
      .ret (.error "no upgrade rollback stash found at UPGRADE_ROLLBACK_STASH, nothing to revoke")
    | .ok (some stash) =>
      (stashed_passphrase codecs stash).bind fun
        | .error message => .ret (.error message)
        | .ok passphrase =>
          .act (.write_keyfile .current passphrase) fun
            | .error message => .ret (.error message)
            | .ok () => (roll_back stash).bind (remove_keyfiles [.current])

end enclavia.crypto
