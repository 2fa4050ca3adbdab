import Enclavia.Volume.History

open interaction bytes enclavia.protocol enclavia.protocol.kms_policy

namespace enclavia.crypto

section Runs

variable {codecs : Codecs} {env : Env} {w : World}

theorem World.step_of_works {e : Effect} {answer : Answer e} {w' : World} (hperforms : w.Performs e answer w')
    (htrusted : w.Trusted env e answer) : w.Step env e answer w' :=
  .inl ⟨hperforms, fun _ => htrusted⟩

theorem World.step_read_none (h : w.stash = none) : w.Step env .read_rollback_stash (.ok none) w :=
  World.step_of_works ⟨rfl, by rw [h]⟩ trivial

theorem World.step_read_whole {stash : UpgradeRollbackStash} (h : w.stash = some (.whole stash)) :
    w.Step env .read_rollback_stash (.ok (some stash)) w :=
  World.step_of_works ⟨rfl, by rw [h]⟩ trivial

theorem World.step_remove_keyfile (w : World) (file : KeyFile) :
    w.Step env (.remove_keyfile file) () (w.with_file file none) :=
  World.step_of_works rfl trivial

/-- All that a `prepare-upgrade` needs to go through: the volume is provisioned and open to the running image, and the
new key is a good one. -/
structure Preparable (codecs : Codecs) (env : Env) (args : PrepareUpgrade) (expected : Pcrs) (w : World)
    (prepared : Prepared) (n : Nat) : Prop where
  new_key_id : args.new_key_id ≠ ""
  pcrs : parse_expected_pcrs args.expected_pcr0 args.expected_pcr1 args.expected_pcr2 = .ok expected
  stash : w.stash = none
  raw : prepared.raw = w.blob ∧ w.blob ≠ []
  blob : codecs.from_slice w.blob = .ok prepared.blob ∧ prepared.blob.version = BLOB_VERSION
  other_key : args.new_key_id ≠ prepared.blob.kms_key_id
  ciphertext : ∃ ct, prepared.blob.ciphertext = some ct ∧
    Wraps codecs env prepared.blob.kms_key_id ct prepared.current_passphrase
  named : env.names prepared.blob.kms_key_id = w.image
  public_key : codecs.b64_decode args.new_public_key = .ok (env.public_key args.new_key_id)
  origin : env.origin args.new_key_id = "AWS_KMS"
  policy : verify_decrypt_policy codecs.policy_from_str (env.policy args.new_key_id) expected = .ok ()
  current : prepared.current_passphrase.length = PASSPHRASE_BYTES ∧ luks.Opens w.slots prepared.current_passphrase
  drawn : prepared.new_passphrase.length = PASSPHRASE_BYTES ∧ prepared.new_passphrase ∉ w.drawn
  sealed : env.encrypts (env.public_key args.new_key_id) prepared.new_passphrase prepared.new_ct
  slot : n < luks.KEYSLOTS_MAX ∧ w.slots n = none
  dump : ∃ text occupied, IsDump text w.slots ∧ parse_occupied_keyslots text = some occupied ∧ occupied ≠ [] ∧
    first_free_from_occupied occupied = n

theorem verify_key_policy_for_exec {key_id : String} {expected : Pcrs} (horigin : env.origin key_id = "AWS_KMS")
    (hpolicy : verify_decrypt_policy codecs.policy_from_str (env.policy key_id) expected = .ok ()) :
    Program.Exec (World.Step env) (verify_key_policy_for codecs key_id expected) w (.ret (.ok ())) w := by
  refine .head (World.step_of_works rfl rfl) ?_
  dsimp only
  rw [if_neg (not_not.mpr horigin)]
  refine .head (World.step_of_works rfl rfl) ?_
  dsimp only
  rw [hpolicy]
  exact .refl _ _

theorem unwrap_exec {key_id ct what : String} {p : List UInt8} (hnames : env.names key_id = w.image)
    (hwraps : Wraps codecs env key_id ct p) (hlength : p.length = PASSPHRASE_BYTES) :
    Program.Exec (World.Step env) (unwrap codecs key_id ct what) w (.ret (.ok p)) w := by
  obtain ⟨c, hc, hdecrypt⟩ := hwraps
  rw [unwrap, hc]
  refine .head (World.step_of_works rfl (.inl ⟨p, hnames, hdecrypt, rfl⟩)) ?_
  dsimp only
  rw [if_neg (not_not.mpr hlength)]
  exact .refl _ _

def World.prepared (w : World) (prepared : Prepared) : World :=
  (({ w with drawn := prepared.new_passphrase :: w.drawn } : World).with_file .current
    (some prepared.current_passphrase)).with_file .new (some prepared.new_passphrase)

section Preparing

variable {args : PrepareUpgrade} {expected : Pcrs} {prepared : Prepared} {n : Nat}

theorem prepare_keys_exec (h : Preparable codecs env args expected w prepared n) :
    Program.Exec (World.Step env) (prepare_keys codecs args) w (.ret (.ok prepared)) (w.prepared prepared) := by
  obtain ⟨raw, blob, current, new, new_ct⟩ := prepared
  obtain rfl : raw = w.blob := h.raw.1
  obtain ⟨ct, hct, hwraps⟩ := h.ciphertext
  rw [prepare_keys, if_neg h.new_key_id, h.pcrs]
  refine .head (World.step_read_none h.stash) ?_
  refine .head (World.step_of_works rfl rfl) ?_
  have hparse : parse_blob codecs "key blob missing — volume is not provisioned" w.blob = .ok blob := by
    rw [parse_blob, if_neg h.raw.2, h.blob.1]
    exact if_neg (not_not.mpr h.blob.2)
  dsimp only
  rw [hparse]
  dsimp only
  rw [if_neg h.other_key, hct]
  have hverify : Program.Exec (World.Step env) (verify_new_key codecs args expected) w
      (.ret (.ok (env.public_key args.new_key_id))) w := by
    rw [verify_new_key, h.public_key]
    refine (verify_key_policy_for_exec h.origin h.policy).bind ?_
    refine .head (World.step_of_works rfl rfl) ?_
    dsimp only
    rw [if_neg (not_not.mpr rfl)]
    exact .refl _ _
  refine hverify.bind ((unwrap_exec h.named hwraps h.current.1).bind ?_)
  refine .head (World.step_of_works ⟨h.drawn.1, h.drawn.2, rfl⟩ trivial) ?_
  refine .head (World.step_of_works rfl ⟨new_ct, h.sealed, rfl⟩) ?_
  refine .head (World.step_of_works ⟨rfl, rfl⟩ trivial) ?_
  exact .head (World.step_of_works ⟨rfl, rfl⟩ trivial) (.refl _ _)

theorem first_free_keyslot_exec (h : Preparable codecs env args expected w prepared n) :
    Program.Exec (World.Step env) first_free_keyslot (w.prepared prepared) (.ret (.ok n)) (w.prepared prepared) := by
  obtain ⟨text, occupied, hdump, hparse, hne, hfirst⟩ := h.dump
  refine .head (World.step_of_works ⟨rfl, text, rfl, hdump⟩ trivial) ?_
  simp only [hparse, Bool.not_true, Bool.false_eq_true, if_false]
  cases occupied with
  | nil => exact absurd rfl hne
  | cons slot rest =>
    rw [← hfirst]
    exact .refl _ _

def World.upgraded (codecs : Codecs) (w : World) (new_key_id : String) (prepared : Prepared) (n : Nat) : World :=
  { w with
    slots := luks.add_key w.slots n prepared.new_passphrase
    blob := codecs.to_vec (upgraded_blob codecs new_key_id prepared)
    stash := some (.whole ⟨codecs.from_utf8_lossy prepared.raw, n⟩)
    files := Function.update (Function.update w.files .new none) .current none
    drawn := prepared.new_passphrase :: w.drawn }

theorem prepare_upgrade_exec (h : Preparable codecs env args expected w prepared n) :
    Program.Exec (World.Step env) (prepare_upgrade codecs args) w (.ret (.ok ()))
      (w.upgraded codecs args.new_key_id prepared n) := by
  have hstage : Program.Exec (World.Step env) (stage_upgrade codecs args.new_key_id prepared) (w.prepared prepared)
      (.ret (.ok ())) { w.prepared prepared with
        slots := luks.add_key w.slots n prepared.new_passphrase
        blob := codecs.to_vec (upgraded_blob codecs args.new_key_id prepared)
        stash := some (.whole ⟨codecs.from_utf8_lossy prepared.raw, n⟩) } := by
    refine (first_free_keyslot_exec h).bind ?_
    refine .head (World.step_of_works ⟨rfl, rfl⟩ trivial) ?_
    refine .head (World.step_of_works (.inl ⟨prepared.current_passphrase, prepared.new_passphrase, rfl, rfl,
      ⟨h.slot.1, h.slot.2, h.current.2⟩, rfl, rfl⟩) trivial) ?_
    refine .head (World.step_of_works ⟨rfl, .inl ⟨⟨prepared.new_passphrase, rfl, luks.add_key_self⟩, rfl⟩⟩ trivial) ?_
    refine .head (World.step_of_works ⟨rfl, rfl⟩ trivial) ?_
    exact .refl _ _
  refine (prepare_keys_exec h).bind (hstage.bind ?_)
  refine .head (World.step_remove_keyfile _ _) (.head (World.step_remove_keyfile _ _) ?_)
  have hfiles : Function.update (Function.update (w.prepared prepared).files .new none) .current none =
      Function.update (Function.update w.files .new none) .current none := by
    funext file
    cases file <;> rfl
  simp only [World.with_file, World.upgraded]
  rw [hfiles]
  exact .refl _ _

end Preparing

section Revoking

variable {stash : UpgradeRollbackStash} {blob : KeyBlob} {ct : String} {p : List UInt8}

theorem stashed_passphrase_exec (hblob : codecs.from_slice stash.pre_prepare_blob = .ok blob)
    (hct : blob.ciphertext = some ct) (hnames : env.names blob.kms_key_id = w.image)
    (hwraps : Wraps codecs env blob.kms_key_id ct p) :
    Program.Exec (World.Step env) (stashed_passphrase codecs stash) w (.ret (.ok p)) w := by
  obtain ⟨c, hc, hdecrypt⟩ := hwraps
  rw [stashed_passphrase, hblob]
  simp only [hct, hc]
  exact .head (World.step_of_works rfl (.inl ⟨p, hnames, hdecrypt, rfl⟩)) (.refl _ _)

theorem not_unlocks (hother : w.slots stash.new_keyslot ≠ some p) :
    ¬(w.with_file .current (some p)).Unlocks (some stash.new_keyslot) .current := by
  rintro ⟨key, hkey, hlive⟩
  cases hkey
  exact hother hlive

theorem revoke_upgrade_exec_kill (hstash : w.stash = some (.whole stash))
    (hblob : codecs.from_slice stash.pre_prepare_blob = .ok blob) (hct : blob.ciphertext = some ct)
    (hnames : env.names blob.kms_key_id = w.image) (hwraps : Wraps codecs env blob.kms_key_id ct p)
    (hother : w.slots stash.new_keyslot ≠ some p) :
    ∃ next, Program.Exec (World.Step env) (revoke_upgrade codecs) w
      (.act (.luksKillSlot stash.new_keyslot .current) next) (w.with_file .current (some p)) := by
  obtain ⟨killed, hkilling⟩ : ∃ killed, Program.Exec (World.Step env) (roll_back stash) (w.with_file .current (some p))
      (.act (.luksKillSlot stash.new_keyslot .current) killed) (w.with_file .current (some p)) :=
    ⟨_, .head (World.step_of_works ⟨rfl, .inr ⟨not_unlocks hother, rfl⟩⟩ trivial) (.refl _ _)⟩
  exact ⟨_, .head (World.step_read_whole hstash) ((stashed_passphrase_exec hblob hct hnames hwraps).bind
    (.head (World.step_of_works ⟨rfl, rfl⟩ trivial) hkilling.bind_left))⟩

theorem revoke_upgrade_exec_half (hstash : w.stash = some (.whole stash))
    (hblob : codecs.from_slice stash.pre_prepare_blob = .ok blob) (hct : blob.ciphertext = some ct)
    (hnames : env.names blob.kms_key_id = w.image) (hwraps : Wraps codecs env blob.kms_key_id ct p)
    (hother : w.slots stash.new_keyslot ≠ some p) (hkill : luks.CanKill w.slots stash.new_keyslot p) :
    ∃ message w', Program.Exec (World.Step env) (revoke_upgrade codecs) w (.ret (.error message)) w' ∧
      w'.slots = luks.kill_slot w.slots stash.new_keyslot ∧ w'.blob = w.blob ∧ w'.stash = w.stash ∧
      w'.image = w.image ∧ w'.drawn = w.drawn := by
  have hhalf : Program.Exec (World.Step env) (roll_back stash) (w.with_file .current (some p))
      (.ret (.error "failed to spawn cryptsetup luksOpen --test-passphrase: no memory"))
      { w.with_file .current (some p) with slots := luks.kill_slot w.slots stash.new_keyslot } := by
    refine .head (World.step_of_works ⟨rfl, .inr ⟨not_unlocks hother, rfl⟩⟩ trivial) ?_
    refine .head (World.step_of_works (.inl ⟨p, rfl, hkill, rfl, rfl⟩) trivial) ?_
    exact .head (.inr ⟨.inl ⟨"no memory", rfl⟩, .inl rfl⟩) (.refl _ _)
  refine ⟨_, _, .head (World.step_read_whole hstash) ((stashed_passphrase_exec hblob hct hnames hwraps).bind
    (.head (World.step_of_works ⟨rfl, rfl⟩ trivial) (hhalf.bind
      (.head (World.step_remove_keyfile _ _) (.refl _ _))))), rfl, rfl, rfl, rfl, rfl⟩

end Revoking

theorem Machine.reaches_of_exec {rules : Rules} {m : Machine} {command : Command} {p q : Proc (Except String Unit)}
    {w' : World} (hrunning : m.running = some (command, p))
    (hexec : Program.Exec (World.Step env) p m.state.world q w') :
    ∃ s', Machine.Reaches codecs env rules m { state := s', running := some (command, q) } ∧ s'.world = w' ∧
      s'.opened = m.state.opened := by
  generalize hworld : m.state.world = w at hexec
  induction hexec generalizing m with
  | refl p w =>
    exact ⟨m.state, hrunning ▸ .refl, hworld, rfl⟩
  | @head e next answer w w₁ w₂ q hstep _ ih =>
    have hobserve : (m.state.observe e w₁).world = w₁ ∧ (m.state.observe e w₁).opened = m.state.opened := by
      unfold State.observe
      split <;> exact ⟨rfl, rfl⟩
    obtain ⟨s', hreaches, hs', hopened⟩ :=
      ih (m := { state := m.state.observe e w₁, running := some (command, next answer) })
      rfl hobserve.1
    refine ⟨s', hreaches.head (.effect hrunning ⟨w₁, ?_, rfl⟩), hs', hopened.trans hobserve.2⟩
    rw [hworld]
    exact hstep

theorem Machine.reaches_of_command (rules : Rules) (command : Command) {m : Machine} {result : Except String Unit}
    {w' : World} (hidle : m.running = none) (hrule : rules.commands m.state command)
    (hopened : command = .init ↔ m.state.opened = none)
    (hexec : Program.Exec (World.Step env) (command.program codecs) m.state.world (.ret result) w') :
    ∃ s', Machine.Reaches codecs env rules m { state := s', running := none } ∧ s'.world = w' ∧
      s'.opened = m.state.opened := by
  obtain ⟨s', hreaches, hworld, hs'⟩ := @Machine.reaches_of_exec codecs env rules
    { state := { m.state with began := m.state.world }, running := some (command, command.program codecs) }
    command _ _ _ rfl hexec
  exact ⟨s', (hreaches.head (.start command hidle hrule hopened)).tail (.stop _), hworld, hs'⟩

end Runs

namespace sample

def encode_text : List Char → List UInt8
  | [] => [0]
  | c :: rest =>
    1 :: UInt8.ofNat (c.toNat / 65536) :: UInt8.ofNat (c.toNat / 256) :: UInt8.ofNat c.toNat :: encode_text rest

def decode_text : List UInt8 → Option (List Char × List UInt8)
  | 0 :: rest => some ([], rest)
  | 1 :: high :: middle :: low :: rest => (decode_text rest).map fun (text, rest) =>
    (Char.ofNat (high.toNat * 65536 + middle.toNat * 256 + low.toNat) :: text, rest)
  | _ => none

theorem decode_encode_text (text : List Char) (rest : List UInt8) :
    decode_text (encode_text text ++ rest) = some (text, rest) := by
  induction text with
  | nil => rfl
  | cons c text ih =>
    have hc : c.toNat < 2 ^ 24 := by
      have hvalid : c.toNat < 0xd800 ∨ 0xdfff < c.toNat ∧ c.toNat < 0x110000 := c.valid
      omega
    have hvalue : (UInt8.ofNat (c.toNat / 65536)).toNat * 65536 + (UInt8.ofNat (c.toNat / 256)).toNat * 256 +
        (UInt8.ofNat c.toNat).toNat = c.toNat := by
      simp only [UInt8.toNat_ofNat']
      omega
    simp only [encode_text, List.cons_append, decode_text, ih, Option.map_some, hvalue, Char.ofNat_toNat]

def encode_number (n : Nat) : List UInt8 := List.replicate n 1 ++ [0]

def decode_number : List UInt8 → Option (Nat × List UInt8)
  | 0 :: rest => some (0, rest)
  | 1 :: rest => (decode_number rest).map fun (n, rest) => (n + 1, rest)
  | _ => none

theorem decode_encode_number (n : Nat) (rest : List UInt8) :
    decode_number (encode_number n ++ rest) = some (n, rest) := by
  induction n with
  | zero => rfl
  | succ n ih =>
    have hsucc : encode_number (n + 1) ++ rest = 1 :: (encode_number n ++ rest) := by
      simp [encode_number, List.replicate_succ]
    rw [hsucc]
    simp only [decode_number, ih, Option.map_some]

def encode_optional : Option String → List UInt8
  | none => [0]
  | some text => 1 :: encode_text text.toList

def decode_optional : List UInt8 → Option (Option String × List UInt8)
  | 0 :: rest => some (none, rest)
  | 1 :: rest => (decode_text rest).map fun (text, rest) => (some (String.ofList text), rest)
  | _ => none

theorem decode_encode_optional (text : Option String) (rest : List UInt8) :
    decode_optional (encode_optional text ++ rest) = some (text, rest) := by
  cases text with
  | none => rfl
  | some text => simp only [encode_optional, List.cons_append, decode_optional, decode_encode_text, Option.map_some,
      String.ofList_toList]

def to_vec (blob : KeyBlob) : List UInt8 :=
  encode_number blob.version ++ (encode_text blob.kms_key_id.toList ++
    (encode_optional blob.ciphertext ++ encode_optional blob.prev_key_id))

def from_slice (raw : List UInt8) : Except String KeyBlob :=
  let parsed : Option KeyBlob := do
    let (version, raw) ← decode_number raw
    let (kms_key_id, raw) ← decode_text raw
    let (ciphertext, raw) ← decode_optional raw
    let (prev_key_id, _) ← decode_optional raw
    return ⟨version, String.ofList kms_key_id, ciphertext, prev_key_id⟩
  match parsed with
  | some blob => .ok blob
  | none => .error "malformed blob"

theorem from_slice_to_vec (blob : KeyBlob) : from_slice (to_vec blob) = .ok blob := by
  have hlast : decode_optional (encode_optional blob.prev_key_id) = some (blob.prev_key_id, []) := by
    have h := decode_encode_optional blob.prev_key_id []
    rwa [List.append_nil] at h
  simp only [from_slice, to_vec, decode_encode_number, decode_encode_text, decode_encode_optional, hlast,
    Option.bind_eq_bind, Option.bind_some, Option.pure_def, String.ofList_toList]

def image : Pcrs := ⟨List.replicate 48 0xaa, List.replicate 48 0xbb, List.replicate 48 0xcc⟩

def target : Pcrs := ⟨List.replicate 48 0xad, List.replicate 48 0xbb, List.replicate 48 0xcc⟩

def policy_from_str (text : String) : Except String json.Value :=
  .ok (.object [("Statement", .array [kms_policy.sample.attested_decrypt (if text = "target" then target else image)])])

def codecs : Codecs where
  from_slice := from_slice
  to_vec := to_vec
  from_utf8_lossy := id
  b64_decode text := match hex_decode text with
    | some bytes => .ok bytes
    | none => .error "malformed base64"
  b64_encode := hex_encode
  policy_from_str := policy_from_str
  from_slice_to_vec := from_slice_to_vec
  to_vec_ne_nil blob := by simp [to_vec, encode_number]
  from_utf8_lossy_to_vec _ := rfl
  b64_decode_encode bytes := by simp only [hex_decode_encode]

def env : Env where
  honest := True
  public_key key_id := if key_id = "next" then [2] else [1]
  origin _ := "AWS_KMS"
  policy key_id := if key_id = "next" then "target" else "image"
  names key_id := if key_id = "next" then target else image
  decrypt key_id ciphertext :=
    match ciphertext with
    | [] => none
    | tag :: plaintext => if [tag] = (if key_id = "next" then [2] else [1]) then some plaintext else none
  encrypts pubkey_der plaintext ciphertext := ciphertext = pubkey_der ++ plaintext
  decrypt_of_encrypts := by
    rintro key_id plaintext ciphertext rfl
    by_cases h : key_id = "next" <;> simp [h]

def passphrase : List UInt8 := List.replicate 32 7

def new_passphrase : List UInt8 := List.replicate 32 8

def blob : KeyBlob := ⟨1, "current", some (hex_encode (1 :: passphrase)), none⟩

def world : World where
  slots n := if n = 0 then some passphrase else none
  blob := to_vec blob
  stash := none
  files _ := none
  image := image
  drawn := [passphrase]

def args : PrepareUpgrade where
  new_public_key := hex_encode [2]
  new_key_id := "next"
  expected_pcr0 := hex_encode target.pcr0
  expected_pcr1 := hex_encode target.pcr1
  expected_pcr2 := hex_encode target.pcr2

def prepared : Prepared := ⟨to_vec blob, blob, passphrase, new_passphrase, 2 :: new_passphrase⟩

def dump : String := "LUKS header information\nVersion:\t2\n\nKeyslots:\n  0: luks2\n\tKey: 512 bits\nTokens:\n"

theorem wraps_blob : Wraps codecs env "current" (hex_encode (1 :: passphrase)) passphrase :=
  ⟨1 :: passphrase, by simp [codecs], rfl⟩

theorem isDump : IsDump dump world.slots where
  sections := by
    refine ⟨["LUKS header information".toList, "Version:\t2".toList, []], "Keyslots:".toList,
      [⟨0, ["\tKey: 512 bits".toList]⟩], ["Tokens:".toList], by decide +kernel, by decide +kernel, ?_,
      by decide +kernel, ?_, ?_, ?_⟩
    · exact ⟨by decide +kernel, by simp [luks.Indented]⟩
    · rintro line hline
      cases hline
      exact ⟨by decide +kernel, by simp [luks.Indented]⟩
    · rintro entry hentry
      cases List.mem_singleton.mp hentry
      refine ⟨by decide, ?_⟩
      rintro line hline
      cases List.mem_singleton.mp hline
      exact ⟨.inr (by decide +kernel), by decide +kernel⟩
    · intro n
      by_cases hn : n = 0 <;> simp [world, hn]

theorem preparable : Preparable codecs env args target world prepared 1 where
  new_key_id := by decide +kernel
  pcrs := by decide +kernel
  stash := rfl
  raw := ⟨rfl, by decide +kernel⟩
  blob := ⟨from_slice_to_vec blob, rfl⟩
  other_key := by decide +kernel
  ciphertext := ⟨_, rfl, wraps_blob⟩
  named := rfl
  public_key := by simp [codecs, args, env]
  origin := rfl
  policy := by decide +kernel
  current := ⟨by decide, 0, rfl⟩
  drawn := ⟨by decide, by decide⟩
  sealed := rfl
  slot := ⟨by decide, rfl⟩
  dump := ⟨dump, [0], isDump, by decide +kernel, by decide, by decide⟩

def machine : Machine := ⟨⟨world, some passphrase, world, world, none⟩, none⟩

def any : Rules := ⟨fun _ _ => True, fun _ => True⟩

def upgraded : World := world.upgraded codecs "next" prepared 1

theorem reaches_upgraded (rules : Rules) (hrule : rules.commands machine.state (.prepare_upgrade args)) :
    ∃ s, Machine.Reaches codecs env rules machine { state := s, running := none } ∧ s.world = upgraded ∧
      s.opened = some passphrase :=
  Machine.reaches_of_command rules (.prepare_upgrade args) rfl hrule ⟨nofun, nofun⟩ (prepare_upgrade_exec preparable)

theorem upgraded_slots : upgraded.slots = luks.add_key world.slots 1 new_passphrase := rfl

theorem upgraded_slots_new : upgraded.slots 1 = some new_passphrase := by rw [upgraded_slots, luks.add_key_self]

theorem upgraded_slots_current : upgraded.slots 0 = some passphrase := by
  rw [upgraded_slots, luks.add_key_of_ne (by decide)]
  rfl

theorem upgraded_slots_other : upgraded.slots 1 ≠ some passphrase := by
  rw [upgraded_slots_new]
  decide

theorem upgraded_exec_kill : ∃ next, Program.Exec (World.Step env) (revoke_upgrade codecs) upgraded
    (.act (.luksKillSlot 1 .current) next) (upgraded.with_file .current (some passphrase)) :=
  @revoke_upgrade_exec_kill codecs env upgraded ⟨to_vec blob, 1⟩ blob (hex_encode (1 :: passphrase)) passphrase rfl
    (from_slice_to_vec blob) rfl rfl wraps_blob upgraded_slots_other

theorem upgraded_half_revoked : ∃ message w', Program.Exec (World.Step env) (revoke_upgrade codecs) upgraded
    (.ret (.error message)) w' ∧ w'.slots = world.slots ∧ w'.blob = upgraded.blob ∧ w'.stash = upgraded.stash ∧
      w'.image = image ∧ w'.drawn = upgraded.drawn := by
  have hkill : luks.CanKill upgraded.slots 1 passphrase :=
    ⟨by rw [upgraded_slots_new]; nofun, 0, by decide, upgraded_slots_current⟩
  obtain ⟨message, w', hexec, hslots, hrest⟩ := @revoke_upgrade_exec_half codecs env upgraded ⟨to_vec blob, 1⟩ blob
    (hex_encode (1 :: passphrase)) passphrase rfl (from_slice_to_vec blob) rfl rfl wraps_blob upgraded_slots_other hkill
  refine ⟨message, w', hexec, hslots.trans ?_, hrest⟩
  exact luks.kill_slot_add_key rfl

end sample

end enclavia.crypto
