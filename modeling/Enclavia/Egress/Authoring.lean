import Enclavia.Egress.Allowlist
import Mathlib.Data.Countable.Basic
import Mathlib.Data.List.TakeWhile
import Mathlib.Logic.Encodable.Basic
import Mathlib.Logic.Equiv.List

open text

namespace enclavia.egress_config

inductive AllowlistFlagError where
  | BadEntryShape (spec : List Char)
  | MissingPort (spec : List Char)
  | InvalidPort (spec : List Char)
  | PortZero (spec : List Char)
  | UnsupportedProtocol (spec tail : List Char)
  | EmptyHost (spec : List Char)
  | IpV6Host (spec : List Char)
  | InvalidHostname (spec host : List Char) (reason : String)
  | InvalidResolver (spec : List Char)
  | Validation (error : AllowlistLoadError)
deriving DecidableEq

def rsplit_once (c : Char) (text : List Char) : Option (List Char × List Char) :=
  if c ∈ text then
    some (((text.reverse.dropWhile (· ≠ c)).drop 1).reverse, (text.reverse.takeWhile (· ≠ c)).reverse)
  else none

def parse_u16 (text : List Char) : Option UInt16 :=
  let digits := match text with
    | '+' :: rest => rest
    | _ => text
  match digits with
  | [] => none
  | _ => ((parse_digits 0 digits).filter (· < 2 ^ 16)).map UInt16.ofNat

def parse_protocol (tail : List Char) : Option Protocol :=
  if to_ascii_lowercase tail = "tcp".toList then some .Tcp
  else if to_ascii_lowercase tail = "udp".toList then some .Udp
  else none

def split_protocol (spec trimmed : List Char) : Except AllowlistFlagError (List Char × Protocol) :=
  match rsplit_once '/' trimmed with
  | some (head, tail) =>
    if ':' ∈ tail then .ok (trimmed, .Tcp)
    else
      match parse_protocol tail with
      | some protocol => .ok (head, protocol)
      | none => .error (.UnsupportedProtocol spec tail)
  | none => .ok (trimmed, .Tcp)

def parse_port (spec port_str : List Char) : Except AllowlistFlagError RawPort :=
  if trim port_str = RawPort.WILDCARD then .ok (.Str RawPort.WILDCARD)
  else
    match parse_u16 (trim port_str) with
    | none => .error (.InvalidPort spec)
    | some n => if n = 0 then .error (.PortZero spec) else .ok (.Num n)

variable {Value : Type} (lib : AllowlistLibrary Value)

def check_host (spec host : List Char) : Except AllowlistFlagError Unit :=
  match lib.parse_net host, lib.parse_ip host with
  | some _, _ | none, some (.V4 _) => .ok ()
  | none, some (.V6 _) => .error (.IpV6Host spec)
  | none, none => (validate_hostname host).mapError (.InvalidHostname spec host)

def parse_cli_entry (spec : List Char) : Except AllowlistFlagError RawEgressEntry :=
  if trim spec = [] then .error (.BadEntryShape spec)
  else
    match split_protocol spec (trim spec) with
    | .error error => .error error
    | .ok (head, protocol) =>
      match rsplit_once ':' head with
      | none => .error (.MissingPort spec)
      | some (host, port_str) =>
        if trim host = [] then .error (.EmptyHost spec)
        else
          match parse_port spec port_str with
          | .error error => .error error
          | .ok port =>
            match check_host lib spec (trim host) with
            | .error error => .error error
            | .ok () => .ok ⟨trim host, port, protocol⟩

def parse_cli_resolver (spec : List Char) : Except AllowlistFlagError (List Char) :=
  match lib.parse_ip (trim spec) with
  | some (.V4 _) => .ok (trim spec)
  | _ => .error (.InvalidResolver spec)

def parse_all {α : Type} (parse : List Char → Except AllowlistFlagError α) :
    List (List Char) → Except AllowlistFlagError (List α)
  | [] => .ok []
  | spec :: rest =>
    match parse spec with
    | .error error => .error error
    | .ok value => (parse_all parse rest).map (value :: ·)

def assemble_from_cli (allow_specs resolver_specs : List (List Char)) (dns : Option DnsMode) :
    Except AllowlistFlagError RawAllowlist :=
  match parse_all (parse_cli_entry lib) allow_specs with
  | .error error => .error error
  | .ok egress =>
    match parse_all (parse_cli_resolver lib) resolver_specs with
    | .error error => .error error
    | .ok resolvers =>
      let raw : RawAllowlist := { RawAllowlist.new_v1 with egress, resolvers, dns := dns.getD .Allowlist }
      match AllowlistConfig.from_raw lib raw with
      | .error error => .error (.Validation error)
      | .ok _ => .ok raw

def validate_json (value : Value) : Except AllowlistFlagError RawAllowlist :=
  match lib.from_value value with
  | .error error => .error (.Validation (.Json error))
  | .ok raw =>
    match AllowlistConfig.from_raw lib raw with
    | .error error => .error (.Validation error)
    | .ok _ => .ok raw

section

variable {c : Char} {text before after : List Char}

theorem rsplit_once_append (h : c ∉ after) : rsplit_once c (before ++ c :: after) = some (before, after) := by
  have hrev : (before ++ c :: after).reverse = after.reverse ++ c :: before.reverse := by simp
  have hall : ∀ a ∈ after.reverse, (decide (a ≠ c)) = true := by
    intro a ha
    exact decide_eq_true fun hac => h (hac ▸ List.mem_reverse.mp ha)
  unfold rsplit_once
  rw [if_pos (by simp), hrev, List.dropWhile_append_of_pos hall, List.takeWhile_append_of_pos hall]
  simp

theorem rsplit_once_none (h : c ∉ text) : rsplit_once c text = none := if_neg h

theorem rsplit_once_some (h : rsplit_once c text = some (before, after)) :
    text = before ++ c :: after ∧ c ∉ after := by
  have hmem : c ∈ text := by
    by_contra hmem
    rw [rsplit_once_none hmem] at h
    cases h
  obtain ⟨back, front, hrev, hback⟩ := List.eq_append_cons_of_mem (List.mem_reverse.mpr hmem)
  have htext : text = front.reverse ++ c :: back.reverse := by
    rw [← List.reverse_reverse text, hrev]
    simp
  have hback : c ∉ back.reverse := fun hmem => hback (List.mem_reverse.mp hmem)
  rw [htext, rsplit_once_append hback] at h
  cases h
  exact ⟨htext, hback⟩

theorem mem_dropWhile {p : Char → Bool} (hmem : c ∈ text) (hp : p c = false) : c ∈ text.dropWhile p := by
  rw [← List.takeWhile_append_dropWhile (p := p) (l := text), List.mem_append] at hmem
  rcases hmem with hmem | hmem
  · exact absurd (hp.symm.trans (List.mem_takeWhile_imp hmem)) Bool.false_ne_true
  · exact hmem

theorem mem_trim (hmem : c ∈ text) (hspace : is_whitespace c = false) : c ∈ trim text := by
  unfold trim trim_end trim_start
  exact List.mem_reverse.mpr (mem_dropWhile (List.mem_reverse.mpr (mem_dropWhile hmem hspace)) hspace)

/-- A decimal number, with or without a plus sign. -/
def Denotes (text : List Char) (n : UInt16) : Prop :=
  ∃ digits, (text = digits ∨ text = '+' :: digits) ∧ digits ≠ [] ∧ (∀ c ∈ digits, c.isDigit = true) ∧
    decimal 0 digits = n.toNat

theorem parse_u16_eq_some {n : UInt16} : parse_u16 text = some n ↔ Denotes text n := by
  have hdigits (digits : List Char) :
      (((parse_digits 0 digits).filter (· < 2 ^ 16)).map UInt16.ofNat = some n) ↔
        (∀ c ∈ digits, c.isDigit = true) ∧ decimal 0 digits = n.toNat := by
    simp only [Option.map_eq_some_iff, Option.filter_eq_some_iff, parse_digits_eq_some, decide_eq_true_eq]
    constructor
    · rintro ⟨value, ⟨⟨hall, rfl⟩, hlt⟩, rfl⟩
      exact ⟨hall, (UInt16.toNat_ofNat_of_lt' hlt).symm⟩
    · rintro ⟨hall, hvalue⟩
      exact ⟨_, ⟨⟨hall, hvalue⟩, n.toNat_lt⟩, UInt16.ofNat_toNat⟩
  have hnumeral {digits : List Char} (hshape : ∀ other, text = other ∨ text = '+' :: other →
      (∀ c ∈ other, c.isDigit = true) → other = digits) (htext : text = digits ∨ text = '+' :: digits) :
      Denotes text n ↔ digits ≠ [] ∧ (∀ c ∈ digits, c.isDigit = true) ∧ decimal 0 digits = n.toNat := by
    constructor
    · rintro ⟨other, hother, hne, hall, hvalue⟩
      obtain rfl := hshape other hother hall
      exact ⟨hne, hall, hvalue⟩
    · exact fun h => ⟨digits, htext, h⟩
  unfold parse_u16
  split
  · next rest =>
    have hshape : ∀ other, '+' :: rest = other ∨ '+' :: rest = '+' :: other →
        (∀ c ∈ other, c.isDigit = true) → other = rest := by
      rintro other (rfl | hother) hall
      · exact absurd (hall '+' List.mem_cons_self) (by decide)
      · exact (List.cons.inj hother).2.symm
    rw [hnumeral hshape (.inr rfl)]
    cases rest with
    | nil => simp
    | cons first rest => exact (hdigits _).trans ⟨fun h => ⟨List.cons_ne_nil _ _, h⟩, And.right⟩
  · next hplus =>
    have hshape : ∀ other, text = other ∨ text = '+' :: other →
        (∀ c ∈ other, c.isDigit = true) → other = text := by
      rintro other (rfl | hother) -
      · rfl
      · exact absurd hother (hplus other)
    rw [hnumeral hshape (.inl rfl)]
    cases text with
    | nil => simp
    | cons first rest => exact (hdigits _).trans ⟨fun h => ⟨List.cons_ne_nil _ _, h⟩, And.right⟩

theorem Denotes.mem {n : UInt16} (h : Denotes text n) (hmem : c ∈ text) : c.isDigit = true ∨ c = '+' := by
  obtain ⟨digits, rfl | rfl, -, hall, -⟩ := h
  · exact .inl (hall c hmem)
  · rcases List.mem_cons.mp hmem with rfl | hmem
    · exact .inr rfl
    · exact .inl (hall c hmem)

/-- A port is a star, or a number other than zero. -/
def PortOf (text : List Char) (port : RawPort) : Prop :=
  trim text = ['*'] ∧ port = .Str ['*'] ∨ ∃ n, Denotes (trim text) n ∧ n ≠ 0 ∧ port = .Num n

theorem parse_port_ok {spec : List Char} {port : RawPort} : parse_port spec text = .ok port ↔ PortOf text port := by
  have hstar (n : UInt16) : ¬Denotes ['*'] n := by
    intro h
    rcases h.mem List.mem_cons_self with hdigit | hplus
    · exact absurd hdigit (by decide)
    · exact absurd hplus (by decide)
  unfold parse_port PortOf RawPort.WILDCARD
  by_cases htrim : trim text = ['*']
  · simp [htrim, hstar, eq_comm]
  · simp only [htrim, if_false, false_and, false_or, ← parse_u16_eq_some]
    cases parse_u16 (trim text) with
    | none => simp
    | some n => by_cases hzero : n = 0 <;> simp [hzero, eq_comm]

theorem PortOf.slash {port : RawPort} (h : PortOf text port) : '/' ∉ text := by
  intro hmem
  have htrim := mem_trim hmem (by decide)
  rcases h with ⟨hstar, -⟩ | ⟨n, hdenotes, -⟩
  · rw [hstar] at htrim
    exact absurd htrim (by decide)
  · rcases hdenotes.mem htrim with hdigit | hplus
    · exact absurd hdigit (by decide)
    · exact absurd hplus (by decide)

/-- No protocol means TCP, and a protocol is named in letters of any case. -/
def ProtocolOf : Option (List Char) → Protocol → Prop
  | none, protocol => protocol = .Tcp
  | some tail, .Tcp => to_ascii_lowercase tail = "tcp".toList
  | some tail, .Udp => to_ascii_lowercase tail = "udp".toList

theorem parse_protocol_eq_some {protocol : Protocol} :
    parse_protocol text = some protocol ↔ ProtocolOf (some text) protocol := by
  unfold parse_protocol
  by_cases htcp : to_ascii_lowercase text = "tcp".toList
  · cases protocol <;> simp [ProtocolOf, htcp]
  · rw [if_neg htcp]
    by_cases hudp : to_ascii_lowercase text = "udp".toList
    · cases protocol <;> simp [ProtocolOf, hudp]
    · rw [if_neg hudp]
      cases protocol <;> simpa [ProtocolOf]

theorem ProtocolOf.mem {protocol : Protocol} (h : ProtocolOf (some text) protocol) (hmem : c ∈ text) :
    c.toLower ∈ "tcpud".toList := by
  have hlower : c.toLower ∈ to_ascii_lowercase text := List.mem_map_of_mem hmem
  cases protocol with
  | Tcp =>
    rw [show to_ascii_lowercase text = _ from h] at hlower
    exact (by decide : "tcp".toList ⊆ "tcpud".toList) hlower
  | Udp =>
    rw [show to_ascii_lowercase text = _ from h] at hlower
    exact (by decide : "udp".toList ⊆ "tcpud".toList) hlower

end

def protocol_suffix : Option (List Char) → List Char
  | none => []
  | some tail => '/' :: tail

section

variable {spec host port : List Char} {proto : Option (List Char)} {protocol : Protocol}

theorem split_protocol_spec (hslash : '/' ∉ port)
    (hproto : ProtocolOf proto protocol) :
    split_protocol spec (host ++ ':' :: port ++ protocol_suffix proto) = .ok (host ++ ':' :: port, protocol) := by
  cases proto with
  | none =>
    cases hproto
    simp only [protocol_suffix, List.append_nil]
    unfold split_protocol
    by_cases hmem : '/' ∈ host
    · obtain ⟨back, front, hrev, hback⟩ := List.eq_append_cons_of_mem (List.mem_reverse.mpr hmem)
      have hhost : host = front.reverse ++ '/' :: back.reverse := by
        rw [← List.reverse_reverse host, hrev]
        simp
      have hsplit : host ++ ':' :: port = front.reverse ++ '/' :: (back.reverse ++ ':' :: port) := by
        rw [hhost]
        simp
      have htail : '/' ∉ back.reverse ++ ':' :: port := by
        simp [hback, hslash]
      rw [hsplit, rsplit_once_append htail]
      dsimp only
      rw [if_pos (by simp)]
    · have hnone : '/' ∉ host ++ ':' :: port := by simp [hmem, hslash]
      rw [rsplit_once_none hnone]
  | some tail =>
    have htail : ∀ c ∈ tail, c.toLower ∈ "tcpud".toList := fun c => hproto.mem
    have hslash' : '/' ∉ tail := fun hmem => absurd (htail '/' hmem) (by decide)
    have hcolon' : ':' ∉ tail := fun hmem => absurd (htail ':' hmem) (by decide)
    unfold split_protocol
    rw [protocol_suffix, rsplit_once_append hslash']
    dsimp only
    rw [if_neg hcolon']
    rw [parse_protocol_eq_some.mpr hproto]

theorem parse_cli_entry_spec (hcolon : ':' ∉ port) (hslash : '/' ∉ port)
    (hspec : trim spec = host ++ ':' :: port ++ protocol_suffix proto)
    (hproto : ProtocolOf proto protocol) (hhost : trim host ≠ []) {value : RawPort}
    (hport : parse_port spec port = .ok value) (hcheck : check_host lib spec (trim host) = .ok ()) :
    parse_cli_entry lib spec = .ok ⟨trim host, value, protocol⟩ := by
  unfold parse_cli_entry
  rw [hspec, if_neg (by simp), split_protocol_spec hslash hproto]
  dsimp only
  rw [rsplit_once_append hcolon]
  dsimp only
  rw [if_neg hhost, hport]
  dsimp only
  rw [hcheck]

theorem split_protocol_ok {trimmed head : List Char} (h : split_protocol spec trimmed = .ok (head, protocol)) :
    ∃ proto, trimmed = head ++ protocol_suffix proto ∧ ProtocolOf proto protocol := by
  unfold split_protocol at h
  split at h
  · next front tail hsplit =>
    obtain ⟨htrimmed, _⟩ := rsplit_once_some hsplit
    split at h
    · cases h
      exact ⟨none, (List.append_nil _).symm, rfl⟩
    · split at h
      · next found hfound =>
        cases h
        exact ⟨some tail, htrimmed, parse_protocol_eq_some.mp hfound⟩
      · cases h
  · cases h
    exact ⟨none, (List.append_nil _).symm, rfl⟩

theorem parse_cli_entry_ok {lib : AllowlistLibrary Value} {entry : RawEgressEntry}
    (h : parse_cli_entry lib spec = .ok entry) :
    ∃ host port proto, trim spec = host ++ ':' :: port ++ protocol_suffix proto ∧ ':' ∉ port ∧ '/' ∉ port ∧
      trim host ≠ [] ∧ ProtocolOf proto entry.protocol ∧ PortOf port entry.port ∧
      check_host lib spec (trim host) = .ok () ∧ entry.host = trim host := by
  unfold parse_cli_entry at h
  split at h
  · cases h
  · cases hsplit : split_protocol spec (trim spec) with
    | error error =>
      rw [hsplit] at h
      cases h
    | ok pair =>
      obtain ⟨head, protocol⟩ := pair
      rw [hsplit] at h
      dsimp only at h
      cases hhead : rsplit_once ':' head with
      | none =>
        rw [hhead] at h
        cases h
      | some parts =>
        obtain ⟨host, port⟩ := parts
        rw [hhead] at h
        dsimp only at h
        split at h
        · cases h
        · next hhost =>
          cases hport : parse_port spec port with
          | error error =>
            rw [hport] at h
            cases h
          | ok value =>
            rw [hport] at h
            dsimp only at h
            cases hcheck : check_host lib spec (trim host) with
            | error error =>
              rw [hcheck] at h
              cases h
            | ok done =>
              rw [hcheck] at h
              cases h
              obtain ⟨rfl, hcolon⟩ := rsplit_once_some hhead
              obtain ⟨proto, hspec, hproto⟩ := split_protocol_ok hsplit
              exact ⟨host, port, proto, hspec, hcolon, (parse_port_ok.mp hport).slash, hhost, hproto,
                parse_port_ok.mp hport, hcheck, rfl⟩

end

variable {lib} {raw : RawAllowlist}

theorem parse_all_ok {α : Type} {parse : List Char → Except AllowlistFlagError α} {specs : List (List Char)}
    {values : List α} (h : parse_all parse specs = .ok values) :
    List.Forall₂ (fun spec value => parse spec = .ok value) specs values := by
  induction specs generalizing values with
  | nil =>
    cases h
    exact .nil
  | cons spec rest ih =>
    unfold parse_all at h
    split at h
    · cases h
    · next value hvalue =>
      cases hrest : parse_all parse rest with
      | error error =>
        rw [hrest] at h
        cases h
      | ok more =>
        rw [hrest] at h
        cases h
        exact .cons hvalue (ih hrest)

/-- An allowlist in its serialised form is loaded, and lets through what its author has allowed. -/
def Enforced (lib : AllowlistLibrary Value) (raw : RawAllowlist) : Prop :=
  ∃ config, AllowlistConfig.from_bytes lib (lib.to_vec raw) = .ok config ∧
    ∀ trusted_src resolver src dst,
      allow_tcp lib config.inject_resolver_entries trusted_src resolver src dst = .Allow ↔
        Authored lib raw trusted_src resolver src dst

theorem enforced_of_from_raw {config : AllowlistConfig} (h : AllowlistConfig.from_raw lib raw = .ok config) :
    Enforced lib raw := by
  refine ⟨config, ?_, allow_tcp_iff h⟩
  unfold AllowlistConfig.from_bytes
  rw [lib.from_slice_to_vec]
  exact h

theorem assemble_from_cli_ok {allow_specs resolver_specs : List (List Char)} {dns : Option DnsMode}
    (h : assemble_from_cli lib allow_specs resolver_specs dns = .ok raw) :
    (∃ config, AllowlistConfig.from_raw lib raw = .ok config) ∧
      List.Forall₂ (fun spec entry => parse_cli_entry lib spec = .ok entry) allow_specs raw.egress ∧
      List.Forall₂ (fun spec resolver => parse_cli_resolver lib spec = .ok resolver) resolver_specs raw.resolvers := by
  unfold assemble_from_cli at h
  cases hallow : parse_all (parse_cli_entry lib) allow_specs with
  | error error =>
    rw [hallow] at h
    cases h
  | ok egress =>
    cases hresolvers : parse_all (parse_cli_resolver lib) resolver_specs with
    | error error =>
      rw [hallow, hresolvers] at h
      cases h
    | ok resolvers =>
      rw [hallow, hresolvers] at h
      dsimp only at h
      split at h
      · cases h
      · next config hconfig =>
        cases h
        exact ⟨⟨config, hconfig⟩, parse_all_ok hallow, parse_all_ok hresolvers⟩

theorem validate_json_ok {value : Value} (h : validate_json lib value = .ok raw) :
    lib.from_value value = .ok raw ∧ ∃ config, AllowlistConfig.from_raw lib raw = .ok config := by
  unfold validate_json at h
  split at h
  · cases h
  · next parsed hparsed =>
    split at h
    · cases h
    · next config hconfig =>
      cases h
      exact ⟨hparsed, config, hconfig⟩

/-- The authored allowlist is the enforced one, whether it comes from flags or from JSON: it is loaded in its
serialised form, and a connection is allowed exactly where an entry, a resolved hostname or, for the trusted source, a
resolver covers it. -/
theorem authored_allowlist_is_enforced (lib : AllowlistLibrary Value) :
    (∀ allow_specs resolver_specs dns raw, assemble_from_cli lib allow_specs resolver_specs dns = .ok raw →
      Enforced lib raw ∧
      List.Forall₂ (fun spec entry => parse_cli_entry lib spec = .ok entry) allow_specs raw.egress ∧
      List.Forall₂ (fun spec resolver => parse_cli_resolver lib spec = .ok resolver) resolver_specs raw.resolvers) ∧
    (∀ value raw, validate_json lib value = .ok raw → Enforced lib raw ∧ lib.from_value value = .ok raw) ∧
    (∀ host addr ip, lib.parse_net (trim host) = none → lib.parse_ip (trim host) = some (.V6 addr) →
      ¬host_covers lib (trim host) ip ∧ is_hostname lib (trim host) = false) ∧
    (∀ raw e, e ∈ raw.egress → e.protocol = .Udp → ∃ error, AllowlistConfig.from_raw lib raw = .error error) ∧
    (∀ spec entry, parse_cli_entry lib spec = .ok entry ↔
      ∃ host port proto, trim spec = host ++ ':' :: port ++ protocol_suffix proto ∧ ':' ∉ port ∧ '/' ∉ port ∧
        trim host ≠ [] ∧ ProtocolOf proto entry.protocol ∧ PortOf port entry.port ∧
        check_host lib spec (trim host) = .ok () ∧ entry.host = trim host) := by
  refine ⟨fun allow_specs resolver_specs dns raw h => ?_, fun value raw h => ?_, fun host addr ip hnet hip => ?_,
    fun raw e he hudp => ?_, fun spec entry => ⟨parse_cli_entry_ok, ?_⟩⟩
  · obtain ⟨⟨config, hconfig⟩, hallow, hresolvers⟩ := assemble_from_cli_ok h
    exact ⟨enforced_of_from_raw hconfig, hallow, hresolvers⟩
  · obtain ⟨hparsed, config, hconfig⟩ := validate_json_ok h
    exact ⟨enforced_of_from_raw hconfig, hparsed⟩
  · refine ⟨?_, ?_⟩
    · rintro (⟨net, hnet', _⟩ | ⟨_, hip'⟩)
      · cases hnet.symm.trans hnet'
      · cases hip.symm.trans hip'
    · unfold is_hostname
      rw [hip]
      exact Bool.and_false _
  · cases hload : AllowlistConfig.from_raw lib raw with
    | error error => exact ⟨error, rfl⟩
    | ok config =>
      have hprotocol := ((from_raw_ok hload).1 e he).protocol
      cases hudp.symm.trans hprotocol
  · rintro ⟨host, port, proto, hspec, hcolon, hslash, hhost, hproto, hport, hcheck, hentry⟩
    rw [parse_cli_entry_spec lib hcolon hslash hspec hproto hhost (parse_port_ok.mpr hport) hcheck, ← hentry]

namespace sample

def entry_parts (entry : RawEgressEntry) : List Nat × (Nat ⊕ List Nat) × Bool :=
  (entry.host.map Char.toNat,
    match entry.port with
    | .Num n => .inl n.toNat
    | .Str s => .inr (s.map Char.toNat),
    entry.protocol = .Tcp)

def parts (raw : RawAllowlist) : Nat × List (List Nat) × List (List Nat × (Nat ⊕ List Nat) × Bool) × Bool :=
  (raw.version, raw.resolvers.map (List.map Char.toNat), raw.egress.map entry_parts, raw.dns = .Open)

theorem map_toNat_injective : Function.Injective (List.map Char.toNat) :=
  List.map_injective_iff.mpr fun _ _ h => Char.toNat_inj.mp h

theorem entry_parts_injective : Function.Injective entry_parts := by
  rintro ⟨host, port, protocol⟩ ⟨host', port', protocol'⟩ h
  simp only [entry_parts, Prod.mk.injEq] at h
  obtain ⟨hhost, hport, hprotocol⟩ := h
  have hports : port = port' := by
    cases port <;> cases port' <;> simp at hport
    · exact congrArg _ (UInt16.toNat_inj.mp hport)
    · exact congrArg _ (map_toNat_injective hport)
  have hprotocols : protocol = protocol' := by cases protocol <;> cases protocol' <;> simp_all
  rw [map_toNat_injective hhost, hports, hprotocols]

theorem parts_injective : Function.Injective parts := by
  rintro ⟨version, resolvers, egress, dns⟩ ⟨version', resolvers', egress', dns'⟩ h
  simp only [parts, Prod.mk.injEq] at h
  obtain ⟨rfl, hresolvers, hegress, hdns⟩ := h
  have hmodes : dns = dns' := by cases dns <;> cases dns' <;> simp_all
  rw [List.map_injective_iff.mpr map_toNat_injective hresolvers,
    List.map_injective_iff.mpr entry_parts_injective hegress, hmodes]

noncomputable def library : AllowlistLibrary Unit where
  contains net ip := ip.toNat / 2 ^ (32 - net.len) = net.addr.toNat / 2 ^ (32 - net.len)
  parse_net text := if text = "10.0.0.0/8".toList then some ⟨0x0a000000, 8⟩ else none
  parse_ip text := if text = "10.0.0.1".toList then some (.V4 0x0a000001) else none
  from_value _ := .error "not used"
  to_vec raw := List.replicate (Encodable.encode (parts raw)) 0
  from_slice bytes :=
    match Classical.propDecidable (∃ raw, Encodable.encode (parts raw) = bytes.length) with
    | .isTrue h => .ok h.choose
    | .isFalse _ => .error "not written"
  from_slice_to_vec raw := by
    split
    · next h _ =>
      have hchosen := h.choose_spec.trans List.length_replicate
      exact congrArg _ (parts_injective (Encodable.encode_injective hchosen))
    · next h _ => exact absurd ⟨raw, List.length_replicate.symm⟩ h

def specs : List (List Char) := [" 10.0.0.0/8:* ".toList, "Example.com:443/TCP".toList]

end sample

/-- A network and a host name, as the flags give them. -/
theorem authored_allowlist_is_enforced_flags :
    ∃ raw, assemble_from_cli sample.library sample.specs ["10.0.0.1".toList] (some .Open) = .ok raw ∧
      raw.egress = [⟨"10.0.0.0/8".toList, .Str ['*'], .Tcp⟩, ⟨"Example.com".toList, .Num 443, .Tcp⟩] ∧
      Enforced sample.library raw := by
  have hraw : assemble_from_cli sample.library sample.specs ["10.0.0.1".toList] (some .Open) =
      .ok ⟨1, ["10.0.0.1".toList],
        [⟨"10.0.0.0/8".toList, .Str ['*'], .Tcp⟩, ⟨"Example.com".toList, .Num 443, .Tcp⟩], .Open⟩ := by
    decide +kernel
  exact ⟨_, hraw, rfl, ((authored_allowlist_is_enforced sample.library).1 _ _ _ _ hraw).1⟩

end enclavia.egress_config
