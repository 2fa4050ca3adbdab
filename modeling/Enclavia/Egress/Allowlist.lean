import Enclavia.Bytes.Text
import Enclavia.Egress.Socket

open text enclavia.egress

namespace enclavia.egress_config

inductive Protocol where
  | Tcp
  | Udp
deriving DecidableEq

inductive RawPort where
  | Num (n : UInt16)
  | Str (s : List Char)
deriving DecidableEq

def RawPort.WILDCARD : List Char := ['*']

inductive PortMatcher where
  | Any
  | Single (port : UInt16)

def PortMatcher.matches : PortMatcher → UInt16 → Bool
  | .Any, _ => true
  | .Single p, port => p = port

structure RawEgressEntry where
  host : List Char
  port : RawPort
  protocol : Protocol
deriving DecidableEq

inductive DnsMode where
  | Allowlist
  | Open
deriving DecidableEq

def SCHEMA_VERSION : Nat := 1

structure RawAllowlist where
  version : Nat
  resolvers : List (List Char)
  egress : List RawEgressEntry
  dns : DnsMode
deriving DecidableEq

def RawAllowlist.new_v1 : RawAllowlist where
  version := SCHEMA_VERSION
  resolvers := []
  egress := []
  dns := .Allowlist

structure Ipv4Net where
  addr : UInt32
  len : Nat

inductive IpAddr where
  | V4 (addr : UInt32)
  | V6 (addr : BitVec 128)

inductive HostMatcher where
  | Literal (addr : UInt32)
  | Cidr (net : Ipv4Net)

structure AllowlistEntry where
  host : HostMatcher
  port : PortMatcher
  protocol : Protocol
  trusted_source_only : Bool

structure HostnameEntry where
  host : List Char
  port : PortMatcher
  protocol : Protocol

structure AllowlistConfig where
  entries : List AllowlistEntry
  resolvers : List UInt32
  hostnames : List HostnameEntry
  dns : DnsMode

inductive AllowlistLoadError where
  | Json (error : String)
  | UnsupportedVersion (version : Nat)
  | UdpNotSupported (host : List Char) (port : RawPort)
  | BadPort (port : RawPort)
  | DnsOpenWithoutResolvers
  | InvalidHostname (host : List Char) (reason : String)
deriving DecidableEq

/-- The parsers of addresses, the addresses of a network, and serde's reading and writing of an allowlist. -/
structure AllowlistLibrary (Value : Type) where
  contains : Ipv4Net → UInt32 → Bool
  parse_net : List Char → Option Ipv4Net
  parse_ip : List Char → Option IpAddr
  from_value : Value → Except String RawAllowlist
  to_vec : RawAllowlist → List UInt8
  from_slice : List UInt8 → Except String RawAllowlist
  from_slice_to_vec : ∀ raw, from_slice (to_vec raw) = .ok raw

def RawPort.to_matcher : RawPort → Except AllowlistLoadError PortMatcher
  | .Num n => if n = 0 then .error (.BadPort (.Num 0)) else .ok (.Single n)
  | .Str s => if s = WILDCARD then .ok .Any else .error (.BadPort (.Str s))

def trim (text : List Char) : List Char := trim_end (trim_start text)

def utf8_len (text : List Char) : Nat := (text.map Char.utf8Size).sum

def validate_label (label : List Char) : Except String Unit :=
  if label = [] then .error "hostname contains an empty label (consecutive dots)"
  else if utf8_len label > 63 then .error "hostname label exceeds 63 characters"
  else if label.head? = some '-' ∨ label.getLast? = some '-' then
    .error "hostname label must not start or end with a hyphen"
  else if label.all fun c => c.isAlphanum || c = '-' then .ok ()
  else .error "hostname label has invalid characters (allowed: a-z, 0-9, '-')"

def validate_hostname (host : List Char) : Except String Unit :=
  if host = [] then .error "empty hostname"
  else if utf8_len host > 253 then .error "hostname exceeds 253 characters"
  else if host.head? = some '.' ∨ host.getLast? = some '.' then
    .error "hostname must not start or end with a dot"
  else (host.splitOn '.').forM validate_label

variable {Value : Type} (lib : AllowlistLibrary Value)

def HostMatcher.contains : HostMatcher → UInt32 → Bool
  | .Literal addr, ip => addr = ip
  | .Cidr net, ip => lib.contains net ip

inductive Classified where
  | entry (entry : AllowlistEntry)
  | hostname (entry : HostnameEntry)
  | ignored

def to_ascii_lowercase (text : List Char) : List Char := text.map Char.toLower

def classify_host (host : List Char) (port : PortMatcher) : Classified :=
  match lib.parse_net host with
  | some net => .entry ⟨.Cidr net, port, .Tcp, false⟩
  | none =>
    match lib.parse_ip host with
    | some (.V4 addr) => .entry ⟨.Literal addr, port, .Tcp, false⟩
    | some (.V6 _) => .ignored
    | none => .hostname ⟨to_ascii_lowercase host, port, .Tcp⟩

def is_hostname (host : List Char) : Bool := (lib.parse_net host).isNone && (lib.parse_ip host).isNone

def classify : List RawEgressEntry → Except AllowlistLoadError (List Classified)
  | [] => .ok []
  | raw :: rest =>
    match raw.protocol with
    | .Udp => .error (.UdpNotSupported (trim raw.host) raw.port)
    | .Tcp =>
      match raw.port.to_matcher with
      | .error error => .error error
      | .ok port =>
        match if is_hostname lib (trim raw.host) then validate_hostname (trim raw.host) else .ok () with
        | .error reason => .error (.InvalidHostname (trim raw.host) reason)
        | .ok () => (classify rest).map (classify_host lib (trim raw.host) port :: ·)

def resolver_addr (resolver : List Char) : Option UInt32 :=
  match lib.parse_ip (trim resolver) with
  | some (.V4 addr) => some addr
  | _ => none

def Classified.entry? : Classified → Option AllowlistEntry
  | .entry found => some found
  | _ => none

def Classified.hostname? : Classified → Option HostnameEntry
  | .hostname found => some found
  | _ => none

namespace AllowlistConfig

def from_raw (raw : RawAllowlist) : Except AllowlistLoadError AllowlistConfig :=
  if raw.version ≠ SCHEMA_VERSION then .error (.UnsupportedVersion raw.version)
  else
    match classify lib raw.egress with
    | .error error => .error error
    | .ok classified =>
      if raw.dns = .Open ∧ raw.resolvers.filterMap (resolver_addr lib) = [] then .error .DnsOpenWithoutResolvers
      else
        .ok {
          entries := classified.filterMap Classified.entry?
          resolvers := raw.resolvers.filterMap (resolver_addr lib)
          hostnames := classified.filterMap Classified.hostname?
          dns := raw.dns }

def from_bytes (bytes : List UInt8) : Except AllowlistLoadError AllowlistConfig :=
  match lib.from_slice bytes with
  | .error error => .error (.Json error)
  | .ok raw => from_raw lib raw

variable (self : AllowlistConfig)

def allows_tcp (ip : UInt32) (port : UInt16) (trusted_src : Bool) : Bool :=
  self.entries.any fun e =>
    e.protocol = .Tcp && e.port.matches port && e.host.contains lib ip && (!e.trusted_source_only || trusted_src)

def tcp_hostnames_for_port (port : UInt16) : List HostnameEntry :=
  self.hostnames.filter fun h => h.protocol = .Tcp && h.port.matches port

def resolver_entry (resolver : UInt32) : AllowlistEntry := ⟨.Literal resolver, .Single 53, .Tcp, true⟩

def inject_resolver_entries : AllowlistConfig :=
  { self with entries := self.entries ++ self.resolvers.map resolver_entry }

end AllowlistConfig

inductive PolicyDecision where
  | Allow
  | Deny

abbrev Resolver := Nat → List Char → Except String (List UInt32)

def resolve_hostnames (resolver : Resolver) (target : UInt32) (trip : Nat) : List HostnameEntry → PolicyDecision
  | [] => .Deny
  | entry :: rest =>
    match resolver trip entry.host with
    | .ok ips => if target ∈ ips then .Allow else resolve_hostnames resolver target (trip + 1) rest
    | .error _ => resolve_hostnames resolver target (trip + 1) rest

def allow_tcp (config : AllowlistConfig) (trusted_src : UInt32) (resolver : Resolver) (src : UInt32)
    (dst : SocketAddrV4) : PolicyDecision :=
  if config.allows_tcp lib dst.ip dst.port (src = trusted_src) then .Allow
  else resolve_hostnames resolver dst.ip 0 (config.tcp_hostnames_for_port dst.port)

def RawPort.covers : RawPort → UInt16 → Bool
  | .Num n, port => n = port
  | .Str s, _ => s = WILDCARD

def host_covers (host : List Char) (ip : UInt32) : Prop :=
  (∃ net, lib.parse_net host = some net ∧ lib.contains net ip = true) ∨
    (lib.parse_net host = none ∧ lib.parse_ip host = some (.V4 ip))

def authored_hostnames (raw : RawAllowlist) (port : UInt16) : List (List Char) :=
  (raw.egress.filter fun e => e.port.covers port && is_hostname lib (trim e.host)).map fun e =>
    to_ascii_lowercase (trim e.host)

def Authored (raw : RawAllowlist) (trusted_src : UInt32) (resolver : Resolver) (src : UInt32) (dst : SocketAddrV4) :
    Prop :=
  (∃ e ∈ raw.egress, e.protocol = .Tcp ∧ e.port.covers dst.port = true ∧ host_covers lib (trim e.host) dst.ip) ∨
  (∃ i host ips, (authored_hostnames lib raw dst.port)[i]? = some host ∧ resolver i host = .ok ips ∧ dst.ip ∈ ips) ∨
  (src = trusted_src ∧ dst.port = 53 ∧ ∃ r ∈ raw.resolvers, lib.parse_ip (trim r) = some (.V4 dst.ip))

variable {lib} {entries : List RawEgressEntry} {host : List Char} {port : PortMatcher} {ip : UInt32}
  {config : AllowlistConfig}

def RawPort.matcher : RawPort → PortMatcher
  | .Num n => .Single n
  | .Str _ => .Any

theorem to_matcher_ok {port : RawPort} {matcher : PortMatcher} (h : port.to_matcher = .ok matcher) :
    matcher = port.matcher ∧ ∀ p, matcher.matches p = port.covers p := by
  cases port with
  | Num n =>
    unfold RawPort.to_matcher at h
    dsimp only at h
    split at h <;> cases h
    exact ⟨rfl, fun _ => rfl⟩
  | Str s =>
    unfold RawPort.to_matcher at h
    dsimp only at h
    split at h
    · next hs =>
      cases h
      exact ⟨rfl, fun _ => (decide_eq_true hs).symm⟩
    · cases h

/-- An entry that is kept is one for TCP, with a port that passed its check. -/
structure Loadable (raw : RawEgressEntry) : Prop where
  protocol : raw.protocol = .Tcp
  port : raw.port.to_matcher = .ok raw.port.matcher

theorem classify_ok {classified : List Classified} (h : classify lib entries = .ok classified) :
    classified = entries.map (fun raw => classify_host lib (trim raw.host) raw.port.matcher) ∧
      ∀ raw ∈ entries, Loadable raw := by
  induction entries generalizing classified with
  | nil =>
    cases h
    exact ⟨rfl, fun _ hmem => absurd hmem List.not_mem_nil⟩
  | cons raw rest ih =>
    unfold classify at h
    split at h
    · cases h
    · next hprotocol =>
      split at h
      · cases h
      · next port hport =>
        split at h
        · cases h
        · cases hrest : classify lib rest with
          | error error =>
            rw [hrest] at h
            cases h
          | ok more =>
            rw [hrest] at h
            cases h
            obtain ⟨hmore, hkept⟩ := ih hrest
            have hmatcher := (to_matcher_ok hport).1
            refine ⟨by rw [hmore, hmatcher]; rfl, fun other hother => ?_⟩
            rcases List.mem_cons.mp hother with rfl | hother
            · exact ⟨hprotocol, hmatcher ▸ hport⟩
            · exact hkept other hother

theorem resolve_hostnames_allow {resolver : Resolver} {target : UInt32} {trip : Nat} {hostnames : List HostnameEntry} :
    resolve_hostnames resolver target trip hostnames = .Allow ↔
      ∃ i host ips, (hostnames.map HostnameEntry.host)[i]? = some host ∧ resolver (trip + i) host = .ok ips ∧
        target ∈ ips := by
  induction hostnames generalizing trip with
  | nil => simp [resolve_hostnames]
  | cons entry rest ih =>
    have hshift : (∃ i host ips, ((entry :: rest).map HostnameEntry.host)[i]? = some host ∧
        resolver (trip + i) host = .ok ips ∧ target ∈ ips) ↔
        (∃ ips, resolver trip entry.host = .ok ips ∧ target ∈ ips) ∨
          ∃ i host ips, (rest.map HostnameEntry.host)[i]? = some host ∧ resolver (trip + 1 + i) host = .ok ips ∧
            target ∈ ips := by
      constructor
      · rintro ⟨i, host, ips, hhost, hips, hmem⟩
        cases i with
        | zero =>
          cases hhost
          exact .inl ⟨ips, hips, hmem⟩
        | succ i => exact .inr ⟨i, host, ips, hhost, by rw [Nat.add_assoc, Nat.add_comm 1 i]; exact hips, hmem⟩
      · rintro (⟨ips, hips, hmem⟩ | ⟨i, host, ips, hhost, hips, hmem⟩)
        · exact ⟨0, entry.host, ips, rfl, hips, hmem⟩
        · exact ⟨i + 1, host, ips, hhost, by rw [Nat.add_comm i 1, ← Nat.add_assoc]; exact hips, hmem⟩
    rw [hshift]
    unfold resolve_hostnames
    cases hresolve : resolver trip entry.host with
    | error error => simp [ih]
    | ok ips =>
      by_cases hmem : target ∈ ips
      · simp [hmem]
      · simp [hmem, ih]

theorem host_covers_iff :
    (∃ e, classify_host lib host port = .entry e ∧ e.host.contains lib ip = true) ↔ host_covers lib host ip := by
  unfold classify_host host_covers
  cases hnet : lib.parse_net host with
  | some net => simp [HostMatcher.contains]
  | none =>
    cases hip : lib.parse_ip host with
    | none => simp
    | some addr =>
      cases addr with
      | V4 addr => simp [HostMatcher.contains]
      | V6 addr => simp

theorem hostname_of_classified :
    (classify_host lib host port).hostname? =
      if is_hostname lib host then some ⟨to_ascii_lowercase host, port, .Tcp⟩ else none := by
  unfold classify_host is_hostname
  cases hnet : lib.parse_net host with
  | some net => rfl
  | none =>
    cases hip : lib.parse_ip host with
    | none => rfl
    | some addr => cases addr <;> rfl

theorem entry_of_classified {e : AllowlistEntry} (h : classify_host lib host port = .entry e) :
    e.protocol = .Tcp ∧ e.port = port ∧ e.trusted_source_only = false := by
  unfold classify_host at h
  cases hnet : lib.parse_net host with
  | some net =>
    rw [hnet] at h
    cases h
    exact ⟨rfl, rfl, rfl⟩
  | none =>
    rw [hnet] at h
    dsimp only at h
    split at h <;> cases h
    exact ⟨rfl, rfl, rfl⟩

theorem covers_of_kept {raw : RawEgressEntry} (h : Loadable raw) (port : UInt16) :
    raw.port.matcher.matches port = raw.port.covers port :=
  (to_matcher_ok h.port).2 port

theorem hostnames_eq (hkept : ∀ raw ∈ entries, Loadable raw) (port : UInt16) :
    ((((entries.map fun raw => classify_host lib (trim raw.host) raw.port.matcher).filterMap
      Classified.hostname?).filter
      fun h => h.protocol = .Tcp && h.port.matches port).map HostnameEntry.host) =
      (entries.filter fun e => e.port.covers port && is_hostname lib (trim e.host)).map fun e =>
        to_ascii_lowercase (trim e.host) := by
  induction entries with
  | nil => rfl
  | cons raw rest ih =>
    have hrest := ih fun other hother => hkept other (List.mem_cons_of_mem raw hother)
    have hcovers := covers_of_kept (hkept raw List.mem_cons_self) port
    rw [List.map_cons, List.filterMap_cons, hostname_of_classified]
    cases hhost : is_hostname lib (trim raw.host) with
    | false =>
      rw [List.filter_cons_of_neg (by simp [hhost])]
      exact hrest
    | true =>
      simp only [if_true]
      cases hport : raw.port.covers port with
      | false =>
        rw [List.filter_cons_of_neg (by simp [hcovers, hport]), List.filter_cons_of_neg (by simp [hport])]
        exact hrest
      | true =>
        rw [List.filter_cons_of_pos (by simp [hcovers, hport]), List.filter_cons_of_pos (by simp [hport, hhost]),
          List.map_cons, List.map_cons, hrest]

theorem entries_allow (hkept : ∀ raw ∈ entries, Loadable raw) {port : UInt16} {trusted_src : Bool} :
    ((((entries.map fun raw => classify_host lib (trim raw.host) raw.port.matcher).filterMap Classified.entry?).any
      fun e => e.protocol = .Tcp && e.port.matches port && e.host.contains lib ip &&
        (!e.trusted_source_only || trusted_src)) = true) ↔
      ∃ e ∈ entries, e.protocol = .Tcp ∧ e.port.covers port = true ∧ host_covers lib (trim e.host) ip := by
  rw [List.any_eq_true]
  constructor
  · rintro ⟨e, he, hallows⟩
    obtain ⟨classified, hclassified, hentry⟩ := List.mem_filterMap.mp he
    obtain ⟨raw, hraw, rfl⟩ := List.mem_map.mp hclassified
    have hhost : classify_host lib (trim raw.host) raw.port.matcher = .entry e := by
      cases hc : classify_host lib (trim raw.host) raw.port.matcher <;> rw [hc] at hentry <;> cases hentry
      rfl
    simp only [Bool.and_eq_true, decide_eq_true_eq] at hallows
    obtain ⟨⟨⟨_, hport⟩, hcontains⟩, _⟩ := hallows
    rw [(entry_of_classified hhost).2.1, covers_of_kept (hkept raw hraw)] at hport
    exact ⟨raw, hraw, (hkept raw hraw).protocol, hport, host_covers_iff.mp ⟨e, hhost, hcontains⟩⟩
  · rintro ⟨raw, hraw, _, hport, hcovers⟩
    obtain ⟨e, hhost, hcontains⟩ := (@host_covers_iff _ lib (trim raw.host) raw.port.matcher ip).mpr hcovers
    obtain ⟨hprotocol, heport, htrusted⟩ := entry_of_classified hhost
    refine ⟨e, List.mem_filterMap.mpr ⟨_, List.mem_map.mpr ⟨raw, hraw, rfl⟩, by rw [hhost]; rfl⟩, ?_⟩
    have hmatches : e.port.matches port = true := by
      rw [heport, covers_of_kept (hkept raw hraw)]
      exact hport
    simp [hprotocol, hmatches, hcontains, htrusted]

theorem resolvers_allow {resolvers : List (List Char)} {port : UInt16} {trusted_src : Bool} :
    ((((resolvers.filterMap (resolver_addr lib)).map AllowlistConfig.resolver_entry).any fun e =>
      e.protocol = .Tcp && e.port.matches port && e.host.contains lib ip &&
        (!e.trusted_source_only || trusted_src)) = true) ↔
      trusted_src = true ∧ port = 53 ∧ ∃ r ∈ resolvers, lib.parse_ip (trim r) = some (.V4 ip) := by
  rw [List.any_eq_true]
  constructor
  · rintro ⟨e, he, hallows⟩
    obtain ⟨addr, haddr, rfl⟩ := List.mem_map.mp he
    obtain ⟨r, hr, hresolver⟩ := List.mem_filterMap.mp haddr
    simp only [AllowlistConfig.resolver_entry, PortMatcher.matches, HostMatcher.contains, decide_true, Bool.true_and,
      Bool.and_eq_true, decide_eq_true_eq, Bool.not_true, Bool.false_or] at hallows
    obtain ⟨⟨hport, rfl⟩, htrusted⟩ := hallows
    refine ⟨htrusted, hport.symm, r, hr, ?_⟩
    unfold resolver_addr at hresolver
    split at hresolver <;> cases hresolver
    assumption
  · rintro ⟨htrusted, rfl, r, hr, hparse⟩
    refine ⟨AllowlistConfig.resolver_entry ip, List.mem_map.mpr ⟨ip, List.mem_filterMap.mpr ⟨r, hr, ?_⟩, rfl⟩, ?_⟩
    · unfold resolver_addr
      rw [hparse]
    · simp [AllowlistConfig.resolver_entry, PortMatcher.matches, HostMatcher.contains, htrusted]

theorem from_raw_ok {raw : RawAllowlist} (h : AllowlistConfig.from_raw lib raw = .ok config) :
    (∀ e ∈ raw.egress, Loadable e) ∧
      config.entries = (raw.egress.map fun e => classify_host lib (trim e.host) e.port.matcher).filterMap
        Classified.entry? ∧
      config.resolvers = raw.resolvers.filterMap (resolver_addr lib) ∧
      config.hostnames = (raw.egress.map fun e => classify_host lib (trim e.host) e.port.matcher).filterMap
        Classified.hostname? := by
  unfold AllowlistConfig.from_raw at h
  split at h
  · cases h
  · cases hclassify : classify lib raw.egress with
    | error error =>
      rw [hclassify] at h
      cases h
    | ok classified =>
      rw [hclassify] at h
      dsimp only at h
      split at h
      · cases h
      · cases h
        obtain ⟨rfl, hkept⟩ := classify_ok hclassify
        exact ⟨hkept, rfl, rfl, rfl⟩

theorem allow_tcp_iff {raw : RawAllowlist} (h : AllowlistConfig.from_raw lib raw = .ok config) (trusted_src : UInt32)
    (resolver : Resolver) (src : UInt32) (dst : SocketAddrV4) :
    allow_tcp lib config.inject_resolver_entries trusted_src resolver src dst = .Allow ↔
      Authored lib raw trusted_src resolver src dst := by
  obtain ⟨hkept, hentries, hresolvers, hhostnames⟩ := from_raw_ok h
  have hloop : resolve_hostnames resolver dst.ip 0
      (config.inject_resolver_entries.tcp_hostnames_for_port dst.port) = .Allow ↔
      ∃ i host ips, (authored_hostnames lib raw dst.port)[i]? = some host ∧ resolver i host = .ok ips ∧
        dst.ip ∈ ips := by
    rw [resolve_hostnames_allow]
    have hnames : (config.inject_resolver_entries.tcp_hostnames_for_port dst.port).map HostnameEntry.host =
        authored_hostnames lib raw dst.port := by
      unfold AllowlistConfig.tcp_hostnames_for_port AllowlistConfig.inject_resolver_entries authored_hostnames
      dsimp only
      rw [hhostnames]
      exact hostnames_eq hkept dst.port
    rw [hnames]
    simp only [Nat.zero_add]
  have hhit : config.inject_resolver_entries.allows_tcp lib dst.ip dst.port (src = trusted_src) = true ↔
      (∃ e ∈ raw.egress, e.protocol = .Tcp ∧ e.port.covers dst.port = true ∧ host_covers lib (trim e.host) dst.ip) ∨
      (src = trusted_src ∧ dst.port = 53 ∧ ∃ r ∈ raw.resolvers, lib.parse_ip (trim r) = some (.V4 dst.ip)) := by
    unfold AllowlistConfig.allows_tcp AllowlistConfig.inject_resolver_entries
    dsimp only
    rw [List.any_append, Bool.or_eq_true, hentries, hresolvers, entries_allow hkept, resolvers_allow,
      decide_eq_true_eq]
  unfold allow_tcp Authored
  by_cases hallows : config.inject_resolver_entries.allows_tcp lib dst.ip dst.port (src = trusted_src) = true
  · rw [if_pos hallows]
    rcases hhit.mp hallows with hentry | hresolver
    · exact ⟨fun _ => .inl hentry, fun _ => rfl⟩
    · exact ⟨fun _ => .inr (.inr hresolver), fun _ => rfl⟩
  · rw [if_neg hallows, hloop]
    constructor
    · exact fun hname => .inr (.inl hname)
    · rintro (hentry | hname | hresolver)
      · exact absurd (hhit.mpr (.inl hentry)) hallows
      · exact hname
      · exact absurd (hhit.mpr (.inr hresolver)) hallows

end enclavia.egress_config
