import Enclavia.Iam.Policy
import Enclavia.Protocol.Attestation

open bytes json

namespace enclavia.protocol.kms_policy

def EQ_OPERATORS : List String := ["StringEquals", "StringEqualsIgnoreCase"]

def FORBIDDEN_ACTIONS : List String := ["kms:putkeypolicy", "kms:creategrant", "kms:replicatekey"]

inductive PolicyError where
  | Json (message : String)
  | NoStatements
  | NotAction
  | WildcardAction (action : String)
  | ForbiddenAction (action : String)
  | UngatedDecrypt
  | PcrMismatch (index : UInt8) (found expected : String)
deriving DecidableEq

def PolicyError.message : PolicyError → String
  | .Json message => s!"key policy is not valid JSON: {message}"
  | .NoStatements => "key policy has no Statement element"
  | .NotAction => "an Allow statement uses NotAction, which is too broad to bound"
  | .WildcardAction action => s!"key policy grants wildcard action {action.quote}; only explicit actions are allowed"
  | .ForbiddenAction action =>
    s!"key policy grants gate-loosening action {action.quote} (could change or bypass the decrypt gate)"
  | .UngatedDecrypt => "a statement allows kms:Decrypt without binding it to this enclave's PCR0/1/2"
  | .PcrMismatch index found expected =>
    s!"kms:Decrypt is bound to PCR{index} {found.quote}, not this enclave's {expected.quote}"

def normalize_actions : Option Value → List String
  | some (.string text) => [to_ascii_lowercase text]
  | some (.array items) => (items.filterMap Value.as_str).map to_ascii_lowercase
  | _ => []

def strip_prefix (start text : String) : Option String :=
  if start.toList <+: text.toList then some (String.ofList (text.toList.drop start.length)) else none

def pcr_suffix (key : String) : Option String :=
  strip_prefix "kms:RecipientAttestation:PCR" key |>.or <| strip_prefix "kms:RecipientAttestation:pcr" key

def collect_tests (out : List (String × String)) : List (String × Value) → List (String × String)
  | [] => out
  | (key, val) :: rest =>
    match pcr_suffix key, val with
    | some suffix, .string text => collect_tests ((suffix, text) :: out) rest
    | _, _ => collect_tests out rest

def collect_conditions (out : List (String × String)) : List (String × Value) → List (String × String)
  | [] => out
  | (op, kv) :: rest =>
    if op ∉ EQ_OPERATORS then collect_conditions out rest
    else
      match kv.as_object with
      | none => collect_conditions out rest
      | some kv_map => collect_conditions (collect_tests out kv_map) rest

def collect_pcr_bindings (stmt : Value) : List (String × String) :=
  match (stmt.get "Condition").bind Value.as_object with
  | none => []
  | some cond => collect_conditions [] cond

def check_actions : List String → Except PolicyError Unit
  | [] => .ok ()
  | action :: rest =>
    if '*' ∈ action.toList ∨ '?' ∈ action.toList then .error (.WildcardAction action)
    else if action ∈ FORBIDDEN_ACTIONS ∨ "kms:reencrypt".toList <+: action.toList then .error (.ForbiddenAction action)
    else check_actions rest

def check_bindings (bound : List (String × String)) : List (String × UInt8 × String) → Except PolicyError Unit
  | [] => .ok ()
  | (suffix, index, expected) :: rest =>
    match bound.lookup suffix with
    | none => .error .UngatedDecrypt
    | some found =>
      if eq_ignore_ascii_case found expected then check_bindings bound rest
      else .error (.PcrMismatch index found expected)

def want (own : Pcrs) : List (String × UInt8 × String) :=
  [("0", 0, hex_encode own.pcr0), ("1", 1, hex_encode own.pcr1), ("2", 2, hex_encode own.pcr2)]

def verify_statement (own : Pcrs) (stmt : Value) : Except PolicyError Unit :=
  if (stmt.get "Effect").bind Value.as_str ≠ some "Allow" then .ok ()
  else if (stmt.get "NotAction").isSome then .error .NotAction
  else
    let actions := normalize_actions (stmt.get "Action")
    match check_actions actions with
    | .error error => .error error
    | .ok () =>
      if "kms:decrypt" ∈ actions then check_bindings (collect_pcr_bindings stmt) (want own) else .ok ()

def verify_statements (own : Pcrs) : List Value → Except PolicyError Unit
  | [] => .ok ()
  | stmt :: rest =>
    match verify_statement own stmt with
    | .error error => .error error
    | .ok () => verify_statements own rest

def verify_decrypt_policy (from_str : String → Except String Value) (policy_json : String) (own : Pcrs) :
    Except PolicyError Unit :=
  match from_str policy_json with
  | .error message => .error (.Json message)
  | .ok doc =>
    match doc.get "Statement" with
    | some (.array arr) => verify_statements own arr
    | some other => verify_statements own [other]
    | none => .error .NoStatements

def Binds (stmt : Value) (suffix text : String) : Prop :=
  ∃ condition op tests key, stmt.get "Condition" = some (.object condition) ∧ (op, Value.object tests) ∈ condition ∧
    op ∈ EQ_OPERATORS ∧ (key, Value.string text) ∈ tests ∧ pcr_suffix key = some suffix

section Bindings

variable {out : List (String × String)} {suffix text : String}

theorem mem_collect_tests {tests : List (String × Value)} (h : (suffix, text) ∈ collect_tests out tests) :
    (suffix, text) ∈ out ∨ ∃ key, (key, Value.string text) ∈ tests ∧ pcr_suffix key = some suffix := by
  induction tests generalizing out with
  | nil => exact .inl h
  | cons test rest ih =>
    obtain ⟨key, val⟩ := test
    unfold collect_tests at h
    split at h
    · next found value hsuffix =>
      rcases ih h with hmem | ⟨key', hmem, hkey⟩
      · rcases List.mem_cons.mp hmem with heq | hmem
        · obtain ⟨rfl, rfl⟩ := Prod.mk.inj heq
          exact .inr ⟨key, List.mem_cons_self, hsuffix⟩
        · exact .inl hmem
      · exact .inr ⟨key', List.mem_cons_of_mem _ hmem, hkey⟩
    · rcases ih h with hmem | ⟨key', hmem, hkey⟩
      · exact .inl hmem
      · exact .inr ⟨key', List.mem_cons_of_mem _ hmem, hkey⟩

theorem mem_collect_conditions {cond : List (String × Value)} (h : (suffix, text) ∈ collect_conditions out cond) :
    (suffix, text) ∈ out ∨ ∃ op tests key, (op, Value.object tests) ∈ cond ∧ op ∈ EQ_OPERATORS ∧
      (key, Value.string text) ∈ tests ∧ pcr_suffix key = some suffix := by
  induction cond generalizing out with
  | nil => exact .inl h
  | cons entry rest ih =>
    obtain ⟨op, kv⟩ := entry
    have hlater : ∀ {out'}, (suffix, text) ∈ collect_conditions out' rest →
        (suffix, text) ∈ out' ∨ ∃ op' tests key, (op', Value.object tests) ∈ (op, kv) :: rest ∧ op' ∈ EQ_OPERATORS ∧
          (key, Value.string text) ∈ tests ∧ pcr_suffix key = some suffix := by
      intro out' h'
      rcases ih h' with hmem | ⟨op', tests, key, hmem, hrest⟩
      · exact .inl hmem
      · exact .inr ⟨op', tests, key, List.mem_cons_of_mem _ hmem, hrest⟩
    rw [collect_conditions] at h
    split at h
    · exact hlater h
    · next hop =>
      cases kv with
      | object kv_map =>
        rcases hlater h with hmem | hfound
        · rcases mem_collect_tests hmem with hmem | ⟨key, hmem, hkey⟩
          · exact .inl hmem
          · exact .inr ⟨op, kv_map, key, List.mem_cons_self, not_not.mp hop, hmem, hkey⟩
        · exact .inr hfound
      | _ => exact hlater h

theorem binds_of_lookup {stmt : Value} (h : (collect_pcr_bindings stmt).lookup suffix = some text) :
    Binds stmt suffix text := by
  have hmem : (suffix, text) ∈ collect_pcr_bindings stmt := by
    obtain ⟨before, after, heq, -⟩ := List.lookup_eq_some_iff.mp h
    rw [heq]
    exact List.mem_append_right _ List.mem_cons_self
  rw [collect_pcr_bindings] at hmem
  split at hmem
  · cases hmem
  · next cond hcond =>
    obtain ⟨value, hget, hobject⟩ := Option.bind_eq_some_iff.mp hcond
    cases value with
    | object fields =>
      cases hobject
      rcases mem_collect_conditions hmem with hnil | ⟨op, tests, key, hentry, hop, htest, hkey⟩
      · cases hnil
      · exact ⟨cond, op, tests, key, hget, hentry, hop, htest, hkey⟩
    | _ => cases hobject

end Bindings

/-- The actions with which a key's policy is got around. -/
def Loosening (action : String) : Prop :=
  to_ascii_lowercase action ∈ ["kms:putkeypolicy", "kms:creategrant", "kms:replicatekey"] ∨
    "kms:reencrypt".toList <+: (to_ascii_lowercase action).toList

/-- A request to KMS. -/
structure KmsRequest extends iam.Request where
  recipient : Option Pcrs
  attested : ∀ found,
    (context "kms:recipientattestation:pcr0" = some found →
      ∃ pcrs, recipient = some pcrs ∧ hex_decode found = some pcrs.pcr0) ∧
    (context "kms:recipientattestation:pcr1" = some found →
      ∃ pcrs, recipient = some pcrs ∧ hex_decode found = some pcrs.pcr1) ∧
    (context "kms:recipientattestation:pcr2" = some found →
      ∃ pcrs, recipient = some pcrs ∧ hex_decode found = some pcrs.pcr2)

section Soundness

variable {own : Pcrs} {stmt : Value} {actions : List String} {bound : List (String × String)}

theorem mem_normalize_actions (element : Option Value) {pattern : String} (h : pattern ∈ iam.texts element) :
    to_ascii_lowercase pattern ∈ normalize_actions element := by
  unfold iam.texts at h
  split at h
  · rw [List.mem_singleton] at h
    rw [h]
    exact List.mem_singleton_self _
  · exact List.mem_map_of_mem h
  · cases h

theorem check_actions_ok (h : check_actions actions = .ok ()) :
    ∀ action ∈ actions, ('*' ∉ action.toList ∧ '?' ∉ action.toList) ∧ action ∉ FORBIDDEN_ACTIONS ∧
      ¬"kms:reencrypt".toList <+: action.toList := by
  induction actions with
  | nil => nofun
  | cons action rest ih =>
    rw [check_actions] at h
    split_ifs at h with hwild hforbidden
    exact List.forall_mem_cons.mpr ⟨⟨not_or.mp hwild, not_or.mp hforbidden⟩, ih h⟩

theorem check_bindings_ok {wanted : List (String × UInt8 × String)} (h : check_bindings bound wanted = .ok ()) :
    ∀ entry ∈ wanted, ∃ found, bound.lookup entry.1 = some found ∧ eq_ignore_ascii_case found entry.2.2 = true := by
  induction wanted with
  | nil => nofun
  | cons entry rest ih =>
    obtain ⟨suffix, index, expected⟩ := entry
    rw [check_bindings] at h
    split at h
    · cases h
    · next found hfound =>
      split_ifs at h with heq
      exact List.forall_mem_cons.mpr ⟨⟨found, hfound, heq⟩, ih h⟩

theorem verify_statements_ok {stmts : List Value} (h : verify_statements own stmts = .ok ()) :
    ∀ stmt ∈ stmts, verify_statement own stmt = .ok () := by
  induction stmts with
  | nil => nofun
  | cons stmt rest ih =>
    rw [verify_statements] at h
    split at h
    · cases h
    · next hstmt => exact List.forall_mem_cons.mpr ⟨hstmt, ih h⟩

/-- What an accepted statement that allows something looks like: it lists plain actions, none of them loosening, and
binds all the PCRs if it lists `kms:Decrypt`. -/
structure Gated (own : Pcrs) (stmt : Value) : Prop where
  listed : (stmt.get "NotAction").isSome = false
  plain : ∀ action ∈ normalize_actions (stmt.get "Action"), ('*' ∉ action.toList ∧ '?' ∉ action.toList) ∧
    action ∉ FORBIDDEN_ACTIONS ∧ ¬"kms:reencrypt".toList <+: action.toList
  bound : "kms:decrypt" ∈ normalize_actions (stmt.get "Action") → ∀ entry ∈ want own,
    ∃ found, Binds stmt entry.1 found ∧ eq_ignore_ascii_case found entry.2.2 = true

theorem gated_of_verify (h : verify_statement own stmt = .ok ())
    (hallow : (stmt.get "Effect").bind Value.as_str = some "Allow") : Gated own stmt := by
  rw [verify_statement, if_neg (not_not.mpr hallow)] at h
  split_ifs at h with hnot
  dsimp only at h
  split at h
  · cases h
  · next hactions =>
    refine ⟨Bool.not_eq_true _ ▸ hnot, check_actions_ok hactions, fun hdecrypt entry hentry => ?_⟩
    rw [if_pos hdecrypt] at h
    obtain ⟨found, hlookup, heq⟩ := check_bindings_ok h entry hentry
    exact ⟨found, binds_of_lookup hlookup, heq⟩

theorem Gated.names (h : Gated own stmt) {action : String} (hcovers : iam.Covers stmt action) :
    to_ascii_lowercase action ∈ normalize_actions (stmt.get "Action") := by
  rcases hcovers with ⟨pattern, hmem, hnames⟩ | ⟨hnot, -⟩
  · have hpattern := mem_normalize_actions _ hmem
    obtain ⟨hstar, hquestion⟩ := (h.plain _ hpattern).1
    rw [← String.toList_inj.mp (hnames.eq_of_plain hstar hquestion)]
    exact hpattern
  · rw [h.listed] at hnot
    cases hnot

theorem lowercase_of_pcr_suffix {key suffix : String} (h : pcr_suffix key = some suffix) :
    to_ascii_lowercase key = to_ascii_lowercase ("kms:RecipientAttestation:PCR" ++ suffix) := by
  have hstrip : ∀ start : String, strip_prefix start key = some suffix → key = start ++ suffix := by
    intro start hstart
    unfold strip_prefix at hstart
    split_ifs at hstart with hprefix
    obtain ⟨rest, hrest⟩ := hprefix
    cases hstart
    rw [← String.toList_inj, String.toList_append, String.toList_ofList, ← hrest, ← String.length_toList,
      List.drop_left]
  have hboth : ∀ start : String, to_ascii_lowercase start = "kms:recipientattestation:pcr" →
      to_ascii_lowercase (start ++ suffix) = to_ascii_lowercase ("kms:RecipientAttestation:PCR" ++ suffix) := by
    intro start hlower
    rw [to_ascii_lowercase, String.toList_append, List.map_append, String.ofList_append, to_ascii_lowercase,
      String.toList_append, List.map_append, String.ofList_append]
    congr 1
  rcases Option.or_eq_some_iff.mp h with h | ⟨-, h⟩
  · rw [hstrip _ h]
  · rw [hstrip _ h]
    exact hboth _ (by decide +kernel)

theorem context_of_binds {request : iam.Request} (hconditions : iam.EqualitiesHold stmt request) {suffix text : String}
    (h : Binds stmt suffix text) :
    ∃ found, request.context (to_ascii_lowercase ("kms:RecipientAttestation:PCR" ++ suffix)) = some found ∧
      eq_ignore_ascii_case found text = true := by
  obtain ⟨condition, op, tests, key, hget, hentry, hop, htest, hkey⟩ := h
  have hcases : op = "StringEquals" ∨ op = "StringEqualsIgnoreCase" := by
    simpa only [EQ_OPERATORS, List.mem_cons, List.not_mem_nil, or_false] using hop
  obtain ⟨found, hfound, value, hvalue, hexact, hfold⟩ := hconditions condition hget op tests hentry hcases key _ htest
  rw [lowercase_of_pcr_suffix hkey] at hfound
  rw [iam.texts, List.mem_singleton] at hvalue
  subst hvalue
  refine ⟨found, hfound, ?_⟩
  rcases hcases with rfl | rfl
  · rw [hexact rfl]
    exact decide_eq_true rfl
  · exact hfold rfl

theorem hex_decode_of_wanted {found text : String} {pcr : List UInt8} (hfound : eq_ignore_ascii_case found text = true)
    (htext : eq_ignore_ascii_case text (hex_encode pcr) = true) : hex_decode found = some pcr := by
  rw [hex_decode_of_eq_ignore_ascii_case hfound, hex_decode_of_eq_ignore_ascii_case htext, hex_decode_encode]

theorem Gated.recipient (h : Gated own stmt) (hdecrypt : "kms:decrypt" ∈ normalize_actions (stmt.get "Action"))
    {request : KmsRequest} (hconditions : iam.EqualitiesHold stmt request.toRequest) :
      request.recipient = some own := by
  have hpcr : ∀ suffix index pcr, (suffix, index, hex_encode pcr) ∈ want own →
      ∃ found, request.context (to_ascii_lowercase ("kms:RecipientAttestation:PCR" ++ suffix)) = some found ∧
        hex_decode found = some pcr := by
    intro suffix index pcr hmem
    obtain ⟨text, hbinds, htext⟩ := h.bound hdecrypt _ hmem
    obtain ⟨found, hcontext, hfound⟩ := context_of_binds hconditions hbinds
    exact ⟨found, hcontext, hex_decode_of_wanted hfound htext⟩
  have hlower : ∀ suffix ∈ ["0", "1", "2"], to_ascii_lowercase ("kms:RecipientAttestation:PCR" ++ suffix) =
      "kms:recipientattestation:pcr" ++ suffix := by decide +kernel
  obtain ⟨found0, hcontext0, hdecode0⟩ := hpcr "0" 0 own.pcr0 (by simp [want])
  obtain ⟨found1, hcontext1, hdecode1⟩ := hpcr "1" 1 own.pcr1 (by simp [want])
  obtain ⟨found2, hcontext2, hdecode2⟩ := hpcr "2" 2 own.pcr2 (by simp [want])
  rw [hlower _ (by simp)] at hcontext0 hcontext1 hcontext2
  obtain ⟨pcrs, hrecipient, hpcr0⟩ := (request.attested found0).1 hcontext0
  obtain ⟨pcrs1, hrecipient1, hpcr1⟩ := (request.attested found1).2.1 hcontext1
  obtain ⟨pcrs2, hrecipient2, hpcr2⟩ := (request.attested found2).2.2 hcontext2
  rw [hrecipient, Option.some.injEq] at hrecipient1 hrecipient2
  subst hrecipient1 hrecipient2
  rw [hdecode0, Option.some.injEq] at hpcr0
  rw [hdecode1, Option.some.injEq] at hpcr1
  rw [hdecode2, Option.some.injEq] at hpcr2
  rw [hrecipient, Option.some.injEq]
  obtain ⟨pcr0, pcr1, pcr2⟩ := own
  obtain ⟨pcr0', pcr1', pcr2'⟩ := pcrs
  simp only at hpcr0 hpcr1 hpcr2
  rw [hpcr0, hpcr1, hpcr2]

theorem verify_statement_of_verify {from_str : String → Except String Value} {policy_json : String} {doc : Value}
    (hdoc : from_str policy_json = .ok doc) (h : verify_decrypt_policy from_str policy_json own = .ok ()) :
    ∀ stmt ∈ iam.statements doc, verify_statement own stmt = .ok () := by
  simp only [verify_decrypt_policy, hdoc] at h
  unfold iam.statements
  cases hget : doc.get "Statement" with
  | none =>
    rw [hget] at h
    cases h
  | some other =>
    rw [hget] at h
    cases other <;> exact verify_statements_ok h

end Soundness

/-- Under an accepted policy nobody decrypts but an enclave with the PCRs `own`, and nobody may loosen that. -/
theorem accepted_policy_confines_decryption {from_str : String → Except String Value} {policy_json : String}
    {own : Pcrs} (h : verify_decrypt_policy from_str policy_json own = .ok ()) :
    ∃ doc, from_str policy_json = .ok doc ∧
      ∀ (admits : Value → iam.Request → Prop) (request : KmsRequest), iam.Allowed admits doc request.toRequest →
        (to_ascii_lowercase request.action = "kms:decrypt" → request.recipient = some own) ∧
          ¬Loosening request.action := by
  obtain ⟨doc, hdoc⟩ : ∃ doc, from_str policy_json = .ok doc := by
    unfold verify_decrypt_policy at h
    split at h
    · cases h
    · next doc hdoc => exact ⟨doc, hdoc⟩
  refine ⟨doc, hdoc, ?_⟩
  rintro admits request ⟨stmt, hstmt, hallow, hcovers, hconditions, -⟩
  have hgated := gated_of_verify (verify_statement_of_verify hdoc h stmt hstmt) hallow
  have hnamed := hgated.names hcovers
  constructor
  · intro hdecrypt
    rw [hdecrypt] at hnamed
    exact hgated.recipient hnamed hconditions
  · rintro (hforbidden | hreencrypt)
    · exact (hgated.plain _ hnamed).2.1 hforbidden
    · exact (hgated.plain _ hnamed).2.2 hreencrypt

namespace sample

def attested_decrypt (own : Pcrs) : Value :=
  .object [("Effect", .string "Allow"), ("Action", .array [.string "kms:GetPublicKey", .string "KMS:Decrypt"]),
    ("Condition", .object [("StringEqualsIgnoreCase", .object [
      ("kms:RecipientAttestation:PCR0", .string (hex_encode own.pcr0)),
      ("kms:RecipientAttestation:PCR1", .string (hex_encode own.pcr1)),
      ("kms:RecipientAttestation:PCR2", .string (hex_encode own.pcr2))])])]

def own : Pcrs := ⟨[0xaa, 0x01], [0xbb], [0xcc]⟩

def policy : Value := .object [("Version", .string "2012-10-17"), ("Statement", .array [attested_decrypt own])]

/-- What an enclave with the PCRs `own` asks for, with its attestation document. -/
def request : KmsRequest where
  action := "kms:Decrypt"
  context key :=
    if key = "kms:recipientattestation:pcr0" then some (hex_encode own.pcr0)
    else if key = "kms:recipientattestation:pcr1" then some (hex_encode own.pcr1)
    else if key = "kms:recipientattestation:pcr2" then some (hex_encode own.pcr2)
    else none
  recipient := some own
  attested found := by
    refine ⟨fun h => ⟨own, rfl, ?_⟩, fun h => ⟨own, rfl, ?_⟩, fun h => ⟨own, rfl, ?_⟩⟩
    · rw [if_pos rfl] at h
      exact Option.some.inj h ▸ hex_decode_encode _
    · rw [if_neg (by decide +kernel), if_pos rfl] at h
      exact Option.some.inj h ▸ hex_decode_encode _
    · rw [if_neg (by decide +kernel), if_neg (by decide +kernel), if_pos rfl] at h
      exact Option.some.inj h ▸ hex_decode_encode _

theorem request_allowed : iam.Allowed (fun _ _ => True) policy request.toRequest := by
  refine ⟨attested_decrypt own, List.mem_singleton_self _, rfl, .inl ⟨"KMS:Decrypt", by decide +kernel, ?_⟩, ?_,
    trivial⟩
  · have hsame : to_ascii_lowercase "KMS:Decrypt" = to_ascii_lowercase "kms:Decrypt" := by decide +kernel
    change iam.Glob (to_ascii_lowercase "KMS:Decrypt").toList (to_ascii_lowercase "kms:Decrypt").toList
    rw [hsame]
    exact iam.Glob.refl _
  · intro condition hcondition operator tests htests _ key values hvalues
    cases hcondition
    cases List.mem_singleton.mp htests
    simp only [List.mem_cons, List.not_mem_nil, or_false, Prod.mk.injEq] at hvalues
    rcases hvalues with ⟨rfl, rfl⟩ | ⟨rfl, rfl⟩ | ⟨rfl, rfl⟩
    · exact ⟨hex_encode own.pcr0, by decide +kernel, _, List.mem_singleton_self _, fun _ => rfl, by decide +kernel⟩
    · exact ⟨hex_encode own.pcr1, by decide +kernel, _, List.mem_singleton_self _, fun _ => rfl, by decide +kernel⟩
    · exact ⟨hex_encode own.pcr2, by decide +kernel, _, List.mem_singleton_self _, fun _ => rfl, by decide +kernel⟩

end sample

/-- A policy that allows the attested enclave to decrypt, as the theorem says of its request. -/
theorem accepted_policy_confines_decryption_attested :
    verify_decrypt_policy (fun _ => .ok sample.policy) "" sample.own = .ok () ∧
      iam.Allowed (fun _ _ => True) sample.policy sample.request.toRequest ∧
        sample.request.recipient = some sample.own ∧ ¬Loosening sample.request.action := by
  have h : verify_decrypt_policy (fun _ => .ok sample.policy) "" sample.own = .ok () := by decide +kernel
  obtain ⟨doc, hdoc, hconfined⟩ := accepted_policy_confines_decryption h
  cases hdoc
  obtain ⟨hrecipient, hloosening⟩ := hconfined _ sample.request sample.request_allowed
  exact ⟨h, sample.request_allowed, hrecipient (by decide +kernel), hloosening⟩

end enclavia.protocol.kms_policy
