import Enclavia.Shell.Source
import Mathlib.Data.String.Basic
import Std.Data.ExtTreeMap.Lemmas

namespace enclavia.secrets_init

abbrev Creds := Std.ExtTreeMap String (List UInt8)

def from_utf8 (bytes : List UInt8) : Option String := String.fromUTF8? ⟨bytes.toArray⟩

def is_valid_env_name (name : String) : Bool :=
  match name.toList with
  | [] => false
  | c :: chars => (c.isAlpha || c == '_') && chars.all fun c => c.isAlphanum || c == '_'

def push_quoted (body value : String) : String :=
  (value.toList.foldl (fun body c => if c = '\x27' then body ++ "'\\''" else body.push c)
    (body.push '\x27')).push '\x27'

def render_entries (body : String) : List (String × List UInt8) → Except String String
  | [] => .ok body
  | (name, value_bytes) :: rest =>
    if !is_valid_env_name name then
      .error s!"credential name `{name}` is not a valid shell identifier; refusing to write"
    else
      match from_utf8 value_bytes with
      | none => .error s!"credential `{name}` value is not valid UTF-8; refusing to write"
      | some value =>
        if '\n' ∈ value.toList ∨ '\r' ∈ value.toList then
          .error (s!"credential `{name}` value contains a newline; refusing to write (would corrupt the sourced env " ++
            "file)")
        else render_entries ((push_quoted ((body ++ name).push '=') value).push '\n') rest

def render_env_file (creds : Creds) : Except String String := render_entries "" creds.toList

end enclavia.secrets_init

namespace enclavia.server

open enclavia.secrets_init (Creds from_utf8)

def ALLOWED_CREDS_ENV : List String :=
  ["AWS_ACCESS_KEY_ID", "AWS_SECRET_ACCESS_KEY", "AWS_SESSION_TOKEN", "AWS_REGION"]

end enclavia.server

namespace enclavia.secrets_init

variable {creds : Creds} {body name value : String} {bytes : List UInt8} {entries : List (String × List UInt8)}
  {vars : String → Option String}

theorem is_name_of_valid (h : is_valid_env_name name = true) : shell.is_name name.toList = true := by
  unfold is_valid_env_name at h
  split at h
  · cases h
  next c chars hlist =>
  rw [hlist]
  exact h

theorem from_utf8_bytes (h : from_utf8 bytes = some value) : value.toUTF8.data.toList = bytes := by
  unfold from_utf8 String.fromUTF8? at h
  split at h
  · cases h
    simp [String.fromUTF8]
  · cases h

theorem toList_push_quoted : (push_quoted body value).toList =
    body.toList ++ shell.QUOTE :: (shell.quote value.toList ++ [shell.QUOTE]) := by
  have hfold : ∀ (chars : List Char) (body : String),
      (chars.foldl (fun body c => if c = '\x27' then body ++ "'\\''" else body.push c) body).toList =
        body.toList ++ shell.quote chars := by
    intro chars
    induction chars with
    | nil => simp [shell.quote]
    | cons c rest ih =>
      intro body
      rw [List.foldl_cons, ih, shell.quote]
      by_cases hc : c = '\x27' <;> simp [shell.QUOTE, hc]
  unfold push_quoted
  rw [String.toList_push, hfold]
  simp [shell.QUOTE]

def text (bytes : List UInt8) : String := (from_utf8 bytes).getD ""

theorem render_entries_ok (h : render_entries body entries = .ok value) :
    (∀ entry ∈ entries, is_valid_env_name entry.1 = true ∧ from_utf8 entry.2 = some (text entry.2)) ∧
      value.toList = body.toList ++
        entries.flatMap fun entry => shell.assignment_line entry.1.toList (text entry.2).toList := by
  induction entries generalizing body with
  | nil =>
    cases h
    simp
  | cons entry rest ih =>
    obtain ⟨name, bytes⟩ := entry
    unfold render_entries at h
    split at h
    · cases h
    next hvalid =>
    split at h
    · cases h
    next content hcontent =>
    split at h
    · cases h
    obtain ⟨hrest, hvalue⟩ := ih h
    have htext : text bytes = content := by rw [text, hcontent, Option.getD_some]
    constructor
    · intro entry hentry
      rcases List.mem_cons.mp hentry with rfl | hentry
      · exact ⟨by simpa using hvalid, htext ▸ hcontent⟩
      · exact hrest entry hentry
    · rw [hvalue, String.toList_push, toList_push_quoted]
      simp [htext, shell.assignment_line]

theorem source_render (h : render_env_file creds = .ok body) (vars : String → Option String) :
    shell.source body.toList vars =
      some ⟨(creds.toList.map fun entry => (entry.1, String.ofList (shell.visible (text entry.2).toList))).foldl
        shell.assign vars, []⟩ := by
  obtain ⟨hvalid, hbody⟩ := render_entries_ok h
  have hnames : ∀ entry ∈ creds.toList.map (fun entry => (entry.1.toList, (text entry.2).toList)),
      shell.is_name entry.1 = true := by
    intro entry hentry
    obtain ⟨entry, hmem, rfl⟩ := List.mem_map.mp hentry
    exact is_name_of_valid (hvalid entry hmem).1
  have hsource := shell.source_assignments hnames vars
  simp only [List.flatMap_map, List.map_map] at hsource
  rw [hbody]
  refine hsource.trans ?_
  simp [Function.comp_def]

def SetsExactly (creds : Creds) (vars : String → Option String) (s : shell.State) : Prop :=
  ∀ name, match creds[name]? with
    | some bytes => ∃ value, s.vars name = some value ∧ value.toUTF8.data.toList = bytes
    | none => s.vars name = vars name

/-- Sourcing the file runs no command and only sets credentials, as they were sent. -/
def Inert (creds : Creds) (body : String) : Prop :=
  (∀ name ∈ creds, name ∈ server.ALLOWED_CREDS_ENV) ∧
    ∀ vars, ∃ s, shell.source body.toList vars = some s ∧ s.ran = [] ∧ SetsExactly creds vars s

theorem sourced_of_getElem? (h : creds[name]? = some bytes) (vars : String → Option String) :
    (creds.toList.map fun entry => (entry.1, String.ofList (shell.visible (text entry.2).toList))).foldl shell.assign
      vars
      name = some (String.ofList (shell.visible (text bytes).toList)) := by
  refine shell.foldl_assign_of_mem ?_ ?_ vars
  · rw [List.map_map]
    refine List.pairwise_map.mpr (Std.ExtTreeMap.distinct_keys_toList.imp ?_)
    intro first second hne heq
    exact hne (Std.LawfulEqCmp.compare_eq_iff_eq.mpr heq)
  · exact List.mem_map.mpr ⟨(name, bytes), Std.ExtTreeMap.mem_toList_iff_getElem?_eq_some.mpr h, rfl⟩

theorem sourced_of_none (h : creds[name]? = none) (vars : String → Option String) :
    (creds.toList.map fun entry => (entry.1, String.ofList (shell.visible (text entry.2).toList))).foldl shell.assign
      vars
      name = vars name := by
  refine shell.foldl_assign_of_not_mem ?_ vars
  intro hmem
  rw [List.map_map] at hmem
  obtain ⟨⟨name', bytes⟩, hentry, rfl⟩ := List.mem_map.mp hmem
  rw [Std.ExtTreeMap.mem_toList_iff_getElem?_eq_some] at hentry
  cases h.symm.trans hentry

def Clean (creds : Creds) : Prop :=
  ∀ name bytes, creds[name]? = some bytes → name ∈ server.ALLOWED_CREDS_ENV ∧
    ∀ value, from_utf8 bytes = some value → '\x00' ∉ value.toList

theorem render_from_utf8 (h : render_env_file creds = .ok body) (hget : creds[name]? = some bytes) :
    from_utf8 bytes = some (text bytes) :=
  ((render_entries_ok h).1 (name, bytes) (Std.ExtTreeMap.mem_toList_iff_getElem?_eq_some.mpr hget)).2

theorem inert_of_clean (h : render_env_file creds = .ok body) (hclean : Clean creds) : Inert creds body := by
  constructor
  · intro name hname
    obtain ⟨bytes, hbytes⟩ := Option.isSome_iff_exists.mp (Std.ExtTreeMap.mem_iff_isSome_getElem?.mp hname)
    exact (hclean name bytes hbytes).1
  intro vars
  refine ⟨_, source_render h vars, rfl, fun name => ?_⟩
  split
  · next bytes hbytes =>
    have hutf8 := render_from_utf8 h hbytes
    have hvisible : shell.visible (text bytes).toList = (text bytes).toList := by
      refine List.filter_eq_self.mpr fun c hc => decide_eq_true ?_
      rintro rfl
      exact (hclean name bytes hbytes).2 _ hutf8 hc
    refine ⟨_, sourced_of_getElem? hbytes vars, ?_⟩
    rw [hvisible, String.ofList_toList]
    exact from_utf8_bytes hutf8
  · next hnone => exact sourced_of_none hnone vars

/-- Sourcing the file that was rendered is inert exactly for the credentials' names, and values without a NUL. -/
theorem sourced_creds_inert_iff (h : render_env_file creds = .ok body) : Inert creds body ↔
    ∀ name bytes, creds[name]? = some bytes → name ∈ server.ALLOWED_CREDS_ENV ∧
      ∀ value, from_utf8 bytes = some value → '\x00' ∉ value.toList := by
  constructor
  · rintro ⟨hnames, hsets⟩ name bytes hbytes
    refine ⟨hnames name ?_, ?_⟩
    · rw [Std.ExtTreeMap.mem_iff_isSome_getElem?, hbytes]
      rfl
    intro value hvalue hnul
    obtain ⟨s, hsource, -, hexactly⟩ := hsets fun _ => none
    cases (source_render h _).symm.trans hsource
    have hname := hexactly name
    rw [hbytes] at hname
    obtain ⟨value', hvalue', hsent⟩ := hname
    cases (sourced_of_getElem? hbytes _).symm.trans hvalue'
    -- the value that was set has the bytes of the one that was sent, but not its NUL
    have htext : text bytes = value := by rw [text, hvalue, Option.getD_some]
    have hsame : String.ofList (shell.visible (text bytes).toList) = value := by
      rw [← String.toByteArray_inj]
      have hbytes' := hsent.trans (from_utf8_bytes hvalue).symm
      exact ByteArray.ext (Array.toList_inj.mp hbytes')
    have hmem : '\x00' ∈ shell.visible (text bytes).toList := by
      rw [← String.toList_ofList (l := shell.visible (text bytes).toList), hsame]
      exact hnul
    simp [shell.visible] at hmem
  · exact inert_of_clean h

namespace sample

def region : Creds := (∅ : Creds).insert "AWS_REGION" [0x61, 0x27, 0x62]

def preload : Creds := (∅ : Creds).insert "LD_PRELOAD" [0x2f, 0x78]

end sample

/-- An AWS region. -/
theorem sourced_creds_inert_iff_region :
    ∃ body, render_env_file sample.region = .ok body ∧ Inert sample.region body := by
  have h : render_env_file sample.region = .ok "AWS_REGION='a'\\''b'\n" := by decide +kernel
  refine ⟨_, h, (sourced_creds_inert_iff h).mpr ?_⟩
  intro name bytes hbytes
  rw [sample.region, Std.ExtTreeMap.getElem?_insert] at hbytes
  split at hbytes
  · next hname =>
    cases hbytes
    cases Std.LawfulEqCmp.compare_eq_iff_eq.mp hname
    refine ⟨by decide +kernel, ?_⟩
    intro value hvalue
    have hutf8 : from_utf8 [0x61, 0x27, 0x62] = some "a'b" := by decide +kernel
    cases hutf8.symm.trans hvalue
    decide
  · simp at hbytes

/-- A credential whose name is that of a variable of the loader. -/
theorem sourced_creds_set_preload : ∃ body, render_env_file sample.preload = .ok body ∧
    (∃ s, shell.source body.toList (fun _ => none) = some s ∧ s.vars "LD_PRELOAD" = some "/x") ∧
      ¬Inert sample.preload body := by
  refine ⟨"LD_PRELOAD='/x'\n", by decide +kernel, ⟨_, rfl, by decide +kernel⟩, ?_⟩
  rintro ⟨hnames, -⟩
  exact absurd (hnames "LD_PRELOAD" Std.ExtTreeMap.mem_insert_self) (by decide +kernel)

end enclavia.secrets_init
