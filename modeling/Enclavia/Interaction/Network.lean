import Enclavia.Interaction.Program

namespace interaction

inductive Role where
  | Initiator
  | Responder
deriving DecidableEq

def Role.other : Role → Role
  | .Initiator => .Responder
  | .Responder => .Initiator

theorem Role.eq_other_of_ne {r r' : Role} (hne : r ≠ r') : r = r'.other := by
  cases r <;> cases r' <;> first | rfl | exact absurd rfl hne

inductive Effect (M L : Type) where
  | write (message : M)
  | read
  | call (request : L)

/-- A write may fail after the message has left, and a read may fail or find the session closed. -/
def Answer (F M : Type) {L : Type} (A : L → Type) : Effect M L → Type
  | .write _ => Except F Unit
  | .read => Except F (Option M)
  | .call request => A request

abbrev Trace (S F M : Type) {L : Type} (A : L → Type) := List (S × Role × Event (Answer F M A))

/-- Sessions whose ends run programs or belong to an adversary. -/
structure Network (S F M L : Type) (A : L → Type) (Out : Type) where
  party : S → Role → Option (Program (Effect M L) (Answer F M A) Out)
  can : List M → M → Prop
  answers : Trace S F M A → S → Role → (request : L) → A request → Prop

variable {S F M L Out : Type} {A : L → Type} [DecidableEq S]

def localTrace (trace : Trace S F M A) (s : S) (r : Role) : List (Event (Answer F M A)) :=
  trace.filterMap fun entry => if entry.1 = s ∧ entry.2.1 = r then some entry.2.2 else none

def Event.written : Event (Answer F M A) → Option M
  | ⟨.write message, _⟩ => some message
  | _ => none

def Event.received : Event (Answer F M A) → Option M
  | ⟨.read, .ok message⟩ => message
  | _ => none

def atEnd (s : S) (r : Role) (events : List (Event (Answer F M A))) : Trace S F M A :=
  events.map fun event => (s, r, event)

def messages (trace : Trace S F M A) : List M :=
  trace.filterMap fun entry => (Event.written entry.2.2).or (Event.received entry.2.2)

namespace Network

variable (N : Network S F M L A Out)

def seen (trace : Trace S F M A) : List M :=
  trace.filterMap fun entry =>
    if (N.party entry.1 entry.2.1.other).isNone then Event.written entry.2.2 else none

def Permits (trace : Trace S F M A) (s : S) (r : Role) : Event (Answer F M A) → Prop
  | ⟨.write _, _⟩ => True
  | ⟨.read, .error _⟩ => True
  | ⟨.read, .ok none⟩ => True
  | ⟨.read, .ok (some message)⟩ =>
    match N.party s r.other with
    | some _ =>
      ((localTrace trace s r.other).filterMap Event.written)[
        ((localTrace trace s r).filterMap Event.received).length]? = some message
    | none => N.can (N.seen trace) message
  | ⟨.call request, answer⟩ => N.answers trace s r request answer

inductive Valid : Trace S F M A → Prop
  | nil : Valid []
  | snoc {trace : Trace S F M A} {s : S} {r : Role} {event : Event (Answer F M A)}
      {p q : Program (Effect M L) (Answer F M A) Out} (hvalid : Valid trace)
      (hparty : N.party s r = some p) (hrun : p.Run (localTrace trace s r ++ [event]) q)
      (hpermits : N.Permits trace s r event) : Valid (trace ++ [(s, r, event)])

variable {N}

variable {trace : Trace S F M A} {s : S} {r : Role} {event : Event (Answer F M A)} {message : M}
  {p : Program (Effect M L) (Answer F M A) Out}

theorem mem_localTrace :
    event ∈ localTrace trace s r ↔ (s, r, event) ∈ trace := by
  simp only [localTrace, List.mem_filterMap]
  constructor
  · rintro ⟨⟨s', r', event'⟩, hmem, hif⟩
    split at hif
    · next hends =>
      obtain ⟨rfl, rfl⟩ := hends
      cases hif
      exact hmem
    · cases hif
  · intro hmem
    exact ⟨(s, r, event), hmem, if_pos ⟨rfl, rfl⟩⟩

theorem localTrace_append (trace trace' : Trace S F M A) (s : S) (r : Role) :
    localTrace (trace ++ trace') s r = localTrace trace s r ++ localTrace trace' s r :=
  List.filterMap_append

omit [DecidableEq S] in
@[simp] theorem mem_atEnd {s' : S} {r' : Role}
    {events : List (Event (Answer F M A))} :
    (s', r', event) ∈ atEnd s r events ↔ s' = s ∧ r' = r ∧ event ∈ events := by
  simp only [atEnd, List.mem_map, Prod.mk.injEq]
  constructor
  · rintro ⟨_, hmem, rfl, rfl, rfl⟩
    exact ⟨rfl, rfl, hmem⟩
  · rintro ⟨rfl, rfl, hmem⟩
    exact ⟨event, hmem, rfl, rfl, rfl⟩

@[simp] theorem localTrace_atEnd (s s' : S) (r r' : Role) (events : List (Event (Answer F M A))) :
    localTrace (atEnd s' r' events) s r = if s' = s ∧ r' = r then events else [] := by
  by_cases hsame : s' = s ∧ r' = r <;> simp [localTrace, atEnd, List.filterMap_map, hsame]

theorem localTrace_snoc_self (trace : Trace S F M A) (s : S) (r : Role) (event : Event (Answer F M A)) :
    localTrace (trace ++ [(s, r, event)]) s r = localTrace trace s r ++ [event] := by
  simp [localTrace]

theorem localTrace_snoc_other (trace : Trace S F M A) {s' : S} {r' : Role}
    (event : Event (Answer F M A)) (hne : ¬(s' = s ∧ r' = r)) :
    localTrace (trace ++ [(s', r', event)]) s r = localTrace trace s r := by
  simp [localTrace, hne]

theorem Valid.run (hvalid : N.Valid trace) (hparty : N.party s r = some p) :
    ∃ q, p.Run (localTrace trace s r) q := by
  induction hvalid with
  | nil => exact ⟨p, .nil p⟩
  | @snoc trace s' r' event p' q hvalid hparty' hrun hpermits ih =>
    by_cases hsame : s' = s ∧ r' = r
    · obtain ⟨rfl, rfl⟩ := hsame
      rw [hparty, Option.some.injEq] at hparty'
      subst hparty'
      exact ⟨q, by rw [localTrace_snoc_self]; exact hrun⟩
    · rw [localTrace_snoc_other trace event hsame]
      exact ih

theorem Valid.party_isSome (hvalid : N.Valid trace) (hmem : (s, r, event) ∈ trace) : ∃ p, N.party s r = some p := by
  induction hvalid with
  | nil => cases hmem
  | snoc hvalid hparty hrun hpermits ih =>
    rcases List.mem_append.mp hmem with hmem | hmem
    · exact ih hmem
    · cases List.mem_singleton.mp hmem
      exact ⟨_, hparty⟩

theorem Valid.permits (hvalid : N.Valid trace) (hmem : (s, r, event) ∈ trace) :
    ∃ before, before <+: trace ∧ N.Permits before s r event := by
  induction hvalid with
  | nil => cases hmem
  | @snoc trace s' r' event' p q hvalid hparty hrun hpermits ih =>
    rcases List.mem_append.mp hmem with hmem | hmem
    · obtain ⟨before, hbefore, hpermits⟩ := ih hmem
      exact ⟨before, hbefore.trans (List.prefix_append _ _), hpermits⟩
    · cases List.mem_singleton.mp hmem
      exact ⟨trace, List.prefix_append _ _, hpermits⟩

theorem Valid.answered (hvalid : N.Valid trace)
    {request : L} {answer : A request} (hmem : (s, r, ⟨.call request, answer⟩) ∈ trace) :
    ∃ before, before <+: trace ∧ N.answers before s r request answer :=
  hvalid.permits hmem

theorem Permits.received
    (hpermits : N.Permits trace s r ⟨.read, .ok (some message)⟩) :
    (∃ sent, (s, r.other, ⟨.write message, sent⟩) ∈ trace) ∨
      N.party s r.other = none ∧ N.can (N.seen trace) message := by
  cases hparty : N.party s r.other with
  | none =>
    simp only [Permits, hparty] at hpermits
    exact .inr ⟨rfl, hpermits⟩
  | some p =>
    simp only [Permits, hparty] at hpermits
    obtain ⟨⟨effect, answer⟩, hevent, hwritten⟩ :=
      List.mem_filterMap.mp (List.mem_of_getElem? hpermits)
    cases effect with
    | write message' =>
      cases hwritten
      exact .inl ⟨answer, mem_localTrace.mp hevent⟩
    | read | call request => cases hwritten

theorem Valid.received_from_party (hvalid : N.Valid trace) (hmem : (s, r, ⟨.read, .ok (some message)⟩) ∈ trace)
    (hparty : N.party s r.other = some p) :
    ∃ sent, (s, r.other, ⟨.write message, sent⟩) ∈ trace := by
  obtain ⟨before, hbefore, hpermits⟩ := hvalid.permits hmem
  obtain ⟨sent, hwritten⟩ | ⟨hnone, -⟩ := Permits.received hpermits
  · exact ⟨sent, hbefore.subset hwritten⟩
  · rw [hnone] at hparty
    cases hparty

def Permitted (N : Network S F M L A Out) : Trace S F M A → Trace S F M A → Prop
  | _, [] => True
  | before, (s, r, event) :: rest =>
    N.Permits before s r event ∧ Permitted N (before ++ [(s, r, event)]) rest

theorem Valid.append {before : Trace S F M A} (hvalid : N.Valid before)
    (hruns : ∀ s r, (∃ event, (s, r, event) ∈ trace) →
      ∃ p q, N.party s r = some p ∧ p.Run (localTrace (before ++ trace) s r) q)
    (hpermitted : N.Permitted before trace) : N.Valid (before ++ trace) := by
  induction trace generalizing before with
  | nil =>
    rw [List.append_nil]
    exact hvalid
  | cons entry trace ih =>
    obtain ⟨s, r, event⟩ := entry
    rw [List.append_cons] at hruns ⊢
    obtain ⟨p, q, hparty, hrun⟩ := hruns s r ⟨event, List.mem_cons_self⟩
    rw [localTrace_append, localTrace_snoc_self] at hrun
    obtain ⟨q', hfirst⟩ := hrun.of_append
    refine ih (hvalid.snoc hparty hfirst hpermitted.1) ?_ hpermitted.2
    rintro s' r' ⟨event', hmem⟩
    exact hruns s' r' ⟨event', List.mem_cons_of_mem _ hmem⟩

theorem Valid.of_permitted
    (hruns : ∀ s r, (∃ event, (s, r, event) ∈ trace) →
      ∃ p q, N.party s r = some p ∧ p.Run (localTrace trace s r) q)
    (hpermitted : N.Permitted [] trace) : N.Valid trace :=
  Valid.append .nil hruns hpermitted

omit [DecidableEq S] in
theorem mem_messages_of_written
    {sent : Except F Unit} (hmem : (s, r, ⟨.write message, sent⟩) ∈ trace) :
    message ∈ messages trace :=
  List.mem_filterMap.mpr ⟨_, hmem, rfl⟩

omit [DecidableEq S] in
theorem mem_messages_of_received
    (hmem : (s, r, ⟨.read, .ok (some message)⟩) ∈ trace) : message ∈ messages trace :=
  List.mem_filterMap.mpr ⟨_, hmem, rfl⟩

omit [DecidableEq S] in
theorem messages_subset {trace' : Trace S F M A} (hsub : trace ⊆ trace') :
    messages trace ⊆ messages trace' := by
  intro message hmem
  obtain ⟨entry, hentry, hmessage⟩ := List.mem_filterMap.mp hmem
  exact List.mem_filterMap.mpr ⟨entry, hsub hentry, hmessage⟩

omit [DecidableEq S] in
theorem mem_seen (hmem : message ∈ N.seen trace) :
    ∃ s r sent, (s, r, ⟨.write message, sent⟩) ∈ trace ∧ N.party s r.other = none := by
  obtain ⟨⟨s, r, effect, answer⟩, hevent, hwritten⟩ := List.mem_filterMap.mp hmem
  split at hwritten
  · next hnone =>
    cases effect with
    | write message' =>
      cases hwritten
      exact ⟨s, r, answer, hevent, Option.isNone_iff_eq_none.mp hnone⟩
    | read | call request => cases hwritten
  · cases hwritten

theorem Valid.asks (hvalid : N.Valid trace) (hparty : N.party s r = some p)
    {I : List (Event (Answer F M A)) → Effect M L → Prop} (hasks : Program.Asks I [] p)
    (hmem : (s, r, event) ∈ trace) :
    ∃ before, before <+: localTrace trace s r ∧ I before event.1 := by
  obtain ⟨q, hrun⟩ := hvalid.run hparty
  obtain ⟨before, after, hsplit⟩ := List.append_of_mem (mem_localTrace.mpr hmem)
  rw [hsplit] at hrun
  refine ⟨before, ?_, hasks.of_run hrun⟩
  rw [hsplit]
  exact List.prefix_append _ _

end Network

end interaction
