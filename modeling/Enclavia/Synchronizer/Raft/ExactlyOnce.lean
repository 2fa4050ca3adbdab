import Mathlib.Logic.Relation
import Enclavia.Synchronizer.Raft.Duplicates
import Enclavia.Synchronizer.Raft.Forward
import Enclavia.Synchronizer.Raft.TransitionAuthenticity

open interaction enclavia.protocol enclavia.synchronizer.wire

namespace enclavia.synchronizer.raft

variable {log : List ReplicatedOp} {op : ReplicatedOp} {state : KeyState} {expected_version : Version}

theorem take_eq_take_append_cons {p q : Nat} (hp : log[p]? = some op) (hlt : p < q) :
    ∃ between, log.take q = log.take p ++ op :: between := by
  have hentry : (log.take q)[p]? = some op := by rw [List.getElem?_take_of_lt hlt, hp]
  obtain ⟨hlen, heq⟩ := List.getElem?_eq_some_iff.mp hentry
  refine ⟨(log.take q).drop (p + 1), ?_⟩
  rw [← heq, ← List.drop_eq_getElem_cons hlen]
  have hsplit := List.take_append_drop p (log.take q)
  rw [List.take_take, Nat.min_eq_left (Nat.le_of_lt hlt)] at hsplit
  exact hsplit.symm

theorem pins_take_le (log : List ReplicatedOp) (q : Nat) : pins (log.take q) ≤ pins log :=
  (List.take_sublist q log).countP_le

theorem pins_take_lt {key : PcrKey} {commitment : Commitment} {pos : Nat}
    (hentry : log[pos]? = some (.Pin key expected_version commitment)) :
    pins (log.take pos) + 1 ≤ pins log := by
  obtain ⟨between, hsplit⟩ := take_eq_take_append_cons hentry (Nat.lt_succ_self pos)
  have hsmall : pins (log.take pos) + 1 ≤ pins (log.take (pos + 1)) := by
    rw [hsplit, pins_append]
    simp [pins, List.countP_cons, ReplicatedOp.is_pin]
  exact Nat.le_trans hsmall (pins_take_le log (pos + 1))

theorem applied_position_unique (hpins : pins log < 2 ^ 64) (hop : ∀ key link_hash, op ≠ .Revoke key link_hash)
    {p q : Nat} {state' : KeyState} (hp : log[p]? = some op) (hq : log[q]? = some op)
    (happlied : (apply_one (replay (log.take p)) op).1 = .Applied state)
    (happlied' : (apply_one (replay (log.take q)) op).1 = .Applied state') : p = q := by
  -- A second application would be that of a spent entry.
  have hnot : ∀ {p q : Nat} {state state' : KeyState}, log[p]? = some op →
      (apply_one (replay (log.take p)) op).1 = .Applied state →
      (apply_one (replay (log.take q)) op).1 = .Applied state' → ¬p < q := by
    intro p q state state' hp happlied happlied' hlt
    obtain ⟨between, hsplit⟩ := take_eq_take_append_cons hp hlt
    have hbound : pins (log.take p ++ op :: between) < 2 ^ 64 := by
      rw [← hsplit]
      exact Nat.lt_of_le_of_lt (pins_take_le log q) hpins
    have hspent := replay_spent hbound happlied
    rw [← hsplit] at hspent
    rcases hspent.rejected (replay_disjoint _) with ⟨error, hrejected⟩ | ⟨key, link_hash, heq, -⟩
    · rw [← apply_one_result, happlied'] at hrejected
      cases hrejected
    · exact hop key link_hash heq
  have hge := hnot hp happlied happlied'
  have hle := hnot hq happlied' happlied
  omega

theorem pin_applied (hpins : pins log < 2 ^ 64) {key : PcrKey} {commitment : Commitment} {pos : Nat}
    (hentry : log[pos]? = some (.Pin key expected_version commitment))
    (happlied : (apply_one (replay (log.take pos)) (.Pin key expected_version commitment)).1 = .Applied state) :
    state.version.val.toNat = expected_version.val.toNat + 1 ∧ state.commitment = commitment := by
  rw [apply_one_result] at happlied
  have happlies := View.apply_applied happlied
  generalize ((view (replay (log.take pos))).apply _).2 = after at happlies
  cases happlies with
  | pin hlive =>
    have hsmall := pins_take_lt hentry
    have hversion := replay_version_le (by omega) hlive
    exact ⟨Version.toNat_succ (by omega), rfl⟩

/-- An entry submitted on behalf of a request, by one of the executions that work on it, and its
position in the log once it is committed. -/
structure Copy where
  op : ReplicatedOp
  submitter : Nat
  position : Option Nat

inductive Pending where
  | idle
  | copy (i : Nat)
  | called

structure Execution where
  program : RouteProc Answered
  trace : List RouteEvent
  pending : Pending

/-- One customer request in a cluster: the committed log, the copies submitted for the request, the
messages in flight that forward it, the executions that work on it (first the one of the node the
customer is connected to) and what the customer was answered. -/
structure Routing where
  log : List ReplicatedOp
  copies : List Copy
  sent : List ForwardedClientRequest
  executions : List Execution
  answer : Option Answered

namespace Routing

def AppliedAt (s : Routing) (i : Nat) (state : KeyState) : Prop :=
  ∃ copy pos, s.copies[i]? = some copy ∧ copy.position = some pos ∧ s.log[pos]? = some copy.op ∧
    (apply_one (replay (s.log.take pos)) copy.op).1 = .Applied state

def Allows (s : Routing) (pending : Pending) : (effect : RouteEffect) → RouteAnswer effect → Prop
  | .serve (.client_write _), .committed result =>
    ∃ i copy pos, pending = .copy i ∧ s.copies[i]? = some copy ∧ copy.position = some pos ∧
      result = (apply_one (replay (s.log.take pos)) copy.op).1
  | .call _ _ _, .reply body => ∀ resp, body.decode_forward_reply = some resp → resp = RaftServer.unavailable ∨
    ∃ execution ∈ s.executions.tail, ∃ answered, execution.program = .ret answered ∧ resp = answered.into
  | _, _ => True

def Active (s : Routing) (k : Nat) (execution : Execution) : Prop :=
  s.executions[k]? = some execution ∧ (k = 0 → s.answer = none)

variable {DateTime : Type} (lib : LinkLibrary DateTime)

def start (build : Build) (fwd : ForwardedClientRequest) (log : List ReplicatedOp) : Routing where
  log
  copies := []
  sent := []
  executions :=
    [⟨route_with_retries lib build fwd.session_key fwd.control_pubkey fwd.request FORWARD_MAX_RETRIES, [], .idle⟩]
  answer := none

inductive Step : Routing → Routing → Prop
  | foreign {s : Routing} (op : ReplicatedOp) : Step s { s with log := s.log ++ [op] }
  | submit {s : Routing} {k : Nat} {execution : Execution} {op : ReplicatedOp}
      {next : WriteOutcome → RouteProc Answered} (hactive : s.Active k execution)
      (hasks : execution.program = .act (.serve (.client_write op)) next) (hidle : execution.pending = .idle) :
      Step s { s with
        copies := s.copies ++ [⟨op, k, none⟩]
        executions := s.executions.set k { execution with pending := .copy s.copies.length } }
  | commit {s : Routing} {i : Nat} {copy : Copy} (hcopy : s.copies[i]? = some copy)
      (hsubmitted : copy.position = none) :
      Step s { s with
        log := s.log ++ [copy.op]
        copies := s.copies.set i { copy with position := some s.log.length } }
  | send {s : Routing} {router : Execution} {leader : String} {message : ForwardedClientRequest} {timeout : Nat}
      {next : CallOutcome → RouteProc Answered} (hactive : s.Active 0 router)
      (hasks : router.program = .act (.call leader (.ForwardClient message) timeout) next)
      (hidle : router.pending = .idle) :
      Step s { s with
        sent := s.sent ++ [message]
        executions := s.executions.set 0 { router with pending := .called } }
  | deliver {s : Routing} {i : Nat} {message : ForwardedClientRequest} (build : Build)
      (hmessage : s.sent[i]? = some message) :
      Step s { s with
        sent := s.sent.eraseIdx i
        executions := s.executions ++
          [⟨locally (handle_on_leader lib build message.session_key message.control_pubkey message.request), [], .idle⟩]
            }
  | answer {s : Routing} {k : Nat} {execution : Execution} {e : RouteEffect}
      {next : RouteAnswer e → RouteProc Answered} (hactive : s.Active k execution)
      (hasks : execution.program = .act e next) (answer : RouteAnswer e)
      (hallows : s.Allows execution.pending e answer) :
      Step s { s with
        executions := s.executions.set k ⟨next answer, execution.trace ++ [⟨e, answer⟩], .idle⟩ }
  | finish {s : Routing} {router : Execution} {answered : Answered} (hactive : s.Active 0 router)
      (hreturns : router.program = .ret answered) : Step s { s with answer := some answered }
  | deadline {s : Routing} (hopen : s.answer = none) : Step s { s with answer := some .deadline_elapsed }

def Reaches : Routing → Routing → Prop := Relation.ReflTransGen (Step lib)

section Invariant

variable {lib} {s s' : Routing} {i : Nat}

theorem AppliedAt.grow (hlog : s.log <+: s'.log)
    (hcopies : ∀ (i : Nat) (copy : Copy) (pos : Nat), s.copies[i]? = some copy → copy.position = some pos →
      s'.copies[i]? = some copy)
    (h : s.AppliedAt i state) : s'.AppliedAt i state := by
  obtain ⟨copy, pos, hcopy, hpos, hentry, happlied⟩ := h
  obtain ⟨more, hmore⟩ := hlog
  obtain ⟨hlt, -⟩ := List.getElem?_eq_some_iff.mp hentry
  refine ⟨copy, pos, hcopies i copy pos hcopy hpos, hpos, ?_, ?_⟩
  · rw [← hmore, List.getElem?_append_left hlt, hentry]
  · rw [← hmore, List.take_append_of_le_length (Nat.le_of_lt hlt)]
    exact happlied

theorem step_log (hstep : Step lib s s') : s.log <+: s'.log := by
  cases hstep with
  | foreign | commit => exact List.prefix_append _ _
  | _ => exact List.prefix_refl _

theorem step_position (hstep : Step lib s s') : ∃ k, ∀ (j : Nat) (copy : Copy) (pos : Nat),
    s'.copies[j]? = some copy → copy.position = some pos →
      s.copies[j]? = some copy ∨ j = k ∧ pos = s.log.length ∧ s'.log = s.log ++ [copy.op] := by
  cases hstep with
  | submit =>
    refine ⟨0, fun j copy pos hcopy hpos => .inl ?_⟩
    rw [List.getElem?_append] at hcopy
    split at hcopy
    · exact hcopy
    · cases List.mem_singleton.mp (List.mem_of_getElem? hcopy)
      cases hpos
  | @commit k submitted hsubmitted hnone =>
    refine ⟨k, fun j copy pos hcopy hpos => ?_⟩
    by_cases hj : j = k
    · subst hj
      obtain ⟨hlt, -⟩ := List.getElem?_eq_some_iff.mp hsubmitted
      rw [List.getElem?_set_self hlt, Option.some.injEq] at hcopy
      subst hcopy
      exact .inr ⟨rfl, (Option.some.inj hpos).symm, rfl⟩
    · rw [List.getElem?_set_ne (Ne.symm hj)] at hcopy
      exact .inl hcopy
  | _ => exact ⟨0, fun _ _ _ hcopy _ => .inl hcopy⟩

theorem step_applied (hstep : Step lib s s') (h : s.AppliedAt i state) :
    s'.AppliedAt i state := by
  refine h.grow (step_log hstep) ?_
  intro j copy pos hcopy hpos
  cases hstep with
  | submit =>
    obtain ⟨hlt, -⟩ := List.getElem?_eq_some_iff.mp hcopy
    rw [List.getElem?_append_left hlt, hcopy]
  | @commit k submitted hsubmitted hnone =>
    have hne : k ≠ j := by
      rintro rfl
      rw [hsubmitted, Option.some.injEq] at hcopy
      rw [hcopy, hpos] at hnone
      cases hnone
    rw [List.getElem?_set_ne hne, hcopy]
  | _ => exact hcopy

theorem reaches_applied (hreaches : Reaches lib s s') (h : s.AppliedAt i state) :
    s'.AppliedAt i state := by
  induction hreaches with
  | refl => exact h
  | tail _ hstep ih => exact step_applied hstep ih

def Faithful (lib : LinkLibrary DateTime) (fwd : ForwardedClientRequest) (s : Routing) (execution : Execution) :
    Prop :=
  (∃ program, Routes (request_op lib fwd.session_key fwd.control_pubkey fwd.request) fwd program ∧
    program.Run execution.trace execution.program) ∧
  ∀ event ∈ execution.trace, RouteRelies fwd.request (fun state => ∃ i, s.AppliedAt i state) event.1 event.2

/-- What holds whenever a request is routed: its copies are the same entry at different positions. -/
structure Inv (lib : LinkLibrary DateTime) (fwd : ForwardedClientRequest) (s : Routing) : Prop where
  executions : ∀ execution ∈ s.executions, Faithful lib fwd s execution
  sent : ∀ message ∈ s.sent, message = fwd
  copies : ∀ copy ∈ s.copies, request_op lib fwd.session_key fwd.control_pubkey fwd.request = some copy.op
  placed : ∀ (i : Nat) (copy : Copy) (pos : Nat), s.copies[i]? = some copy → copy.position = some pos →
    s.log[pos]? = some copy.op
  apart : ∀ (i j : Nat) (copy copy' : Copy) (pos : Nat), s.copies[i]? = some copy → s.copies[j]? = some copy' →
    copy.position = some pos → copy'.position = some pos → i = j
  answer : ∀ answered, s.answer = some answered → Acknowledges answered.response →
    ∃ i state, s.AppliedAt i state ∧ Grants fwd.request answered.response state

variable {fwd : ForwardedClientRequest} {execution : Execution} {effect : RouteEffect}

theorem Faithful.step (hstep : Step lib s s') (h : Faithful lib fwd s execution) : Faithful lib fwd s' execution :=
  ⟨h.1, fun event hevent => (h.2 event hevent).mono fun _ ⟨i, happlied⟩ => ⟨i, step_applied hstep happlied⟩⟩

theorem Faithful.grants (h : Faithful lib fwd s execution) {answered : Answered}
    (hreturns : execution.program = .ret answered) (hacknowledges : Acknowledges answered.response) :
    ∃ i state, s.AppliedAt i state ∧ Grants fwd.request answered.response state := by
  obtain ⟨⟨program, hroutes, hrun⟩, htrace⟩ := h
  rw [hreturns] at hrun
  obtain ⟨state, ⟨i, happlied⟩, hgrants⟩ := (hroutes.grants _).of_returns hrun htrace hacknowledges
  exact ⟨i, state, happlied, hgrants⟩

theorem Inv.relies (hinv : Inv lib fwd s) {pending : Pending} {answer : RouteAnswer effect}
    (h : s.Allows pending effect answer) :
    RouteRelies fwd.request (fun state => ∃ i, s.AppliedAt i state) effect answer where
  write := by
    rintro op state ⟨⟩
    obtain ⟨i, copy, pos, -, hcopy, hpos, hresult⟩ := h
    exact ⟨i, copy, pos, hcopy, hpos, hinv.placed i copy pos hcopy hpos, hresult.symm⟩
  reply := by
    rintro leader message timeout resp ⟨⟩ hacknowledges
    obtain rfl | ⟨execution, hmem, answered, hreturns, rfl⟩ := h resp rfl
    · exact hacknowledges.elim
    · obtain ⟨i, state, happlied, hgrants⟩ :=
        (hinv.executions execution (List.mem_of_mem_tail hmem)).grants hreturns hacknowledges
      exact ⟨state, ⟨i, happlied⟩, hgrants⟩

theorem Faithful.begin {program : RouteProc Answered}
    (h : Routes (request_op lib fwd.session_key fwd.control_pubkey fwd.request) fwd program) :
    Faithful lib fwd s ⟨program, [], .idle⟩ :=
  ⟨⟨program, h, .nil program⟩, fun _ hevent => absurd hevent List.not_mem_nil⟩

theorem Inv.start (build : Build) (fwd : ForwardedClientRequest) (log : List ReplicatedOp) :
    Inv lib fwd (start lib build fwd log) where
  executions := by
    intro execution hmem
    rw [List.mem_singleton.mp hmem]
    exact .begin (route_with_retries_routes fwd.session_key fwd.control_pubkey fwd.request FORWARD_MAX_RETRIES)
  sent := nofun
  copies := nofun
  placed := nofun
  apart := nofun
  answer := nofun

theorem Inv.step_executions (hinv : Inv lib fwd s) (hstep : Step lib s s') :
    ∀ execution ∈ s'.executions, Faithful lib fwd s' execution := by
  have hold : ∀ execution ∈ s.executions, Faithful lib fwd s' execution := fun execution hmem =>
    (hinv.executions execution hmem).step hstep
  have hset : ∀ k replaced, Faithful lib fwd s' replaced →
      ∀ execution ∈ s.executions.set k replaced, Faithful lib fwd s' execution := by
    intro k replaced hreplaced execution hmem
    rcases List.mem_or_eq_of_mem_set hmem with hmem | rfl
    · exact hold execution hmem
    · exact hreplaced
  cases hstep with
  | foreign | commit | finish | deadline => exact hold
  | @submit k execution op next hactive hasks hidle =>
    exact hset k _ (hold execution (List.mem_of_getElem? hactive.1))
  | @send router leader message timeout next hactive hasks hidle =>
    exact hset 0 _ (hold router (List.mem_of_getElem? hactive.1))
  | @deliver i message build hmessage =>
    intro execution hmem
    rcases List.mem_append.mp hmem with hmem | hmem
    · exact hold execution hmem
    · rw [List.mem_singleton.mp hmem]
      obtain rfl := hinv.sent message (List.mem_of_getElem? hmessage)
      exact .begin (handle_on_leader_serves message.session_key message.control_pubkey message.request).routes
  | @answer k execution effect next hactive hasks answer hallows =>
    have hfaithful := hinv.executions execution (List.mem_of_getElem? hactive.1)
    refine hset k _ ⟨?_, ?_⟩
    · obtain ⟨program, hroutes, hrun⟩ := hfaithful.1
      rw [hasks] at hrun
      exact ⟨program, hroutes, hrun.snoc answer⟩
    · intro event hevent
      rcases List.mem_append.mp hevent with hevent | hevent
      · exact hfaithful.2 event hevent
      · cases List.mem_singleton.mp hevent
        exact hinv.relies hallows

theorem Inv.step (hinv : Inv lib fwd s) (hstep : Step lib s s') : Inv lib fwd s' where
  executions := hinv.step_executions hstep
  sent := by
    cases hstep with
    | @send router leader message timeout next hactive hasks hidle =>
      intro sent hmem
      rcases List.mem_append.mp hmem with hmem | hmem
      · exact hinv.sent sent hmem
      · cases List.mem_singleton.mp hmem
        obtain ⟨⟨program, hroutes, hrun⟩, -⟩ := hinv.executions router (List.mem_of_getElem? hactive.1)
        rw [hasks] at hrun
        cases hroutes.submits.of_run hrun
        rfl
    | deliver => exact fun sent hmem => hinv.sent sent (List.mem_of_mem_eraseIdx hmem)
    | _ => exact hinv.sent
  copies := by
    cases hstep with
    | @submit k execution op next hactive hasks hidle =>
      intro copy hmem
      rcases List.mem_append.mp hmem with hmem | hmem
      · exact hinv.copies copy hmem
      · cases List.mem_singleton.mp hmem
        obtain ⟨⟨program, hroutes, hrun⟩, -⟩ := hinv.executions execution (List.mem_of_getElem? hactive.1)
        rw [hasks] at hrun
        exact hroutes.submits.of_run hrun
    | @commit i copy hcopy hsubmitted =>
      intro copy' hmem
      rcases List.mem_or_eq_of_mem_set hmem with hmem | rfl
      · exact hinv.copies copy' hmem
      · exact hinv.copies copy (List.mem_of_getElem? hcopy)
    | _ => exact hinv.copies
  placed := by
    obtain ⟨k, hk⟩ := step_position hstep
    intro j copy pos hcopy hpos
    rcases hk j copy pos hcopy hpos with hold | ⟨-, rfl, hlog⟩
    · have hentry := hinv.placed j copy pos hold hpos
      obtain ⟨hlt, -⟩ := List.getElem?_eq_some_iff.mp hentry
      obtain ⟨more, hmore⟩ := step_log hstep
      rw [← hmore, List.getElem?_append_left hlt, hentry]
    · rw [hlog, List.getElem?_concat_length]
  apart := by
    obtain ⟨k, hk⟩ := step_position hstep
    have hlt : ∀ {i : Nat} {copy : Copy}, s.copies[i]? = some copy → copy.position ≠ some s.log.length := by
      intro i copy hcopy hpos
      obtain ⟨hlt, -⟩ := List.getElem?_eq_some_iff.mp (hinv.placed i copy _ hcopy hpos)
      exact Nat.lt_irrefl _ hlt
    intro i j copy copy' pos hcopy hcopy' hpos hpos'
    rcases hk i copy pos hcopy hpos with hold | ⟨hi, rfl, -⟩
    · rcases hk j copy' pos hcopy' hpos' with hold' | ⟨-, rfl, -⟩
      · exact hinv.apart i j copy copy' pos hold hold' hpos hpos'
      · exact absurd hpos (hlt hold)
    · rcases hk j copy' _ hcopy' hpos' with hold' | ⟨hj, -, -⟩
      · exact absurd hpos' (hlt hold')
      · exact hi.trans hj.symm
  answer := by
    intro answered hanswered hacknowledges
    have hkeep : s.answer = some answered →
        ∃ i state, s'.AppliedAt i state ∧ Grants fwd.request answered.response state := by
      intro hanswered
      obtain ⟨i, state, happlied, hgrants⟩ := hinv.answer answered hanswered hacknowledges
      exact ⟨i, state, step_applied hstep happlied, hgrants⟩
    cases hstep with
    | @finish router answered' hactive hreturns =>
      cases hanswered
      exact (hinv.executions router (List.mem_of_getElem? hactive.1)).grants hreturns hacknowledges
    | deadline =>
      cases hanswered
      exact hacknowledges.elim
    | _ => exact hkeep hanswered

theorem Inv.reaches (hinv : Inv lib fwd s) (hreaches : Reaches lib s s') : Inv lib fwd s' := by
  induction hreaches with
  | refl => exact hinv
  | tail _ hstep ih => exact ih.step hstep

def own_copies (s : Routing) : Nat := (s.copies.map Copy.submitter).count 0

/-- The customer is answered, or an attempt has reported that a deadline elapsed. -/
def Over (s : Routing) : Prop :=
  s.answer.isSome ∨ ∃ router, s.executions[0]? = some router ∧ ∃ event ∈ router.trace, RouteTimedOut event

theorem Over.inactive (hinv : Inv lib fwd s) (hover : s.Over) {router : Execution} (hactive : s.Active 0 router)
    {next : RouteAnswer effect → RouteProc Answered} : router.program ≠ .act effect next := by
  intro hasks
  obtain hanswered | ⟨router', hrouter', event, hevent, htimed⟩ := hover
  · rw [hactive.2 rfl] at hanswered
    cases hanswered
  · rw [hactive.1, Option.some.injEq] at hrouter'
    subst hrouter'
    obtain ⟨⟨program, hroutes, hrun⟩, -⟩ := hinv.executions router (List.mem_of_getElem? hactive.1)
    obtain ⟨answered, hreturns, -⟩ := hroutes.stops.of_run hrun hevent htimed
    rw [hasks] at hreturns
    cases hreturns

theorem Over.step (hinv : Inv lib fwd s) (hover : s.Over) (hstep : Step lib s s') :
    s'.Over ∧ s'.own_copies = s.own_copies ∧ s'.sent.Sublist s.sent := by
  have hset : ∀ k execution, k ≠ 0 → { s with executions := s.executions.set k execution }.Over := by
    intro k execution hk
    refine hover.imp_right fun ⟨router, hrouter, htrace⟩ => ⟨router, ?_, htrace⟩
    rw [List.getElem?_set_ne hk, hrouter]
  cases hstep with
  | foreign => exact ⟨hover, rfl, .refl _⟩
  | @submit k execution op next hactive hasks hidle =>
    have hk : k ≠ 0 := by
      rintro rfl
      exact hover.inactive hinv hactive hasks
    refine ⟨hset k _ hk, ?_, .refl _⟩
    simp [own_copies, hk]
  | @commit i copy hcopy hsubmitted =>
    refine ⟨hover, ?_, .refl _⟩
    obtain ⟨hlt, rfl⟩ := List.getElem?_eq_some_iff.mp hcopy
    have hsame : (s.copies.map Copy.submitter).set i s.copies[i].submitter = s.copies.map Copy.submitter := by
      rw [← List.getElem_map Copy.submitter, List.set_getElem_self]
      simpa using hlt
    simp only [own_copies, List.map_set, hsame]
  | send hactive hasks hidle => exact absurd hasks (hover.inactive hinv hactive)
  | deliver build hmessage =>
    refine ⟨?_, rfl, List.eraseIdx_sublist _ _⟩
    refine hover.imp_right fun ⟨router, hrouter, htrace⟩ => ⟨router, ?_, htrace⟩
    obtain ⟨hlt, -⟩ := List.getElem?_eq_some_iff.mp hrouter
    rw [List.getElem?_append_left hlt, hrouter]
  | @answer k execution effect next hactive hasks answer hallows =>
    have hk : k ≠ 0 := by
      rintro rfl
      exact hover.inactive hinv hactive hasks
    exact ⟨hset k _ hk, rfl, .refl _⟩
  | finish | deadline => exact ⟨.inl rfl, rfl, .refl _⟩

theorem Over.reaches (hinv : Inv lib fwd s) (hover : s.Over) (hreaches : Reaches lib s s') :
    s'.Over ∧ s'.own_copies = s.own_copies ∧ s'.sent.Sublist s.sent := by
  induction hreaches with
  | refl => exact ⟨hover, rfl, .refl _⟩
  | tail hbefore hstep ih =>
    obtain ⟨hover', hown, hsent⟩ := ih
    obtain ⟨hover'', hown', hsent'⟩ := hover'.step (hinv.reaches hbefore) hstep
    exact ⟨hover'', hown'.trans hown, hsent'.trans hsent⟩

end Invariant

variable {lib}

theorem request_op_ne_revoke {fwd : ForwardedClientRequest} (hwrite : ∀ link, fwd.request ≠ .Revoke link)
    (hop : request_op lib fwd.session_key fwd.control_pubkey fwd.request = some op) (key : PcrKey)
    (link_hash : Bytes32) : op ≠ .Revoke key link_hash := by
  rintro rfl
  cases hrequest : fwd.request with
  | Revoke link => exact hwrite link hrequest
  | Transition link commitment =>
    rw [hrequest] at hop
    simp only [request_op] at hop
    split at hop <;> cases hop
  | _ =>
    rw [hrequest] at hop
    cases hop

/-- An acknowledged write takes effect exactly once. -/
theorem acknowledged_exactly_once {build : Build} {fwd : ForwardedClientRequest}
    (hwrite : ∀ link, fwd.request ≠ .Revoke link) {log : List ReplicatedOp} {s : Routing}
    (hreaches : Reaches lib (start lib build fwd log) s) (hpins : pins s.log < 2 ^ 64) :
    (∀ i j state state', s.AppliedAt i state → s.AppliedAt j state' → i = j) ∧
    (∀ answered, s.answer = some answered → Acknowledges answered.response → ∃ i state, s.AppliedAt i state ∧
      ∀ key expected_version commitment, fwd.request = .Pin key expected_version commitment →
        answered.response = .PinOk state.version ∧ state.commitment = commitment ∧
          state.version.val.toNat = expected_version.val.toNat + 1) ∧
    (s.Over → ∀ s', Reaches lib s s' → s'.own_copies = s.own_copies ∧ s'.sent.Sublist s.sent) := by
  have hinv := (Inv.start build fwd log).reaches hreaches
  refine ⟨?_, ?_, fun hover s' hmore => (hover.reaches hinv hmore).2⟩
  · rintro i j state state' ⟨copy, pos, hcopy, hpos, hentry, happlied⟩ ⟨copy', pos', hcopy', hpos', hentry', happlied'⟩
    have hop := hinv.copies copy (List.mem_of_getElem? hcopy)
    have hop' := hinv.copies copy' (List.mem_of_getElem? hcopy')
    have hrevoke := request_op_ne_revoke hwrite hop
    rw [hop, Option.some.injEq] at hop'
    rw [← hop'] at hentry' happlied'
    obtain rfl := applied_position_unique hpins hrevoke hentry hentry' happlied happlied'
    exact hinv.apart i j copy copy' pos hcopy hcopy' hpos hpos'
  · intro answered hanswered hacknowledges
    obtain ⟨i, state, happlied, hgrants⟩ := hinv.answer answered hanswered hacknowledges
    refine ⟨i, state, happlied, ?_⟩
    intro key expected_version commitment hrequest
    obtain ⟨copy, pos, hcopy, -, hentry, hstate⟩ := happlied
    have hop := hinv.copies copy (List.mem_of_getElem? hcopy)
    rw [hrequest, request_op, Option.some.injEq] at hop
    rw [← hop] at hentry hstate
    obtain ⟨hversion, hcommitment⟩ := pin_applied hpins hentry hstate
    refine ⟨?_, hcommitment, hversion⟩
    rw [hrequest] at hgrants
    cases hresponse : answered.response with
    | PinOk version =>
      rw [hresponse] at hgrants
      rw [hgrants]
    | _ =>
      rw [hresponse] at hgrants
      exact hgrants.elim

theorem reaches_foreign (s : Routing) (more : List ReplicatedOp) :
    Reaches lib s { s with log := s.log ++ more } := by
  induction more using List.reverseRecOn with
  | nil =>
    rw [List.append_nil]
    exact .refl
  | append_singleton more op ih =>
    rw [← List.append_assoc]
    exact .tail ih (.foreign op)

namespace single_pin

def key : PcrKey := ⟨Vector.replicate 32 1⟩

def commitment : Commitment := ⟨Vector.replicate 32 7⟩

def register : ReplicatedOp := .Register key commitment (Vector.replicate 65 4)

def pin (n : Nat) : ReplicatedOp := .Pin key ⟨UInt64.ofNat n⟩ commitment

def first_pin : ForwardedClientRequest := ⟨key, Vector.replicate 65 4, .Pin key ⟨0⟩ commitment⟩

def routed : Routing := start sample.link_library ⟨false, false⟩ first_pin [register]

theorem acknowledged : ∃ s, Reaches sample.link_library routed s ∧ s.log = [register, pin 0] ∧
    s.answer = some (.new (.PinOk ⟨1⟩)) := by
  have hleads : Reaches sample.link_library routed _ :=
    .single (.answer (k := 0) (e := .is_leader) ⟨rfl, fun _ => rfl⟩ rfl true trivial)
  have hsubmitted := hleads.tail (.submit (k := 0) ⟨rfl, fun _ => rfl⟩ rfl rfl)
  have hcommitted := hsubmitted.tail (.commit (i := 0) rfl rfl)
  have happlied := hcommitted.tail (.answer (k := 0) (e := .serve (.client_write (pin 0))) ⟨rfl, fun _ => rfl⟩ rfl
    (.committed (.Applied ⟨commitment, ⟨1⟩, Vector.replicate 65 4⟩))
    ⟨0, _, _, rfl, rfl, rfl, by decide +kernel⟩)
  exact ⟨_, happlied.tail (.finish ⟨rfl, fun _ => rfl⟩ rfl), rfl, rfl⟩

theorem timed_out_after_forward : ∃ s s', Reaches sample.link_library routed s ∧ s.Over ∧
    Reaches sample.link_library s s' ∧ s'.copies.length = s.copies.length + 1 := by
  have hfollows : Reaches sample.link_library routed _ :=
    .single (.answer (k := 0) (e := .is_leader) ⟨rfl, fun _ => rfl⟩ rfl false trivial)
  have hhint := hfollows.tail (.answer (k := 0) (e := .leader_name) ⟨rfl, fun _ => rfl⟩ rfl (some "b") trivial)
  have hsent := hhint.tail (.send ⟨rfl, fun _ => rfl⟩ rfl rfl)
  have hdelivered := hsent.tail (.deliver (i := 0) ⟨false, false⟩ rfl)
  have hfailed := hdelivered.tail (.answer (k := 0)
    (e := .call "b" (.ForwardClient first_pin) FORWARD_CALL_TIMEOUT) ⟨rfl, fun _ => rfl⟩ rfl .failed trivial)
  have hslept := hfailed.tail (.answer (k := 0) (e := .sleep FORWARD_RETRY_DELAY) ⟨rfl, fun _ => rfl⟩ rfl () trivial)
  have hleads := hslept.tail (.answer (k := 0) (e := .is_leader) ⟨rfl, fun _ => rfl⟩ rfl true trivial)
  have hsubmitted := hleads.tail (.submit (k := 0) ⟨rfl, fun _ => rfl⟩ rfl rfl)
  have helapsed := hsubmitted.tail (.answer (k := 0) (e := .serve (.client_write (pin 0))) ⟨rfl, fun _ => rfl⟩ rfl
    .elapsed trivial)
  have hover : RouteTimedOut ⟨.serve (.client_write (pin 0)), .elapsed⟩ := trivial
  exact ⟨_, _, helapsed, .inr ⟨_, rfl, _, List.mem_append_right _ List.mem_cons_self, hover⟩,
    .single (.submit (k := 1) ⟨rfl, nofun⟩ rfl rfl), rfl⟩

theorem replay_pins (n : Nat) :
    (view (replay (register :: (List.range n).map pin))).state[key]? =
      some ⟨commitment, ⟨UInt64.ofNat n⟩, Vector.replicate 65 4⟩ := by
  induction n with
  | zero => decide +kernel
  | succ n ih =>
    rw [List.range_succ, List.map_append, List.map_singleton, ← List.cons_append, replay_concat_view]
    simp only [pin, View.apply, ih, ne_eq, not_true_eq_false, if_false, Std.ExtTreeMap.getElem?_insert_self,
      UInt64.ofNat_add]
    rfl

theorem submitted_twice : ∃ s, Reaches sample.link_library routed s ∧ s.log = [register, pin 0] ∧
    s.copies = [⟨pin 0, 0, some 1⟩, ⟨pin 0, 0, none⟩] := by
  have hleads : Reaches sample.link_library routed _ :=
    .single (.answer (k := 0) (e := .is_leader) ⟨rfl, fun _ => rfl⟩ rfl true trivial)
  have hsubmitted := hleads.tail (.submit (k := 0) ⟨rfl, fun _ => rfl⟩ rfl rfl)
  have hcommitted := hsubmitted.tail (.commit (i := 0) rfl rfl)
  have hfailed := hcommitted.tail (.answer (k := 0) (e := .serve (.client_write (pin 0))) ⟨rfl, fun _ => rfl⟩ rfl
    (.failed "not the leader") trivial)
  have hslept := hfailed.tail (.answer (k := 0) (e := .sleep FORWARD_RETRY_DELAY) ⟨rfl, fun _ => rfl⟩ rfl () trivial)
  have hagain := hslept.tail (.answer (k := 0) (e := .is_leader) ⟨rfl, fun _ => rfl⟩ rfl true trivial)
  exact ⟨_, hagain.tail (.submit (k := 0) ⟨rfl, fun _ => rfl⟩ rfl rfl), rfl, rfl⟩

theorem applied_twice {n : Nat} (hwraps : UInt64.ofNat (n + 1) = 0) : ∃ s state,
    Reaches sample.link_library routed s ∧ s.AppliedAt 0 state ∧ s.AppliedAt 1 state := by
  obtain ⟨s, hreaches, hlog, hcopies⟩ := submitted_twice
  let between := (List.range n).map fun i => pin (i + 1)
  have hpins : s.log ++ between = register :: (List.range (n + 1)).map pin := by
    rw [hlog, List.range_succ_eq_map, List.map_cons, List.map_map]
    rfl
  have hfirst : s.AppliedAt 0 ⟨commitment, ⟨1⟩, Vector.replicate 65 4⟩ := by
    refine ⟨⟨pin 0, 0, some 1⟩, 1, by rw [hcopies]; rfl, rfl, by rw [hlog]; rfl, ?_⟩
    rw [hlog]
    decide +kernel
  have hagain : (apply_one (replay (s.log ++ between)) (pin 0)).1 =
      .Applied ⟨commitment, ⟨1⟩, Vector.replicate 65 4⟩ := by
    rw [apply_one_result, hpins]
    simp only [pin, View.apply, replay_pins, hwraps, ne_eq]
    rfl
  have hcopy : s.copies[1]? = some ⟨pin 0, 0, none⟩ := by rw [hcopies]; rfl
  obtain ⟨hlt, -⟩ := List.getElem?_eq_some_iff.mp hcopy
  have hmore : Reaches sample.link_library s { s with log := s.log ++ between } := reaches_foreign s between
  have hcommit : Step sample.link_library { s with log := s.log ++ between } _ := .commit hcopy rfl
  refine ⟨_, _, (hreaches.trans hmore).tail hcommit, reaches_applied (hmore.tail hcommit) hfirst,
    ⟨⟨pin 0, 0, some (s.log ++ between).length⟩, _, ?_, rfl, ?_, ?_⟩⟩
  · exact List.getElem?_set_self hlt
  · exact List.getElem?_concat_length
  · rw [List.take_left]
    exact hagain

end single_pin

open single_pin in
/-- The counter of versions comes around after `2 ^ 64` pins. -/
theorem submitted_after_timeout :
    (∃ s state, Reaches sample.link_library routed s ∧ s.AppliedAt 0 state ∧ s.AppliedAt 1 state) ∧
    ∃ s s', Reaches sample.link_library routed s ∧ s.Over ∧ Reaches sample.link_library s s' ∧
      s'.copies.length = s.copies.length + 1 :=
  ⟨applied_twice (n := 2 ^ 64 - 1) rfl, timed_out_after_forward⟩

open single_pin in
/-- A pin that is acknowledged with version 1. -/
theorem acknowledged_exactly_once_pin : ∃ s i state, Reaches sample.link_library routed s ∧
    s.answer = some (.new (.PinOk ⟨1⟩)) ∧ s.AppliedAt i state ∧ state.commitment = commitment := by
  obtain ⟨s, hreaches, hlog, hanswer⟩ := acknowledged
  have hwrite : ∀ link, first_pin.request ≠ .Revoke link := nofun
  have hpins : pins s.log < 2 ^ 64 := by rw [hlog]; decide
  obtain ⟨i, state, happlied, hpin⟩ := (acknowledged_exactly_once hwrite hreaches hpins).2.1 _ hanswer trivial
  exact ⟨s, i, state, hreaches, hanswer, happlied, (hpin _ _ _ rfl).2.1⟩

end Routing

end enclavia.synchronizer.raft
