import Enclavia.Synchronizer.Mesh.System
import Mathlib.Logic.Relation

namespace enclavia.synchronizer.mesh

def OUTBOUND_CAPACITY : Nat := 1024

inductive CallStage (Payload : Type) where
  | allocated (id : UInt64) (body : Payload)
  | registered (id : UInt64) (body : Payload)
  | sent (id : UInt64)
  | refused (id : UInt64)
  | done (id : UInt64) (result : Except RpcError Payload)

def CallStage.id {Payload : Type} : CallStage Payload → UInt64
  | .allocated id _ | .registered id _ | .sent id | .refused id | .done id _ => id

def CallStage.Waits {Payload : Type} (stage : CallStage Payload) (id : UInt64) : Prop :=
  stage = .sent id ∨ ∃ body, stage = .registered id body

theorem CallStage.Waits.id_eq {Payload : Type} {stage : CallStage Payload} {id : UInt64} (h : stage.Waits id) :
    stage.id = id := by
  rcases h with rfl | ⟨body, rfl⟩ <;> rfl

/-- The shared state of a channel: the calls on it, the table of senders with the call that waits for each, the requests
that wait for the driver, what was sent into each oneshot, and whether the driver runs. The number of calls and the
responses read are kept for what is said about them. -/
structure Calls (Payload : Type) where
  next_id : UInt64
  callers : Nat → Option (CallStage Payload)
  pending : List (UInt64 × Nat)
  outbound : List (UInt64 × Payload)
  oneshot : Nat → Option Payload
  driving : Bool
  made : Nat
  responses : List (UInt64 × Payload)

namespace Calls

variable {Payload : Type}

def new : Calls Payload := ⟨0, fun _ => none, [], [], fun _ => none, true, 0, []⟩

def set (s : Calls Payload) (c : Nat) (stage : CallStage Payload) : Calls Payload :=
  { s with callers := Function.update s.callers c (some stage) }

def stop (s : Calls Payload) : Calls Payload := { s with outbound := [], driving := false }

def remove (s : Calls Payload) (id : UInt64) : Calls Payload :=
  { s with pending := s.pending.filter (·.1 ≠ id) }

def demux (s : Calls Payload) (id : UInt64) (reply : Payload) : Calls Payload :=
  match s.pending.find? (·.1 = id) with
  | some (_, c) =>
    { s.remove id with oneshot := Function.update s.oneshot c (some reply), responses := (id, reply) :: s.responses }
  | none => { s with responses := (id, reply) :: s.responses }

inductive Proceeds (s : Calls Payload) : Calls Payload → Prop
  | register {c : Nat} {id : UInt64} {body : Payload} (hcall : s.callers c = some (.allocated id body)) :
      Proceeds s ({ s with pending := (id, c) :: (s.remove id).pending }.set c (.registered id body))
  | send {c : Nat} {id : UInt64} {body : Payload} (hcall : s.callers c = some (.registered id body))
      (hdriving : s.driving = true) (hroom : s.outbound.length < OUTBOUND_CAPACITY) :
      Proceeds s ({ s with outbound := s.outbound ++ [(id, body)] }.set c (.sent id))
  | refuse {c : Nat} {id : UInt64} {body : Payload} (hcall : s.callers c = some (.registered id body))
      (hdriving : s.driving = false) : Proceeds s (s.set c (.refused id))
  | remove {c : Nat} {id : UInt64} (hcall : s.callers c = some (.refused id)) :
      Proceeds s ((s.remove id).set c (.done id (.error .ConnectionClosed)))
  | receive {c : Nat} {id : UInt64} {reply : Payload} (hcall : s.callers c = some (.sent id))
      (hreply : s.oneshot c = some reply) : Proceeds s (s.set c (.done id (.ok reply)))
  -- a sender that is neither used nor in the table has been dropped, for another one under its id
  | lose {c : Nat} {id : UInt64} (hcall : s.callers c = some (.sent id)) (hreply : s.oneshot c = none)
      (hgone : ∀ entry ∈ s.pending, entry.2 ≠ c) : Proceeds s (s.set c (.done id (.error .ConnectionClosed)))

/-- One step: a call is made or goes on, or the driver writes a request, reads a response or returns, for whatever
reason. -/
inductive Step (s : Calls Payload) : Calls Payload → Prop
  | call {c : Nat} {body : Payload} (hfree : s.callers c = none) :
      Step s ({ s with next_id := s.next_id + 1, made := s.made + 1 }.set c (.allocated s.next_id body))
  | proceed {t : Calls Payload} (hproceeds : Proceeds s t) : Step s t
  | write {request : UInt64 × Payload} {rest : List (UInt64 × Payload)} (hdriving : s.driving = true)
      (houtbound : s.outbound = request :: rest) : Step s { s with outbound := rest }
  | read {id : UInt64} {reply : Payload} (hdriving : s.driving = true) : Step s (s.demux id reply)
  | stop (hdriving : s.driving = true) : Step s s.stop

def Reaches : Calls Payload → Prop := Relation.ReflTransGen Step new

def Quiescent (s : Calls Payload) : Prop := ∀ t, ¬Proceeds s t

/-- As long as ids are used once: a sender is in the table until it is used or its call gives up. -/
structure Inv (s : Calls Payload) : Prop where
  next : s.next_id.toNat = s.made % 2 ^ 64
  allotted : ∀ c stage, s.callers c = some stage → stage.id.toNat < s.made
  distinct : ∀ c d stage stage', s.callers c = some stage → s.callers d = some stage' → stage.id = stage'.id → c = d
  read : ∀ c reply, s.oneshot c = some reply → ∃ stage, s.callers c = some stage ∧ (stage.id, reply) ∈ s.responses
  entry : ∀ id c, (id, c) ∈ s.pending → s.oneshot c = none ∧ ∃ stage, s.callers c = some stage ∧ stage.id = id ∧
    (∀ body, stage ≠ .allocated id body) ∧ ∀ result, stage ≠ .done id result
  allocated : ∀ c id body, s.callers c = some (.allocated id body) → s.oneshot c = none
  waits : ∀ c stage id, s.callers c = some stage → stage.Waits id →
    (id, c) ∈ s.pending ∨ ∃ reply, s.oneshot c = some reply
  done : ∀ c id result, s.callers c = some (.done id result) →
    result = .error .ConnectionClosed ∨ ∃ reply, result = .ok reply ∧ (id, reply) ∈ s.responses

theorem set_get {s : Calls Payload} {c d : Nat} {stage stage' : CallStage Payload}
    (h : (s.set c stage).callers d = some stage') : d = c ∧ stage' = stage ∨ d ≠ c ∧ s.callers d = some stage' := by
  by_cases hd : d = c
  · subst hd
    simp only [set, Function.update_self, Option.some.injEq] at h
    exact .inl ⟨rfl, h.symm⟩
  · simp only [set, Function.update_of_ne hd] at h
    exact .inr ⟨hd, h⟩

theorem set_self (s : Calls Payload) (c : Nat) (stage : CallStage Payload) : (s.set c stage).callers c = some stage :=
  Function.update_self ..

theorem set_of_ne (s : Calls Payload) {c d : Nat} (hd : d ≠ c) (stage : CallStage Payload) :
    (s.set c stage).callers d = s.callers d := Function.update_of_ne hd ..

variable {s t : Calls Payload}

theorem mem_remove {id : UInt64} {entry : UInt64 × Nat} :
    entry ∈ (s.remove id).pending ↔ entry ∈ s.pending ∧ entry.1 ≠ id := by
  simp [remove]

theorem Inv.new : Inv (new : Calls Payload) := by
  constructor <;> simp [Calls.new]

theorem Inv.call {c : Nat} {body : Payload} (h : Inv s) (hfree : s.callers c = none) (hmade : s.made < 2 ^ 64) :
    Inv ({ s with next_id := s.next_id + 1, made := s.made + 1 }.set c (.allocated s.next_id body)) := by
  have hnext : s.next_id.toNat = s.made := h.next.trans (Nat.mod_eq_of_lt hmade)
  have hget {d : Nat} {stage : CallStage Payload} (hd : ({ s with next_id := s.next_id + 1, made := s.made + 1 }.set c
      (.allocated s.next_id body)).callers d = some stage) :
      d = c ∧ stage = .allocated s.next_id body ∨ s.callers d = some stage := by
    rcases set_get hd with hd | ⟨-, hd⟩
    · exact .inl hd
    · exact .inr hd
  have hkeep {d : Nat} {stage : CallStage Payload} (hd : s.callers d = some stage) :
      ({ s with next_id := s.next_id + 1, made := s.made + 1 }.set c (.allocated s.next_id body)).callers d =
        some stage := by
    rw [set_of_ne _ (by rintro rfl; cases hfree.symm.trans hd)]
    exact hd
  have hother {d : Nat} {stage : CallStage Payload} (hd : s.callers d = some stage) : stage.id ≠ s.next_id := by
    rintro heq
    have hlt := h.allotted d stage hd
    rw [heq, hnext] at hlt
    exact Nat.lt_irrefl _ hlt
  constructor
  · change (s.next_id + 1).toNat = (s.made + 1) % 2 ^ 64
    rw [UInt64.toNat_add, hnext]
    rfl
  · intro d stage hd
    rcases hget hd with ⟨-, rfl⟩ | hd
    · exact Nat.lt_succ_of_le (Nat.le_of_eq hnext)
    · exact Nat.lt_succ_of_lt (h.allotted d stage hd)
  · intro d e stage stage' hd he hid
    rcases hget hd with ⟨rfl, rfl⟩ | hd <;> rcases hget he with ⟨rfl, rfl⟩ | he
    · rfl
    · exact absurd hid.symm (hother he)
    · exact absurd hid (hother ‹_›)
    · exact h.distinct d e stage stage' hd he hid
  · intro d reply hreply
    obtain ⟨stage, hd, hread⟩ := h.read d reply hreply
    exact ⟨stage, hkeep hd, hread⟩
  · intro id d hmem
    obtain ⟨hnone, stage, hd, hrest⟩ := h.entry id d hmem
    exact ⟨hnone, stage, hkeep hd, hrest⟩
  · intro d id body' hd
    rcases hget hd with ⟨rfl, -⟩ | hd
    · cases hreply : s.oneshot d with
      | none => exact hreply
      | some reply =>
        obtain ⟨stage, hd, -⟩ := h.read d reply hreply
        cases hfree.symm.trans hd
    · exact h.allocated d id body' hd
  · intro d stage id hd hwaits
    rcases hget hd with ⟨-, rfl⟩ | hd
    · simp [CallStage.Waits] at hwaits
    · exact h.waits d stage id hd hwaits
  · intro d id result hd
    rcases hget hd with ⟨-, heq⟩ | hd
    · cases heq
    · exact h.done d id result hd

/-- A call goes from one stage to the next, and nothing changes for the other ids. -/
theorem Inv.advance {c : Nat} {stage stage' : CallStage Payload} {pending : List (UInt64 × Nat)}
    {outbound : List (UInt64 × Payload)} (h : Inv s) (hcall : s.callers c = some stage) (hid : stage'.id = stage.id)
    (hother : ∀ id d, id ≠ stage.id → ((id, d) ∈ pending ↔ (id, d) ∈ s.pending))
    (hentry : ∀ d, (stage.id, d) ∈ pending → d = c ∧ s.oneshot c = none ∧ (∀ id body, stage' ≠ .allocated id body) ∧
      ∀ id result, stage' ≠ .done id result)
    (hallocated : ∀ id body, stage' ≠ .allocated id body)
    (hwaits : ∀ id, stage'.Waits id → (id, c) ∈ pending ∨ ∃ reply, s.oneshot c = some reply)
    (hdone : ∀ id result, stage' = .done id result →
      result = .error .ConnectionClosed ∨ ∃ reply, result = .ok reply ∧ (id, reply) ∈ s.responses) :
    Inv ({ s with pending := pending, outbound := outbound }.set c stage') := by
  have hback {d : Nat} {stage'' : CallStage Payload}
      (hd : ({ s with pending := pending, outbound := outbound }.set c stage').callers d = some stage'') :
      ∃ before, s.callers d = some before ∧ before.id = stage''.id := by
    rcases set_get hd with ⟨rfl, rfl⟩ | ⟨-, hd⟩
    · exact ⟨stage, hcall, hid.symm⟩
    · exact ⟨stage'', hd, rfl⟩
  -- the ids of the other calls are other ids
  have hne {d : Nat} {stage'' : CallStage Payload} (hd : s.callers d = some stage'') (hdc : d ≠ c) :
      stage''.id ≠ stage.id := fun heq => hdc (h.distinct d c stage'' stage hd hcall heq)
  constructor
  · exact h.next
  · intro d stage'' hd
    obtain ⟨before, hbefore, heq⟩ := hback hd
    rw [← heq]
    exact h.allotted d before hbefore
  · intro d e first second hd he heq
    obtain ⟨before, hbefore, hfirst⟩ := hback hd
    obtain ⟨before', hbefore', hsecond⟩ := hback he
    exact h.distinct d e before before' hbefore hbefore' (hfirst.trans (heq.trans hsecond.symm))
  · intro d reply hreply
    obtain ⟨before, hd, hread⟩ := h.read d reply hreply
    by_cases hdc : d = c
    · subst hdc
      cases hcall.symm.trans hd
      exact ⟨stage', set_self .., hid ▸ hread⟩
    · exact ⟨before, (set_of_ne _ hdc _).trans hd, hread⟩
  · intro id d hmem
    by_cases heq : id = stage.id
    · subst heq
      obtain ⟨rfl, hnone, hnot, hnot'⟩ := hentry d hmem
      exact ⟨hnone, stage', set_self .., hid, hnot _, hnot' _⟩
    · obtain ⟨hnone, before, hd, hdid, hrest⟩ := h.entry id d ((hother id d heq).mp hmem)
      refine ⟨hnone, before, ?_, hdid, hrest⟩
      rw [set_of_ne _ (by
        rintro rfl
        cases hcall.symm.trans hd
        exact heq hdid.symm)]
      exact hd
  · intro d id body hd
    rcases set_get hd with ⟨-, heq⟩ | ⟨-, hd⟩
    · exact absurd heq.symm (hallocated id body)
    · exact h.allocated d id body hd
  · intro d stage'' id hd hd'
    rcases set_get hd with ⟨rfl, rfl⟩ | ⟨hdc, hd⟩
    · exact hwaits id hd'
    · rcases h.waits d stage'' id hd hd' with hmem | hreply
      · exact .inl ((hother id d (hd'.id_eq ▸ hne hd hdc)).mpr hmem)
      · exact .inr hreply
  · intro d id result hd
    rcases set_get hd with ⟨-, heq⟩ | ⟨-, hd⟩
    · exact hdone id result heq.symm
    · exact h.done d id result hd

theorem Inv.entry_of {c d : Nat} {stage : CallStage Payload} (h : Inv s) (hcall : s.callers c = some stage)
    (hmem : (stage.id, d) ∈ s.pending) : d = c ∧ s.oneshot c = none := by
  obtain ⟨hnone, stage', hd, hid, -⟩ := h.entry _ _ hmem
  obtain rfl := h.distinct d c stage' stage hd hcall hid
  exact ⟨rfl, hnone⟩

theorem Inv.proceed (h : Inv s) (hproceeds : Proceeds s t) : Inv t := by
  cases hproceeds with
  | @register c id body hcall =>
    refine h.advance hcall rfl ?_ ?_ nofun (fun id' hwaits => .inl ?_) nofun
    · intro id' d hid'
      simp_all [CallStage.id, mem_remove]
    · intro d hmem
      simp only [List.mem_cons, Prod.mk.injEq, mem_remove, CallStage.id, ne_eq, not_true_eq_false, and_false,
        or_false, true_and] at hmem
      exact ⟨hmem, h.allocated c id body hcall, nofun, nofun⟩
    · rw [← hwaits.id_eq]
      exact List.mem_cons_self
  | @send c id body hcall =>
    refine h.advance hcall rfl (fun _ _ _ => Iff.rfl) (fun d hmem => ?_) nofun (fun id' hwaits => ?_) nofun
    · obtain ⟨hd, hnone⟩ := h.entry_of hcall hmem
      exact ⟨hd, hnone, nofun, nofun⟩
    · rw [← hwaits.id_eq]
      exact h.waits c _ id hcall (.inr ⟨body, rfl⟩)
  | refuse hcall =>
    refine h.advance hcall rfl (fun _ _ _ => Iff.rfl) (fun d hmem => ?_) nofun (by simp [CallStage.Waits]) nofun
    obtain ⟨hd, hnone⟩ := h.entry_of hcall hmem
    exact ⟨hd, hnone, nofun, nofun⟩
  | remove hcall =>
    refine h.advance hcall rfl (fun id' d hid' => ?_) (fun d hmem => ?_) nofun (by simp [CallStage.Waits]) ?_
    · simp_all [CallStage.id]
    · simp [CallStage.id] at hmem
    · rintro id result ⟨⟩
      exact .inl rfl
  | receive hcall hreply =>
    refine h.advance hcall rfl (fun _ _ _ => Iff.rfl) (fun d hmem => ?_) nofun (by simp [CallStage.Waits]) ?_
    · cases (h.entry_of hcall hmem).2.symm.trans hreply
    · rintro id result ⟨⟩
      obtain ⟨stage, hstage, hread⟩ := h.read _ _ hreply
      cases hcall.symm.trans hstage
      exact .inr ⟨_, rfl, hread⟩
  | lose hcall hreply hgone =>
    -- its sender is in the table
    rcases h.waits _ _ _ hcall (.inl rfl) with hmem | ⟨reply, hsome⟩
    · exact absurd rfl (hgone _ hmem)
    · cases hreply.symm.trans hsome

theorem Inv.demux {id : UInt64} {reply : Payload} (h : Inv s) : Inv (s.demux id reply) := by
  have hlogged {entry : UInt64 × Payload} (hmem : entry ∈ s.responses) : entry ∈ (id, reply) :: s.responses :=
    List.mem_cons_of_mem _ hmem
  have hdone : ∀ c id' result, s.callers c = some (.done id' result) →
      result = .error .ConnectionClosed ∨ ∃ reply', result = .ok reply' ∧ (id', reply') ∈ (id, reply) ::
        s.responses := by
    intro c id' result hc
    rcases h.done c id' result hc with hclosed | ⟨reply', hresult, hread⟩
    · exact .inl hclosed
    · exact .inr ⟨reply', hresult, hlogged hread⟩
  have hread : ∀ c reply', s.oneshot c = some reply' →
      ∃ stage, s.callers c = some stage ∧ (stage.id, reply') ∈ (id, reply) :: s.responses := by
    intro c reply' hreply'
    obtain ⟨stage, hc, hmem⟩ := h.read c reply' hreply'
    exact ⟨stage, hc, hlogged hmem⟩
  unfold Calls.demux
  split
  · next found c hfind =>
    have hmem := List.mem_of_find?_eq_some hfind
    obtain rfl : found = id := by simpa using List.find?_some hfind
    obtain ⟨-, stage, hc, hcid, hstage, -⟩ := h.entry found c hmem
    refine ⟨h.next, h.allotted, h.distinct, ?_, ?_, ?_, ?_, hdone⟩
    · intro d reply' hreply'
      by_cases hd : d = c
      · subst hd
        cases (Function.update_self ..).symm.trans hreply'
        exact ⟨stage, hc, hcid ▸ List.mem_cons_self⟩
      · exact hread d reply' ((Function.update_of_ne hd ..).symm.trans hreply')
    · intro id' d hmem'
      obtain ⟨hmem', hne⟩ := mem_remove.mp hmem'
      obtain ⟨hnone, stage', hd, hid', hrest⟩ := h.entry id' d hmem'
      have hdc : d ≠ c := by
        rintro rfl
        cases hc.symm.trans hd
        exact hne (hid'.symm.trans hcid)
      exact ⟨(Function.update_of_ne hdc ..).trans hnone, stage', hd, hid', hrest⟩
    · intro d id' body hd
      have hdc : d ≠ c := by
        rintro rfl
        cases hc.symm.trans hd
        cases hcid
        exact hstage body rfl
      exact (Function.update_of_ne hdc ..).trans (h.allocated d id' body hd)
    · intro d stage' id' hd hwaits
      by_cases hdc : d = c
      · exact .inr ⟨reply, hdc ▸ Function.update_self ..⟩
      · have hne : id' ≠ found := fun heq =>
          hdc (h.distinct d c stage' stage hd hc (hwaits.id_eq.trans (heq.trans hcid.symm)))
        rcases h.waits d stage' id' hd hwaits with hmem' | ⟨reply', hreply'⟩
        · exact .inl (mem_remove.mpr ⟨hmem', hne⟩)
        · exact .inr ⟨reply', (Function.update_of_ne hdc ..).trans hreply'⟩
  · exact { h with read := hread, done := hdone }

theorem made_le_of_step (hstep : Step s t) : s.made ≤ t.made := by
  cases hstep with
  | call => exact Nat.le_succ _
  | proceed hproceeds => cases hproceeds <;> exact Nat.le_refl _
  | read =>
    unfold Calls.demux
    split <;> exact Nat.le_refl _
  | write | stop => exact Nat.le_refl _

theorem made_le_of_run (hrun : Relation.ReflTransGen Step s t) : s.made ≤ t.made := by
  induction hrun with
  | refl => exact Nat.le_refl _
  | tail _ hstep ih => exact Nat.le_trans ih (made_le_of_step hstep)

theorem Inv.step (h : Inv s) (hstep : Step s t) (hmade : t.made ≤ 2 ^ 64) : Inv t := by
  cases hstep with
  | call hfree => exact h.call hfree hmade
  | proceed hproceeds => exact h.proceed hproceeds
  | read hdriving => exact h.demux
  | write | stop => exact { h with }

theorem Reaches.inv (h : Reaches s) (hmade : s.made ≤ 2 ^ 64) : Inv s := by
  induction h with
  | refl => exact .new
  | tail _ hstep ih => exact (ih (Nat.le_trans (made_le_of_step hstep) hmade)).step hstep hmade

def Stranded (s : Calls Payload) (c : Nat) (id : UInt64) : Prop := s.callers c = some (.sent id) ∧ (id, c) ∈ s.pending

theorem stranded_set {c d : Nat} {id : UInt64} {stage : CallStage Payload} (hcallers : t.callers = s.callers)
    (hstage : stage ≠ .sent id) (hd : ¬s.Stranded d id)
    (hpending : c ≠ d → s.callers c = some (.sent id) → ((id, c) ∈ t.pending ↔ (id, c) ∈ s.pending)) :
    (t.set d stage).Stranded c id ↔ s.Stranded c id := by
  by_cases hc : c = d
  · subst hc
    simp only [Stranded, set_self, Option.some.injEq, hstage, false_and, false_iff]
    exact hd
  · simp only [Stranded, set_of_ne t hc, hcallers]
    exact and_congr_right (hpending hc)

theorem stranded_step (c : Nat) (id : UInt64) (h : Inv s) (hstopped : s.driving = false) (hstep : Step s t) :
    t.driving = false ∧ (t.Stranded c id ↔ s.Stranded c id) := by
  have hnot {d : Nat} {stage : CallStage Payload} (hd : s.callers d = some stage) (hstage : stage ≠ .sent id) :
      ¬s.Stranded d id := fun hstranded => hstage (Option.some.inj (hd.symm.trans hstranded.1))
  have hne {d : Nat} {stage : CallStage Payload} (hd : s.callers d = some stage) (hc : c ≠ d)
      (hsent : s.callers c = some (.sent id)) : id ≠ stage.id :=
    fun heq => hc (h.distinct c d (.sent id) stage hsent hd heq)
  cases hstep with
  | call hfree =>
    exact ⟨hstopped, stranded_set rfl nofun (fun hd => nomatch hfree.symm.trans hd.1) fun _ _ => Iff.rfl⟩
  | proceed hproceeds =>
    cases hproceeds with
    | register hcall =>
      refine ⟨hstopped, stranded_set rfl nofun (hnot hcall nofun) fun hc hsent => ?_⟩
      have hid := hne hcall hc hsent
      simp_all [CallStage.id, mem_remove]
    | send _ hdriving => cases hdriving.symm.trans hstopped
    | refuse hcall => exact ⟨hstopped, stranded_set rfl nofun (hnot hcall nofun) fun _ _ => Iff.rfl⟩
    | remove hcall =>
      refine ⟨hstopped, stranded_set rfl nofun (hnot hcall nofun) fun hc hsent => ?_⟩
      exact mem_remove.trans (and_iff_left (hne hcall hc hsent))
    | receive hcall hreply =>
      refine ⟨hstopped, stranded_set rfl nofun (fun hd => ?_) fun _ _ => Iff.rfl⟩
      cases hcall.symm.trans hd.1
      cases (h.entry _ _ hd.2).1.symm.trans hreply
    | lose hcall _ hgone =>
      exact ⟨hstopped, stranded_set rfl nofun (fun hd => hgone _ hd.2 rfl) fun _ _ => Iff.rfl⟩
  | write hdriving | read hdriving | stop hdriving => cases hdriving.symm.trans hstopped

theorem stranded_run (c : Nat) (id : UInt64) (h : Inv s) (hstopped : s.driving = false)
    (hrun : Relation.ReflTransGen Step s t) (hmade : t.made ≤ 2 ^ 64) :
    Inv t ∧ t.driving = false ∧ (t.Stranded c id ↔ s.Stranded c id) := by
  induction hrun with
  | refl => exact ⟨h, hstopped, Iff.rfl⟩
  | tail _ hstep ih =>
    obtain ⟨hinv, hdriving, hiff⟩ := ih (Nat.le_trans (made_le_of_step hstep) hmade)
    obtain ⟨hdriving', hiff'⟩ := stranded_step c id hinv hdriving hstep
    exact ⟨hinv.step hstep hmade, hdriving', hiff'.trans hiff⟩

theorem Inv.returned_or_stranded {c : Nat} {stage : CallStage Payload} (h : Inv s) (hstopped : s.driving = false)
    (hquiescent : s.Quiescent) (hc : s.callers c = some stage) :
    (∃ id result, stage = .done id result) ∨ ∃ id, s.Stranded c id := by
  cases stage with
  | allocated id body => exact absurd (.register hc) (hquiescent _)
  | registered id body => exact absurd (.refuse hc hstopped) (hquiescent _)
  | refused id => exact absurd (.remove hc) (hquiescent _)
  | done id result => exact .inl ⟨id, result, rfl⟩
  | sent id =>
    rcases h.waits c _ id hc (.inl rfl) with hmem | ⟨reply, hreply⟩
    · exact .inr ⟨id, hc, hmem⟩
    · exact absurd (.receive hc hreply) (hquiescent _)

/-- Every call has returned, with the response that was read under its id or with `ConnectionClosed`, no two calls have
one id, and no sender is left in the table. -/
structure Resolved (s : Calls Payload) : Prop where
  returned : ∀ c stage, s.callers c = some stage → ∃ result, stage = .done stage.id result ∧
    (result = .error .ConnectionClosed ∨ ∃ reply, result = .ok reply ∧ (stage.id, reply) ∈ s.responses)
  distinct : ∀ c d stage stage', s.callers c = some stage → s.callers d = some stage' → stage.id = stage'.id → c = d
  empty : s.pending = []

/-- After the driver has returned, and once no call can go on, all calls are resolved exactly when at its return no call
had handed its request over without its response having been read, as long as there are not more calls than ids. -/
theorem calls_resolve_iff (hreaches : s.Reaches) (hrun : Relation.ReflTransGen Step s.stop t)
    (hquiescent : t.Quiescent) (hmade : t.made ≤ 2 ^ 64) :
    t.Resolved ↔ ∀ c id, s.callers c = some (.sent id) → (id, c) ∉ s.pending := by
  have hbefore : s.stop.made ≤ 2 ^ 64 := Nat.le_trans (made_le_of_run hrun) hmade
  have hinv : Inv s.stop := { hreaches.inv hbefore with }
  have hrun' (c : Nat) (id : UInt64) := stranded_run c id hinv rfl hrun hmade
  obtain ⟨hinvt, hstopped, -⟩ := hrun' 0 0
  constructor
  · intro hresolved c id hsent hmem
    obtain ⟨hsent', -⟩ := (hrun' c id).2.2.mpr ⟨hsent, hmem⟩
    obtain ⟨result, hdone, -⟩ := hresolved.returned c _ hsent'
    cases hdone
  · intro hanswered
    have hdone {c : Nat} {stage : CallStage Payload} (hc : t.callers c = some stage) :
        ∃ id result, stage = .done id result := by
      rcases hinvt.returned_or_stranded hstopped hquiescent hc with hdone | ⟨id, hstranded⟩
      · exact hdone
      · obtain ⟨hsent, hmem⟩ := (hrun' c id).2.2.mp hstranded
        exact absurd hmem (hanswered c id hsent)
    refine ⟨?_, hinvt.distinct, ?_⟩
    · intro c stage hc
      obtain ⟨id, result, rfl⟩ := hdone hc
      exact ⟨result, rfl, hinvt.done c id result hc⟩
    · refine List.eq_nil_iff_forall_not_mem.mpr fun ⟨id, c⟩ hmem => ?_
      obtain ⟨-, stage, hc, hcid, -, hnot⟩ := hinvt.entry id c hmem
      obtain ⟨id', result, rfl⟩ := hdone hc
      cases hcid
      exact hnot result rfl

namespace sample

def called : Calls Nat := { new with next_id := 1, made := 1 }.set 0 (.allocated 0 7)

def registered : Calls Nat := { called with pending := [(0, 0)] }.set 0 (.registered 0 7)

def handed_over : Calls Nat := { registered with outbound := [(0, 7)] }.set 0 (.sent 0)

theorem handed_over_reaches : handed_over.Reaches :=
  have hcall : Step new called := .call rfl
  have hregister : Step called registered := .proceed (.register rfl)
  have hsend : Step registered handed_over := .proceed (.send rfl rfl (by decide))
  ((Relation.ReflTransGen.single hcall).tail hregister).tail hsend

theorem handed_over_get {c : Nat} {stage : CallStage Nat} (h : handed_over.callers c = some stage) :
    c = 0 ∧ stage = .sent 0 := by
  match c, h with
  | 0, h => exact ⟨rfl, (Option.some.inj h).symm⟩

theorem handed_over_stop_quiescent : handed_over.stop.Quiescent := by
  intro t hproceeds
  cases hproceeds with
  | register hcall | send hcall | refuse hcall | remove hcall => exact nomatch (handed_over_get hcall).2
  | receive hcall hreply => cases hreply
  | lose hcall _ hgone => exact hgone _ List.mem_cons_self (handed_over_get hcall).1.symm

end sample

/-- The response was read before the driver returned. -/
theorem calls_resolve_iff_answered : ∃ t : Calls Nat,
    Relation.ReflTransGen Step (sample.handed_over.demux 0 8).stop t ∧ t.Resolved := by
  have hrun : Step (sample.handed_over.demux 0 8).stop
      ((sample.handed_over.demux 0 8).stop.set 0 (.done 0 (.ok 8))) := .proceed (.receive rfl rfl)
  have hreaches : (sample.handed_over.demux 0 8).Reaches := sample.handed_over_reaches.tail (.read rfl)
  refine ⟨_, .single hrun, (calls_resolve_iff hreaches (.single hrun) ?_ (by decide)).mpr fun _ _ _ => nofun⟩
  have hget {c : Nat} {stage : CallStage Nat}
      (h : ((sample.handed_over.demux 0 8).stop.set 0 (.done 0 (.ok 8))).callers c = some stage) :
      stage = .done 0 (.ok 8) := by
    rcases set_get h with ⟨-, rfl⟩ | ⟨hc, h⟩
    · rfl
    · exact absurd (sample.handed_over_get h).1 hc
  intro t hproceeds
  cases hproceeds with
  | register hcall | send hcall | refuse hcall | remove hcall | receive hcall | lose hcall => exact nomatch hget hcall

/-- The driver returns while a request that it has taken is unanswered: the call waits for ever and its sender stays in
the table. -/
theorem call_waits_for_ever : ∃ s : Calls Nat, s.Reaches ∧ s.stop.Quiescent ∧
    ∀ t, Relation.ReflTransGen Step s.stop t → t.made ≤ 2 ^ 64 →
      t.callers 0 = some (.sent 0) ∧ (0, 0) ∈ t.pending := by
  refine ⟨sample.handed_over, sample.handed_over_reaches, sample.handed_over_stop_quiescent, fun t hrun hmade => ?_⟩
  have hinv : Inv sample.handed_over.stop := { sample.handed_over_reaches.inv (by decide) with }
  exact (stranded_run 0 0 hinv rfl hrun hmade).2.2.mpr ⟨rfl, List.mem_cons_self⟩

end Calls

end enclavia.synchronizer.mesh
