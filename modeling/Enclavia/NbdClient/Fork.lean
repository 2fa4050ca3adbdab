import Enclavia.NbdClient.AppliedPins
import Enclavia.NbdClient.Pinner
import Enclavia.Synchronizer.Raft.ExactlyOnce

open interaction enclavia.synchronizer enclavia.synchronizer.wire enclavia.synchronizer.raft

namespace enclavia.nbd_client

/-- A call of `pin` at work: the length of the log when it began and when it asked for its present effect,
and its events so far. -/
structure PinCall where
  commitment : Bytes32
  begun : Nat
  asked : Nat
  program : SessionProc (Except String Version)
  trace : List SessionEvent

/-- An enclave that pins: the version its boot verified, the commitments of its calls that returned `Ok`,
in order, and its call at work. -/
structure Writer where
  pinner : SyncPinner
  v0 : Version
  oks : List Bytes32
  call : Option PinCall

/-- Enclaves that share a key: the committed log, the enclaves, which of them called `pin` with which
commitments, and the pins that were handed to the network. -/
structure Fork where
  log : List ReplicatedOp
  writers : List Writer
  submitted : List (Nat × Bytes32)
  sent : List (Nat × Version × Bytes32)

variable {effect : SessionEffect}

namespace Fork

def Fresh (key : PcrKey) (s : Fork) (commitment : Bytes32) : Prop :=
  (∀ i, (i, commitment) ∉ s.submitted) ∧
    ∀ entry, HeldSince s.log 0 key (some entry) → entry.commitment ≠ ⟨commitment⟩

variable (key : PcrKey)

def start (log : List ReplicatedOp) : Fork := ⟨log, [], [], []⟩

inductive Step : Fork → Fork → Prop
  | foreign {s : Fork} {op : ReplicatedOp}
      (hop : ∀ expected_version commitment, op ≠ .Pin key expected_version commitment) :
      Step s { s with log := s.log ++ [op] }
  | boot {s : Fork} {entry : KeyState} (can_reconnect : Bool) (hheld : HeldSince s.log 0 key (some entry)) :
      Step s { s with
        writers := s.writers ++ [⟨⟨key, entry.version, can_reconnect⟩, entry.version, [], none⟩] }
  | call {s : Fork} {i : Nat} {writer : Writer} {commitment : Bytes32} (hwriter : s.writers[i]? = some writer)
      (hidle : writer.call = none) (hfresh : s.Fresh key commitment) :
      Step s { s with
        writers := s.writers.set i { writer with
          call := some ⟨commitment, s.log.length, s.log.length, writer.pinner.pin_with_retries commitment, []⟩ }
        submitted := s.submitted ++ [(i, commitment)] }
  | send {s : Fork} {i : Nat} {writer : Writer} {call : PinCall} {expected_version : Version} {commitment : Bytes32}
      {next : SessionAnswer (.rpc (.Pin key expected_version ⟨commitment⟩)) → SessionProc (Except String Version)}
      (hwriter : s.writers[i]? = some writer) (hcall : writer.call = some call)
      (hasks : call.program = .act (.rpc (.Pin key expected_version ⟨commitment⟩)) next) :
      Step s { s with sent := s.sent ++ [(i, expected_version, commitment)] }
  | commit {s : Fork} {i : Nat} {expected_version : Version} {commitment : Bytes32}
      (hsent : (i, expected_version, commitment) ∈ s.sent) :
      Step s { s with log := s.log ++ [.Pin key expected_version ⟨commitment⟩] }
  | answer {s : Fork} {i : Nat} {writer : Writer} {call : PinCall} {e : SessionEffect}
      {next : SessionAnswer e → SessionProc (Except String Version)} (hwriter : s.writers[i]? = some writer)
      (hcall : writer.call = some call) (hasks : call.program = .act e next) (answer : SessionAnswer e)
      (hanswer : Linearizable s.log call.asked e answer) :
      Step s { s with
        writers := s.writers.set i { writer with
          call := some { call with
            asked := s.log.length, program := next answer, trace := call.trace ++ [⟨e, answer⟩] } } }
  | finish {s : Fork} {i : Nat} {writer : Writer} {call : PinCall} {version : Version}
      (hwriter : s.writers[i]? = some writer) (hcall : writer.call = some call)
      (hreturns : call.program = .ret (.ok version)) :
      Step s { s with
        writers := s.writers.set i { writer with
          pinner := { writer.pinner with expected := version }
          oks := writer.oks ++ [call.commitment]
          call := none } }
  | fail {s : Fork} {i : Nat} {writer : Writer} {call : PinCall} {message : String}
      (hwriter : s.writers[i]? = some writer) (hcall : writer.call = some call)
      (hreturns : call.program = .ret (.error message)) :
      Step s { s with writers := s.writers.set i { writer with call := none } }

def Reaches : Fork → Fork → Prop := Relation.ReflTransGen (Step key)

variable {key} {s s' : Fork}

def Landed (key : PcrKey) (log : List ReplicatedOp) (writer : Writer) (call : PinCall) (version : Version) : Prop :=
  ∃ state, AppliedSince log call.begun (.Pin key writer.pinner.expected ⟨call.commitment⟩) state ∧
    state.version = version

structure CallInv (key : PcrKey) (s : Fork) (i : Nat) (writer : Writer) (call : PinCall) : Prop where
  submitted : (i, call.commitment) ∈ s.submitted
  new : call.commitment ∉ writer.oks
  sent : ∀ expected_version, (i, expected_version, call.commitment) ∈ s.sent →
    expected_version = writer.pinner.expected
  order : call.begun ≤ call.asked ∧ call.asked ≤ s.log.length
  known : Passed key (s.log.take call.begun) 0
  fresh : ∀ entry, (view (replay (s.log.take call.begun))).state[key]? = some entry →
    entry.commitment ≠ ⟨call.commitment⟩
  run : (writer.pinner.pin_with_retries call.commitment).Run call.trace call.program
  relies : ∀ event ∈ call.trace,
    writer.pinner.Relies call.commitment (Landed key s.log writer call) event.1 event.2

/-- What holds of an enclave: the pins of the key since its boot, up to the version it expects, are its
own acknowledged ones. -/
structure WriterInv (key : PcrKey) (s : Fork) (i : Nat) (writer : Writer) : Prop where
  key_eq : writer.pinner.key = key
  passed : Passed key s.log writer.pinner.expected.val.toNat
  counted : writer.pinner.expected.val.toNat = writer.v0.val.toNat + writer.oks.length
  own : ∀ commitment ∈ writer.oks, (i, commitment) ∈ s.submitted
  once : writer.oks.Nodup
  pinned : (pins_between key s.log writer.v0.val.toNat writer.pinner.expected.val.toNat).map Prod.snd =
    writer.oks.map Commitment.mk
  call : ∀ call, writer.call = some call → CallInv key s i writer call

structure Inv (key : PcrKey) (s : Fork) : Prop where
  distinct : (s.submitted.map Prod.snd).Nodup
  sent : ∀ i expected_version commitment, (i, expected_version, commitment) ∈ s.sent → (i, commitment) ∈ s.submitted
  applied : ∀ i expected_version commitment state, (i, commitment) ∈ s.submitted →
    AppliedSince s.log 0 (.Pin key expected_version ⟨commitment⟩) state → (i, expected_version, commitment) ∈ s.sent
  writers : ∀ (i : Nat) (writer : Writer), s.writers[i]? = some writer → WriterInv key s i writer

theorem set_getElem? {writers : List Writer} {i j : Nat} {writer writer' : Writer}
    (h : (writers.set i writer)[j]? = some writer') :
    j = i ∧ writer' = writer ∨ j ≠ i ∧ writers[j]? = some writer' := by
  by_cases hj : j = i
  · subst hj
    obtain ⟨hlt, -⟩ := List.getElem?_eq_some_iff.mp h
    rw [List.length_set] at hlt
    rw [List.getElem?_set_self hlt, Option.some.injEq] at h
    exact .inl ⟨rfl, h.symm⟩
  · rw [List.getElem?_set_ne (Ne.symm hj)] at h
    exact .inr ⟨hj, h⟩

variable {i : Nat} {writer : Writer} {call : PinCall} {n : Nat} {version : Version}

theorem CallInv.mono (h : CallInv key s i writer call) (hlog : s.log <+: s'.log)
    (hsubmitted : ∀ entry ∈ s.submitted, entry ∈ s'.submitted)
    (hsent : ∀ expected_version, (i, expected_version, call.commitment) ∈ s'.sent →
      (i, expected_version, call.commitment) ∈ s.sent ∨ expected_version = writer.pinner.expected) :
    CallInv key s' i writer call := by
  have hbegun : s'.log.take call.begun = s.log.take call.begun := by
    obtain ⟨more, hmore⟩ := hlog
    rw [← hmore, List.take_append_of_le_length (Nat.le_trans h.order.1 h.order.2)]
  constructor
  · exact hsubmitted _ h.submitted
  · exact h.new
  · exact fun expected_version hmem => (hsent expected_version hmem).elim (h.sent expected_version) id
  · exact ⟨h.order.1, Nat.le_trans h.order.2 hlog.length_le⟩
  · rw [hbegun]
    exact h.known
  · rw [hbegun]
    exact h.fresh
  · exact h.run
  · exact fun event hmem => (h.relies event hmem).mono fun _ ⟨state, happlied, hversion⟩ =>
      ⟨state, happlied.grow hlog, hversion⟩

theorem WriterInv.mono (h : WriterInv key s i writer) (hlog : s'.log = s.log ∨ ∃ op, s'.log = s.log ++ [op])
    (hpins : pins s'.log < 2 ^ 64) (hsubmitted : ∀ entry ∈ s.submitted, entry ∈ s'.submitted)
    (hsent : ∀ call, writer.call = some call → ∀ expected_version, (i, expected_version, call.commitment) ∈ s'.sent →
      (i, expected_version, call.commitment) ∈ s.sent ∨ expected_version = writer.pinner.expected) :
    WriterInv key s' i writer := by
  have hprefix : s.log <+: s'.log := by
    rcases hlog with hlog | ⟨op, hlog⟩
    · exact hlog ▸ List.prefix_refl s.log
    · rw [hlog]
      exact List.prefix_append _ _
  refine ⟨h.key_eq, ?_, h.counted, fun commitment hmem => hsubmitted _ (h.own commitment hmem), h.once, ?_,
    fun call hcall => (h.call call hcall).mono hprefix hsubmitted (hsent call hcall)⟩
  · rcases hlog with hlog | ⟨op, hlog⟩ <;> rw [hlog] at hpins ⊢
    · exact h.passed
    · exact h.passed.concat op hpins
  · rcases hlog with hlog | ⟨op, hlog⟩ <;> rw [hlog] at hpins ⊢
    · exact h.pinned
    · rw [pins_between_concat h.passed hpins]
      exact h.pinned

theorem Inv.submitter (hinv : Inv key s) {i j : Nat} {commitment : Bytes32} (hi : (i, commitment) ∈ s.submitted)
    (hj : (j, commitment) ∈ s.submitted) : i = j :=
  congrArg Prod.fst (List.inj_on_of_nodup_map hinv.distinct hi hj rfl)

theorem CallInv.asks (h : CallInv key s i writer call)
    {next : SessionAnswer effect → SessionProc (Except String Version)} (hasks : call.program = .act effect next) :
    writer.pinner.AsksOwn call.commitment effect := by
  have hrun := h.run
  rw [hasks] at hrun
  exact SyncPinner.pin_with_retries_pins.asks.of_run hrun

theorem CallInv.linearizable (hinv : Inv key s) (hpins : pins s.log < 2 ^ 64) (hkey : writer.pinner.key = key)
    (h : CallInv key s i writer call) {answer : SessionAnswer effect}
    (hanswer : Linearizable s.log call.asked effect answer) :
    writer.pinner.Relies call.commitment (Landed key s.log writer call) effect answer := by
  subst hkey
  constructor
  · rintro version ⟨⟩
    obtain ⟨state, ⟨pos, hpos, hentry⟩, hversion⟩ := hanswer
    exact ⟨state, ⟨pos, Nat.le_trans h.order.1 hpos, hentry⟩, hversion⟩
  · rintro version ⟨⟩
    obtain ⟨control_pubkey, n, hasked, hle, hheld⟩ := hanswer
    have hbegun : call.begun ≤ n := Nat.le_trans h.order.1 hasked
    have hsplit : s.log.take n = s.log.take call.begun ++ (s.log.take n).drop call.begun := by
      have happend := List.take_append_drop call.begun (s.log.take n)
      rw [List.take_take, Nat.min_eq_left hbegun] at happend
      exact happend.symm
    have hlength : (s.log.take call.begun).length = call.begun :=
      List.length_take_of_le (Nat.le_trans h.order.1 h.order.2)
    have hfewer : pins (s.log.take n) < 2 ^ 64 := Nat.lt_of_le_of_lt (pins_take_le s.log n) hpins
    change (view (replay (s.log.take n))).state[writer.pinner.key]? = _ at hheld
    rw [hsplit] at hfewer hheld
    rcases held_after h.known hfewer hheld with hbefore | ⟨expected_version, happlied⟩
    · exact absurd rfl (h.fresh _ hbefore)
    · rw [← hsplit, hlength] at happlied
      have hgrown := happlied.grow (List.take_prefix n s.log)
      obtain ⟨pos, -, hentry⟩ := hgrown
      have hsent := hinv.applied i expected_version call.commitment _ h.submitted ⟨pos, Nat.zero_le _, hentry⟩
      rw [h.sent expected_version hsent] at happlied
      exact ⟨_, happlied.grow (List.take_prefix n s.log), rfl⟩

theorem CallInv.returns (hpins : pins s.log < 2 ^ 64) (h : CallInv key s i writer call)
    (hreturns : call.program = .ret (.ok version)) :
    version.val.toNat = writer.pinner.expected.val.toNat + 1 ∧ ∃ state,
      AppliedSince s.log call.begun (.Pin key writer.pinner.expected ⟨call.commitment⟩) state ∧
        state.version = version := by
  have hrun := h.run
  rw [hreturns] at hrun
  obtain ⟨state, happlied, hversion⟩ :=
    (SyncPinner.pin_with_retries_pins.lands (Landed key s.log writer call)).of_returns hrun h.relies version rfl
  obtain ⟨pos, hpos, hentry, hresult⟩ := happlied
  refine ⟨?_, state, ⟨pos, hpos, hentry, hresult⟩, hversion⟩
  rw [← hversion]
  exact (pin_applied hpins hentry hresult).1

theorem Inv.start (log : List ReplicatedOp) : Inv key (start log) where
  distinct := List.nodup_nil
  sent _ _ _ hmem := absurd hmem List.not_mem_nil
  applied _ _ _ _ hmem := absurd hmem List.not_mem_nil
  writers _ _ hwriter := by cases hwriter

theorem WriterInv.finish (h : WriterInv key s i writer) (hpins : pins s.log < 2 ^ 64)
    (hcall : writer.call = some call) (hreturns : call.program = .ret (.ok version)) :
    WriterInv key s i { writer with
      pinner := { writer.pinner with expected := version }
      oks := writer.oks ++ [call.commitment]
      call := none } := by
  have hcallInv := h.call call hcall
  obtain ⟨hversion, state, ⟨pos, -, hentry⟩, hstate⟩ := hcallInv.returns hpins hreturns
  have hmem : (version.val.toNat, (⟨call.commitment⟩ : Commitment)) ∈ applied_pins key s.log :=
    mem_applied_pins.mpr ⟨_, state, ⟨pos, Nat.zero_le _, hentry⟩, by rw [hstate]⟩
  refine ⟨h.key_eq, (applied_pins_increase hpins).2 _ hmem, ?_, ?_, ?_, ?_, nofun⟩
  · rw [hversion, h.counted, List.length_append, List.length_singleton, Nat.add_assoc]
  · intro commitment hcommitment
    rcases List.mem_append.mp hcommitment with hold | hnew
    · exact h.own commitment hold
    · rw [List.mem_singleton.mp hnew]
      exact hcallInv.submitted
  · rw [List.nodup_append]
    refine ⟨h.once, List.nodup_singleton _, ?_⟩
    rintro _ hold _ hlast rfl
    cases List.mem_singleton.mp hlast
    exact hcallInv.new hold
  · rw [hversion] at hmem
    have hlow : writer.v0.val.toNat ≤ writer.pinner.expected.val.toNat := by
      rw [h.counted]
      exact Nat.le_add_right _ _
    rw [hversion, pins_between_succ hpins hlow hmem, List.map_append, h.pinned, List.map_append]
    rfl

theorem Inv.set_writer (hinv : Inv key s) (hpins : pins s.log < 2 ^ 64) {submitted : List (Nat × Bytes32)}
    (hsubmitted : ∀ entry ∈ s.submitted, entry ∈ submitted) {changed : Writer}
    (hchanged : WriterInv key ⟨s.log, s.writers.set i changed, submitted, s.sent⟩ i changed) (j : Nat) (other : Writer)
    (hother : (s.writers.set i changed)[j]? = some other) :
    WriterInv key ⟨s.log, s.writers.set i changed, submitted, s.sent⟩ j other := by
  rcases set_getElem? hother with ⟨rfl, rfl⟩ | ⟨-, hother⟩
  · exact hchanged
  · exact (hinv.writers j other hother).mono (.inl rfl) hpins hsubmitted fun _ _ _ => .inl

theorem Inv.step_writers (hinv : Inv key s) (hstep : Step key s s') (hpins : pins s'.log < 2 ^ 64) :
    ∀ (j : Nat) (writer : Writer), s'.writers[j]? = some writer → WriterInv key s' j writer := by
  cases hstep with
  | @foreign op hop =>
    intro j writer hwriter
    exact (hinv.writers j writer hwriter).mono (.inr ⟨op, rfl⟩) hpins (fun _ => id) fun _ _ _ => .inl
  | @boot entry can_reconnect hheld =>
    intro j writer hwriter
    rw [List.getElem?_append] at hwriter
    split at hwriter
    · exact (hinv.writers j writer hwriter).mono (.inl rfl) hpins (fun _ => id) fun _ _ _ => .inl
    · cases List.mem_singleton.mp (List.mem_of_getElem? hwriter)
      obtain ⟨n, -, hle, hget⟩ := hheld
      have hpassed : Passed key (s.log.take n) entry.version.val.toNat := .inr ⟨entry, hget, Nat.le_refl _⟩
      have happend := List.take_append_drop n s.log
      refine ⟨rfl, ?_, rfl, fun _ hmem => absurd hmem List.not_mem_nil, List.nodup_nil, ?_, nofun⟩
      · rw [← happend] at hpins
        exact happend ▸ hpassed.append (s.log.drop n) hpins
      · rw [pins_between_self]
        rfl
  | @call i writer commitment hwriter hidle hfresh =>
    have h := hinv.writers i writer hwriter
    have hkeep : ∀ entry ∈ s.submitted, entry ∈ s.submitted ++ [(i, commitment)] :=
      fun _ => List.mem_append_left _
    refine hinv.set_writer hpins hkeep
      ⟨h.key_eq, h.passed, h.counted, fun _ hmem => hkeep _ (h.own _ hmem), h.once, h.pinned, ?_⟩
    rintro _ ⟨⟩
    refine ⟨List.mem_append_right _ List.mem_cons_self, fun hold => hfresh.1 i (h.own _ hold), ?_,
      ⟨Nat.le_refl _, Nat.le_refl _⟩, ?_, ?_, .nil _,
      fun _ hmem => absurd hmem List.not_mem_nil⟩
    · exact fun expected_version hmem => absurd (hinv.sent _ _ _ hmem) (hfresh.1 i)
    · rw [List.take_length]
      exact h.passed.imp_right fun ⟨entry, hlive, _⟩ => ⟨entry, hlive, Nat.zero_le _⟩
    · exact fun entry hlive => hfresh.2 entry ⟨s.log.length, Nat.zero_le _, Nat.le_refl _, hlive⟩
  | @send i writer call expected_version commitment next hwriter hcall hasks =>
    intro j other hother
    refine (hinv.writers j other hother).mono (.inl rfl) hpins (fun _ => id) ?_
    intro call' hcall' expected' hmem
    rcases List.mem_append.mp hmem with hmem | hmem
    · exact .inl hmem
    · cases List.mem_singleton.mp hmem
      rw [hwriter, Option.some.injEq] at hother
      subst hother
      obtain ⟨-, hexpected, -⟩ := ((hinv.writers _ _ hwriter).call call hcall).asks hasks _ _ _ rfl
      exact .inr hexpected
  | @commit i expected_version commitment hsent =>
    intro j writer hwriter
    exact (hinv.writers j writer hwriter).mono (.inr ⟨_, rfl⟩) hpins (fun _ => id) fun _ _ _ => .inl
  | @answer i writer call effect next hwriter hcall hasks answer hanswer =>
    have h := hinv.writers i writer hwriter
    have hcallInv := h.call call hcall
    refine hinv.set_writer hpins (fun _ => id) ⟨h.key_eq, h.passed, h.counted, h.own, h.once, h.pinned, ?_⟩
    rintro _ ⟨⟩
    refine ⟨hcallInv.submitted, hcallInv.new, hcallInv.sent,
      ⟨Nat.le_trans hcallInv.order.1 hcallInv.order.2, Nat.le_refl _⟩, hcallInv.known, hcallInv.fresh, ?_, ?_⟩
    · have hrun := hcallInv.run
      rw [hasks] at hrun
      exact hrun.snoc answer
    · intro event hmem
      rcases List.mem_append.mp hmem with hmem | hmem
      · exact hcallInv.relies event hmem
      · rw [List.mem_singleton.mp hmem]
        exact hcallInv.linearizable hinv hpins h.key_eq hanswer
  | @finish i writer call version hwriter hcall hreturns =>
    have h := (hinv.writers i writer hwriter).finish hpins hcall hreturns
    exact hinv.set_writer hpins (fun _ => id) (h.mono (.inl rfl) hpins (fun _ => id) nofun)
  | @fail i writer call message hwriter hcall hreturns =>
    have h := hinv.writers i writer hwriter
    exact hinv.set_writer hpins (fun _ => id) ⟨h.key_eq, h.passed, h.counted, h.own, h.once, h.pinned, nofun⟩

theorem Inv.step (hinv : Inv key s) (hstep : Step key s s') (hpins : pins s'.log < 2 ^ 64) : Inv key s' := by
  refine ⟨?_, ?_, ?_, hinv.step_writers hstep hpins⟩
  · cases hstep with
    | @call i writer commitment hwriter hidle hfresh =>
      rw [List.map_append, List.nodup_append]
      refine ⟨hinv.distinct, List.nodup_singleton _, ?_⟩
      rintro earlier hmem _ hlast rfl
      obtain ⟨⟨j, _⟩, hearlier, rfl⟩ := List.mem_map.mp hmem
      cases List.mem_singleton.mp hlast
      exact hfresh.1 j hearlier
    | _ => exact hinv.distinct
  · cases hstep with
    | call => exact fun j expected' other hmem => List.mem_append_left _ (hinv.sent j expected' other hmem)
    | @send i writer call expected_version commitment next hwriter hcall hasks =>
      intro j expected' other hmem
      rcases List.mem_append.mp hmem with hmem | hmem
      · exact hinv.sent j expected' other hmem
      · cases List.mem_singleton.mp hmem
        have hcallInv := (hinv.writers _ _ hwriter).call call hcall
        obtain ⟨-, -, hcommitment⟩ := hcallInv.asks hasks _ _ _ rfl
        cases hcommitment
        exact hcallInv.submitted
    | _ => exact hinv.sent
  · cases hstep with
    | foreign hop =>
      intro j expected' other state hmem happlied
      rcases appliedSince_concat.mp happlied with happlied | ⟨-, heq, -⟩
      · exact hinv.applied j expected' other state hmem happlied
      · exact absurd heq.symm (hop _ _)
    | @call i writer commitment hwriter hidle hfresh =>
      intro j expected' other state hmem happlied
      rcases List.mem_append.mp hmem with hmem | hmem
      · exact hinv.applied j expected' other state hmem happlied
      · cases List.mem_singleton.mp hmem
        have hheld := happlied.held (.inr ⟨_, _, rfl⟩)
        obtain ⟨pos, -, -, hresult⟩ := happlied
        rw [apply_one_result] at hresult
        have happlies := View.apply_applied hresult
        generalize ((view (replay (s.log.take pos))).apply _).2 = after at happlies
        cases happlies with
        | pin => exact absurd rfl (hfresh.2 _ hheld)
    | send =>
      exact fun j expected' other state hmem happlied =>
        List.mem_append_left _ (hinv.applied j expected' other state hmem happlied)
    | @commit i expected_version commitment hsent =>
      intro j expected' other state hmem happlied
      rcases appliedSince_concat.mp happlied with happlied | ⟨-, heq, -⟩
      · exact hinv.applied j expected' other state hmem happlied
      · cases heq
        rw [hinv.submitter hmem (hinv.sent _ _ _ hsent)]
        exact hsent
    | _ => exact hinv.applied

theorem step_log (hstep : Step key s s') : s.log <+: s'.log := by
  cases hstep with
  | foreign | commit => exact List.prefix_append _ _
  | _ => exact List.prefix_refl _

theorem reaches_log (hreaches : Reaches key s s') : s.log <+: s'.log := by
  induction hreaches with
  | refl => exact List.prefix_refl _
  | tail _ hstep ih => exact ih.trans (step_log hstep)

theorem reaches_submitted (hreaches : Reaches key s s') : ∀ entry ∈ s.submitted, entry ∈ s'.submitted := by
  induction hreaches with
  | refl => exact fun _ => id
  | tail _ hstep ih =>
    intro entry hmem
    cases hstep with
    | call => exact List.mem_append_left _ (ih entry hmem)
    | _ => exact ih entry hmem

theorem Inv.reaches (hinv : Inv key s) (hreaches : Reaches key s s') (hpins : pins s'.log < 2 ^ 64) : Inv key s' := by
  induction hreaches with
  | refl => exact hinv
  | tail _ hstep ih =>
    have hle : pins _ ≤ pins _ := (step_log hstep).sublist.countP_le
    exact (ih (Nat.lt_of_le_of_lt hle hpins)).step hstep hpins

theorem later_calls (hreaches : Reaches key s s') (hwriter : s.writers[i]? = some writer)
    (hidle : writer.call = none) : ∃ later, s'.writers[i]? = some later ∧ later.v0 = writer.v0 ∧
      ∀ call, later.call = some call → s.log.length ≤ call.begun := by
  induction hreaches with
  | refl => exact ⟨writer, hwriter, rfl, fun call hcall => by rw [hidle] at hcall; cases hcall⟩
  | @tail mid _ hbefore hstep ih =>
    obtain ⟨later, hlater, hv0, hbegun⟩ := ih
    have hlength : s.log.length ≤ mid.log.length := (reaches_log hbefore).length_le
    have hset : ∀ {j : Nat} {old changed : Writer}, mid.writers[j]? = some old → changed.v0 = old.v0 →
        (∀ call, changed.call = some call → mid.log.length ≤ call.begun ∨
          ∃ call', old.call = some call' ∧ call'.begun = call.begun) →
        ∃ final, (mid.writers.set j changed)[i]? = some final ∧ final.v0 = writer.v0 ∧
          ∀ call, final.call = some call → s.log.length ≤ call.begun := by
      intro j old changed hold hchanged hcalls
      by_cases hj : j = i
      · subst hj
        rw [hlater, Option.some.injEq] at hold
        subst hold
        obtain ⟨hlt, -⟩ := List.getElem?_eq_some_iff.mp hlater
        refine ⟨changed, List.getElem?_set_self hlt, hchanged.trans hv0, ?_⟩
        intro call hcall
        rcases hcalls call hcall with hnew | ⟨call', hcall', hsame⟩
        · exact Nat.le_trans hlength hnew
        · exact hsame ▸ hbegun call' hcall'
      · exact ⟨later, by rw [List.getElem?_set_ne hj, hlater], hv0, hbegun⟩
    cases hstep with
    | foreign | send | commit => exact ⟨later, hlater, hv0, hbegun⟩
    | boot =>
      obtain ⟨hlt, -⟩ := List.getElem?_eq_some_iff.mp hlater
      exact ⟨later, by rw [List.getElem?_append_left hlt, hlater], hv0, hbegun⟩
    | call hold =>
      refine hset hold rfl ?_
      rintro _ ⟨⟩
      exact .inl (Nat.le_refl _)
    | answer hold hcall hasks answer hanswer =>
      refine hset hold rfl ?_
      rintro _ ⟨⟩
      exact .inr ⟨_, hcall, rfl⟩
    | finish hold | fail hold => exact hset hold rfl nofun

theorem WriterInv.later_version (h : WriterInv key s' i writer) (hpins : pins s.log < 2 ^ 64)
    (hpins' : pins s'.log < 2 ^ 64) (hlog : s.log <+: s'.log) {version : Nat} {commitment : Commitment}
    (happlied : (version, commitment) ∈ applied_pins key s.log) (hcall : writer.call = some call)
    (hbegun : s.log.length ≤ call.begun) {answered : Version} (hreturns : call.program = .ret (.ok answered)) :
    version ≤ writer.pinner.expected.val.toNat := by
  obtain ⟨hanswered, state, ⟨pos, hpos, hentry, hresult⟩, hstate⟩ := (h.call call hcall).returns hpins' hreturns
  have hprefix : s.log <+: s'.log.take pos := by
    rw [List.prefix_take_iff]
    exact ⟨hlog, Nat.le_trans hbegun hpos⟩
  obtain ⟨more, hmore⟩ := hprefix
  have hcount := pins_take_lt hentry
  have hpassed : Passed key (s'.log.take pos) version := by
    have hbefore := (applied_pins_increase hpins).2 _ happlied
    rw [← hmore] at hcount ⊢
    exact hbefore.append more (by omega)
  have hlt := hpassed.lt_of_applied (by omega) hresult
  rw [hstate] at hlt
  omega

/-- Two enclaves that share a key cannot both keep an acknowledged history. -/
theorem acknowledged_history_unshared {log : List ReplicatedOp} (hreaches : Reaches key (start log) s)
    (hpins : pins s.log < 2 ^ 64) :
    (∀ (i : Nat) (writer : Writer), s.writers[i]? = some writer →
      (pins_between key s.log writer.v0.val.toNat writer.pinner.expected.val.toNat).map Prod.snd =
        writer.oks.map Commitment.mk ∧
      writer.oks.Nodup ∧ writer.pinner.expected.val.toNat = writer.v0.val.toNat + writer.oks.length) ∧
    (∀ (i j : Nat) (writer : Writer) (commitment : Bytes32) (version : Nat), s.writers[i]? = some writer →
      writer.call = none → i ≠ j → (j, commitment) ∈ s.submitted → (version, ⟨commitment⟩) ∈ applied_pins key s.log →
      writer.v0.val.toNat < version → ∀ s', Reaches key s s' → pins s'.log < 2 ^ 64 →
        ∀ (later : Writer) (call : PinCall) (result : Except String Version), s'.writers[i]? = some later →
          later.call = some call → call.program = .ret result → ∃ message, result = .error message) := by
  have hinv := (Inv.start log).reaches hreaches hpins
  refine ⟨?_, ?_⟩
  · intro i writer hwriter
    have h := hinv.writers i writer hwriter
    exact ⟨h.pinned, h.once, h.counted⟩
  · intro i j writer commitment version hwriter hidle hne hother happlied hv0 s' hmore hpins' later call result
      hlater hcall hreturns
    cases result with
    | error message => exact ⟨message, rfl⟩
    | ok answered =>
      have hinv' := hinv.reaches hmore hpins'
      have h := hinv'.writers i later hlater
      obtain ⟨later', hlater', hv0', hbegun⟩ := later_calls hmore hwriter hidle
      rw [hlater, Option.some.injEq] at hlater'
      subst hlater'
      have hlt := h.later_version hpins hpins' (reaches_log hmore) happlied hcall (hbegun call hcall) hreturns
      -- The other's pin would be one of the enclave's own.
      obtain ⟨expected_version, state, hgrown, hversion⟩ := mem_applied_pins.mp happlied
      have happlied' := mem_applied_pins.mpr ⟨_, _, hgrown.grow (reaches_log hmore), hversion⟩
      have hown : (⟨commitment⟩ : Commitment) ∈ later.oks.map Commitment.mk := by
        rw [← h.pinned]
        exact List.mem_map_of_mem (mem_pins_between.mpr ⟨happlied', hv0' ▸ hv0, hlt⟩)
      obtain ⟨_, hmem, heq⟩ := List.mem_map.mp hown
      cases heq
      exact absurd (hinv'.submitter (h.own _ hmem) (reaches_submitted hmore _ hother)) hne

theorem reaches_pinned {commitment : Bytes32} {entry : KeyState} (hwriter : s.writers[i]? = some writer)
    (hidle : writer.call = none) (hkey : writer.pinner.key = key) (hfresh : s.Fresh key commitment)
    (hlive : (view (replay s.log)).state[key]? = some entry) (hversion : entry.version = writer.pinner.expected) :
    Reaches key s
      { log := s.log ++ [.Pin key writer.pinner.expected ⟨commitment⟩]
        writers := s.writers.set i { writer with
          pinner := { writer.pinner with expected := ⟨writer.pinner.expected.val + 1⟩ }
          oks := writer.oks ++ [commitment] }
        submitted := s.submitted ++ [(i, commitment)]
        sent := s.sent ++ [(i, writer.pinner.expected, commitment)] } := by
  obtain ⟨hlt, -⟩ := List.getElem?_eq_some_iff.mp hwriter
  have happlied : (apply_one (replay s.log) (.Pin key writer.pinner.expected ⟨commitment⟩)).1 =
      .Applied ⟨⟨commitment⟩, ⟨writer.pinner.expected.val + 1⟩, entry.control_pubkey⟩ := by
    rw [apply_one_result]
    simp only [View.apply, hlive, hversion, ne_eq, not_true_eq_false, if_false]
  subst hkey
  obtain ⟨next, hfirst, hlast⟩ := @SyncPinner.pin_with_retries_first writer.pinner commitment
  have hcalled : Reaches writer.pinner.key s _ := .single (.call hwriter hidle hfresh)
  have hsent := hcalled.tail (.send (List.getElem?_set_self hlt) rfl hfirst)
  have hcommitted := hsent.tail (.commit (List.mem_append_right _ List.mem_cons_self))
  have hanswered := hcommitted.tail (.answer (e := .rpc (.Pin writer.pinner.key writer.pinner.expected ⟨commitment⟩))
    (List.getElem?_set_self hlt) rfl hfirst
    (some (.ok (.PinOk ⟨writer.pinner.expected.val + 1⟩)))
    ⟨_, appliedSince_concat.mpr (.inr ⟨Nat.le_refl _, rfl, happlied⟩), rfl⟩)
  have hfinished := hanswered.tail (.finish (List.getElem?_set_self (by rw [List.length_set]; exact hlt)) rfl hlast)
  simp only [List.set_set] at hfinished
  rw [hidle]
  exact hfinished

namespace single_writer

def own_key : PcrKey := ⟨Vector.replicate 32 1⟩

def commitment (n : Nat) : Bytes32 := Vector.ofFn fun i => UInt8.ofNat (n / 256 ^ i.val)

def register : ReplicatedOp := .Register own_key ⟨Vector.replicate 32 255⟩ (Vector.replicate 65 4)

def pin (n : Nat) : ReplicatedOp := .Pin own_key ⟨UInt64.ofNat n⟩ ⟨commitment n⟩

def held : Nat → KeyState
  | 0 => ⟨⟨Vector.replicate 32 255⟩, ⟨0⟩, Vector.replicate 65 4⟩
  | n + 1 => ⟨⟨commitment n⟩, ⟨UInt64.ofNat (n + 1)⟩, Vector.replicate 65 4⟩

theorem held_version (n : Nat) : (held n).version = ⟨UInt64.ofNat n⟩ := by cases n <;> rfl

theorem held_succ (n : Nat) :
    held (n + 1) = ⟨⟨commitment n⟩, ⟨UInt64.ofNat n + 1⟩, Vector.replicate 65 4⟩ := by
  rw [held, UInt64.ofNat_add]
  rfl

theorem held_control_pubkey (n : Nat) : (held n).control_pubkey = Vector.replicate 65 4 := by cases n <;> rfl

theorem eq_of_bytes {k m : Nat} (hm : m < 256 ^ k) (hn : n < 256 ^ k)
    (h : ∀ i < k, m / 256 ^ i % 256 = n / 256 ^ i % 256) : m = n := by
  induction k generalizing m n with
  | zero =>
    rw [Nat.pow_zero] at hm hn
    omega
  | succ k ih =>
    rw [Nat.pow_succ'] at hm hn
    have hrest : m / 256 = n / 256 := by
      refine ih (Nat.div_lt_of_lt_mul hm) (Nat.div_lt_of_lt_mul hn) fun i hi => ?_
      rw [Nat.div_div_eq_div_mul, Nat.div_div_eq_div_mul, ← Nat.pow_succ']
      exact h (i + 1) (Nat.succ_lt_succ hi)
    have hfirst := h 0 (Nat.succ_pos k)
    rw [Nat.pow_zero, Nat.div_one, Nat.div_one] at hfirst
    omega

def Narrow (n : Nat) : Prop := n < 256 ^ 31

theorem Narrow.of_le {m : Nat} (hn : Narrow n) (hle : m ≤ n) : Narrow m := Nat.lt_of_le_of_lt hle hn

theorem commitment_injective {m : Nat} (hm : Narrow m) (hn : Narrow n) (h : commitment m = commitment n) :
    m = n := by
  refine eq_of_bytes hm hn fun i hi => ?_
  have hlt : i < 32 := Nat.lt_succ_of_lt hi
  have hget := congrArg (fun bytes : Bytes32 => bytes[i].toNat) h
  simpa [commitment] using hget

theorem commitment_ne (hn : Narrow n) : commitment n ≠ Vector.replicate 32 255 := by
  intro h
  have hget := congrArg (fun bytes : Bytes32 => bytes[31].toNat) h
  simp only [commitment, Vector.getElem_ofFn, Vector.getElem_replicate, Nat.div_eq_of_lt hn] at hget
  cases hget

theorem replay_pins (n : Nat) :
    (view (replay (register :: (List.range n).map pin))).state[own_key]? = some (held n) := by
  induction n with
  | zero => decide +kernel
  | succ n ih =>
    rw [List.range_succ, List.map_append, List.map_singleton, ← List.cons_append, replay_concat_view]
    simp only [pin, View.apply, ih, held_version, ne_eq, not_true_eq_false, if_false,
      Std.ExtTreeMap.getElem?_insert_self, held_control_pubkey, held_succ]

def pinned (n : Nat) (sent : List (Nat × Version × Bytes32)) : Fork where
  log := register :: (List.range n).map pin
  writers := [⟨⟨own_key, ⟨UInt64.ofNat n⟩, false⟩, ⟨0⟩, (List.range n).map commitment, none⟩]
  submitted := (List.range n).map fun m => (0, commitment m)
  sent

theorem pinned_succ (n : Nat) (sent : List (Nat × Version × Bytes32)) : pinned (n + 1) sent =
    { log := (pinned n sent).log ++ [pin n]
      writers := [⟨⟨own_key, ⟨UInt64.ofNat n + 1⟩, false⟩, ⟨0⟩, (List.range n).map commitment ++ [commitment n], none⟩]
      submitted := (pinned n sent).submitted ++ [(0, commitment n)]
      sent } := by
  simp only [pinned, List.range_succ, List.map_append, List.map_singleton, List.cons_append, UInt64.ofNat_add]
  rfl

theorem fresh (hn : Narrow n) (sent : List (Nat × Version × Bytes32)) :
    (pinned n sent).Fresh own_key (commitment n) := by
  have hne : ∀ m < n, commitment m ≠ commitment n := fun m hm heq =>
    Nat.ne_of_lt hm (commitment_injective (hn.of_le (Nat.le_of_lt hm)) hn heq)
  constructor
  · intro i hmem
    obtain ⟨m, hm, heq⟩ := List.mem_map.mp hmem
    obtain ⟨-, heq⟩ := Prod.mk.inj heq
    exact hne m (List.mem_range.mp hm) heq
  · rintro entry ⟨length, -, hle, hget⟩
    change (view (replay ((pinned n sent).log.take length))).state[own_key]? = some entry at hget
    cases length with
    | zero => cases hget
    | succ m =>
      have hm : m ≤ n := by simpa [pinned] using hle
      rw [pinned, List.take_succ_cons, ← List.map_take, List.take_range, Nat.min_eq_left hm, replay_pins,
        Option.some.injEq] at hget
      subst hget
      cases m with
      | zero => exact fun heq => commitment_ne hn (congrArg Commitment.bytes heq).symm
      | succ m => exact fun heq => hne m hm (congrArg Commitment.bytes heq)

theorem reaches_acknowledged (hn : Narrow n) :
    ∃ sent, Reaches own_key (start [register]) (pinned n sent) := by
  induction n with
  | zero =>
    have hheld : HeldSince [register] 0 own_key (some (held 0)) :=
      ⟨1, Nat.zero_le _, Nat.le_refl _, replay_pins 0⟩
    have hboot : Step own_key (start [register]) _ := .boot false hheld
    exact ⟨[], .single hboot⟩
  | succ n ih =>
    have hsmall := hn.of_le (Nat.le_succ n)
    obtain ⟨sent, hreaches⟩ := ih hsmall
    have hpinned := reaches_pinned (s := pinned n sent) (i := 0) rfl rfl rfl (fresh hsmall sent) (replay_pins n)
      (held_version n)
    refine ⟨sent ++ [(0, ⟨UInt64.ofNat n⟩, commitment n)], hreaches.trans ?_⟩
    rw [pinned_succ]
    exact hpinned

end single_writer

open single_writer in
/-- After `2 ^ 64` pins the enclave is back at the version it booted at, and none of them is above that. -/
theorem acknowledged_history_lost : ∃ s writer, Reaches own_key (start [register]) s ∧
    s.writers[0]? = some writer ∧ writer.oks.length = 2 ^ 64 ∧
    (pins_between own_key s.log writer.v0.val.toNat writer.pinner.expected.val.toNat).map Prod.snd = [] := by
  have hsmall : Narrow (2 ^ 64) := by unfold Narrow; decide
  obtain ⟨sent, hreaches⟩ := reaches_acknowledged hsmall
  refine ⟨_, _, hreaches, rfl, ?_, ?_⟩
  · rw [List.length_map, List.length_range]
  · have hwraps : (UInt64.ofNat (2 ^ 64)).toNat = 0 := rfl
    rw [hwraps]
    exact congrArg (List.map Prod.snd) (pins_between_self _ 0)

open single_writer in
/-- An enclave and its clone boot at one version. -/
theorem acknowledged_history_unshared_clone : ∃ s writer, Reaches own_key (start [register]) s ∧
    s.writers[0]? = some writer ∧ writer.oks = [commitment 0] ∧
    (pins_between own_key s.log 0 writer.pinner.expected.val.toNat).map Prod.snd = [⟨commitment 0⟩] ∧
    ∀ s', Reaches own_key s s' → pins s'.log < 2 ^ 64 →
      ∀ (later : Writer) (call : PinCall) (result : Except String Version), s'.writers[1]? = some later →
        later.call = some call → call.program = .ret result → ∃ message, result = .error message := by
  have hheld : HeldSince [register] 0 own_key (some (held 0)) :=
    ⟨1, Nat.zero_le _, Nat.le_refl _, replay_pins 0⟩
  have hfirst : Reaches own_key (start [register]) _ := .single (.boot false hheld)
  have hclone := hfirst.tail (.boot true hheld)
  have hsmall : Narrow 0 := by unfold Narrow; decide
  have hfresh := fresh hsmall []
  have hpinned := hclone.trans (reaches_pinned (i := 0) rfl rfl rfl hfresh (replay_pins 0) rfl)
  have hpins : pins [register, pin 0] < 2 ^ 64 := by decide
  obtain ⟨hown, hshut⟩ := acknowledged_history_unshared hpinned hpins
  obtain ⟨hpins_own, -, -⟩ := hown 0 _ rfl
  have hmem : (⟨commitment 0⟩ : Commitment) ∈ List.map Commitment.mk [commitment 0] := List.mem_cons_self
  rw [← List.nil_append [commitment 0]] at hmem
  obtain ⟨⟨version, _⟩, hbetween, rfl⟩ := List.mem_map.mp (hpins_own ▸ hmem)
  obtain ⟨happlied, hlow, -⟩ := mem_pins_between.mp hbetween
  exact ⟨_, _, hpinned, rfl, rfl, hpins_own, hshut 1 0 _ (commitment 0) version rfl rfl (by decide)
    List.mem_cons_self happlied hlow⟩

end Fork

end enclavia.nbd_client
