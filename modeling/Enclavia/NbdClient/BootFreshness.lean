import Mathlib.Logic.Relation
import Enclavia.NbdClient.Boot
import Enclavia.Synchronizer.Raft.TransitionAuthenticity

open interaction enclavia.protocol enclavia.synchronizer enclavia.synchronizer.wire enclavia.synchronizer.raft

namespace enclavia.nbd_client

variable {DateTime : Type} {lib : LinkLibrary DateTime} {key : PcrKey} {region : List UInt8} {role : ImageRole}
  {trace : List SessionEvent} {version : Version}
  {result : Except ClientError (Commitment × Version)} {commitment : Bytes32}

theorem region_is_blank_iff : region_is_blank region = true ↔ ∀ byte ∈ region, byte = 0 := by
  simp [region_is_blank]

theorem get_outcome_found :
    get_outcome result = .ok (.Found commitment version) ↔ result = .ok (⟨commitment⟩, version) := by
  constructor
  · intro h
    unfold get_outcome at h
    split at h <;> cases h
    rfl
  · rintro rfl
    rfl

theorem get_outcome_not_found :
    get_outcome result = .ok .NotFound ↔ result = .error (.Rpc .NotFound) := by
  constructor
  · intro h
    unfold get_outcome at h
    split at h <;> cases h
    rfl
  · rintro rfl
    rfl

def Targets (lib : LinkLibrary DateTime) (key : PcrKey) (link : ChainLink) : Prop :=
  link.kind = .Upgrade ∧
    ∃ payload, decode_canonical lib.upgrades link.payload = .ok payload ∧ (⟨payload.to.key⟩ : PcrKey) = key

theorem usable_link_ok {reason : String} {fetched : Option ChainLink} {link : ChainLink} :
    usable_link lib key reason fetched = .ok link ↔ fetched = some link ∧ Targets lib key link := by
  cases fetched with
  | none => simp [usable_link]
  | some fetched =>
    simp only [usable_link, Option.some.injEq]
    constructor
    · intro h
      split at h
      · cases h
      · next hkind =>
        split at h
        · next payload hpayload =>
          split at h
          · next hkey =>
            cases h
            exact ⟨rfl, not_not.mp hkind, payload, hpayload, hkey⟩
          · cases h
        · cases h
    · rintro ⟨rfl, hkind, payload, hpayload, hkey⟩
      rw [if_neg (not_not.mpr hkind), hpayload]
      simp only [hkey, if_true]

theorem reverify_ok {result : Option (Except ClientError (Commitment × Version))} :
    reverify region result = .ok version ↔ result = some (.ok (⟨commitment_of_region region⟩, version)) := by
  cases result with
  | none => simp [reverify]
  | some result =>
    simp only [reverify, Option.some.injEq]
    constructor
    · intro h
      split at h
      · cases h
      · next outcome houtcome =>
        cases outcome with
        | NotFound =>
          cases hblank : region_is_blank region <;> simp [boot_decision, hblank] at h
        | Found commitment found =>
          simp only [boot_decision] at h
          by_cases hmatch : commitment_of_region region = commitment
          · simp only [hmatch, if_true] at h
            cases h
            rw [get_outcome_found.mp houtcome, hmatch]
          · simp only [hmatch, if_false] at h
            cases h
    · rintro rfl
      simp [get_outcome, boot_decision]

def found (key : PcrKey) (commitment : Commitment) (version : Version) : SessionEvent :=
  ⟨.rpc (.Get key), some (.ok (.GetOk commitment version))⟩

def not_found (key : PcrKey) : SessionEvent := ⟨.rpc (.Get key), some (.ok (.Err .NotFound))⟩

theorem disambiguate_conflict_returns_ok :
    (disambiguate_conflict key commitment).Returns trace (.ok version) ↔
      trace = [found key ⟨commitment⟩ version] := by
  rw [found, ← Client.get_returns_ok, disambiguate_conflict, Program.returns_bind]
  constructor
  · rintro ⟨first, second, result, rfl, hget, hrest⟩
    match result with
    | none => cases (Program.returns_ret.mp hrest).2
    | some (.error error) => cases (Program.returns_ret.mp hrest).2
    | some (.ok (current, found)) =>
      simp only at hrest
      split at hrest
      · next hcurrent =>
        obtain ⟨rfl, hfound⟩ := Program.returns_ret.mp hrest
        cases hfound
        rw [List.append_nil, ← hcurrent]
        exact hget
      · cases (Program.returns_ret.mp hrest).2
  · intro hget
    refine ⟨trace, [], _, (List.append_nil _).symm, hget, ?_⟩
    simp only [if_true]
    exact .nil _

theorem register_fresh_returns_ok :
    (register_fresh key region).Returns trace (.ok version) ↔ version = ⟨0⟩ ∧
      (trace = [⟨.rpc (.Register key ⟨commitment_of_region region⟩), some (.ok .RegisterOk)⟩] ∨
        trace = [⟨.rpc (.Register key ⟨commitment_of_region region⟩), some (.ok (.Err .AlreadyRegistered))⟩,
          found key ⟨commitment_of_region region⟩ ⟨0⟩]) := by
  rw [register_fresh, Program.returns_bind]
  constructor
  · rintro ⟨first, second, result, rfl, hregister, hrest⟩
    split at hrest
    · cases (Program.returns_ret.mp hrest).2
    · obtain ⟨rfl, hversion⟩ := Program.returns_ret.mp hrest
      obtain ⟨answer, rfl, hok⟩ := Client.call_returns.mp hregister
      obtain ⟨response, rfl, -, haccept⟩ := Client.result_ok.mp hok
      cases response <;> cases haccept
      cases hversion
      exact ⟨rfl, .inl rfl⟩
    · obtain rfl := Client.call_returns_rpc.mp hregister
      obtain ⟨first, second, result, rfl, hget, hdone⟩ := Program.returns_bind.mp hrest
      cases result with
      | error failure => cases (Program.returns_ret.mp hdone).2
      | ok current =>
        obtain rfl := disambiguate_conflict_returns_ok.mp hget
        by_cases hcurrent : current = ⟨0⟩
        · subst hcurrent
          obtain ⟨rfl, hversion⟩ := Program.returns_ret.mp hdone
          cases hversion
          exact ⟨rfl, .inr rfl⟩
        · simp only [ne_eq, hcurrent, not_false_eq_true, if_true] at hdone
          cases (Program.returns_ret.mp hdone).2
    · cases (Program.returns_ret.mp hrest).2
  · rintro ⟨rfl, rfl | rfl⟩
    · exact ⟨[_], [], _, rfl, Client.call_returns.mpr ⟨_, rfl, rfl⟩, .nil _⟩
    · refine ⟨[_], [_], _, rfl, Client.call_returns_rpc.mpr rfl, ?_⟩
      exact Program.returns_bind.mpr ⟨[_], [], _, rfl, disambiguate_conflict_returns_ok.mpr rfl, .nil _⟩

theorem transition_and_reverify_returns_ok {reason : String} :
    (transition_and_reverify lib key region reason).Returns trace (.ok version) ↔
      ∃ link carried, Targets lib key link ∧
        trace = [⟨.upgrade_link, some link⟩,
          ⟨.rpc (.Transition link ⟨commitment_of_region region⟩), some (.ok (.TransitionOk carried))⟩,
          found key ⟨commitment_of_region region⟩ version] := by
  rw [transition_and_reverify, Program.returns_act]
  constructor
  · rintro ⟨fetched, rest, rfl, hrest⟩
    split at hrest
    · cases (Program.returns_ret.mp hrest).2
    · next link hlink =>
      obtain ⟨rfl, htargets⟩ := usable_link_ok.mp hlink
      obtain ⟨first, second, result, rfl, htransition, hreverify⟩ := Program.returns_bind.mp hrest
      split at hreverify
      · cases (Program.returns_ret.mp hreverify).2
      · cases (Program.returns_ret.mp hreverify).2
      · next carried =>
        obtain ⟨answer, rfl, hok⟩ := Client.call_returns.mp htransition
        obtain ⟨response, rfl, -, haccept⟩ := Client.result_ok.mp hok
        cases response <;> cases haccept
        obtain ⟨first, second, result, rfl, hget, hdone⟩ := Program.returns_bind.mp hreverify
        obtain ⟨rfl, hresult⟩ := Program.returns_ret.mp hdone
        obtain rfl := reverify_ok.mp hresult
        obtain rfl := Client.get_returns_ok.mp hget
        exact ⟨link, carried, htargets, rfl⟩
  · rintro ⟨link, carried, htargets, rfl⟩
    refine ⟨some link, _, rfl, ?_⟩
    simp only [usable_link_ok.mpr ⟨rfl, htargets⟩]
    refine Program.returns_bind.mpr ⟨[_], [_], some (.ok carried), rfl, Client.call_returns.mpr ⟨_, rfl, rfl⟩, ?_⟩
    refine Program.returns_bind.mpr ⟨[_], [], _, rfl, Client.get_returns_ok.mpr rfl, ?_⟩
    exact Program.returns_ret.mpr ⟨rfl, reverify_ok.mpr rfl⟩

inductive Accepted (lib : LinkLibrary DateTime) (key : PcrKey) (region : List UInt8) (role : ImageRole) :
    List SessionEvent → Version → Prop
  | current {version : Version} :
      Accepted lib key region role [found key ⟨commitment_of_region region⟩ version] version
  | registered (hblank : region_is_blank region = true) (hrole : role = .Genesis) :
      Accepted lib key region role
        [not_found key, ⟨.rpc (.Register key ⟨commitment_of_region region⟩), some (.ok .RegisterOk)⟩] ⟨0⟩
  | registered_before (hblank : region_is_blank region = true) (hrole : role = .Genesis) :
      Accepted lib key region role
        [not_found key,
          ⟨.rpc (.Register key ⟨commitment_of_region region⟩), some (.ok (.Err .AlreadyRegistered))⟩,
          found key ⟨commitment_of_region region⟩ ⟨0⟩] ⟨0⟩
  | transitioned {link : ChainLink} {carried version : Version}
      (hunpinned : region_is_blank region = false ∨ role = .UpgradeTarget) (htargets : Targets lib key link) :
      Accepted lib key region role
        [not_found key, ⟨.upgrade_link, some link⟩,
          ⟨.rpc (.Transition link ⟨commitment_of_region region⟩), some (.ok (.TransitionOk carried))⟩,
          found key ⟨commitment_of_region region⟩ version] version

theorem boot_decision_not_found :
    (region_is_blank region = true ∧ role = .Genesis ∧
      boot_decision region .NotFound role = .RegisterThenServe) ∨
    ((region_is_blank region = false ∨ role = .UpgradeTarget) ∧
      ∃ reason, boot_decision region .NotFound role = .TransitionOrFailStop reason) := by
  cases hblank : region_is_blank region <;> cases role <;> simp [boot_decision, hblank]

theorem verify_or_register_returns_ok :
    (verify_or_register lib key region role).Returns trace (.ok version) ↔
      Accepted lib key region role trace version := by
  rw [verify_or_register, Program.returns_bind]
  constructor
  · rintro ⟨first, second, result, rfl, hget, hrest⟩
    cases result with
    | none => cases (Program.returns_ret.mp hrest).2
    | some result =>
      cases houtcome : get_outcome result with
      | error error =>
        simp only [houtcome] at hrest
        cases (Program.returns_ret.mp hrest).2
      | ok outcome =>
        simp only [houtcome] at hrest
        cases outcome with
        | Found commitment current =>
          obtain rfl := get_outcome_found.mp houtcome
          obtain rfl := Client.get_returns_ok.mp hget
          by_cases hmatch : commitment_of_region region = commitment
          · subst hmatch
            simp only [boot_decision, if_true] at hrest
            obtain ⟨rfl, hversion⟩ := Program.returns_ret.mp hrest
            cases hversion
            exact .current
          · simp only [boot_decision, hmatch, if_false] at hrest
            cases (Program.returns_ret.mp hrest).2
        | NotFound =>
          obtain rfl := get_outcome_not_found.mp houtcome
          obtain rfl := Client.call_returns_rpc.mp hget
          obtain ⟨hblank, hrole, hdecision⟩ | ⟨hunpinned, reason, hdecision⟩ :=
            @boot_decision_not_found region role
          · simp only [hdecision] at hrest
            obtain ⟨rfl, rfl | rfl⟩ := register_fresh_returns_ok.mp hrest
            · exact .registered hblank hrole
            · exact .registered_before hblank hrole
          · simp only [hdecision] at hrest
            obtain ⟨link, carried, htargets, rfl⟩ := transition_and_reverify_returns_ok.mp hrest
            exact .transitioned hunpinned htargets
  · have hregisters : region_is_blank region = true → role = .Genesis →
        boot_decision region .NotFound role = .RegisterThenServe := by
      rintro hblank rfl
      simp [boot_decision, hblank]
    rintro (_ | ⟨hblank, hrole⟩ | ⟨hblank, hrole⟩ | ⟨hunpinned, htargets⟩)
    · refine ⟨[_], [], _, rfl, Client.get_returns_ok.mpr rfl, ?_⟩
      simp only [get_outcome, boot_decision, if_true]
      exact .nil _
    · refine ⟨[_], [_], _, rfl, Client.call_returns_rpc.mpr rfl, ?_⟩
      simp only [get_outcome, hregisters hblank hrole]
      exact register_fresh_returns_ok.mpr ⟨rfl, .inl rfl⟩
    · refine ⟨[_], [_, _], _, rfl, Client.call_returns_rpc.mpr rfl, ?_⟩
      simp only [get_outcome, hregisters hblank hrole]
      exact register_fresh_returns_ok.mpr ⟨rfl, .inr rfl⟩
    · refine ⟨[_], [_, _, _], _, rfl, Client.call_returns_rpc.mpr rfl, ?_⟩
      obtain ⟨hblank, hrole, -⟩ | ⟨-, reason, hdecision⟩ := @boot_decision_not_found region role
      · rcases hunpinned with hunpinned | hunpinned
        · rw [hblank] at hunpinned
          cases hunpinned
        · rw [hrole] at hunpinned
          cases hunpinned
      · simp only [get_outcome, hdecision]
        exact transition_and_reverify_returns_ok.mpr ⟨_, _, htargets, rfl⟩

def RegistersFresh (key : PcrKey) (region : List UInt8) (role : ImageRole) (history : List SessionEvent)
    (effect : SessionEffect) : Prop :=
  ∀ named commitment, effect = .rpc (.Register named commitment) →
    named = key ∧ commitment = ⟨commitment_of_region region⟩ ∧ region_is_blank region = true ∧
      role = .Genesis ∧ history = [not_found key]

theorem verify_or_register_asks :
    (verify_or_register lib key region role).Asks (RegistersFresh key region role) [] := by
  have hother : ∀ {effect : SessionEffect} {history : List SessionEvent},
      (∀ named commitment, effect ≠ .rpc (.Register named commitment)) →
        RegistersFresh key region role history effect :=
    fun hne named commitment heq => absurd heq (hne named commitment)
  have hcall : ∀ {α : Type} {request : Request} {expected : String} {accept : Response → Option α}
      {history : List SessionEvent}, RegistersFresh key region role history (.rpc request) →
        (Client.call request expected accept).Asks (RegistersFresh key region role) history :=
    fun h => ⟨h, fun _ => trivial⟩
  refine Program.Asks.bind (hcall (hother nofun)) ?_
  intro trace result hget
  cases result with
  | none => trivial
  | some result =>
    cases houtcome : get_outcome result with
    | error error =>
      simp only [houtcome]
      trivial
    | ok outcome =>
      simp only [houtcome]
      cases outcome with
      | Found commitment current =>
        by_cases hmatch : commitment_of_region region = commitment <;>
          simp only [boot_decision, hmatch, if_true, if_false] <;> trivial
      | NotFound =>
        obtain rfl := get_outcome_not_found.mp houtcome
        obtain rfl := Client.call_returns_rpc.mp hget
        obtain ⟨hblank, hrole, hdecision⟩ | ⟨-, reason, hdecision⟩ := @boot_decision_not_found region role
        · simp only [hdecision]
          refine Program.Asks.bind (hcall ?_) ?_
          · rintro named commitment ⟨⟩
            exact ⟨rfl, rfl, hblank, hrole, rfl⟩
          · intro trace result _
            split
            · trivial
            · trivial
            · refine Program.Asks.bind (Program.Asks.bind (hcall (hother nofun)) ?_) ?_
              · intro _ result _
                split
                · split <;> trivial
                · trivial
                · trivial
              · intro _ result _
                split
                · trivial
                · split <;> trivial
            · trivial
        · simp only [hdecision]
          refine ⟨hother nofun, fun fetched => ?_⟩
          dsimp only
          split
          · trivial
          · refine Program.Asks.bind (hcall (hother nofun)) ?_
            intro _ result _
            split
            · trivial
            · trivial
            · exact Program.Asks.bind (hcall (hother nofun)) fun _ _ _ => trivial

/-- A boot at work: the committed log, which other sessions extend, its length when the boot asked for its
present effect, and the events so far. -/
structure Booting where
  log : List ReplicatedOp
  asked : Nat
  program : SessionProc (Except String Version)
  trace : List SessionEvent

namespace Booting

def start (lib : LinkLibrary DateTime) (key : PcrKey) (region : List UInt8) (role : ImageRole)
    (log : List ReplicatedOp) : Booting where
  log
  asked := log.length
  program := verify_or_register lib key region role
  trace := []

inductive Step : Booting → Booting → Prop
  | commit {s : Booting} (op : ReplicatedOp) : Step s { s with log := s.log ++ [op] }
  | answer {s : Booting} {e : SessionEffect} {next : SessionAnswer e → SessionProc (Except String Version)}
      (hasks : s.program = .act e next) (answer : SessionAnswer e) (hanswer : Linearizable s.log s.asked e answer) :
      Step s { s with asked := s.log.length, program := next answer, trace := s.trace ++ [⟨e, answer⟩] }

def Reaches : Booting → Booting → Prop := Relation.ReflTransGen Step

variable {log : List ReplicatedOp} {s s' : Booting}

/-- What holds while a boot is at work: every answer it got is that of a linearizable oracle during the
boot. -/
structure Inv (lib : LinkLibrary DateTime) (key : PcrKey) (region : List UInt8) (role : ImageRole)
    (log : List ReplicatedOp) (s : Booting) : Prop where
  run : (verify_or_register lib key region role).Run s.trace s.program
  asked : log.length ≤ s.asked ∧ s.asked ≤ s.log.length
  answers : ∀ event ∈ s.trace, ∃ since, log.length ≤ since ∧ Linearizable s.log since event.1 event.2

theorem Inv.start : Inv lib key region role log (start lib key region role log) where
  run := .nil _
  asked := ⟨Nat.le_refl _, Nat.le_refl _⟩
  answers := fun _ hmem => absurd hmem List.not_mem_nil

theorem Inv.step (hinv : Inv lib key region role log s) (hstep : Step s s') : Inv lib key region role log s' := by
  cases hstep with
  | commit op =>
    have hlog : s.log <+: s.log ++ [op] := List.prefix_append _ _
    refine ⟨hinv.run, ⟨hinv.asked.1, Nat.le_trans hinv.asked.2 hlog.length_le⟩, ?_⟩
    intro event hmem
    obtain ⟨since, hsince, hanswer⟩ := hinv.answers event hmem
    exact ⟨since, hsince, hanswer.grow hlog⟩
  | answer hasks answer hanswer =>
    refine ⟨?_, ⟨Nat.le_trans hinv.asked.1 hinv.asked.2, Nat.le_refl _⟩, ?_⟩
    · have hrun := hinv.run
      rw [hasks] at hrun
      exact hrun.snoc answer
    · intro event hmem
      rcases List.mem_append.mp hmem with hmem | hmem
      · exact hinv.answers event hmem
      · rw [List.mem_singleton.mp hmem]
        exact ⟨s.asked, hinv.asked.1, hanswer⟩

theorem Inv.reaches (hreaches : Reaches (Booting.start lib key region role log) s) :
    Inv lib key region role log s := by
  induction hreaches with
  | refl => exact .start
  | tail _ hstep ih => exact ih.step hstep

theorem Inv.held (hinv : Inv lib key region role log s)
    (haccepted : Accepted lib key region role s.trace version) :
    ∃ control_pubkey, HeldSince s.log log.length key
      (some ⟨⟨commitment_of_region region⟩, version, control_pubkey⟩) := by
  have hfound : ∀ version, found key ⟨commitment_of_region region⟩ version ∈ s.trace → ∃ control_pubkey,
      HeldSince s.log log.length key (some ⟨⟨commitment_of_region region⟩, version, control_pubkey⟩) := by
    intro version hmem
    obtain ⟨since, hsince, control_pubkey, n, hn, hheld⟩ := hinv.answers _ hmem
    exact ⟨control_pubkey, n, Nat.le_trans hsince hn, hheld⟩
  generalize htrace : s.trace = trace at haccepted
  cases haccepted with
  | current | transitioned => exact hfound version (by simp [htrace])
  | registered =>
    have hmem : (⟨.rpc (.Register key ⟨commitment_of_region region⟩), some (.ok .RegisterOk)⟩ : SessionEvent) ∈
        s.trace := by simp [htrace]
    obtain ⟨since, hsince, control_pubkey, state, pos, hpos, hentry, happlied⟩ := hinv.answers _ hmem
    have hstate : state = ⟨⟨commitment_of_region region⟩, ⟨0⟩, control_pubkey⟩ := by
      rw [apply_one_result] at happlied
      have happlies := View.apply_applied happlied
      generalize ((view (replay (s.log.take pos))).apply _).2 = after at happlies
      cases happlies
      rfl
    subst hstate
    exact ⟨control_pubkey, AppliedSince.held ⟨pos, Nat.le_trans hsince hpos, hentry, happlied⟩ (.inl ⟨_, _, rfl⟩)⟩
  | registered_before => exact hfound ⟨0⟩ (by simp [htrace])

/-- A boot serves no volume that is rolled back. -/
theorem serves_only_the_pinned_volume
    (hreaches : Reaches (Booting.start lib key region role log) s) :
    (∀ version, s.program = .ret (.ok version) →
      ∃ n state, log.length ≤ n ∧ n ≤ s.log.length ∧ (replay (s.log.take n)).get key = some state ∧
        state.version = version ∧ state.commitment = ⟨crypto.sha256 region⟩) ∧
    (∀ named commitment next, s.program = .act (.rpc (.Register named commitment)) next →
      named = key ∧ commitment = ⟨crypto.sha256 region⟩ ∧ (∀ byte ∈ region, byte = 0) ∧ role = .Genesis ∧
        s.trace = [⟨.rpc (.Get key), some (.ok (.Err .NotFound))⟩]) ∧
    (∀ trace version, (verify_or_register lib key region role).Returns trace (.ok version) ↔
      Accepted lib key region role trace version) := by
  have hinv := Inv.reaches hreaches
  refine ⟨?_, ?_, fun _ _ => verify_or_register_returns_ok⟩
  · intro version hreturns
    have hrun := hinv.run
    rw [hreturns] at hrun
    obtain ⟨control_pubkey, n, hsince, hle, hget⟩ := hinv.held (verify_or_register_returns_ok.mp hrun)
    exact ⟨n, _, hsince, hle, hget, rfl, rfl⟩
  · intro named commitment next hasks
    have hrun := hinv.run
    rw [hasks] at hrun
    obtain ⟨hnamed, hcommitment, hblank, hrole, htrace⟩ :=
      verify_or_register_asks.of_run_act hrun named commitment rfl
    exact ⟨hnamed, hcommitment, region_is_blank_iff.mp hblank, hrole, htrace⟩

/-- The first boot of an enclave, on a blank volume. -/
theorem serves_only_the_pinned_volume_fresh :
    ∃ s, Reaches (start sample.link_library sample.new_key (List.replicate SB_REGION_LEN 0) .Genesis []) s ∧
      s.program = .ret (.ok ⟨0⟩) ∧ ∃ n state, n ≤ s.log.length ∧
        (replay (s.log.take n)).get sample.new_key = some state ∧
        state.commitment = ⟨crypto.sha256 (List.replicate SB_REGION_LEN 0)⟩ := by
  have hblank : region_is_blank (List.replicate SB_REGION_LEN 0) = true := by simp [region_is_blank]
  have hnext : ∃ next, verify_or_register sample.link_library sample.new_key (List.replicate SB_REGION_LEN 0)
      .Genesis = .act (.rpc (.Get sample.new_key)) next ∧
      next (some (.ok (.Err .NotFound))) = register_fresh sample.new_key (List.replicate SB_REGION_LEN 0) :=
    ⟨_, rfl, by simp [Program.bind, Client.result, get_outcome, boot_decision, hblank]⟩
  obtain ⟨next, hget, hregister⟩ := hnext
  let commitment := commitment_of_region (List.replicate SB_REGION_LEN 0)
  have happlied : (apply_one (replay []) (.Register sample.new_key ⟨commitment⟩ (Vector.replicate 65 4))).1 =
      .Applied ⟨⟨commitment⟩, ⟨0⟩, Vector.replicate 65 4⟩ := by
    rw [apply_one_result]
    simp [View.apply, replay, StateMachine.new]
  have hread : Reaches (start sample.link_library sample.new_key (List.replicate SB_REGION_LEN 0) .Genesis []) _ :=
    .single (.answer (e := .rpc (.Get sample.new_key)) hget (some (.ok (.Err .NotFound)))
      ⟨0, Nat.le_refl _, Nat.le_refl _, Std.ExtTreeMap.getElem?_empty⟩)
  have hcommitted := hread.tail (.commit (.Register sample.new_key ⟨commitment⟩ (Vector.replicate 65 4)))
  have hregistered := hcommitted.tail (.answer (e := .rpc (.Register sample.new_key ⟨commitment⟩)) hregister
    (some (.ok .RegisterOk)) ⟨_, _, 0, Nat.le_refl _, rfl, happlied⟩)
  obtain ⟨n, state, -, hle, hstate, -, hcommitment⟩ := (serves_only_the_pinned_volume hregistered).1 ⟨0⟩ rfl
  exact ⟨_, hregistered, rfl, n, state, hle, hstate, hcommitment⟩

end Booting

end enclavia.nbd_client
