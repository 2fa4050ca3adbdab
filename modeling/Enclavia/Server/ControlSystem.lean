import Enclavia.Server.Control
import Mathlib.Data.List.Nodup
import Mathlib.Logic.Function.Basic
import Mathlib.Logic.Relation

open interaction enclavia.protocol

namespace enclavia.server

/-- A connection: its port, what is left of its round, and how far it is with a control message. -/
structure Connection where
  kind : ChannelKind
  program : ControlProc Bool
  stage : ControlStage

/-- A command that was dispatched, with the connection and how far that was: the message it had received and the
nonce it had taken. -/
structure Dispatch where
  connection : Nat
  stage : ControlStage
  command : ControlCommand

/-- The server: the control nonce, its connections by number, and the world outside, which the work on commands and on
other messages may change. -/
structure Server (World : Type) where
  nonce : Nonce
  connections : Nat → Option Connection
  world : World
  drawn : List Nonce
  taken : List (Nat × Nonce)
  dispatched : List Dispatch

variable {World : Type} (codec : Codec ControlCommand) (control_pubkey : Option VerifyingKey)

def Server.new (nonce : Nonce) (world : World) : Server World where
  nonce := nonce
  connections := fun _ => none
  world := world
  drawn := [nonce]
  taken := []
  dispatched := []

inductive Performs (s : Server World) (i : Nat) (stage : ControlStage) :
    (effect : ControlEffect) → ControlAnswer effect → Server World → Prop
  | receive {message : Option (ClientMessage (List UInt8))} : Performs s i stage .receive message s
  | control_nonce : Performs s i stage .control_nonce s.nonce s
  | take_nonce {fresh : Nonce} (hfresh : fresh ∉ s.drawn) :
      Performs s i stage .take_nonce s.nonce
        { s with nonce := fresh, drawn := fresh :: s.drawn, taken := s.taken ++ [(i, s.nonce)] }
  | attest {nonce : Nonce} {answer : Except String (List UInt8)} : Performs s i stage (.attest nonce) answer s
  | dispatch {command : ControlCommand} {answer : Bool × String} {world : World} :
      Performs s i stage (.dispatch command) answer
        { s with world := world, dispatched := s.dispatched ++ [⟨i, stage, command⟩] }
  | serve {message : ClientMessage (List UInt8)} {answer : Bool} {world : World} :
      Performs s i stage (.serve message) answer { s with world := world }
  | send {reply : Plaintext (List UInt8)} {answer : Bool} : Performs s i stage (.send reply) answer s

/-- One step of the server: a connection is opened, or one of them has one of its effects or goes to its next round. -/
inductive Server.Step (s : Server World) : Server World → Prop
  | connect {i : Nat} {kind : ChannelKind} (hfree : s.connections i = none) :
      Step s { s with
        connections := Function.update s.connections i
          (some ⟨kind, client_round codec control_pubkey kind, .idle⟩) }
  | act {i : Nat} {c : Connection} {e : ControlEffect} {k : ControlAnswer e → ControlProc Bool} {a : ControlAnswer e}
      {t : Server World} (hconnection : s.connections i = some c) (hprogram : c.program = .act e k)
      (hperforms : Performs s i c.stage e a t) :
      Step s { t with
        connections := Function.update t.connections i (some { c with program := k a, stage := c.stage.advance e a }) }
  | again {i : Nat} {c : Connection} (hconnection : s.connections i = some c) (hprogram : c.program = .ret true) :
      Step s { s with
        connections := Function.update s.connections i
          (some { c with program := client_round codec control_pubkey c.kind }) }

def Server.Reaches (nonce : Nonce) (world : World) : Server World → Prop :=
  Relation.ReflTransGen (Server.Step codec control_pubkey) (Server.new nonce world)

/-- The nonces that are out of use: each was taken once, by a connection on the control port, and dispatched at most
once, by the connection that took it. -/
structure Server.Inv (s : Server World) : Prop where
  follows : ∀ i c, s.connections i = some c → c.program.Follows (ControlStage.protocol codec control_pubkey c.kind)
    (fun stage again => again = true → stage = .idle) c.stage
  drawn : s.nonce ∈ s.drawn ∧ ∀ entry ∈ s.taken, entry.2 ∈ s.drawn
  current : ∀ entry ∈ s.taken, entry.2 ≠ s.nonce
  taken_once : (s.taken.map Prod.snd).Nodup
  control : ∀ entry ∈ s.taken, ∃ c, s.connections entry.1 = some c ∧ c.kind = .Control
  held : ∀ i c payload signature expected, s.connections i = some c →
    c.stage = .taken payload signature expected → (i, expected) ∈ s.taken ∧
      ∀ dispatch ∈ s.dispatched, dispatch.command.nonce ≠ expected
  dispatched : ∀ dispatch ∈ s.dispatched, (dispatch.connection, dispatch.command.nonce) ∈ s.taken ∧
    ∃ payload signature, dispatch.stage = .taken payload signature dispatch.command.nonce ∧
      Authorised codec control_pubkey payload signature dispatch.command
  dispatched_once : (s.dispatched.map fun dispatch => dispatch.command.nonce).Nodup

namespace Server

variable {codec control_pubkey} {s t s' : Server World} {i : Nat} {c : Connection} {world : World}
  {program : ControlProc Bool} {stage : ControlStage}

theorem Inv.new (nonce : Nonce) (world : World) : Inv codec control_pubkey (Server.new nonce world) where
  follows := nofun
  drawn := ⟨List.mem_singleton_self _, nofun⟩
  current := nofun
  taken_once := .nil
  control := nofun
  held := nofun
  dispatched := nofun
  dispatched_once := .nil

theorem Inv.set (hinv : Inv codec control_pubkey s) (hkind : ∀ c', s.connections i = some c' → c'.kind = c.kind)
    (hfollows : program.Follows (ControlStage.protocol codec control_pubkey c.kind)
      (fun stage again => again = true → stage = .idle) stage)
    (hheld : ∀ payload signature expected, stage = .taken payload signature expected → (i, expected) ∈ s.taken ∧
      ∀ dispatch ∈ s.dispatched, dispatch.command.nonce ≠ expected) :
    Inv codec control_pubkey { s with
      connections := Function.update s.connections i (some ⟨c.kind, program, stage⟩) } := by
  have hget {j : Nat} {d : Connection}
      (hd : Function.update s.connections i (some ⟨c.kind, program, stage⟩) j = some d) :
      j = i ∧ d = ⟨c.kind, program, stage⟩ ∨ s.connections j = some d := by
    by_cases hj : j = i
    · subst hj
      rw [Function.update_self] at hd
      exact .inl ⟨rfl, (Option.some.inj hd).symm⟩
    · rw [Function.update_of_ne hj] at hd
      exact .inr hd
  refine { hinv with follows := ?_, control := ?_, held := ?_ }
  · intro j d hd
    rcases hget hd with ⟨rfl, rfl⟩ | hd
    · exact hfollows
    · exact hinv.follows j d hd
  · intro entry hentry
    obtain ⟨d, hd, hcontrol⟩ := hinv.control entry hentry
    by_cases hj : entry.1 = i
    · rw [hj] at hd ⊢
      exact ⟨⟨c.kind, program, stage⟩, Function.update_self .., (hkind d hd).symm.trans hcontrol⟩
    · exact ⟨d, (Function.update_of_ne hj ..).trans hd, hcontrol⟩
  · intro j d payload signature expected hd hstage
    rcases hget hd with ⟨rfl, rfl⟩ | hd
    · exact hheld payload signature expected hstage
    · exact hinv.held j d payload signature expected hd hstage

theorem Inv.take {fresh : Nonce} (hinv : Inv codec control_pubkey s) (hconnection : s.connections i = some c)
    (hkind : c.kind = .Control) (hfresh : fresh ∉ s.drawn) :
    Inv codec control_pubkey { s with
      nonce := fresh, drawn := fresh :: s.drawn, taken := s.taken ++ [(i, s.nonce)] } := by
  have hmem {entry : Nat × Nonce} (hentry : entry ∈ s.taken ++ [(i, s.nonce)]) :
      entry ∈ s.taken ∨ entry = (i, s.nonce) := by
    rwa [List.mem_append, List.mem_singleton] at hentry
  have hdrawn {entry : Nat × Nonce} (hentry : entry ∈ s.taken ++ [(i, s.nonce)]) : entry.2 ∈ s.drawn := by
    rcases hmem hentry with hentry | rfl
    · exact hinv.drawn.2 entry hentry
    · exact hinv.drawn.1
  refine { hinv with drawn := ?_, current := ?_, taken_once := ?_, control := ?_, held := ?_, dispatched := ?_ }
  · exact ⟨List.mem_cons_self, fun entry hentry => List.mem_cons_of_mem _ (hdrawn hentry)⟩
  · rintro entry hentry rfl
    exact hfresh (hdrawn hentry)
  · rw [List.map_append, List.nodup_append]
    refine ⟨hinv.taken_once, List.nodup_singleton _, ?_⟩
    rintro nonce hnonce other hother rfl
    obtain ⟨entry, hentry, rfl⟩ := List.mem_map.mp hnonce
    exact hinv.current entry hentry (List.mem_singleton.mp hother)
  · intro entry hentry
    rcases hmem hentry with hentry | rfl
    · exact hinv.control entry hentry
    · exact ⟨c, hconnection, hkind⟩
  · intro j d payload signature expected hd hstage
    obtain ⟨htaken, hunused⟩ := hinv.held j d payload signature expected hd hstage
    exact ⟨List.mem_append_left _ htaken, hunused⟩
  · intro dispatch hdispatch
    obtain ⟨htaken, hauthorised⟩ := hinv.dispatched dispatch hdispatch
    exact ⟨List.mem_append_left _ htaken, hauthorised⟩

theorem Inv.dispatch {payload signature : List UInt8} {command : ControlCommand} (hinv : Inv codec control_pubkey s)
    (htaken : (i, command.nonce) ∈ s.taken)
    (hunused : ∀ dispatch ∈ s.dispatched, dispatch.command.nonce ≠ command.nonce)
    (hunheld : ∀ j d payload signature expected, s.connections j = some d →
      d.stage = .taken payload signature expected → command.nonce ≠ expected)
    (hauthorised : Authorised codec control_pubkey payload signature command) :
    Inv codec control_pubkey { s with
      world := world
      dispatched := s.dispatched ++ [⟨i, .taken payload signature command.nonce, command⟩] } := by
  refine { hinv with held := ?_, dispatched := ?_, dispatched_once := ?_ }
  · intro j d payload signature expected hd hstage
    obtain ⟨hheld, hbefore⟩ := hinv.held j d payload signature expected hd hstage
    refine ⟨hheld, fun dispatch hdispatch => ?_⟩
    rcases List.mem_append.mp hdispatch with hdispatch | hdispatch
    · exact hbefore dispatch hdispatch
    · obtain rfl := List.mem_singleton.mp hdispatch
      exact hunheld j d payload signature expected hd hstage
  · intro dispatch hdispatch
    rcases List.mem_append.mp hdispatch with hdispatch | hdispatch
    · exact hinv.dispatched dispatch hdispatch
    · obtain rfl := List.mem_singleton.mp hdispatch
      exact ⟨htaken, payload, signature, rfl, hauthorised⟩
  · rw [List.map_append, List.nodup_append]
    refine ⟨hinv.dispatched_once, List.nodup_singleton _, ?_⟩
    rintro nonce hnonce other hother rfl
    obtain ⟨dispatch, hdispatch, rfl⟩ := List.mem_map.mp hnonce
    exact hunused dispatch hdispatch (List.mem_singleton.mp hother)

theorem Inv.holder_unique {j : Nat} {nonce : Nonce} (hinv : Inv codec control_pubkey s) (hi : (i, nonce) ∈ s.taken)
    (hj : (j, nonce) ∈ s.taken) : i = j :=
  congrArg Prod.fst (List.inj_on_of_nodup_map hinv.taken_once hi hj rfl)

theorem Inv.act_quiet (hinv : Inv codec control_pubkey s) (hconnection : s.connections i = some c)
    (hfollows : program.Follows (ControlStage.protocol codec control_pubkey c.kind)
      (fun stage again => again = true → stage = .idle) stage)
    (hstage : stage = c.stage ∨ ∀ payload signature expected, stage ≠ .taken payload signature expected) :
    Inv codec control_pubkey { s with
      world := world
      connections := Function.update s.connections i (some { c with program := program, stage := stage }) } := by
  have hset : Inv codec control_pubkey { s with
      connections := Function.update s.connections i (some ⟨c.kind, program, stage⟩) } := by
    refine hinv.set (fun c' hc' => by cases hconnection.symm.trans hc'; rfl) hfollows ?_
    intro payload signature expected htaken
    rcases hstage with rfl | hstage
    · exact hinv.held i c payload signature expected hconnection htaken
    · exact absurd htaken (hstage payload signature expected)
  exact { hset with }

theorem Inv.act {e : ControlEffect} {k : ControlAnswer e → ControlProc Bool} {a : ControlAnswer e}
    (hinv : Inv codec control_pubkey s) (hconnection : s.connections i = some c) (hprogram : c.program = .act e k)
    (hperforms : Performs s i c.stage e a t) :
    Inv codec control_pubkey { t with
      connections := Function.update t.connections i (some { c with program := k a, stage := c.stage.advance e a })
        } := by
  have hfollows := hinv.follows i c hconnection
  rw [hprogram] at hfollows
  obtain ⟨hallowed, hnext⟩ := hfollows
  have hnext := hnext a trivial
  cases hperforms with
  | receive | control_nonce | attest | serve | send =>
    exact hinv.act_quiet hconnection hnext (ControlStage.advance_of_ne (by simp) _ _)
  | take_nonce hfresh =>
    cases hstage : c.stage with
    | received payload signature =>
      rw [hstage] at hallowed hnext
      refine (hinv.take hconnection hallowed hfresh).set (fun c' hc' => by cases hconnection.symm.trans hc'; rfl) hnext
        ?_
      rintro payload signature expected ⟨⟩
      refine ⟨List.mem_append_right _ (List.mem_singleton_self _), fun dispatch hdispatch => ?_⟩
      exact hinv.current _ (hinv.dispatched dispatch hdispatch).1
    | _ =>
      rw [hstage] at hallowed
      exact hallowed.elim
  | @dispatch command _ world =>
    cases hstage : c.stage with
    | taken payload signature expected =>
      rw [hstage] at hallowed hnext
      obtain ⟨hauthorised, rfl⟩ := hallowed
      obtain ⟨htaken, hunused⟩ := hinv.held i c payload signature _ hconnection hstage
      have hreleased := hinv.set (fun c' hc' => by cases hconnection.symm.trans hc'; rfl) hnext nofun
      refine hreleased.dispatch htaken hunused (fun j d payload' signature' expected hd hheld => ?_) hauthorised
      rintro rfl
      by_cases hj : j = i
      · subst hj
        cases (Function.update_self ..).symm.trans hd
        cases hheld
      · have hd := (Function.update_of_ne hj ..).symm.trans hd
        exact hj (hinv.holder_unique htaken (hinv.held j d _ _ _ hd hheld).1).symm
    | _ =>
      rw [hstage] at hallowed
      exact hallowed.elim

theorem Inv.step (hinv : Inv codec control_pubkey s) (hstep : Step codec control_pubkey s s') :
    Inv codec control_pubkey s' := by
  cases hstep with
  | @connect i kind hfree =>
    refine hinv.set (c := ⟨kind, client_round codec control_pubkey kind, .idle⟩) (fun c hc => ?_) client_round_follows
      nofun
    cases hfree.symm.trans hc
  | act hconnection hprogram hperforms => exact hinv.act hconnection hprogram hperforms
  | @again i c hconnection hprogram =>
    have hfollows := hinv.follows i c hconnection
    rw [hprogram] at hfollows
    have hidle : c.stage = .idle := hfollows rfl
    refine hinv.act_quiet hconnection ?_ (.inl rfl)
    rw [hidle]
    exact client_round_follows

theorem Reaches.inv {nonce : Nonce} (hreaches : Reaches codec control_pubkey nonce world s) :
    Inv codec control_pubkey s := by
  induction hreaches with
  | refl => exact .new nonce world
  | tail _ hstep ih => exact ih.step hstep

theorem Inv.public (hinv : Inv codec control_pubkey s) (hconnection : s.connections i = some c)
    (hpublic : c.kind = .Public) : (∀ k, c.program ≠ .act .take_nonce k) ∧
      ∀ command k, c.program ≠ .act (.dispatch command) k := by
  have hfollows := hinv.follows i c hconnection
  refine ⟨fun k hprogram => ?_, fun command k hprogram => ?_⟩
  · rw [hprogram, hpublic] at hfollows
    have hallowed := hfollows.1
    cases hstage : c.stage <;> rw [hstage] at hallowed <;> cases hallowed
  · rw [hprogram] at hfollows
    have hallowed := hfollows.1
    cases hstage : c.stage with
    | taken payload signature expected =>
      obtain ⟨htaken, -⟩ := hinv.held i c payload signature expected hconnection hstage
      obtain ⟨d, hd, hcontrol⟩ := hinv.control _ htaken
      cases hconnection.symm.trans hd
      cases hpublic.symm.trans hcontrol
    | _ =>
      rw [hstage] at hallowed
      cases hallowed

/-- A command that is dispatched carries the nonce that was current when its connection took it, and is signed for
under the control key. -/
theorem control_commands_are_single_use {nonce : Nonce} {world : World}
    (hreaches : Reaches codec control_pubkey nonce world s) :
    (∀ dispatch ∈ s.dispatched, (dispatch.connection, dispatch.command.nonce) ∈ s.taken ∧
      ∃ payload signature, dispatch.stage = .taken payload signature dispatch.command.nonce ∧
        Authorised codec control_pubkey payload signature dispatch.command) ∧
    (s.dispatched.map fun dispatch => dispatch.command.nonce).Nodup ∧
    (∀ payload signature trace result,
      (handle_control codec control_pubkey payload signature).Returns trace result →
        ∃ expected, trace = [⟨.take_nonce, expected⟩] ∧ result.1 = false ∨
          ∃ command answer, trace = [⟨.take_nonce, expected⟩, ⟨.dispatch command, answer⟩] ∧ result = answer ∧
            Authorised codec control_pubkey payload signature command ∧ command.nonce = expected) ∧
    (∀ entry ∈ s.taken, ∃ c, s.connections entry.1 = some c ∧ c.kind = .Control) ∧
    ∀ i c, s.connections i = some c → c.kind = .Public → (∀ k, c.program ≠ .act .take_nonce k) ∧
      ∀ command k, c.program ≠ .act (.dispatch command) k := by
  have hinv := hreaches.inv
  refine ⟨hinv.dispatched, hinv.dispatched_once, ?_, hinv.control, ?_⟩
  · exact fun payload signature trace result hreturns => handle_control_returns hreturns
  · exact fun i c hconnection hpublic => hinv.public hconnection hpublic

/-- An owner revokes an upgrade: the command is dispatched with the first nonce. -/
theorem control_commands_are_single_use_revoke :
    ∃ (codec : Codec ControlCommand) (control_pubkey : Option VerifyingKey) (s : Server Unit)
      (command : ControlCommand),
      Reaches codec control_pubkey (Vector.replicate 32 0) () s ∧ s.dispatched.map (·.command) = [command] ∧
        (0, command.nonce) ∈ s.taken := by
  let command : ControlCommand := .RevokeUpgrade [1] [2] false (Vector.replicate 32 0)
  let codec : Codec ControlCommand := ⟨fun _ => [7], fun _ => .ok command⟩
  let pubkey : VerifyingKey := ⟨fun _ => true, fun _ signature => signature = [9]⟩
  have hconnected := Relation.ReflTransGen.single
    (@Step.connect Unit codec (some pubkey) (Server.new (Vector.replicate 32 0) ()) 0 .Control rfl)
  have hreceived := hconnected.tail (.act (i := 0) (a := some (.Control [7] [9])) rfl rfl .receive)
  have htaken := hreceived.tail
    (.act (i := 0) rfl rfl (@Performs.take_nonce _ _ _ _ (Vector.replicate 32 1) (by decide)))
  have hdispatched := htaken.tail (.act (i := 0) (a := (true, "revoked")) rfl rfl (@Performs.dispatch _ _ _ _ _ _ ()))
  exact ⟨codec, some pubkey, _, command, hdispatched, rfl,
    ((control_commands_are_single_use hdispatched).1 _ (List.mem_singleton_self _)).1⟩

end Server

end enclavia.server
