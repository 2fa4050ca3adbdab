import Enclavia.Volume.Preparation

open interaction enclavia.protocol

namespace enclavia.crypto

inductive Command where
  | init
  | prepare_upgrade (args : PrepareUpgrade)
  | revoke_upgrade

def Command.program (codecs : Codecs) : Command → Proc (Except String Unit)
  | .init => crypto.init codecs
  | .prepare_upgrade args => crypto.prepare_upgrade codecs args
  | .revoke_upgrade => crypto.revoke_upgrade codecs

/-- The world, with what a history of commands is judged by: the passphrase that the running image opened the volume
with, the world when the command in hand began, the world when the one that wrote the stash began, and the key that was
added since. -/
structure State where
  world : World
  opened : Option (List UInt8)
  began : World
  base : World
  added : Option (Nat × List UInt8)

def added_key (before after : luks.Slots (List UInt8)) (n : Nat) : Option (Nat × List UInt8) :=
  if before n = after n then none else (after n).map fun key => (n, key)

def State.observe (s : State) (e : Effect) (w' : World) : State :=
  match e with
  | .write_rollback_stash _ => { s with world := w', base := s.began, added := none }
  | .luksAddKey n _ _ => { s with world := w', added := (added_key s.world.slots w'.slots n).or s.added }
  | _ => { s with world := w' }

def State.Step (env : Env) (s : State) (e : Effect) (answer : Answer e) (s' : State) : Prop :=
  ∃ w', s.world.Step env e answer w' ∧ s' = s.observe e w'

def State.reboot (s : State) (image : Pcrs) : State :=
  { s with world := { s.world with stash := none, files := fun _ => none, image := image }, opened := none, added :=
    none }

def State.open_volume (s : State) (key : List UInt8) : State :=
  { s with world := s.world.with_file .luks none, opened := some key }

structure Rules where
  commands : State → Command → Prop
  images : Pcrs → Prop

structure Machine where
  state : State
  running : Option (Command × Proc (Except String Unit))

/-- One step of a volume's history. -/
inductive Machine.Step (codecs : Codecs) (env : Env) (rules : Rules) : Machine → Machine → Prop
  | start {m : Machine} (command : Command) (hidle : m.running = none) (hrule : rules.commands m.state command)
      (hopened : command = .init ↔ m.state.opened = none) :
      Machine.Step codecs env rules m
        { state := { m.state with began := m.state.world }, running := some (command, command.program codecs) }
  | effect {m : Machine} {command : Command} {e : Effect} {next : Answer e → Proc (Except String Unit)}
      {answer : Answer e} {s' : State} (hrunning : m.running = some (command, .act e next))
      (hstep : m.state.Step env e answer s') :
      Machine.Step codecs env rules m { state := s', running := some (command, next answer) }
  | stop (m : Machine) : Machine.Step codecs env rules m { m with running := none }
  | open_volume {m : Machine} {key : List UInt8} (hidle : m.running = none) (hclosed : m.state.opened = none)
      (hfile : m.state.world.files .luks = some key) (hopens : luks.Opens m.state.world.slots key) :
      Machine.Step codecs env rules m { m with state := m.state.open_volume key }
  | reboot {m : Machine} (image : Pcrs) (himage : rules.images image) :
      Machine.Step codecs env rules m { state := m.state.reboot image, running := none }

variable {codecs : Codecs} {env : Env} {rules : Rules} {α : Type} {p : Proc α} {s : State}
  {I : World → Effect → Prop} {post : α → World → Prop}

abbrev Machine.Reaches (codecs : Codecs) (env : Env) (rules : Rules) : Machine → Machine → Prop :=
  Relation.ReflTransGen (Machine.Step codecs env rules)

theorem Machine.invariant {Idle : State → Prop} {I : Command → State → Effect → Prop}
    (hcommand : ∀ s command, Idle s → rules.commands s command → (command = .init ↔ s.opened = none) →
      Program.Guards (State.Step env) (I command) (fun _ => Idle) (command.program codecs) { s with began := s.world })
    (hstop : ∀ command s e, I command s e → Idle s)
    (hopen : ∀ s key, Idle s → s.opened = none → luks.Opens s.world.slots key → Idle (s.open_volume key))
    (hreboot : ∀ s image, Idle s → rules.images image → Idle (s.reboot image)) {m₀ m : Machine}
    (hidle : m₀.running = none) (hinit : Idle m₀.state) (hreaches : Machine.Reaches codecs env rules m₀ m) :
    Idle m.state ∧ ∀ command p, m.running = some (command, p) →
      Program.Guards (State.Step env) (I command) (fun _ => Idle) p m.state := by
  have hguards : ∀ {command : Command} {p : Proc (Except String Unit)} {s : State}, Program.Guards (State.Step env)
      (I command) (fun _ => Idle) p s → Idle s := by
    intro command p s h
    cases p with
    | ret value => exact h
    | act e next => exact hstop command s e h.1
  induction hreaches with
  | refl =>
    refine ⟨hinit, ?_⟩
    intro command p hrunning
    rw [hidle] at hrunning
    cases hrunning
  | tail _ hstep ih =>
    obtain ⟨ihidle, ihrunning⟩ := ih
    cases hstep with
    | start command hidle hrule hopened =>
      have hstart := hcommand _ command ihidle hrule hopened
      refine ⟨hguards hstart, ?_⟩
      intro command' p hrunning
      obtain ⟨rfl, rfl⟩ := Prod.mk.inj (Option.some.inj hrunning)
      exact hstart
    | effect hrunning hstep =>
      have hnext := (ihrunning _ _ hrunning).2 _ _ hstep
      refine ⟨hguards hnext, ?_⟩
      intro command' p hrunning'
      obtain ⟨rfl, rfl⟩ := Prod.mk.inj (Option.some.inj hrunning')
      exact hnext
    | stop => exact ⟨ihidle, nofun⟩
    | open_volume hidle hclosed hfile hopens =>
      refine ⟨hopen _ _ ihidle hclosed hopens, ?_⟩
      intro command p hrunning
      rw [hidle] at hrunning
      cases hrunning
    | reboot image himage => exact ⟨hreboot _ image ihidle himage, nofun⟩

theorem guards_state (h : Program.Guards (World.Step env) I post p s.world) :
    Program.Guards (State.Step env) (fun s e => I s.world e) (fun a s => post a s.world) p s := by
  induction p generalizing s with
  | ret value => exact h
  | act effect next ih =>
    refine ⟨h.1, ?_⟩
    rintro answer s' ⟨w', hstep, rfl⟩
    refine ih answer ?_
    have hworld : (s.observe effect w').world = w' := by
      unfold State.observe
      split <;> rfl
    rw [hworld]
    exact h.2 answer w' hstep

theorem guards_quiet_state (hquiet : ∀ w e, I w e → World.Quiet e)
    (h : Program.Guards (World.Step env) I post p s.world) :
    Program.Guards (State.Step env) (fun t e => t = { s with world := t.world } ∧ I t.world e)
      (fun a t => t = { s with world := t.world } ∧ post a t.world) p s := by
  have hgeneral : ∀ {t : State}, t = { s with world := t.world } → Program.Guards (World.Step env) I post p t.world →
      Program.Guards (State.Step env) (fun t e => t = { s with world := t.world } ∧ I t.world e)
        (fun a t => t = { s with world := t.world } ∧ post a t.world) p t := by
    clear h
    induction p with
    | ret value =>
      intro t ht h
      exact ⟨ht, h⟩
    | act effect next ih =>
      intro t ht h
      refine ⟨⟨ht, h.1⟩, ?_⟩
      rintro answer s' ⟨w', hstep, rfl⟩
      have hobserve : t.observe effect w' = { t with world := w' } := by
        have := hquiet _ _ h.1
        cases effect with
        | write_rollback_stash stash | luksAddKey n file new_file => exact this.elim
        | _ => rfl
      rw [hobserve]
      refine ih answer ?_ (h.2 answer w' hstep)
      rw [ht]
  exact hgeneral rfl h

end enclavia.crypto
