import Enclavia.Server.Handler

open machine enclavia.protocol

namespace enclavia.server

def TaskState.workload_ended {Blob : Type} : TaskState Blob → Bool
  | .pumping workload_eof | .writing workload_eof | .relaying _ (some workload_eof) => workload_eof
  | _ => false

namespace Handler

variable {Blob : Type} {sizes : Sizes Blob} {self next : Handler Blob} {event : HandlerEvent Blob} {n : Nat}

/-- The session goes on and yet nothing in it can, whatever the client sends and the workload reads or writes. -/
def Deadlocked (sizes : Sizes Blob) (handler : Handler Blob) : Prop :=
  (∀ why, handler.loop ≠ .ended why) ∧ ∀ event, step sizes handler event = none

/-- A message is taken up when both channels have a free slot, a task that pushes while it is handled leaves one in
each, and the workload does not end its side of a stream. -/
def unhurried (handler : Handler Blob) : HandlerEvent Blob → Bool
  | .receive _ => handler.responses.room && handler.stream_done.room
  | .task _ .push =>
    !handler.loop.handling || (handler.responses.queue.length + 1 < MAX_IN_FLIGHT &&
      handler.stream_done.queue.length + 1 < MAX_IN_FLIGHT)
  | .task _ (.read (.ok none)) => false
  | _ => true

/-- The handler that is busy with a client's message has free slots in both channels. -/
def Drained (handler : Handler Blob) : Prop :=
  handler.loop.handling = true → handler.responses.room = true ∧ handler.stream_done.room = true

def Held (handler : Handler Blob) : Prop :=
  handler.responses.receiver = true ∧ handler.stream_done.receiver = true

def Flowing (handler : Handler Blob) : Prop := ∀ task ∈ handler.tasks, task.state.workload_ended = false

theorem room_iff {α : Type} {capacity : Nat} {channel : Channel α capacity} :
    channel.room = true ↔ channel.queue.length < capacity := by
  unfold Channel.room
  exact decide_eq_true_iff

theorem drained_of_idle (h : self.loop.handling = false) : Drained self := fun hhandling =>
  absurd (h.symm.trans hhandling) Bool.false_ne_true

theorem receive_spec (message : ClientMessage Blob) :
    ∃ loop received, self.receive sizes message = { self with loop, received } := by
  unfold receive
  cases message with
  | Data id payload | OpenStream id payload | StreamClose id half =>
    dsimp only
    split <;> exact ⟨_, _, rfl⟩
  | StreamData id payload =>
    dsimp only
    split
    · split <;> exact ⟨_, _, rfl⟩
    · exact ⟨_, _, rfl⟩
  | _ => exact ⟨_, _, rfl⟩

theorem respond_spec {response : Outgoing Blob} (h : self.respond response = some next) :
    next.responses.queue = self.responses.queue ++ [response] ∧
      next.responses.receiver = self.responses.receiver ∧
      next = { self with responses := next.responses, produced := self.produced ++ [response] } := by
  unfold respond at h
  split at h
  · next responses hsend =>
    cases h
    obtain ⟨_, _, hqueue, _, hreceiver⟩ := Channel.try_send_ok.mp hsend
    exact ⟨hqueue, hreceiver, rfl⟩
  · cases h

inductive Moves (sizes : Sizes Blob) (handler : Handler Blob) : HandlerEvent Blob → Handler Blob → Prop where
  | receive {message : ClientMessage Blob} (hloop : handler.loop = .selecting) :
    Moves sizes handler (.receive message) (handler.receive sizes message)
  | reply {response : Outgoing Blob} {after : Handler Blob} (hloop : handler.loop = .replying response)
    (hrespond : handler.respond response = some after) :
    Moves sizes handler .proceed { after with loop := .selecting }
  | spawn {id request : Nat} (hloop : handler.loop = .acquiring_data id request) :
    Moves sizes handler .proceed { handler with
      loop := .selecting, tasks := handler.tasks ++ [⟨id, some request, .forwarding, .new⟩] }
  | spawn_stream {id : Nat} {streams : List (Nat × Nat)} (hloop : handler.loop = .acquiring_stream id) :
    Moves sizes handler .proceed { handler.remove id with
      loop := .selecting, streams, tasks := (handler.remove id).tasks ++ [⟨id, none, .connecting, .new⟩] }
  | gone {id n : Nat} {command : StreamCommand Blob} (hloop : handler.loop = .commanding id n command) :
    Moves sizes handler .proceed ({ handler with loop := .selecting }.remove id)
  | command {id n : Nat} {command : StreamCommand Blob} {task : Task Blob}
    {cmds : Channel (StreamCommand Blob) MAX_IN_FLIGHT} (hloop : handler.loop = .commanding id n command)
    (htask : handler.tasks[n]? = some task) {next : Handler Blob}
    (hnext : next = { handler with loop := .selecting }.set_task n { task with cmds } ∨
      next = ({ handler with loop := .selecting }.set_task n { task with cmds }).remove id) :
    Moves sizes handler .proceed next
  | take {response : Outgoing Blob} {rest : List (Outgoing Blob)} (hloop : handler.loop = .selecting)
    (hqueue : handler.responses.queue = response :: rest) :
    Moves sizes handler .take_response
      { handler with loop := .sending response, responses := handler.responses.skip 1 }
  | transmit {response : Outgoing Blob} (hloop : handler.loop = .sending response) :
    Moves sizes handler .transmit { handler with loop := .selecting, sent := handler.sent ++ [response] }
  | fail {response : Outgoing Blob} (hloop : handler.loop = .sending response)
    (hfits : fits sizes response.message ≠ true) :
    Moves sizes handler .transmit { handler with loop := .ended .send_failed }
  | reap {id : Nat} (hloop : handler.loop = .selecting) :
    Moves sizes handler .reap ({ handler with stream_done := handler.stream_done.skip 1 }.remove id)
  | idle (hloop : handler.loop = .selecting) : Moves sizes handler .idle { handler with loop := .ended .idle }
  | task {n : Nat} {task : Task Blob} {what : TaskEvent Blob} {next : Handler Blob}
    (hgoes : ∀ why, handler.loop ≠ .ended why) (htask : handler.tasks[n]? = some task)
    (hstep : handler.task_step n task what = some next) : Moves sizes handler (.task n what) next

theorem proceed_moves (h : self.proceed = some next) : Moves sizes self .proceed next := by
  unfold proceed at h
  split at h
  · next hloop =>
    obtain ⟨after, hrespond, rfl⟩ := Option.map_eq_some_iff.mp h
    exact .reply hloop hrespond
  · next hloop =>
    obtain ⟨_, h⟩ := Option.ite_none_right_eq_some.mp h
    cases h
    exact .spawn hloop
  · next hloop =>
    obtain ⟨_, h⟩ := Option.ite_none_right_eq_some.mp h
    cases h
    exact .spawn_stream hloop
  · next hloop =>
    unfold command at h
    dsimp only at h
    split at h
    · cases h
      exact .gone hloop
    · next htask =>
      split at h
      · split at h
        · split at h <;> cases h
          · exact .command hloop htask (.inr rfl)
          · exact .command hloop htask (.inl rfl)
        · cases h
      · cases h
        exact .gone hloop
  · cases h

theorem step_moves (hstep : step sizes self event = some next) : Moves sizes self event next := by
  cases event with
  | proceed => exact proceed_moves hstep
  | receive message =>
    unfold step at hstep
    dsimp only at hstep
    split at hstep <;> cases hstep
    exact .receive ‹_›
  | take_response =>
    unfold step at hstep
    dsimp only at hstep
    split at hstep <;> cases hstep
    exact .take ‹_› ‹_›
  | transmit =>
    unfold step at hstep
    dsimp only at hstep
    split at hstep
    · next hloop =>
      split at hstep <;> cases hstep
      · exact .transmit hloop
      · exact .fail hloop ‹_›
    · cases hstep
  | reap =>
    unfold step at hstep
    dsimp only at hstep
    split at hstep <;> cases hstep
    exact .reap ‹_›
  | idle =>
    unfold step at hstep
    dsimp only at hstep
    split at hstep <;> cases hstep
    exact .idle ‹_›
  | task n what =>
    unfold step at hstep
    dsimp only at hstep
    split at hstep
    · cases hstep
    · next hgoes =>
      obtain ⟨task, htask, hstep⟩ := Option.bind_eq_some_iff.mp hstep
      exact .task hgoes htask hstep

/-- What a task does to the session: it leaves the loop alone, and puts at most one item in the two channels. -/
structure TaskStep (handler next : Handler Blob) (n : Nat) (task : Task Blob) (what : TaskEvent Blob) : Prop where
  loop : next.loop = handler.loop
  receivers : next.responses.receiver = handler.responses.receiver ∧
    next.stream_done.receiver = handler.stream_done.receiver
  quiet : what ≠ .push → next.responses = handler.responses ∧ next.stream_done = handler.stream_done
  responses : next.responses.queue.length ≤ handler.responses.queue.length + 1
  stream_done : next.stream_done.queue.length ≤ handler.stream_done.queue.length + 1
  tasks : ∃ updated, next.tasks = handler.tasks.set n updated ∧
    (what ≠ .read (.ok none) → task.state.workload_ended = false → updated.state.workload_ended = false)

theorem task_step_set {task updated : Task Blob} {what : TaskEvent Blob}
    (hended : what ≠ .read (.ok none) → task.state.workload_ended = false → updated.state.workload_ended = false) :
    TaskStep self (self.set_task n updated) n task what :=
  ⟨rfl, ⟨rfl, rfl⟩, fun _ => ⟨rfl, rfl⟩, Nat.le_succ _, Nat.le_succ _, updated, rfl, hended⟩

theorem task_step_respond {task updated : Task Blob} {response : Outgoing Blob} {after : Handler Blob}
    (hrespond : self.respond response = some after)
    (hended : task.state.workload_ended = false → updated.state.workload_ended = false) :
    TaskStep self (after.set_task n updated) n task .push := by
  obtain ⟨hqueue, hreceiver, hafter⟩ := respond_spec hrespond
  have hlength := (congrArg List.length hqueue).trans List.length_append
  rw [hafter]
  exact ⟨rfl, ⟨hreceiver, rfl⟩, fun hne => absurd rfl hne, Nat.le_of_eq hlength, Nat.le_succ _, updated, rfl,
    fun _ => hended⟩

theorem task_step_spec {task : Task Blob} {what : TaskEvent Blob} (h : self.task_step n task what = some next) :
    TaskStep self next n task what := by
  unfold task_step at h
  cases what with
  | answered result =>
    dsimp only at h
    split at h <;> cases h
    exact task_step_set fun _ _ => rfl
  | connected result =>
    dsimp only at h
    split at h <;> cases h
    exact task_step_set fun _ _ => by cases result <;> rfl
  | read result =>
    dsimp only at h
    split at h <;> cases h
    refine task_step_set fun hread _ => ?_
    cases result with
    | error message => rfl
    | ok chunk =>
      cases chunk with
      | none => exact absurd rfl hread
      | some payload => rfl
  | written result =>
    dsimp only at h
    split at h
    · next workload_eof hstate =>
      cases h
      refine task_step_set fun _ hended => ?_
      rw [hstate] at hended
      cases result with
      | error message => rfl
      | ok value => exact hended
    · cases h
  | command =>
    dsimp only at h
    split at h
    · next workload_eof hstate =>
      split at h
      · cases h
        exact task_step_set fun _ hended => by rw [hstate] at hended; exact hended
      · cases h
        exact task_step_set fun _ hended => hended
      · cases h
        exact task_step_set fun _ _ => rfl
      · obtain ⟨_, h⟩ := Option.ite_none_left_eq_some.mp h
        cases h
        exact task_step_set fun _ _ => rfl
    · cases h
  | push =>
    dsimp only at h
    split at h
    · obtain ⟨after, hrespond, rfl⟩ := Option.map_eq_some_iff.mp h
      exact task_step_respond hrespond fun _ => rfl
    · next response again hstate =>
      obtain ⟨after, hrespond, rfl⟩ := Option.map_eq_some_iff.mp h
      refine task_step_respond hrespond fun hended => ?_
      rw [hstate] at hended
      cases again with
      | none => rfl
      | some workload_eof => exact hended
    · split at h
      · next stream_done hsend =>
        cases h
        obtain ⟨_, _, hqueue, _, hreceiver⟩ := Channel.try_send_ok.mp hsend
        have hlength := (congrArg List.length hqueue).trans List.length_append
        exact ⟨rfl, ⟨rfl, hreceiver⟩, fun hne => absurd rfl hne, Nat.le_succ _, Nat.le_of_eq hlength, _, rfl,
          fun _ _ => rfl⟩
      · cases h
    · cases h

theorem drained_step (hself : Drained self) (hunhurried : unhurried self event = true)
    (hstep : step sizes self event = some next) : Drained next := by
  cases step_moves hstep with
  | @receive message =>
    obtain ⟨loop, received, hreceive⟩ := @receive_spec Blob sizes self message
    intro _
    rw [hreceive]
    exact Bool.and_eq_true _ _ ▸ hunhurried
  | command _ _ hnext => rcases hnext with rfl | rfl <;> exact drained_of_idle rfl
  | reap hloop => exact drained_of_idle (congrArg Loop.handling hloop)
  | @task n task what _ _ _ htask =>
    have htask := task_step_spec htask
    intro hhandling
    rw [htask.loop] at hhandling
    by_cases hpush : what = .push
    · subst hpush
      simp only [unhurried, hhandling, Bool.not_true, Bool.false_or, Bool.and_eq_true, decide_eq_true_eq] at hunhurried
      exact ⟨room_iff.mpr (Nat.lt_of_le_of_lt htask.responses hunhurried.1),
        room_iff.mpr (Nat.lt_of_le_of_lt htask.stream_done hunhurried.2)⟩
    · rw [(htask.quiet hpush).1, (htask.quiet hpush).2]
      exact hself hhandling
  | _ => exact drained_of_idle rfl

theorem held_step (hself : Held self) (hstep : step sizes self event = some next) : Held next := by
  cases step_moves hstep with
  | @receive message =>
    obtain ⟨loop, received, hreceive⟩ := @receive_spec Blob sizes self message
    rw [hreceive]
    exact hself
  | reply _ hrespond =>
    obtain ⟨_, hreceiver, hafter⟩ := respond_spec hrespond
    rw [hafter]
    exact ⟨hreceiver.trans hself.1, hself.2⟩
  | command _ _ hnext => rcases hnext with rfl | rfl <;> exact hself
  | task _ _ htask =>
    have hreceivers := (task_step_spec htask).receivers
    exact ⟨hreceivers.1.trans hself.1, hreceivers.2.trans hself.2⟩
  | _ => exact hself

theorem flowing_remove {id : Nat} (hself : Flowing self) : Flowing (self.remove id) := by
  intro task htask
  unfold remove at htask
  dsimp only at htask
  split at htask
  · obtain ⟨i, hi⟩ := List.mem_iff_getElem?.mp htask
    rw [List.getElem?_modify] at hi
    obtain ⟨before, hbefore, rfl⟩ := Option.map_eq_some_iff.mp hi
    have hended := hself before (List.mem_of_getElem? hbefore)
    split <;> exact hended
  · exact hself task htask

theorem flowing_set {task : Task Blob} (hself : Flowing self) (htask : task.state.workload_ended = false)
    (hnext : next.tasks = self.tasks.set n task) : Flowing next := by
  intro other hother
  rw [hnext] at hother
  rcases List.mem_or_eq_of_mem_set hother with hother | rfl
  · exact hself other hother
  · exact htask

theorem flowing_append {task : Task Blob} (hself : Flowing self) (htask : task.state.workload_ended = false)
    (hnext : next.tasks = self.tasks ++ [task]) : Flowing next := by
  intro other hother
  rw [hnext, List.mem_append, List.mem_singleton] at hother
  rcases hother with hother | rfl
  · exact hself other hother
  · exact htask

theorem flowing_step (hself : Flowing self) (hunhurried : unhurried self event = true)
    (hstep : step sizes self event = some next) : Flowing next := by
  cases step_moves hstep with
  | @receive message =>
    obtain ⟨loop, received, hreceive⟩ := @receive_spec Blob sizes self message
    rw [hreceive]
    exact hself
  | reply _ hrespond =>
    obtain ⟨_, _, hafter⟩ := respond_spec hrespond
    rw [hafter]
    exact hself
  | spawn => exact flowing_append hself rfl rfl
  | spawn_stream => exact flowing_append (flowing_remove hself) rfl rfl
  | gone | reap => exact flowing_remove hself
  | @command _ n _ task cmds _ htask _ hnext =>
    have hset : Flowing ({ self with loop := .selecting }.set_task n { task with cmds }) :=
      @flowing_set Blob self _ n { task with cmds } hself (hself task (List.mem_of_getElem? htask)) rfl
    rcases hnext with rfl | rfl
    · exact hset
    · exact flowing_remove hset
  | @task n task what _ _ htask hstep =>
    obtain ⟨updated, htasks, hended⟩ := (task_step_spec hstep).tasks
    have hread : what ≠ .read (.ok none) := by
      rintro rfl
      cases hunhurried
    exact flowing_set hself (hended hread (hself task (List.mem_of_getElem? htask))) htasks
  | _ => exact hself

theorem try_send_room {α : Type} {capacity : Nat} {channel : Channel α capacity} (item : α)
    (hreceiver : channel.receiver = true) (hroom : channel.room = true) :
      ∃ after, channel.try_send item = .ok after := by
  unfold Channel.try_send
  rw [hreceiver, if_neg Bool.false_ne_true.symm, dif_pos (room_iff.mp hroom)]
  exact ⟨_, rfl⟩

theorem respond_room (hheld : Held self) (hroom : self.responses.room = true) (response : Outgoing Blob) :
    ∃ after, self.respond response = some after := by
  obtain ⟨responses, hsend⟩ := try_send_room response hheld.1 hroom
  unfold respond
  rw [hsend]
  exact ⟨_, rfl⟩

theorem unfinished_moves {task : Task Blob} (hheld : Held self) (hresponses : self.responses.room = true)
    (hdone : self.stream_done.room = true) (hended : task.state.workload_ended = false)
    (hunfinished : task.unfinished = true) : ∃ what after, self.task_step n task what = some after := by
  unfold Task.unfinished at hunfinished
  cases hstate : task.state with
  | forwarding => exact ⟨.answered (.error ""), _, by rw [task_step, hstate]⟩
  | answering response =>
    obtain ⟨after, hafter⟩ := respond_room hheld hresponses ⟨response, task.request⟩
    exact ⟨.push, _, by rw [task_step, hstate]; dsimp only; rw [hafter, Option.map_some]⟩
  | connecting => exact ⟨.connected (.ok ()), _, by rw [task_step, hstate]⟩
  | pumping workload_eof =>
    rw [hstate] at hended
    cases hended
    -- The workload's side can be read, whatever comes of it.
    exact ⟨.read (.ok none), _, by rw [task_step, hstate]⟩
  | relaying response again =>
    obtain ⟨after, hafter⟩ := respond_room hheld hresponses ⟨response, none⟩
    exact ⟨.push, _, by rw [task_step, hstate]; dsimp only; rw [hafter, Option.map_some]⟩
  | writing workload_eof => exact ⟨.written (.ok ()), _, by rw [task_step, hstate]⟩
  | finishing =>
    obtain ⟨stream_done, hsend⟩ := try_send_room task.id hheld.2 hdone
    exact ⟨.push, _, by rw [task_step, hstate]; dsimp only; rw [hsend]⟩
  | finished =>
    rw [hstate] at hunfinished
    cases hunfinished

theorem step_task_eq {task : Task Blob} {what : TaskEvent Blob} (hloop : ∀ why, self.loop ≠ .ended why)
    (htask : self.tasks[n]? = some task) : step sizes self (.task n what) = self.task_step n task what := by
  unfold step
  cases hl : self.loop with
  | ended why => exact absurd hl (hloop why)
  | _ =>
    dsimp only
    rw [htask]
    rfl

theorem exists_unfinished (h : self.permit = false) : ∃ (n : Nat) (task : Task Blob),
    self.tasks[n]? = some task ∧ task.unfinished = true := by
  have hlength : MAX_IN_FLIGHT ≤ (self.tasks.filter Task.unfinished).length :=
    Nat.not_lt.mp (of_decide_eq_false h)
  obtain ⟨task, hmem⟩ := List.exists_mem_of_length_pos (Nat.lt_of_lt_of_le (by decide : 0 < MAX_IN_FLIGHT) hlength)
  obtain ⟨hmem, hunfinished⟩ := List.mem_filter.mp hmem
  obtain ⟨n, htask⟩ := List.mem_iff_getElem?.mp hmem
  exact ⟨n, task, htask, hunfinished⟩

theorem acquire_moves (hheld : Held self) (hflowing : Flowing self) (hresponses : self.responses.room = true)
    (hdone : self.stream_done.room = true) (hloop : ∀ why, self.loop ≠ .ended why)
    (hstuck : ∀ event, step sizes self event = none) : self.permit = true := by
  by_contra hpermit
  obtain ⟨n, task, htask, hunfinished⟩ := exists_unfinished (Bool.not_eq_true _ ▸ hpermit)
  obtain ⟨what, after, hafter⟩ := @unfinished_moves Blob self n task hheld hresponses hdone
    (hflowing task (List.mem_of_getElem? htask)) hunfinished
  cases (hstuck (.task n what)).symm.trans ((step_task_eq hloop htask).trans hafter)

theorem not_deadlocked (hdrained : Drained self) (hheld : Held self) (hflowing : Flowing self) :
    ¬Deadlocked sizes self := by
  rintro ⟨hloop, hstuck⟩
  have hproceed : self.proceed = none := hstuck .proceed
  cases hl : self.loop with
  | selecting =>
    have hreceive := hstuck (.receive .RequestAttestation)
    unfold step at hreceive
    rw [hl] at hreceive
    cases hreceive
  | replying response =>
    obtain ⟨hresponses, _⟩ := hdrained (hl ▸ rfl)
    obtain ⟨after, hafter⟩ := respond_room hheld hresponses response
    rw [proceed, hl] at hproceed
    dsimp only at hproceed
    rw [hafter] at hproceed
    cases hproceed
  | acquiring_data id request | acquiring_stream id =>
    obtain ⟨hresponses, hdone⟩ := hdrained (hl ▸ rfl)
    have hpermit := acquire_moves hheld hflowing hresponses hdone hloop hstuck
    rw [proceed, hl] at hproceed
    dsimp only at hproceed
    rw [if_pos hpermit] at hproceed
    cases hproceed
  | commanding id n what =>
    obtain ⟨hresponses, hdone⟩ := hdrained (hl ▸ rfl)
    rw [proceed, hl] at hproceed
    unfold command at hproceed
    dsimp only at hproceed
    split at hproceed
    · cases hproceed
    · next task htask =>
      split at hproceed
      · next hlistening =>
        -- The pump of the stream has the slot, or can take a command and free one.
        have hunfinished : task.unfinished = true := by
          unfold Task.listening at hlistening
          unfold Task.unfinished
          split at hlistening <;> simp_all
        obtain ⟨what, after, hafter⟩ := @unfinished_moves Blob self n task hheld hresponses hdone
          (hflowing task (List.mem_of_getElem? htask)) hunfinished
        cases (hstuck (.task n what)).symm.trans ((step_task_eq hloop htask).trans hafter)
      · cases hproceed
  | sending response =>
    have htransmit := hstuck .transmit
    unfold step at htransmit
    rw [hl] at htransmit
    dsimp only at htransmit
    split at htransmit <;> cases htransmit
  | ended why => exact hloop why hl

/-- In every run in which the channels to the handler have a free slot while it is busy with a client's message, and no
workload ends its side of a stream, the session is never deadlocked. -/
theorem session_never_deadlocks (sizes : Sizes Blob) (events : List (HandlerEvent Blob)) (handler : Handler Blob)
    (hmeets : Meets (step sizes) (fun s event => unhurried s event = true) new events)
    (hexec : exec (step sizes) new events = some handler) : ¬Deadlocked sizes handler := by
  have hinvariant : Drained handler ∧ Held handler ∧ Flowing handler := by
    refine exec_preserves (C := fun s event => unhurried s event = true)
      (P := fun s => Drained s ∧ Held s ∧ Flowing s) (fun s event s' hs hunhurried hstep => ?_) ?_ hmeets hexec
    · exact ⟨drained_step hs.1 hunhurried hstep, held_step hs.2.1 hstep, flowing_step hs.2.2 hunhurried hstep⟩
    · exact ⟨drained_of_idle rfl, ⟨rfl, rfl⟩, fun _ hmem => absurd hmem List.not_mem_nil⟩
  exact not_deadlocked hinvariant.1 hinvariant.2.1 hinvariant.2.2

theorem deadlocked_of_full {response : Outgoing Blob} (hloop : self.loop = .replying response)
    (hfull : self.responses.room = false) (hfinished : self.tasks.any Task.unfinished = false) :
    Deadlocked sizes self := by
  have hrespond : self.respond response = none := by
    unfold respond
    cases hsend : self.responses.try_send response with
    | error error => rfl
    | ok responses => exact absurd (hfull.symm.trans (Channel.try_send_ok.mp hsend).2.1) Bool.false_ne_true
  have hgoes : ∀ why, self.loop ≠ .ended why := by
    intro why h
    rw [hloop] at h
    cases h
  refine ⟨hgoes, fun event => ?_⟩
  cases event with
  | receive message | take_response | transmit | reap | idle =>
    unfold step
    rw [hloop]
  | proceed =>
    change self.proceed = none
    rw [proceed, hloop]
    dsimp only
    rw [hrespond]
    rfl
  | task n what =>
    cases htask : self.tasks[n]? with
    | none =>
      unfold step
      rw [hloop]
      dsimp only
      rw [htask]
      rfl
    | some task =>
      rw [step_task_eq hgoes htask]
      have hdone : task.unfinished = false := by
        have hnone := List.any_eq_false.mp hfinished task (List.mem_of_getElem? htask)
        exact Bool.not_eq_true _ ▸ hnone
      have hstate : task.state = .finished := by
        unfold Task.unfinished at hdone
        split at hdone
        · assumption
        · cases hdone
      unfold task_step
      rw [hstate]
      cases what <;> rfl

namespace sample

def lengths : Sizes Nat where
  payload_len := id
  encoded_len
    | .Data _ payload | .StreamData _ payload => payload
    | _ => 0

def requests (count : Nat) : List (HandlerEvent Nat) :=
  (List.range count).flatMap fun n =>
    [.receive (.Data n 0), .proceed, .task n (.answered (.ok 0)), .task n .push]

def flood : List (HandlerEvent Nat) := requests 64 ++ [.receive (.StreamData 64 0)]

def exchange : List (HandlerEvent Nat) :=
  [.receive (.OpenStream 0 0), .proceed, .task 0 (.connected (.ok ())), .task 0 (.read (.ok (some 1))), .task 0 .push,
    .receive (.StreamData 0 2), .proceed, .task 0 .command, .task 0 (.written (.ok ())), .take_response, .transmit,
    .receive (.StreamClose 0 .Both)]

def waits (handler : Handler Nat) : Option (Outgoing Nat × Bool × Bool) :=
  match handler.loop with
  | .replying response => some (response, handler.responses.room, handler.tasks.any Task.unfinished)
  | _ => none

end sample

/-- A session that is busy with a message. -/
theorem session_never_deadlocks_exchange :
    ∃ handler, exec (step sample.lengths) new sample.exchange = some handler ∧ handler.loop.handling = true ∧
      ¬Deadlocked sample.lengths handler := by
  have hseen : (exec (step sample.lengths) new sample.exchange).map (fun handler => handler.loop.handling) =
      some true := by
    decide +kernel
  obtain ⟨handler, hexec, hseen⟩ := Option.map_eq_some_iff.mp hseen
  have hmeets : Meets (step sample.lengths) (fun s event => unhurried s event = true) new sample.exchange := by
    decide +kernel
  exact ⟨handler, hexec, hseen, session_never_deadlocks sample.lengths sample.exchange handler hmeets hexec⟩

/-- A client that sends requests and reads no responses until the channel of responses is full. -/
theorem full_response_channel_deadlocks :
    ∃ handler, exec (step sample.lengths) new sample.flood = some handler ∧ Deadlocked sample.lengths handler := by
  have hseen : (exec (step sample.lengths) new sample.flood).bind sample.waits =
      some (⟨.Error 64 "unknown stream id", none⟩, false, false) := by
    decide +kernel
  obtain ⟨handler, hexec, hseen⟩ := Option.bind_eq_some_iff.mp hseen
  refine ⟨handler, hexec, ?_⟩
  unfold sample.waits at hseen
  split at hseen
  · next response hloop =>
    obtain ⟨_, hrest⟩ := Prod.mk.inj (Option.some.inj hseen)
    obtain ⟨hfull, hfinished⟩ := Prod.mk.inj hrest
    exact deadlocked_of_full hloop hfull hfinished
  · cases hseen

end Handler

end enclavia.server
